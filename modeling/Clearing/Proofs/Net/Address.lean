import Clearing.Net.Address
import Clearing.Proofs.Text.Hexadecimal
import Clearing.Proofs.Text.Splitting
import Mathlib.Data.List.DropRight
/-!
Texts of addresses.  No two addresses are written alike: an address of version 6 is told by its
colons, one that stands for an address of version 4 by its points, and the run of zeros that is
left out by the pieces between the colons, one of which is empty.
-/

namespace Clearing

namespace IpAddress

/-- An address has as many numbers as its version has. -/
def Complete : IpAddress → Prop
  | version4 octets => octets.length = 4
  | version6 groups => groups.length = 8

theorem join_eq_intercalate (mark : Char) (pieces : List (List Char)) :
    join mark pieces = [mark].intercalate pieces := by
  fun_induction join mark pieces with
  | case1 => rfl
  | case2 piece => exact List.intercalate_singleton.symm
  | case3 piece rest present inductionHypothesis =>
      rw [inductionHypothesis, List.intercalate_cons_of_ne_nil present, List.append_assoc,
        List.singleton_append]

/-! Runs of zeros. -/

theorem zeroRuns_drop (groups : List Nat) (place : Nat) :
    zeroRuns (groups.drop place) = (zeroRuns groups).drop place := by
  induction groups generalizing place with
  | nil => simp [zeroRuns]
  | cons group rest inductionHypothesis =>
      cases place with
      | zero => rfl
      | succ place => exact inductionHypothesis place

theorem eq_replicate_append_drop (groups : List Nat) :
    groups =
      List.replicate ((zeroRuns groups).headD 0) 0 ++ groups.drop ((zeroRuns groups).headD 0) := by
  induction groups with
  | nil => rfl
  | cons group rest inductionHypothesis =>
      by_cases zero : group = 0
      · subst zero
        simp only [zeroRuns, if_true, List.headD_cons, List.replicate_succ, List.cons_append,
          List.drop_succ_cons]
        rw [← inductionHypothesis]
      · simp [zeroRuns, zero]

theorem foldl_max_eq_or_mem (runs : List Nat) (start : Nat) :
    runs.foldl max start = start ∨ runs.foldl max start ∈ runs := by
  induction runs generalizing start with
  | nil => exact .inl rfl
  | cons run rest inductionHypothesis =>
      rw [List.foldl_cons]
      rcases inductionHypothesis (max start run) with same | later
      · rw [same]
        rcases Nat.le_total run start with small | large
        · exact .inl (Nat.max_eq_left small)
        · rw [Nat.max_eq_right large]
          exact .inr List.mem_cons_self
      · exact .inr (List.mem_cons_of_mem _ later)

theorem eq_append_replicate_append {groups : List Nat} {place length : Nat}
    (longest : longestRun groups = (place, length)) (present : 0 < length) :
    groups = groups.take place ++ List.replicate length 0 ++ groups.drop (place + length) := by
  obtain ⟨rfl, rfl⟩ := Prod.mk.inj longest
  have held := (foldl_max_eq_or_mem (zeroRuns groups) 0).resolve_left (Nat.ne_of_gt present)
  generalize (zeroRuns groups).foldl max 0 = most at held
  have found : (zeroRuns groups).findIdx (· = most) < (zeroRuns groups).length :=
    List.findIdx_lt_length_of_exists ⟨most, held, decide_eq_true rfl⟩
  have there : (zeroRuns groups)[(zeroRuns groups).findIdx (· = most)] = most := by
    have told := @List.findIdx_getElem _ (· = most) (zeroRuns groups) found
    exact of_decide_eq_true told
  generalize (zeroRuns groups).findIdx (· = most) = place at found there
  have run := eq_replicate_append_drop (groups.drop place)
  rw [zeroRuns_drop, List.drop_eq_getElem_cons found, List.headD_cons, there, List.drop_drop] at run
  rw [List.append_assoc, ← run, List.take_append_drop]

/-! The pieces between the colons. -/

/-- The pieces of what stands on one side of a run that is left out. -/
def outerPieces (groups : List Nat) : List (List Char) :=
  if groups = [] then [[]] else groups.map (Nat.toDigits 16)

/-- What the groups of an address can be written as: all of them, or without a run of zeros. -/
inductive Spells (groups : List Nat) : List (List Char) → Prop where
  | whole : Spells groups (groups.map (Nat.toDigits 16))
  | shortened (front back : List Nat) (length : Nat) :
      groups = front ++ List.replicate length 0 ++ back →
      Spells groups (outerPieces front ++ [] :: outerPieces back)

theorem outerPieces_ne_nil (groups : List Nat) : outerPieces groups ≠ [] := by
  unfold outerPieces
  split
  · simp
  · rename_i present
    simpa using present

theorem writeGroups_eq (groups : List Nat) :
    writeGroups groups = [':'].intercalate (outerPieces groups) := by
  rw [writeGroups, join_eq_intercalate, outerPieces]
  split
  · rename_i none
    rw [none]
    rfl
  · rfl

theorem shortened_eq (front back : List Nat) :
    writeGroups front ++ [':', ':'] ++ writeGroups back =
      [':'].intercalate (outerPieces front ++ [] :: outerPieces back) := by
  rw [Text.intercalate_append (outerPieces_ne_nil front) (by simp),
    List.intercalate_cons_of_ne_nil (outerPieces_ne_nil back), writeGroups_eq, writeGroups_eq]
  simp

theorem exists_spells {groups : List Nat} (unmapped : mapped? groups = none) :
    ∃ pieces, Spells groups pieces ∧
      (version6 groups).toCharacters = [':'].intercalate pieces := by
  simp only [toCharacters, unmapped]
  rcases longest : longestRun groups with ⟨place, length⟩
  dsimp only
  by_cases long : 1 < length
  · rw [if_pos long, shortened_eq]
    exact ⟨_, .shortened _ _ length (eq_append_replicate_append longest (by omega)), rfl⟩
  · rw [if_neg long, writeGroups, join_eq_intercalate]
    exact ⟨_, .whole, rfl⟩

theorem takeWhile_outerPieces_append (groups : List Nat) (rest : List (List Char)) :
    (outerPieces groups ++ [] :: rest).takeWhile (· ≠ []) = groups.map (Nat.toDigits 16) := by
  unfold outerPieces
  split
  · rename_i none
    simp [none]
  · rw [List.takeWhile_append_of_pos, List.takeWhile_cons_of_neg (by simp), List.append_nil]
    intro piece member
    obtain ⟨group, _, rfl⟩ := List.mem_map.mp member
    simp [Nat.toDigits_ne_nil]

theorem reverse_outerPieces (groups : List Nat) :
    (outerPieces groups).reverse = outerPieces groups.reverse := by
  unfold outerPieces
  split <;> simp_all

theorem outerPieces_append_inj {firstFront firstBack secondFront secondBack : List Nat}
    (same : outerPieces firstFront ++ [] :: outerPieces firstBack =
      outerPieces secondFront ++ [] :: outerPieces secondBack) :
    firstFront = secondFront ∧ firstBack = secondBack := by
  have injective := Text.toDigits_sixteen_injective.list_map
  constructor
  · apply injective
    rw [← takeWhile_outerPieces_append firstFront, same, takeWhile_outerPieces_append]
  · have backwards := congrArg List.reverse same
    simp only [List.reverse_append, List.reverse_cons, List.append_assoc, List.singleton_append,
      reverse_outerPieces] at backwards
    apply List.reverse_injective
    apply injective
    rw [← takeWhile_outerPieces_append firstBack.reverse, backwards, takeWhile_outerPieces_append]

theorem isLowerHex_of_mem_outerPieces {groups : List Nat} {piece : List Char}
    (member : piece ∈ outerPieces groups) :
    ∀ character ∈ piece, Text.isLowerHex character = true := by
  unfold outerPieces at member
  split at member
  · rw [List.mem_singleton.mp member]
    nofun
  · obtain ⟨group, _, rfl⟩ := List.mem_map.mp member
    exact fun _ => Text.isLowerHex_of_mem_toDigits

namespace Spells

variable {groups first second : List Nat} {pieces others : List (List Char)}

theorem isLowerHex (spells : Spells groups pieces) :
    ∀ piece ∈ pieces, ∀ character ∈ piece, Text.isLowerHex character = true := by
  intro piece member
  cases spells with
  | whole =>
      obtain ⟨group, _, rfl⟩ := List.mem_map.mp member
      exact fun _ => Text.isLowerHex_of_mem_toDigits
  | shortened front back length _ =>
      rcases List.mem_append.mp member with before | after
      · exact isLowerHex_of_mem_outerPieces before
      · rcases List.mem_cons.mp after with rfl | after
        · nofun
        · exact isLowerHex_of_mem_outerPieces after

theorem two_le_length (spells : Spells groups pieces) (several : 2 ≤ groups.length) :
    2 ≤ pieces.length := by
  cases spells with
  | whole => rwa [List.length_map]
  | shortened front back length _ =>
      have present := List.length_pos_of_ne_nil (outerPieces_ne_nil front)
      rw [List.length_append, List.length_cons]
      omega

theorem map_toDigits_ne (groups front back : List Nat) :
    groups.map (Nat.toDigits 16) ≠ outerPieces front ++ [] :: outerPieces back := by
  intro same
  have member : ([] : List Char) ∈ groups.map (Nat.toDigits 16) := by
    rw [same]
    simp
  obtain ⟨group, _, empty⟩ := List.mem_map.mp member
  exact Nat.toDigits_ne_nil empty

theorem unique (one : Spells first pieces) (other : Spells second others)
    (same : pieces = others) (aligned : first.length = second.length) : first = second := by
  cases one with
  | whole =>
      cases other with
      | whole => exact Text.toDigits_sixteen_injective.list_map same
      | shortened front back length _ => exact absurd same (map_toDigits_ne first front back)
  | shortened front back length split =>
      cases other with
      | whole => exact absurd same.symm (map_toDigits_ne second front back)
      | shortened otherFront otherBack otherLength otherSplit =>
          obtain ⟨rfl, rfl⟩ := outerPieces_append_inj same
          rw [split, otherSplit] at aligned ⊢
          simp only [List.length_append, List.length_replicate] at aligned
          rw [show length = otherLength by omega]

end Spells

theorem mapped?_eq_some {groups octets : List Nat} (mapped : mapped? groups = some octets) :
    ∃ high low, groups = [0, 0, 0, 0, 0, 0xFFFF, high, low] ∧
      octets = [high / 256, high % 256, low / 256, low % 256] := by
  unfold mapped? at mapped
  split at mapped
  · rename_i high low
    exact ⟨high, low, rfl, (Option.some.inj mapped).symm⟩
  · cases mapped

theorem mapped?_inj {first second octets : List Nat} (one : mapped? first = some octets)
    (other : mapped? second = some octets) : first = second := by
  obtain ⟨high, low, rfl, rfl⟩ := mapped?_eq_some one
  obtain ⟨otherHigh, otherLow, rfl, same⟩ := mapped?_eq_some other
  simp only [List.cons.injEq, and_true] at same
  rw [show high = otherHigh by omega, show low = otherLow by omega]

theorem isDigit_of_mem_octets {octets : List Nat} :
    ∀ piece ∈ octets.map (Nat.toDigits 10), ∀ character ∈ piece, Text.isDigit character = true := by
  intro _ member
  obtain ⟨octet, _, rfl⟩ := List.mem_map.mp member
  exact fun _ => Text.isDigit_of_mem_toDigits

theorem writeOctets_eq (octets : List Nat) :
    writeOctets octets = ['.'].intercalate (octets.map (Nat.toDigits 10)) :=
  join_eq_intercalate '.' _

theorem writeOctets_inj {first second : List Nat} (firstPresent : first ≠ [])
    (secondPresent : second ≠ []) (same : writeOctets first = writeOctets second) :
    first = second := by
  have unmarked (octets : List Nat) : ∀ piece ∈ octets.map (Nat.toDigits 10), '.' ∉ piece :=
    fun piece member point => absurd (isDigit_of_mem_octets piece member '.' point) (by decide)
  rw [writeOctets_eq, writeOctets_eq, Text.intercalate_inj (unmarked first) (unmarked second)
    (by simpa using firstPresent) (by simpa using secondPresent)] at same
  refine Function.Injective.list_map ?_ same
  exact Function.LeftInverse.injective (fun _ => Nat.ofDigitChars_ten_toDigits)

theorem colon_notMem_writeOctets (octets : List Nat) : ':' ∉ writeOctets octets := by
  rw [writeOctets_eq]
  intro member
  rcases Text.mem_intercalate member with point | ⟨piece, held, inside⟩
  · revert point
    decide
  · have digit := isDigit_of_mem_octets piece held ':' inside
    revert digit
    decide

theorem point_mem_writeOctets {octets : List Nat} (several : 2 ≤ octets.length) :
    '.' ∈ writeOctets octets := by
  rw [writeOctets_eq]
  exact Text.mark_mem_intercalate (by rwa [List.length_map])

theorem point_notMem_toCharacters {groups : List Nat} (unmapped : mapped? groups = none) :
    '.' ∉ (version6 groups).toCharacters := by
  obtain ⟨pieces, spells, written⟩ := exists_spells unmapped
  rw [written]
  intro member
  rcases Text.mem_intercalate member with colon | ⟨piece, held, inside⟩
  · revert colon
    decide
  · have digit := spells.isLowerHex piece held '.' inside
    revert digit
    decide

theorem toCharacters_of_mapped {groups octets : List Nat} (mapped : mapped? groups = some octets) :
    (version6 groups).toCharacters = "::ffff:".toList ++ writeOctets octets := by
  simp only [toCharacters, mapped]

theorem colon_mem_toCharacters {groups : List Nat} (complete : groups.length = 8) :
    ':' ∈ (version6 groups).toCharacters := by
  cases mapped : mapped? groups with
  | some octets =>
      rw [toCharacters_of_mapped mapped]
      exact List.mem_append_left _ (by decide)
  | none =>
      obtain ⟨pieces, spells, written⟩ := exists_spells mapped
      rw [written]
      exact Text.mark_mem_intercalate (spells.two_le_length (by omega))

theorem toCharacters_version6_inj {first second : List Nat} (firstComplete : first.length = 8)
    (secondComplete : second.length = 8)
    (same : (version6 first).toCharacters = (version6 second).toCharacters) : first = second := by
  have points {groups octets : List Nat} (mapped : mapped? groups = some octets) :
      '.' ∈ (version6 groups).toCharacters := by
    obtain ⟨high, low, _, rfl⟩ := mapped?_eq_some mapped
    rw [toCharacters_of_mapped mapped]
    exact List.mem_append_right _ (point_mem_writeOctets (by simp))
  cases firstMapped : mapped? first with
  | some octets =>
      cases secondMapped : mapped? second with
      | some others =>
          rw [toCharacters_of_mapped firstMapped, toCharacters_of_mapped secondMapped,
            List.append_cancel_left_eq] at same
          obtain ⟨_, _, _, shape⟩ := mapped?_eq_some firstMapped
          obtain ⟨_, _, _, otherShape⟩ := mapped?_eq_some secondMapped
          cases writeOctets_inj (by simp [shape]) (by simp [otherShape]) same
          exact mapped?_inj firstMapped secondMapped
      | none => exact absurd (same ▸ points firstMapped) (point_notMem_toCharacters secondMapped)
  | none =>
      cases secondMapped : mapped? second with
      | some others =>
          exact absurd (same ▸ points secondMapped) (point_notMem_toCharacters firstMapped)
      | none =>
          obtain ⟨pieces, spells, written⟩ := exists_spells firstMapped
          obtain ⟨others, otherSpells, otherWritten⟩ := exists_spells secondMapped
          have unmarked {groups : List Nat} {pieces : List (List Char)}
              (spells : Spells groups pieces) : ∀ piece ∈ pieces, ':' ∉ piece :=
            fun piece member colon =>
              absurd (spells.isLowerHex piece member ':' colon) (by decide)
          have present {groups : List Nat} {pieces : List (List Char)}
              (spells : Spells groups pieces) (length : groups.length = 8) : pieces ≠ [] := by
            rintro rfl
            have several := spells.two_le_length (by omega)
            simp at several
          rw [written, otherWritten, Text.intercalate_inj (unmarked spells) (unmarked otherSpells)
            (present spells firstComplete) (present otherSpells secondComplete)] at same
          exact spells.unique otherSpells same (firstComplete.trans secondComplete.symm)

theorem toText_inj {first second : IpAddress} (firstComplete : first.Complete)
    (secondComplete : second.Complete) : first.toText = second.toText ↔ first = second := by
  refine ⟨fun same => ?_, fun same => by rw [same]⟩
  rw [toText, toText, String.ofList_inj] at same
  cases first with
  | version4 octets =>
      cases second with
      | version4 others =>
          have present {octets : List Nat} (four : octets.length = 4) : octets ≠ [] := by
            rintro rfl
            cases four
          exact congrArg version4
            (writeOctets_inj (present firstComplete) (present secondComplete) same)
      | version6 groups =>
          have colon := colon_mem_toCharacters secondComplete
          rw [← same] at colon
          exact absurd colon (colon_notMem_writeOctets octets)
  | version6 groups =>
      cases second with
      | version4 octets =>
          have colon := colon_mem_toCharacters firstComplete
          rw [same] at colon
          exact absurd colon (colon_notMem_writeOctets octets)
      | version6 others =>
          exact congrArg version6 (toCharacters_version6_inj firstComplete secondComplete same)

end IpAddress

end Clearing
