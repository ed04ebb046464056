import Clearing.Proofs.Payment.Requests
import Clearing.Proofs.Text.Hexadecimal
import Mathlib.Data.List.Forall2
/-!
Accounts as numbers.  A text spells an account if every place of it holds what is due there: a
hyphen between two groups and a hexadecimal digit anywhere else.  Without its hyphens a spelling
is a number of 128 bits, and two spellings name one account exactly if they denote one number.
-/

namespace Clearing

/-- What may stand at a place: a hyphen if one is due there, a digit otherwise. -/
def FitsPlace (isHyphen : Bool) (character : Char) : Prop :=
  if isHyphen then character = '-' else Text.isHex character = true

/-- Place by place, whether a hyphen is due between groups of the given lengths. -/
def hyphenation (lengths : List Nat) : List Bool :=
  [true].intercalate (lengths.map fun length => List.replicate length false)

/-- The places of the hyphens of an identifier. -/
def hyphenPlaces : List Nat := [8, 13, 18, 23]

/-- The number that a spelling denotes: what its digits are without the hyphens. -/
def AccountId.number (account : AccountId) : Nat :=
  Text.hexNumber (account.text.toList.filter (· ≠ '-'))

theorem hyphenation_cons_cons (length next : Nat) (lengths : List Nat) :
    hyphenation (length :: next :: lengths) =
      List.replicate length false ++ true :: hyphenation (next :: lengths) := by
  simp [hyphenation]

theorem hyphenation_accountGroups :
    hyphenation accountGroups =
      (List.range 36).map fun place => decide (place ∈ hyphenPlaces) := by
  decide

theorem forall₂_append_left_iff {First Second : Type} {Related : First → Second → Prop}
    (front back : List First) (list : List Second) :
    List.Forall₂ Related (front ++ back) list ↔
      ∃ first second, List.Forall₂ Related front first ∧ List.Forall₂ Related back second ∧
        first ++ second = list := by
  induction front generalizing list with
  | nil => simp
  | cons head front inductionHypothesis =>
      simp only [List.cons_append, List.forall₂_cons_left_iff, inductionHypothesis]
      constructor
      · rintro ⟨other, _, related, ⟨first, second, one, two, rfl⟩, rfl⟩
        exact ⟨other :: first, second, ⟨other, first, related, one, rfl⟩, two, rfl⟩
      · rintro ⟨_, second, ⟨other, first, related, one, rfl⟩, two, rfl⟩
        exact ⟨other, _, related, ⟨first, second, one, two, rfl⟩, rfl⟩

theorem forall₂_fitsPlace_replicate_iff (length : Nat) (group : List Char) :
    List.Forall₂ FitsPlace (List.replicate length false) group ↔
      group.length = length ∧ ∀ character ∈ group, Text.isHex character = true := by
  induction length generalizing group with
  | zero => simp +contextual
  | succ length inductionHypothesis =>
      rw [List.replicate_succ, List.forall₂_cons_left_iff]
      simp only [inductionHypothesis]
      cases group with
      | nil => simp
      | cons character rest =>
          simp [FitsPlace]
          tauto

theorem exists_groups_iff_forall₂ (lengths : List Nat) (characters : List Char) :
    (∃ groups : List (List Char), groups.map List.length = lengths ∧
      (∀ group ∈ groups, ∀ character ∈ group, Text.isHex character = true) ∧
        ['-'].intercalate groups = characters) ↔
      List.Forall₂ FitsPlace (hyphenation lengths) characters := by
  induction lengths generalizing characters with
  | nil =>
      rw [hyphenation, List.map_nil, List.intercalate_nil, List.forall₂_nil_left_iff]
      constructor
      · rintro ⟨groups, none, _, rfl⟩
        rw [List.map_eq_nil_iff.mp none, List.intercalate_nil]
      · rintro rfl
        exact ⟨[], rfl, nofun, rfl⟩
  | cons length lengths inductionHypothesis =>
      cases lengths with
      | nil =>
          rw [hyphenation, List.map_singleton, List.intercalate_singleton,
            forall₂_fitsPlace_replicate_iff]
          constructor
          · rintro ⟨groups, aligned, hex, rfl⟩
            obtain ⟨group, rest, rfl, one, none⟩ := List.map_eq_cons_iff.mp aligned
            rw [List.map_eq_nil_iff.mp none, List.intercalate_singleton]
            exact ⟨one, hex group List.mem_cons_self⟩
          · rintro ⟨one, hex⟩
            refine ⟨[characters], by rw [List.map_singleton, one], ?_, List.intercalate_singleton⟩
            rwa [List.forall_mem_singleton]
      | cons next lengths =>
          rw [hyphenation_cons_cons, forall₂_append_left_iff]
          simp only [List.forall₂_cons_left_iff, forall₂_fitsPlace_replicate_iff,
            ← inductionHypothesis]
          -- a list of groups with these lengths has a group behind the first one
          have present {rest : List (List Char)}
              (others : rest.map List.length = next :: lengths) : rest ≠ [] := by
            rintro rfl
            cases others
          constructor
          · rintro ⟨groups, aligned, hex, rfl⟩
            obtain ⟨group, rest, rfl, one, others⟩ := List.map_eq_cons_iff.mp aligned
            obtain ⟨first, later⟩ := List.forall_mem_cons.mp hex
            refine ⟨group, _, ⟨one, first⟩, ⟨'-', _, rfl, ⟨rest, others, later, rfl⟩, rfl⟩, ?_⟩
            rw [List.intercalate_cons_of_ne_nil (present others), List.append_assoc,
              List.singleton_append]
          · rintro ⟨group, _, ⟨one, first⟩,
              ⟨hyphen, _, fits, ⟨rest, others, later, rfl⟩, rfl⟩, rfl⟩
            refine ⟨group :: rest, by rw [List.map_cons, one, others],
              List.forall_mem_cons.mpr ⟨first, later⟩, ?_⟩
            rw [List.intercalate_cons_of_ne_nil (present others), List.append_assoc,
              List.singleton_append, show hyphen = '-' from fits]

theorem isAccountSpelling_iff_places (characters : List Char) :
    IsAccountSpelling characters ↔
      characters.length = 36 ∧ ∀ place character, characters[place]? = some character →
        if place ∈ hyphenPlaces then character = '-' else Text.isHex character = true := by
  rw [IsAccountSpelling, exists_groups_iff_forall₂, hyphenation_accountGroups,
    List.forall₂_iff_get]
  simp only [List.length_map, List.length_range, List.get_eq_getElem, List.getElem_map,
    List.getElem_range, FitsPlace, decide_eq_true_eq, List.getElem?_eq_some_iff]
  constructor
  · rintro ⟨aligned, fits⟩
    refine ⟨aligned.symm, ?_⟩
    rintro place _ ⟨within, rfl⟩
    exact fits place (aligned ▸ within) within
  · rintro ⟨aligned, fits⟩
    exact ⟨aligned.symm, fun place _ within => fits place _ ⟨within, rfl⟩⟩

theorem hyphen_notMem_of_isHex {group : List Char}
    (hex : ∀ character ∈ group, Text.isHex character = true) : '-' ∉ group := by
  intro member
  have digit := hex '-' member
  revert digit
  decide

theorem map_lower_intercalate_eq_iff {first second : List (List Char)}
    (firstHex : ∀ group ∈ first, ∀ character ∈ group, Text.isHex character = true)
    (secondHex : ∀ group ∈ second, ∀ character ∈ group, Text.isHex character = true)
    (aligned : first.map List.length = second.map List.length) (present : first ≠ []) :
    (['-'].intercalate first).map Text.lower = (['-'].intercalate second).map Text.lower ↔
      first.flatten.map Text.lower = second.flatten.map Text.lower := by
  have unmarked {groups : List (List Char)}
      (hex : ∀ group ∈ groups, ∀ character ∈ group, Text.isHex character = true) :
      ∀ group ∈ groups.map (List.map Text.lower), '-' ∉ group := by
    intro _ member
    obtain ⟨group, held, rfl⟩ := List.mem_map.mp member
    intro hyphen
    have digit := Text.isLowerHex_of_mem_map_lower (hex group held) '-' hyphen
    revert digit
    decide
  have presentToo : second ≠ [] := by
    rintro rfl
    exact present (List.map_eq_nil_iff.mp aligned)
  rw [Text.map_intercalate, Text.map_intercalate,
    show Text.lower '-' = '-' by decide,
    Text.intercalate_inj (unmarked firstHex) (unmarked secondHex) (by simpa using present)
      (by simpa using presentToo),
    List.eq_iff_flatten_eq, ← List.map_flatten, ← List.map_flatten]
  refine and_iff_left ?_
  simpa [List.map_map, Function.comp_def] using aligned

namespace AccountId

theorem number_eq {account : AccountId} {groups : List (List Char)}
    (hex : ∀ group ∈ groups, ∀ character ∈ group, Text.isHex character = true)
    (spelled : ['-'].intercalate groups = account.text.toList) :
    account.number = Text.hexNumber groups.flatten := by
  rw [number, ← spelled,
    Text.filter_intercalate fun group member => hyphen_notMem_of_isHex (hex group member)]

theorem isHex_of_mem_flatten {groups : List (List Char)}
    (hex : ∀ group ∈ groups, ∀ character ∈ group, Text.isHex character = true) :
    ∀ digit ∈ groups.flatten, Text.isHex digit = true := by
  intro digit member
  obtain ⟨group, held, inside⟩ := List.mem_flatten.mp member
  exact hex group held digit inside

theorem length_flatten_of_accountGroups {groups : List (List Char)}
    (aligned : groups.map List.length = accountGroups) : groups.flatten.length = 32 := by
  rw [List.length_flatten, aligned]
  decide

theorem number_lt (account : AccountId) : account.number < 2 ^ 128 := by
  obtain ⟨groups, aligned, hex, spelled⟩ := account.isAccountSpelling
  have bounded := Text.hexNumber_lt_of_isHex (isHex_of_mem_flatten hex)
  rw [length_flatten_of_accountGroups aligned] at bounded
  rw [number_eq hex spelled]
  exact bounded.trans_eq (by norm_num)

theorem sameAccount_iff_number_eq (left right : AccountId) :
    left.sameAccount right = true ↔ left.number = right.number := by
  obtain ⟨first, firstAligned, firstHex, firstSpelled⟩ := left.isAccountSpelling
  obtain ⟨second, secondAligned, secondHex, secondSpelled⟩ := right.isAccountSpelling
  have present : first ≠ [] := by
    rintro rfl
    cases firstAligned
  have lengths : first.flatten.length = second.flatten.length :=
    (length_flatten_of_accountGroups firstAligned).trans
      (length_flatten_of_accountGroups secondAligned).symm
  rw [number_eq firstHex firstSpelled, number_eq secondHex secondSpelled,
    Text.hexNumber_eq_iff (isHex_of_mem_flatten firstHex) (isHex_of_mem_flatten secondHex) lengths,
    ← map_lower_intercalate_eq_iff firstHex secondHex (firstAligned.trans secondAligned.symm)
      present,
    firstSpelled, secondSpelled, sameAccount, Text.equalIgnoringCase, beq_iff_eq]

theorem sameAccount_equivalence :
    Equivalence fun left right : AccountId => left.sameAccount right = true := by
  simp only [sameAccount_iff_number_eq]
  exact ⟨fun _ => rfl, Eq.symm, Eq.trans⟩

end AccountId

namespace PaymentRequest

variable {request : PaymentRequest}

theorem mem_dropLast_all_iff (check : RequestCheck) :
    check ∈ RequestCheck.all.dropLast ↔ check ≠ .distinct := by
  cases check with
  | account role => cases role <;> decide
  | _ => decide

theorem firstFailing_distinct_iff :
    request.FirstFailing .distinct ↔
      (∀ check ≠ .distinct, request.Passes check) ∧ ¬ request.Passes .distinct := by
  have others : request.PassesAll RequestCheck.all.dropLast ↔
      ∀ check ≠ .distinct, request.Passes check := by
    simp only [PassesAll, mem_dropLast_all_iff]
  have all_eq : RequestCheck.all = RequestCheck.all.dropLast ++ [.distinct] := rfl
  rw [← others]
  constructor
  · rintro ⟨before, after, split, passed, failed⟩
    rw [all_eq, List.append_cons_inj_of_notMem (by decide) List.not_mem_nil] at split
    rw [split.1]
    exact ⟨passed, failed⟩
  · rintro ⟨passed, failed⟩
    exact ⟨_, [], all_eq, passed, failed⟩

theorem validate_eq_sameAccount_iff :
    request.validate = .error .sameAccount ↔ request.FirstFailing .distinct := by
  rw [validate_eq_error_iff]
  constructor
  · rintro ⟨check, failing, reported⟩
    cases reported
    exact failing
  · exact fun failing => ⟨.distinct, failing, .distinct⟩

theorem not_passes_distinct_iff {source destination : AccountId}
    (sourceText : source.text = request.source)
    (destinationText : destination.text = request.destination) :
    ¬ request.Passes .distinct ↔ source.number = destination.number := by
  rw [Passes, not_not, ← sourceText, ← destinationText, ← AccountId.sameAccount_iff,
    AccountId.sameAccount_iff_number_eq]

theorem validate_eq_sameAccount_iff_number_eq :
    request.validate = .error .sameAccount ↔
      (∀ check ≠ .distinct, request.Passes check) ∧
        ∃ source destination, AccountId.parse request.source = some source ∧
          AccountId.parse request.destination = some destination ∧
          source.number = destination.number := by
  simp only [validate_eq_sameAccount_iff, firstFailing_distinct_iff, AccountId.parse_eq_some_iff]
  refine and_congr_right fun passes => ⟨fun failed => ?_, ?_⟩
  · have spelled (role : AccountRole) :
        ∃ account : AccountId, account.text = request.account role :=
      ⟨⟨request.account role, (isAccountId_iff _).mpr (passes (.account role) nofun)⟩, rfl⟩
    obtain ⟨source, sourceText⟩ := spelled .source
    obtain ⟨destination, destinationText⟩ := spelled .destination
    exact ⟨source, destination, sourceText, destinationText,
      (not_passes_distinct_iff sourceText destinationText).mp failed⟩
  · rintro ⟨source, destination, sourceText, destinationText, same⟩
    exact (not_passes_distinct_iff sourceText destinationText).mpr same

end PaymentRequest

/--
A text spells an account exactly if it has 36 characters, of which those at the places of hyphens
are hyphens and all others are hexadecimal digits of either case; the spelling is kept.  A
spelling denotes a number of 128 bits, and two of them name one account exactly if they denote
one number.  A payment that is accepted goes from one number to another, and a request that
passes every other check is refused because of its accounts exactly if they are one number.
-/
theorem AccountId.spellings_are_numbers :
    (∀ text : String, (parse text).isSome = true ↔
      text.length = 36 ∧ ∀ place character, text.toList[place]? = some character →
        if place ∈ hyphenPlaces then character = '-' else Text.isHex character = true) ∧
    (∀ text account, parse text = some account → account.text = text) ∧
    (∀ account : AccountId, account.number < 2 ^ 128) ∧
    (∀ left right : AccountId, left.sameAccount right = true ↔ left.number = right.number) ∧
    (Equivalence fun left right : AccountId => left.sameAccount right = true) ∧
    ∀ request : PaymentRequest,
      (∀ payment, request.validate = .ok payment →
        payment.source.text = request.source ∧ payment.destination.text = request.destination ∧
          payment.source.number ≠ payment.destination.number) ∧
      (request.validate = .error .sameAccount ↔
        (∀ check ≠ .distinct, request.Passes check) ∧
          ∃ source destination, parse request.source = some source ∧
            parse request.destination = some destination ∧
            source.number = destination.number) := by
  refine ⟨fun text => ?_, fun text account => (parse_eq_some_iff text account).mp, number_lt,
    sameAccount_iff_number_eq, sameAccount_equivalence,
    fun request => ⟨fun payment valid => ?_, PaymentRequest.validate_eq_sameAccount_iff_number_eq⟩⟩
  · rw [← String.length_toList, ← isAccountSpelling_iff_places, ← isAccountId_iff,
      Option.isSome_iff_exists]
    simp only [parse_eq_some_iff]
    exact ⟨fun ⟨account, same⟩ => same ▸ account.wellFormed, fun spelled => ⟨⟨text, spelled⟩, rfl⟩⟩
  · obtain ⟨passes, gives⟩ := PaymentRequest.validate_eq_ok_iff.mp valid
    refine ⟨gives.source_eq, gives.destination_eq, fun same => ?_⟩
    exact (PaymentRequest.not_passes_distinct_iff gives.source_eq gives.destination_eq).mpr same
      (passes .distinct)

end Clearing
