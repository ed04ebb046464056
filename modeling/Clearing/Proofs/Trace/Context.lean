import Clearing.Trace.Context
import Clearing.Proofs.Text.Hexadecimal
import Clearing.Proofs.Text.Splitting
import Clearing.Proofs.Text.Trimming
/-!
The texts of trace contexts.  A text is read exactly when it consists of the groups of a
context, every context is read back from the text that it is written as, and a text of the
version that is written is the one that its context is written as.
-/

namespace Clearing

theorem TraceId.ofNumber?_eq_some_iff (number : Nat) (trace : TraceId) :
    ofNumber? number = some trace ↔ trace.number = number := by
  obtain ⟨own, positive, bounded⟩ := trace
  unfold ofNumber?
  split
  · rw [Option.some.injEq, TraceId.mk.injEq]
    exact eq_comm
  · rename_i invalid
    refine ⟨nofun, ?_⟩
    rintro rfl
    exact absurd ⟨positive, bounded⟩ invalid

theorem Span.ofNumber?_eq_some_iff (number : Nat) (span : Span) :
    ofNumber? number = some span ↔ span.number = number := by
  obtain ⟨own, positive, bounded⟩ := span
  unfold ofNumber?
  split
  · rw [Option.some.injEq, Span.mk.injEq]
    exact eq_comm
  · rename_i invalid
    refine ⟨nofun, ?_⟩
    rintro rfl
    exact absurd ⟨positive, bounded⟩ invalid

namespace TraceContext

open Text

/-- A given number of lower-case hexadecimal digits. -/
structure IsGroup (width : Nat) (characters : List Char) : Prop where
  length_eq : characters.length = width
  lower : ∀ digit ∈ characters, isLowerHex digit = true

theorem isGroup_eq_true_iff (width : Nat) (characters : List Char) :
    isGroup width characters = true ↔ IsGroup width characters := by
  rw [isGroup, Bool.and_eq_true, beq_iff_eq, List.all_eq_true]
  exact ⟨fun ⟨length, lower⟩ => ⟨length, lower⟩, fun group => ⟨group.length_eq, group.lower⟩⟩

theorem isGroup_hexText (width value : Nat) : IsGroup width (hexText width value) where
  length_eq := length_hexText width value
  lower := fun _ => isLowerHex_of_mem_hexText

section Group

variable {width : Nat} {characters : List Char}

theorem IsGroup.unmarked (group : IsGroup width characters) : '-' ∉ characters := by
  intro hyphen
  have digit := group.lower '-' hyphen
  revert digit
  decide

theorem IsGroup.hexNumber_lt (group : IsGroup width characters) :
    hexNumber characters < 16 ^ width := by
  rw [← group.length_eq]
  exact Text.hexNumber_lt group.lower

theorem IsGroup.hexText_hexNumber (group : IsGroup width characters) :
    hexText width (hexNumber characters) = characters := by
  rw [← group.length_eq]
  exact Text.hexText_hexNumber group.lower

theorem IsGroup.hexNumber_pos_iff (group : IsGroup width characters) :
    0 < hexNumber characters ↔ ∃ digit ∈ characters, digit ≠ '0' := by
  rw [Nat.pos_iff_ne_zero, Ne, hexNumber_eq_zero_iff group.lower]
  push Not
  rfl

end Group

/--
The parts of a written context, the last of them being what may follow the flags behind one
more hyphen.
-/
structure Parts where
  version : List Char
  trace : List Char
  span : List Char
  flags : List Char
  appended : Option (List Char)

namespace Parts

def toCharacters (parts : Parts) : List Char :=
  parts.version ++ '-' :: (parts.trace ++ '-' :: (parts.span ++ '-' :: (parts.flags ++
    match parts.appended with
    | none => []
    | some rest => '-' :: rest)))

/-- What the grammar of written contexts asks for. -/
structure WellFormed (parts : Parts) : Prop where
  version : IsGroup 2 parts.version
  versionExists : parts.version ≠ ['f', 'f']
  trace : IsGroup 32 parts.trace
  traceNonzero : ∃ digit ∈ parts.trace, digit ≠ '0'
  span : IsGroup 16 parts.span
  spanNonzero : ∃ digit ∈ parts.span, digit ≠ '0'
  flags : IsGroup 2 parts.flags
  ended : parts.version = ['0', '0'] → parts.appended = none

structure Denotes (parts : Parts) (context : TraceContext) : Prop where
  trace : hexNumber parts.trace = context.trace.number
  span : hexNumber parts.span = context.span.number
  flags : hexNumber parts.flags = context.flags

/-- The pieces of what follows the flags. -/
def others (parts : Parts) : List (List Char) :=
  match parts.appended with
  | none => []
  | some rest => pieces '-' rest

theorem others_eq_nil_iff (parts : Parts) : parts.others = [] ↔ parts.appended = none := by
  unfold others
  cases parts.appended with
  | none => simp
  | some rest => simpa using pieces_ne_nil '-' rest

theorem pieces_toCharacters {parts : Parts} (wellFormed : parts.WellFormed) :
    pieces '-' parts.toCharacters =
      parts.version :: parts.trace :: parts.span :: parts.flags :: parts.others := by
  have flags := wellFormed.flags.unmarked
  unfold toCharacters others
  rw [pieces_append_cons wellFormed.version.unmarked, pieces_append_cons wellFormed.trace.unmarked,
    pieces_append_cons wellFormed.span.unmarked]
  cases parts.appended with
  | none => simp only [List.append_nil, pieces_eq_singleton flags]
  | some rest => simp only [pieces_append_cons flags]

/-- The pieces of a text are the parts of that text, whatever they hold. -/
theorem exists_toCharacters_eq
    {characters version trace span flags : List Char} {others : List (List Char)}
    (cut : pieces '-' characters = version :: trace :: span :: flags :: others) :
    ∃ appended, (others = [] ↔ appended = none) ∧
      toCharacters { version, trace, span, flags, appended } = characters := by
  rw [← intercalate_pieces '-' characters, cut]
  cases others with
  | nil => exact ⟨none, by simp, by simp [toCharacters, List.intercalate]⟩
  | cons piece others =>
      refine ⟨some (['-'].intercalate (piece :: others)), by simp, ?_⟩
      simp [toCharacters, List.intercalate]

theorem WellFormed.exists_denotes {parts : Parts} (wellFormed : parts.WellFormed) :
    ∃ context, parts.Denotes context := by
  refine ⟨{
    trace := {
      number := hexNumber parts.trace
      positive := wellFormed.trace.hexNumber_pos_iff.mpr wellFormed.traceNonzero
      bounded := wellFormed.trace.hexNumber_lt }
    span := {
      number := hexNumber parts.span
      positive := wellFormed.span.hexNumber_pos_iff.mpr wellFormed.spanNonzero
      bounded := wellFormed.span.hexNumber_lt }
    flags := hexNumber parts.flags
    flags_lt := wellFormed.flags.hexNumber_lt }, rfl, rfl, rfl⟩

end Parts

theorem ofGroups?_eq_some_iff
    (parts : Parts) {others : List (List Char)} (same : others = [] ↔ parts.appended = none)
    (context : TraceContext) :
    ofGroups? (parts.version :: parts.trace :: parts.span :: parts.flags :: others) =
      some context ↔ parts.WellFormed ∧ parts.Denotes context := by
  obtain ⟨trace, span, flags, flags_lt⟩ := context
  simp only [ofGroups?, Bool.and_eq_true, Bool.or_eq_true, bne_iff_ne, List.isEmpty_iff,
    isGroup_eq_true_iff, Option.ite_none_right_eq_some, Option.bind_eq_bind,
    Option.bind_eq_some_iff, Option.dite_none_right_eq_some, Option.some.injEq,
    TraceContext.mk.injEq, TraceId.ofNumber?_eq_some_iff, Span.ofNumber?_eq_some_iff, same]
  constructor
  · rintro ⟨⟨⟨⟨⟨⟨version, traceGroup⟩, spanGroup⟩, flagsGroup⟩, versionExists⟩, ended⟩, named,
      traceNumber, inner, spanNumber, _, rfl, rfl, rfl⟩
    exact ⟨{
      version, versionExists
      trace := traceGroup
      traceNonzero := traceGroup.hexNumber_pos_iff.mp (traceNumber ▸ named.positive)
      span := spanGroup
      spanNonzero := spanGroup.hexNumber_pos_iff.mp (spanNumber ▸ inner.positive)
      flags := flagsGroup
      ended := fun zero => ended.resolve_left (absurd zero) },
      traceNumber.symm, spanNumber.symm, rfl⟩
  · rintro ⟨wellFormed, traceNumber, spanNumber, flagsNumber⟩
    refine ⟨⟨⟨⟨⟨⟨wellFormed.version, wellFormed.trace⟩, wellFormed.span⟩, wellFormed.flags⟩,
      wellFormed.versionExists⟩, Decidable.not_or_of_imp wellFormed.ended⟩, trace,
      traceNumber.symm, span, spanNumber.symm, ?_⟩
    exact ⟨wellFormed.flags.hexNumber_lt, rfl, rfl, flagsNumber⟩

theorem parse_eq_some_iff (text : String) (context : TraceContext) :
    parse text = some context ↔
      ∃ parts : Parts, parts.WellFormed ∧ parts.toCharacters = trimmed text.toList ∧
        parts.Denotes context := by
  rw [parse, parseCharacters]
  constructor
  · intro found
    unfold ofGroups? at found
    split at found
    · rename_i version trace span flags others cut
      obtain ⟨appended, same, written⟩ := Parts.exists_toCharacters_eq cut
      obtain ⟨wellFormed, denotes⟩ :=
        (ofGroups?_eq_some_iff { version, trace, span, flags, appended } same context).mp found
      exact ⟨_, wellFormed, written, denotes⟩
    · cases found
  · rintro ⟨parts, wellFormed, written, denotes⟩
    rw [← written, Parts.pieces_toCharacters wellFormed]
    exact (ofGroups?_eq_some_iff parts parts.others_eq_nil_iff context).mpr ⟨wellFormed, denotes⟩

/-- The parts that a context is written as. -/
def parts (context : TraceContext) : Parts where
  version := ['0', '0']
  trace := hexText 32 context.trace.number
  span := hexText 16 context.span.number
  flags := hexText 2 context.flags
  appended := none

theorem toCharacters_parts (context : TraceContext) :
    context.parts.toCharacters = context.toCharacters := by
  simp [parts, Parts.toCharacters, toCharacters]

theorem denotes_parts (context : TraceContext) : context.parts.Denotes context where
  trace := hexNumber_hexText_of_lt context.trace.bounded
  span := hexNumber_hexText_of_lt context.span.bounded
  flags := hexNumber_hexText_of_lt context.flags_lt

theorem wellFormed_parts (context : TraceContext) : context.parts.WellFormed := by
  have trace := isGroup_hexText 32 context.trace.number
  have span := isGroup_hexText 16 context.span.number
  have denotes := context.denotes_parts
  exact {
    version := isGroup_hexText 2 0
    versionExists := nofun
    trace, span
    traceNonzero := trace.hexNumber_pos_iff.mp (denotes.trace.trans_gt context.trace.positive)
    spanNonzero := span.hexNumber_pos_iff.mp (denotes.span.trans_gt context.span.positive)
    flags := isGroup_hexText 2 context.flags
    ended := fun _ => rfl }

theorem isBlank_of_mem_toCharacters (context : TraceContext) :
    ∀ character ∈ context.toCharacters, isBlank character = false := by
  have digits (width value : Nat) (digit : Char) (member : digit ∈ hexText width value) :
      isBlank digit = false :=
    isBlank_of_isLowerHex (isLowerHex_of_mem_hexText member)
  have hyphen : isBlank '-' = false := by decide
  have zero : isBlank '0' = false := by decide
  simp only [toCharacters, List.forall_mem_append, List.forall_mem_cons]
  exact ⟨⟨⟨⟨zero, zero, hyphen, nofun⟩, digits _ _⟩, hyphen, digits _ _⟩, hyphen, digits _ _⟩

theorem parse_toText (context : TraceContext) : parse context.toText = some context := by
  refine (parse_eq_some_iff _ _).mpr
    ⟨context.parts, context.wellFormed_parts, ?_, context.denotes_parts⟩
  rw [toText, String.toList_ofList, trimmed_eq_self context.isBlank_of_mem_toCharacters,
    toCharacters_parts]

theorem parts_eq_of_denotes
    {parts : Parts} {context : TraceContext} (wellFormed : parts.WellFormed)
    (denotes : parts.Denotes context) (version : parts.version = ['0', '0']) :
    context.parts = parts := by
  have appended := wellFormed.ended version
  obtain ⟨_, _, _, _, _⟩ := parts
  cases version
  cases appended
  rw [TraceContext.parts, ← denotes.trace, ← denotes.span, ← denotes.flags,
    wellFormed.trace.hexText_hexNumber, wellFormed.span.hexText_hexNumber,
    wellFormed.flags.hexText_hexNumber]

theorem isSome_parse_iff (text : String) :
    (parse text).isSome = true ↔
      ∃ parts : Parts, parts.WellFormed ∧ parts.toCharacters = trimmed text.toList := by
  simp only [Option.isSome_iff_exists, parse_eq_some_iff]
  constructor
  · rintro ⟨_, parts, wellFormed, written, _⟩
    exact ⟨parts, wellFormed, written⟩
  · rintro ⟨parts, wellFormed, written⟩
    obtain ⟨context, denotes⟩ := wellFormed.exists_denotes
    exact ⟨context, parts, wellFormed, written, denotes⟩

theorem Parts.WellFormed.take_toCharacters {parts : Parts} (wellFormed : parts.WellFormed) :
    parts.toCharacters.take 2 = parts.version := by
  rw [toCharacters, ← wellFormed.version.length_eq, List.take_left]

/--
Reading and writing contexts are inverse to each other.  The texts that are read are those of
the grammar, and they denote the context; a context is read back from its own text, flags
included; a text of version `00` is the text of its context, but for the white space around it.
-/
theorem parse_inverse_toText :
    (∀ text, (parse text).isSome = true ↔
      ∃ parts : Parts, parts.WellFormed ∧ parts.toCharacters = trimmed text.toList) ∧
    (∀ text context, parse text = some context ↔
      ∃ parts : Parts, parts.WellFormed ∧ parts.toCharacters = trimmed text.toList ∧
        parts.Denotes context) ∧
    (∀ context, parse context.toText = some context) ∧
    (∀ text context, parse text = some context →
      (trimmed text.toList).take 2 = ['0', '0'] → context.toText = Text.trim text) := by
  refine ⟨isSome_parse_iff, parse_eq_some_iff, parse_toText, ?_⟩
  intro text context found version
  obtain ⟨parts, wellFormed, written, denotes⟩ := (parse_eq_some_iff text context).mp found
  rw [← written, wellFormed.take_toCharacters] at version
  rw [toText, ← toCharacters_parts, parts_eq_of_denotes wellFormed denotes version, written,
    Text.trim]

end TraceContext

end Clearing
