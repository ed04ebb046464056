import Clearing.Proofs.Trace.Context
import Clearing.Trace.Headers
/-!
Trace contexts in header lists.  Writing a context leaves exactly one header of its name and all
the others as they were, so it is the context that is read afterwards, whatever was there before.
-/

namespace Clearing

theorem Text.lower_eq_toLower (character : Char) : lower character = character.toLower := by
  by_cases capital : 'A' ≤ character ∧ character ≤ 'Z'
  · have letters : ∀ code ≤ 90, 65 ≤ code →
        lower (Char.ofNat code) = (Char.ofNat code).toLower := by
      decide
    have same := letters character.toNat capital.2 capital.1
    rwa [Char.ofNat_toNat] at same
  · have unfolded : ¬(character.val ≥ 'A'.val ∧ character.val ≤ 'Z'.val) := capital
    rw [lower, if_neg capital]
    delta Char.toLower
    rw [dif_neg unfolded]

theorem Text.equalIgnoringCase_iff (left right : String) :
    equalIgnoringCase left right = true ↔ left.toLower = right.toLower := by
  have folding : lower = Char.toLower := funext lower_eq_toLower
  delta String.toLower
  rw [equalIgnoringCase, beq_iff_eq, folding, ← String.toList_inj, String.toList_map,
    String.toList_map]

namespace Headers

/-- The headers of a name in lower case, in whatever case they have it. -/
def named (headers : Headers) (name : String) : Headers :=
  headers.filter fun header => header.1.toLower = name

/-- The headers of other names, in their order. -/
def others (headers : Headers) (name : String) : Headers :=
  headers.filter fun header => header.1.toLower ≠ name

variable (headers more : Headers) {name : String}

theorem named_append : named (headers ++ more) name = headers.named name ++ more.named name :=
  List.filter_append ..

theorem others_append :
    others (headers ++ more) name = headers.others name ++ more.others name :=
  List.filter_append ..

theorem named_others : (headers.others name).named name = [] := by
  rw [named, others, List.filter_filter]
  simp

theorem others_others : (headers.others name).others name = headers.others name := by
  rw [others, others, List.filter_filter]
  simp only [Bool.and_self]

theorem equalIgnoringCase_eq_decide (folded : name.toLower = name) (other : String) :
    Text.equalIgnoringCase other name = decide (other.toLower = name) := by
  rw [Bool.eq_iff_iff, Text.equalIgnoringCase_iff, folded, decide_eq_true_iff]

theorem get?_eq_head?_named (folded : name.toLower = name) :
    headers.get? name = (headers.named name).head?.map Prod.snd := by
  simp only [get?, named, List.head?_filter, equalIgnoringCase_eq_decide folded]

theorem without_eq_others (folded : name.toLower = name) :
    headers.without name = headers.others name := by
  simp only [without, others, equalIgnoringCase_eq_decide folded, decide_not]

end Headers

namespace TraceContext

theorem toLower_headerName : headerName.toLower = headerName := by
  delta String.toLower
  rw [← String.toList_inj, String.toList_map]
  decide

variable (context : TraceContext) (headers : Headers)

theorem inject_eq :
    context.inject headers = headers.others headerName ++ [(headerName, context.toText)] := by
  rw [inject, Headers.without_eq_others headers toLower_headerName]

theorem named_singleton : Headers.named [(headerName, context.toText)] headerName =
    [(headerName, context.toText)] :=
  List.filter_cons_of_pos (decide_eq_true toLower_headerName)

theorem others_singleton : Headers.others [(headerName, context.toText)] headerName = [] :=
  List.filter_cons_of_neg (by simp [toLower_headerName])

theorem named_inject :
    (context.inject headers).named headerName = [(headerName, context.toText)] := by
  rw [inject_eq, Headers.named_append, Headers.named_others, named_singleton, List.nil_append]

theorem others_inject :
    (context.inject headers).others headerName = headers.others headerName := by
  rw [inject_eq, Headers.others_append, Headers.others_others, others_singleton, List.append_nil]

theorem extract_inject : extract (context.inject headers) = some context := by
  rw [extract, Headers.get?_eq_head?_named _ toLower_headerName, named_inject, List.head?_cons,
    Option.map_some, Option.bind_some, parse_toText]

theorem inject_inject (other : TraceContext) :
    context.inject (other.inject headers) = context.inject headers := by
  rw [inject_eq, others_inject, ← inject_eq]

end TraceContext

end Clearing
