import Clearing.Text.Blank
import Mathlib.Data.List.DropRight
/-!
Trimming.  What is left of a text can be seen, and trimming it again changes nothing.
-/

namespace Clearing.Text

theorem isBlankText_trim {text : String} (present : trim text ≠ "") :
    isBlankText (trim text) = false := by
  have shape : trimmed text.toList ≠ [] := by
    intro none
    apply present
    rw [trim, none]
  rw [isBlankText, trim, String.toList_ofList, ← Bool.not_eq_true, List.all_eq_true]
  intro blank
  have kept : (trimStart text.toList).reverse.dropWhile isBlank ≠ [] := by
    intro none
    apply shape
    rw [trimmed, trimEnd, none]
    rfl
  have seen := List.head_dropWhile_not isBlank kept
  rw [blank _ (List.mem_reverse.mpr (List.head_mem kept))] at seen
  cases seen

theorem trimEnd_eq_rdropWhile (characters : List Char) :
    trimEnd characters = characters.rdropWhile isBlank :=
  rfl

theorem trimStart_trimmed (characters : List Char) :
    trimStart (trimmed characters) = trimmed characters := by
  rw [trimmed, trimEnd_eq_rdropWhile]
  have front := List.rdropWhile_prefix isBlank (trimStart characters)
  refine List.dropWhile_eq_self_iff.mpr fun present => ?_
  have kept : characters.dropWhile isBlank ≠ [] :=
    List.ne_nil_of_length_pos (present.trans_le front.length_le)
  have seen := List.head_dropWhile_not isBlank kept
  rw [List.head_eq_getElem] at seen
  rw [front.getElem present]
  exact Bool.eq_false_iff.mp seen

theorem trimmed_trimmed (characters : List Char) :
    trimmed (trimmed characters) = trimmed characters := by
  rw [trimmed, trimStart_trimmed, trimmed, trimEnd_eq_rdropWhile, trimEnd_eq_rdropWhile,
    List.rdropWhile_idempotent]

theorem trim_trim (text : String) : trim (trim text) = trim text := by
  rw [trim, trim, String.toList_ofList, trimmed_trimmed]

theorem trimmed_eq_self {characters : List Char}
    (seen : ∀ character ∈ characters, isBlank character = false) :
    trimmed characters = characters := by
  have start : trimStart characters = characters :=
    List.dropWhile_eq_self_iff.mpr fun present =>
      Bool.eq_false_iff.mp (seen _ (List.getElem_mem present))
  rw [trimmed, start, trimEnd_eq_rdropWhile, List.rdropWhile_eq_self_iff]
  exact fun present => Bool.eq_false_iff.mp (seen _ (List.getLast_mem present))

end Clearing.Text
