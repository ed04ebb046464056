import Clearing.Text.Split
import Mathlib.Data.List.Basic
/-!
Splitting.  The pieces of a text put together again with the marks between them are the text,
and a piece that holds no mark is cut off at the mark behind it.
-/

namespace Clearing.Text

theorem pieces_eq_splitOn (mark : Char) (characters : List Char) :
    pieces mark characters = characters.splitOn mark := by
  rw [List.splitOn]
  induction characters with
  | nil => rfl
  | cons character rest inductionHypothesis =>
      rw [pieces, List.splitOnP_cons_eq_if_modifyHead, inductionHypothesis]
      by_cases marked : character = mark
      · simp [marked]
      · simp only [marked, beq_iff_eq, if_false]
        cases cut : List.splitOnP (· == mark) rest with
        | nil => exact absurd (inductionHypothesis.trans cut) (pieces_ne_nil mark rest)
        | cons piece others => rfl

theorem intercalate_pieces (mark : Char) (characters : List Char) :
    [mark].intercalate (pieces mark characters) = characters := by
  rw [pieces_eq_splitOn, List.intercalate_splitOn]

theorem pieces_append_cons {mark : Char} {piece : List Char} (unmarked : mark ∉ piece)
    (rest : List Char) :
    pieces mark (piece ++ mark :: rest) = piece :: pieces mark rest := by
  rw [pieces_eq_splitOn, pieces_eq_splitOn, List.splitOn]
  refine List.splitOnP_append_cons_of_forall_mem ?_ mark (by simp) rest
  intro character member
  exact beq_false_of_ne fun same => unmarked (same ▸ member)

theorem pieces_eq_singleton {mark : Char} {piece : List Char} (unmarked : mark ∉ piece) :
    pieces mark piece = [piece] := by
  rw [pieces_eq_splitOn]
  refine List.splitOnP_eq_singleton fun character member => ?_
  exact beq_false_of_ne fun same => unmarked (same ▸ member)

theorem map_intercalate (transform : Char → Char) (mark : Char) (pieces : List (List Char)) :
    ([mark].intercalate pieces).map transform =
      [transform mark].intercalate (pieces.map (List.map transform)) := by
  induction pieces with
  | nil => rfl
  | cons piece rest inductionHypothesis =>
      cases rest with
      | nil => simp
      | cons next rest =>
          rw [List.intercalate_cons_cons, List.map_append, List.map_append, inductionHypothesis]
          simp

theorem filter_intercalate {mark : Char} {pieces : List (List Char)}
    (unmarked : ∀ piece ∈ pieces, mark ∉ piece) :
    ([mark].intercalate pieces).filter (· ≠ mark) = pieces.flatten := by
  induction pieces with
  | nil => rfl
  | cons piece rest inductionHypothesis =>
      obtain ⟨first, others⟩ := List.forall_mem_cons.mp unmarked
      have kept : piece.filter (· ≠ mark) = piece := by
        refine List.filter_eq_self.mpr fun character member => ?_
        simp only [ne_eq, decide_eq_true_eq]
        rintro rfl
        exact first member
      cases rest with
      | nil => simpa using kept
      | cons next rest =>
          rw [List.intercalate_cons_cons, List.filter_append, List.filter_append, kept,
            inductionHypothesis others]
          simp

theorem intercalate_inj {mark : Char} {first second : List (List Char)}
    (firstUnmarked : ∀ piece ∈ first, mark ∉ piece)
    (secondUnmarked : ∀ piece ∈ second, mark ∉ piece)
    (firstPresent : first ≠ []) (secondPresent : second ≠ []) :
    [mark].intercalate first = [mark].intercalate second ↔ first = second := by
  refine ⟨fun same => ?_, fun same => by rw [same]⟩
  rw [← List.splitOn_intercalate mark firstUnmarked firstPresent, same,
    List.splitOn_intercalate mark secondUnmarked secondPresent]

theorem intercalate_append {mark : Char} {front back : List (List Char)}
    (frontPresent : front ≠ []) (backPresent : back ≠ []) :
    [mark].intercalate (front ++ back) =
      [mark].intercalate front ++ mark :: [mark].intercalate back := by
  induction front with
  | nil => exact absurd rfl frontPresent
  | cons piece rest inductionHypothesis =>
      cases rest with
      | nil => simp [List.intercalate_cons_of_ne_nil backPresent]
      | cons next rest =>
          have later := inductionHypothesis (List.cons_ne_nil next rest)
          rw [List.intercalate_cons_cons, List.cons_append, List.cons_append,
            List.intercalate_cons_cons, ← List.cons_append, later, ← List.append_assoc]

theorem mem_intercalate {mark character : Char} {pieces : List (List Char)}
    (member : character ∈ [mark].intercalate pieces) :
    character = mark ∨ ∃ piece ∈ pieces, character ∈ piece := by
  induction pieces with
  | nil => cases member
  | cons piece rest inductionHypothesis =>
      cases rest with
      | nil =>
          rw [List.intercalate_singleton] at member
          exact .inr ⟨piece, List.mem_cons_self, member⟩
      | cons next rest =>
          rw [List.intercalate_cons_cons, List.mem_append, List.mem_append,
            List.mem_singleton] at member
          rcases member with (first | marked) | later
          · exact .inr ⟨piece, List.mem_cons_self, first⟩
          · exact .inl marked
          · refine (inductionHypothesis later).imp_right ?_
            rintro ⟨other, held, inside⟩
            exact ⟨other, List.mem_cons_of_mem _ held, inside⟩

theorem mark_mem_intercalate {mark : Char} {pieces : List (List Char)}
    (several : 2 ≤ pieces.length) : mark ∈ [mark].intercalate pieces := by
  match pieces, several with
  | piece :: next :: rest, _ =>
      rw [List.intercalate_cons_cons]
      simp

end Clearing.Text
