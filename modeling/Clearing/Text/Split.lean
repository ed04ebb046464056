/-!
Cutting a text at every occurrence of a mark.
-/

namespace Clearing.Text

/-- The pieces between the marks: one more than there are marks. -/
def pieces (mark : Char) : List Char → List (List Char)
  | [] => [[]]
  | character :: rest =>
      if character = mark then
        [] :: pieces mark rest
      else
        match pieces mark rest with
        | [] => [[character]]
        | piece :: others => (character :: piece) :: others

theorem pieces_ne_nil (mark : Char) (characters : List Char) :
    pieces mark characters ≠ [] := by
  cases characters with
  | nil => simp [pieces]
  | cons character rest =>
      simp only [pieces]
      split
      · simp
      · split <;> simp

/-- What stands before the first mark. -/
def firstPiece (mark : Char) (characters : List Char) : List Char :=
  characters.takeWhile (· ≠ mark)

end Clearing.Text
