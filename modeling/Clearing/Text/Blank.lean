/-!
White space is the Unicode property White_Space.  Names, keys and amounts are
read with the white space around them removed.
-/

namespace Clearing.Text

/-- The code points that carry the property White_Space, as closed ranges. -/
def blankRanges : List (Nat × Nat) :=
  [(0x9, 0xD), (0x20, 0x20), (0x85, 0x85), (0xA0, 0xA0), (0x1680, 0x1680),
    (0x2000, 0x200A), (0x2028, 0x2029), (0x202F, 0x202F), (0x205F, 0x205F),
    (0x3000, 0x3000)]

/-- A character is blank when it carries the property White_Space. -/
def isBlank (character : Char) : Bool :=
  blankRanges.any fun range =>
    decide (range.1 ≤ character.toNat) && decide (character.toNat ≤ range.2)

def trimStart (characters : List Char) : List Char :=
  characters.dropWhile isBlank

def trimEnd (characters : List Char) : List Char :=
  (characters.reverse.dropWhile isBlank).reverse

def trimmed (characters : List Char) : List Char :=
  trimEnd (trimStart characters)

/-- A text without the blank characters at its ends. -/
def trim (text : String) : String :=
  String.ofList (trimmed text.toList)

/-- A text that holds nothing but blank characters. -/
def isBlankText (text : String) : Bool :=
  text.toList.all isBlank

end Clearing.Text
