import Clearing.Text.Printable
/-!
Quoted text, as error messages show a value that was refused: double quotes
around it, a backslash before quotes and backslashes, short escapes for the
usual controls, and the code point in braces for what cannot be printed.
-/

namespace Clearing.Text

/-- A code point in lower-case hexadecimal, between braces after `\u`. -/
def codePointEscape (character : Char) : List Char :=
  ['\\', 'u', '\x7b'] ++ Nat.toDigits 16 character.toNat ++ ['\x7d']

def quotedCharacter (character : Char) : List Char :=
  match character with
  | '\x00' => ['\\', '0']
  | '\t' => ['\\', 't']
  | '\r' => ['\\', 'r']
  | '\n' => ['\\', 'n']
  | '\\' => ['\\', '\\']
  | '"' => ['\\', '"']
  | _ =>
      if isPrintable character then
        [character]
      else
        codePointEscape character

def quoted (text : String) : String :=
  String.ofList (['"'] ++ text.toList.flatMap quotedCharacter ++ ['"'])

end Clearing.Text
