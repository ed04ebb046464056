import Clearing.Text.Ascii
import Clearing.Text.Bytes
/-!
Percent escapes in paths.  A percent sign with two hexadecimal digits behind it
stands for a byte; any other percent sign stands for itself.
-/

namespace Clearing.Text

/-- The bytes that an escaped text stands for. -/
def percentDecoded : List Char → Bytes
  | '%' :: high :: low :: rest =>
      if isHex high && isHex low then
        UInt8.ofNat (hexNumber [high, low]) :: percentDecoded rest
      else
        UInt8.ofNat '%'.toNat :: percentDecoded (high :: low :: rest)
  | character :: rest =>
      Bytes.ofText (String.singleton character) ++ percentDecoded rest
  | [] => []

end Clearing.Text
