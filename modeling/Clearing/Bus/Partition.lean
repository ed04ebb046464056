import Clearing.Text.Bytes
/-!
The partition of a key: the cyclic redundancy check of its text, with 32 bits
and the polynomial of IEEE 802.3, modulo the number of partitions.
-/

namespace Clearing

/-- The polynomial of the check with its bits in reverse order. -/
def checkPolynomial : UInt32 := 0xEDB88320

/-- Divide the lowest bits of a remainder out, one after the other. -/
def checkBits : (bits : Nat) → UInt32 → UInt32
  | 0, remainder => remainder
  | bits + 1, remainder =>
      checkBits bits
        (if remainder &&& 1 = 1 then
          remainder >>> 1 ^^^ checkPolynomial
        else
          remainder >>> 1)

/-- The check of a byte string. -/
def checksum (bytes : Bytes) : UInt32 :=
  bytes.foldl
      (fun remainder byte => checkBits 8 (remainder ^^^ byte.toUInt32))
      0xFFFFFFFF ^^^ 0xFFFFFFFF

/-- The number of partitions to make when a number is asked for: at least one. -/
def partitionCount (requested : Int) : Nat :=
  max 1 requested.toNat

/-- The partition, among the given number of them, that holds a key. -/
def partitionFor (key : String) (partitions : Nat) : Nat :=
  (checksum (Bytes.ofText key)).toNat % partitions

end Clearing
