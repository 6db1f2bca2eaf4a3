import ServerTree.Text.Encoding

/-!
# Hexadecimal digits

Bytes as pairs of digits, and numbers as digits of a fixed width.

## Main definitions
- `hexValue?`: the value of a digit
- `hexDigits`: the digits of a number
- `hexOfBytes`, `bytesOfDigits`: bytes as text and back
-/

namespace ServerTree

/-- The value of a hexadecimal digit. -/
def hexValue? (c : Char) : Option Nat :=
  if '0' ≤ c ∧ c ≤ '9' then some (c.toNat - 48)
  else if 'a' ≤ c ∧ c ≤ 'f' then some (c.toNat - 87)
  else if 'A' ≤ c ∧ c ≤ 'F' then some (c.toNat - 55)
  else none

/-- The digits of a number, with zeros in front up to a width. -/
def hexDigits (width n : Nat) : List Char :=
  let ds := Nat.toDigits 16 n
  List.replicate (width - ds.length) '0' ++ ds

/-- Bytes as text, two digits each. -/
def hexOfBytes (b : Bytes) : String :=
  String.ofList (b.flatMap fun x => hexDigits 2 x.toNat)

/-- Reads pairs of digits; what is no digit counts as zero. -/
def bytesOfDigits : List Char → Bytes
  | a :: b :: r => UInt8.ofNat (16 * (hexValue? a).getD 0 + (hexValue? b).getD 0) :: bytesOfDigits r
  | _ => []

/-- The bits of a double as text, with one text for everything that is no number. -/
def hexOfFloat (x : Float) : String :=
  String.ofList (hexDigits 16 (if x.isNaN then 0x7ff8000000000000 else x.toBits.toNat))

end ServerTree
