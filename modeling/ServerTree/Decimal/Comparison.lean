import ServerTree.Decimal.Shortest

/-!
# Comparing doubles with integers

A double is a whole number times a power of two, so it compares with an integer of any size exactly. What is
no number compares with nothing.
-/

namespace ServerTree.Decimal

/-- How a double compares with an integer. -/
def compareInt? (x : Float) (n : Int) : Option Ordering :=
  if x.isNaN then none
  else if x.isInf then some (if x < 0.0 then .lt else .gt)
  else
    match Binary.ofBits? x.toBits.toNat with
    | none => some (compare 0 n)
    | some (negative, b) =>
      let v := b.value
      let m : Int := if negative then -(v.1 : Int) else v.1
      some (compare m (n * v.2))

/-- Whether a double is exactly an integer. -/
def equalsInt (x : Float) (n : Int) : Bool := compareInt? x n == some .eq

/-- Whether a double is less than an integer. -/
def lessThanInt (x : Float) (n : Int) : Bool := compareInt? x n == some .lt

/-- Whether a double is greater than an integer. -/
def greaterThanInt (x : Float) (n : Int) : Bool := compareInt? x n == some .gt

end ServerTree.Decimal
