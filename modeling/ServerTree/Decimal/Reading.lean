import ServerTree.Text.Integer

/-!
# Reading decimal numbers as doubles

A decimal text is digits with an optional point and an optional exponent, or the name of a special
value. Its exact value is a whole number times a power of ten, which is rounded once. Low lines between
digits say nothing.
-/

namespace ServerTree.Decimal

open ServerTree.Text

/-- The double nearest to `n · 10 ^ k`. -/
def nearest (n : Nat) (k : Int) : Float :=
  if 0 ≤ k then Float.ofScientific n false k.toNat else Float.ofScientific n true (-k).toNat

/-- A sign in front, and the rest. -/
def signOf : List Char → Bool × List Char
  | '-' :: cs => (true, cs)
  | '+' :: cs => (false, cs)
  | cs => (false, cs)

/-- Values of digits that all are digits; none at all are allowed. -/
def plainDigits? (cs : List Char) : Option (List Nat) :=
  cs.mapM digitValue?

/-- An exponent: a sign and at least one digit. -/
def exponent? (cs : List Char) : Option Int :=
  let s := signOf cs
  match plainDigits? s.2 with
  | some (d :: ds) => some (if s.1 then -(ofDigits (d :: ds) : Int) else (ofDigits (d :: ds) : Int))
  | _ => none

/-- Digits, an optional point with digits, and an optional exponent. -/
def unsigned? (cs : List Char) : Option Float :=
  let cut := cs.span fun c => c != 'e' && c != 'E'
  let expo : Option Int :=
    match cut.2 with
    | [] => some 0
    | _ :: r => exponent? r
  let mantissa := cutAt '.' cut.1
  match plainDigits? mantissa.1, plainDigits? (mantissa.2.getD []), expo with
  | some whole, some fraction, some e =>
    if whole.isEmpty && fraction.isEmpty then none
    else
      let n := ofDigits (whole ++ fraction)
      let k := e - fraction.length
      -- far outside the range of doubles the exact power is not needed
      if n = 0 then some 0.0
      else if k > 400 then some (nearest 1 400)
      else if k + (whole.length + fraction.length) < -400 then some 0.0
      else some (nearest n k)
  | _, _, _ => none

/-- Drops single low lines between digits; none when one stands elsewhere. `inDigits` tells whether a digit
comes before. -/
def dropLowLines? (inDigits : Bool) : List Char → Option (List Char)
  | [] => some []
  | '_' :: c :: cs =>
    if inDigits && (digitValue? c).isSome then (dropLowLines? true cs).map (c :: ·) else none
  | c :: cs =>
    if c = '_' then none else (dropLowLines? (digitValue? c).isSome cs).map (c :: ·)

/-- Reads a decimal text with an optional sign. -/
def read? (s : String) : Option Float := do
  let cs ← dropLowLines? false (trimmed (fun c => isBlank c && !isSeparatorControl c) s.toList)
  let t := signOf cs
  let name := (String.ofList t.2).toLower
  let magnitude : Option Float :=
    if name = "inf" ∨ name = "infinity" then some (1.0 / 0.0)
    else if name = "nan" then some (0.0 / 0.0)
    else unsigned? t.2
  magnitude.map fun x => if t.1 then -x else x

end ServerTree.Decimal
