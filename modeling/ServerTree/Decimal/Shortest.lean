/-!
# Shortest decimal forms of binary floating point numbers

A finite double is `m · 2 ^ q`. The reals that round to it form an interval whose ends lie halfway to
the neighbours and belong to it when `m` is even. `shortest` gives the decimal number with the fewest
digits in that interval and, among those, the one nearest to the value: it tries one digit, then two,
and so on, testing the two neighbours of the value on each decimal grid in exact arithmetic.

## Main definitions
- `Binary`, `Binary.ofFloat?`: a finite double as significand and exponent
- `Rounds`: the interval test
- `shortest`: digits and decimal exponent
- `FloatFormat`, `FloatFormat.write`: the decisions of a written form, and the writer
-/

namespace ServerTree.Decimal

/-- A positive binary number `significand · 2 ^ exponent`. `boundary` holds when the lower neighbour is
only half as far away as the upper one. -/
structure Binary where
  significand : Nat
  exponent : Int
  boundary : Bool
deriving DecidableEq, Repr

/-- The sign and the magnitude of a finite double other than zero. -/
def Binary.ofBits? (bits : Nat) : Option (Bool × Binary) :=
  let negative : Bool := bits / Nat.pow 2 63 % 2 == 1
  let expo : Nat := bits / Nat.pow 2 52 % 2048
  let frac : Nat := bits % Nat.pow 2 52
  if expo = 2047 then none
  else if expo = 0 then
    if frac = 0 then none else some (negative, ⟨frac, -1074, false⟩)
  else some (negative, ⟨frac + Nat.pow 2 52, (expo : Int) - 1075, frac == 0 && expo != 1⟩)

/-- `num / den` as a pair of naturals, for `n · 2 ^ e`. -/
def scaled (n : Nat) (e : Int) : Nat × Nat :=
  if 0 ≤ e then (n * Nat.pow 2 e.toNat, 1) else (n, Nat.pow 2 (-e).toNat)

/-- The value, as a fraction. -/
def Binary.value (b : Binary) : Nat × Nat := scaled b.significand b.exponent

/-- The lower and upper end of the interval of reals that round to `b`, over one denominator. -/
def Binary.ends (b : Binary) : (Nat × Nat) × Nat :=
  let four := scaled 1 (b.exponent - 2)
  let low := if b.boundary then 4 * b.significand - 1 else 4 * b.significand - 2
  ((low * four.1, (4 * b.significand + 2) * four.1), four.2)

/-- Whether the fraction `n / d` rounds to `b`. -/
def Binary.Rounds (b : Binary) (n d : Nat) : Bool :=
  let e := b.ends
  let low := e.1.1 * d
  let high := e.1.2 * d
  let mid := n * e.2
  if b.significand % 2 = 0 then decide (low ≤ mid ∧ mid ≤ high) else decide (low < mid ∧ mid < high)

/-- `n · 10 ^ k` as a fraction. -/
def tenfold (n : Nat) (k : Int) : Nat × Nat :=
  if 0 ≤ k then (n * Nat.pow 10 k.toNat, 1) else (n, Nat.pow 10 (-k).toNat)

/-- The point nearest to the value among the value's neighbours on the grid of multiples of `10 ^ k`
that round to `b`; of two equally near the even one. -/
def Binary.onGrid? (b : Binary) (k : Int) : Option Nat :=
  let v := b.value
  let unit := tenfold 1 k
  -- the value divided by the grid's unit
  let num := v.1 * unit.2
  let den := v.2 * unit.1
  let below := num / den
  let above := below + 1
  let fits (n : Nat) : Bool :=
    n != 0 && b.Rounds (tenfold n k).1 (tenfold n k).2
  let twice := 2 * (num % den)
  let nearBelow := decide (twice < den) || (twice == den && below % 2 == 0)
  match fits below, fits above with
  | true, true => some (if nearBelow then below else above)
  | true, false => some below
  | false, true => some above
  | false, false => none

/-- The decimal exponent of the first digit of the value, found by stepping from an estimate. -/
def Binary.magnitude (b : Binary) : Int :=
  let v := b.value
  let estimate : Int := ((Nat.log2 b.significand : Int) + b.exponent) * 30103 / 100000 - 1
  let reaches (k : Int) : Bool :=
    let p := tenfold 1 k
    decide (p.1 * v.2 ≤ v.1 * p.2)
  let step (k : Int) : Int := if reaches (k + 1) then k + 1 else k
  step (step (step estimate))

/-- Tries grids of one digit more each time; the fuel is the number of grids left. -/
def Binary.search (b : Binary) (top : Int) : Nat → Nat → Nat × Int
  | 0, digits => (b.significand, top - digits)
  | fuel + 1, digits =>
    match b.onGrid? (top - digits) with
    | some n => (n, top - digits)
    | none => b.search top fuel (digits + 1)

/-- Removes zeros at the end of a number, counting them into the exponent. -/
def dropZeros : Nat → Nat → Int → Nat × Int
  | 0, n, k => (n, k)
  | fuel + 1, n, k => if n ≠ 0 ∧ n % 10 = 0 then dropZeros fuel (n / 10) (k + 1) else (n, k)

/-- The digits and the decimal exponent of the shortest form: the value is near `digits · 10 ^ exponent`. -/
def Binary.shortest (b : Binary) : Nat × Int :=
  let r := b.search b.magnitude 18 0
  dropZeros 20 r.1 r.2

/-- The decisions of a written form. -/
structure FloatFormat where
  /-- Least exponent of the first digit that is written with a point. -/
  positionalLow : Int
  /-- Exponent of the first digit from which the exponential form is used. -/
  positionalHigh : Int
  notANumber : String
  infinite : String

/-- Decimal digits of a natural number. -/
def digitChars (n : Nat) : List Char := Nat.toDigits 10 n

/-- An exponent with its sign and at least two digits. -/
def exponentChars (e : Int) : List Char :=
  let ds := digitChars e.natAbs
  (if e < 0 then '-' else '+') :: (if ds.length < 2 then '0' :: ds else ds)

/-- Writes `digits · 10 ^ exponent`. -/
def FloatFormat.writeDigits (f : FloatFormat) (digits : Nat) (exponent : Int) : List Char :=
  let ds := digitChars digits
  let lead : Int := exponent + ds.length - 1
  if f.positionalLow ≤ lead ∧ lead < f.positionalHigh then
    if lead < 0 then '0' :: '.' :: List.replicate ((-lead).toNat - 1) '0' ++ ds
    else if 0 ≤ exponent then ds ++ List.replicate exponent.toNat '0' ++ ['.', '0']
    else ds.take (lead.toNat + 1) ++ '.' :: ds.drop (lead.toNat + 1)
  else
    match ds with
    | [] => []
    | [d] => d :: 'e' :: exponentChars lead
    | d :: rest => d :: '.' :: rest ++ 'e' :: exponentChars lead

/-- Writes a double. -/
def FloatFormat.write (f : FloatFormat) (x : Float) : String :=
  let bits := x.toBits.toNat
  if x.isNaN then f.notANumber
  else
    let sign := if bits / Nat.pow 2 63 = 1 then "-" else ""
    if x.isInf then sign ++ f.infinite
    else
      match Binary.ofBits? bits with
      | none => sign ++ "0.0"
      | some (_, b) =>
        let s := b.shortest
        sign ++ String.ofList (f.writeDigits s.1 s.2)

/-- Numbers in messages: a point between 10⁻⁴ and 10¹⁶, else an exponent. -/
def plainFormat : FloatFormat := ⟨-4, 16, "nan", "inf"⟩

/-- Numbers in JSON documents: as in messages, with the names of the special values spelled out. -/
def jsonFormat : FloatFormat := ⟨-4, 16, "NaN", "Infinity"⟩

/-- The integer part of a finite double; zero of any other. -/
def truncated (x : Float) : Int :=
  match Binary.ofBits? x.toBits.toNat with
  | none => 0
  | some (negative, b) =>
    let v := b.value
    if negative then -((v.1 / v.2 : Nat) : Int) else (v.1 / v.2 : Nat)

/-- The greatest integer that is not above a finite double. -/
def floor (x : Float) : Int :=
  match Binary.ofBits? x.toBits.toNat with
  | none => 0
  | some (negative, b) =>
    let v := b.value
    (if negative then -(v.1 : Int) else (v.1 : Int)) / (v.2 : Int)

/-- The integer nearest to a double, a half going to the even neighbour, with the sign kept. -/
def roundedWhole (x : Float) : String :=
  if x.isNaN then "nan"
  else
    let bits := x.toBits.toNat
    let sign := if bits / Nat.pow 2 63 = 1 then "-" else ""
    if x.isInf then sign ++ "inf"
    else
      match Binary.ofBits? bits with
      | none => sign ++ "0"
      | some (_, b) =>
        let v := b.value
        let q := v.1 / v.2
        let twice := 2 * (v.1 % v.2)
        let up := decide (v.2 < twice) || (twice == v.2 && q % 2 == 1)
        sign ++ String.ofList (digitChars (if up then q + 1 else q))

end ServerTree.Decimal
