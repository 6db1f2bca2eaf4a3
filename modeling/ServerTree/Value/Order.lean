import ServerTree.Value.Equality

/-!
# The order of values

Numbers are ordered by value, texts by code points, bytes by bytes, and rows element by element. Values of
different kinds have no order, and neither have any others.

## Main definitions
- `Value.lessThan`: whether a value comes before another
- `Value.sorted`: a row in order; what has no order is refused
-/

namespace ServerTree.Value

/-- The number that a truth value or an integer counts as. -/
def asInteger? : Value → Option Int
  | .int i => some i
  | .bool b => some (if b then 1 else 0)
  | _ => Option.none

/-- The refusal to order two values. -/
def unordered {α : Type} (a b : Value) : Attempt α :=
  refuse (.wrongType ("'<' not supported between instances of '" ++ a.typeName ++ "' and '" ++
    b.typeName ++ "'"))

/-- Whether a number is less than another; `none` unless both are numbers. -/
def numberLess? : Value → Value → Option Bool
  | .float x, .float y => some (decide (x < y))
  | .nan _, v | v, .nan _ =>
    match v with
    | .nan _ | .float _ | .int _ | .bool _ => some false
    | _ => Option.none
  | .float x, v => v.asInteger?.map (Decimal.lessThanInt x)
  | v, .float y => v.asInteger?.map (Decimal.greaterThanInt y)
  | a, b =>
    match a.asInteger?, b.asInteger? with
    | some m, some n => some (decide (m < n))
    | _, _ => Option.none

mutual

/-- Whether a value comes before another. -/
def lessThan : Value → Value → Attempt Bool
  | .str s, .str t => .ok (decide (Text.points s < Text.points t))
  | .bytes a, .bytes b => .ok (decide (a.map UInt8.toNat < b.map UInt8.toNat))
  | .list xs, .list ys | .tuple xs, .tuple ys => rowLess xs ys
  | a, b =>
    match numberLess? a b with
    | some r => .ok r
    | Option.none => unordered a b
termination_by structural v => v

/-- Whether a row comes before another: the first elements that differ decide, or else the length. -/
def rowLess : List Value → List Value → Attempt Bool
  | [], ys => .ok !ys.isEmpty
  | _, [] => .ok false
  | x :: xs, y :: ys => if eqWith true x y then rowLess xs ys else lessThan x y
termination_by structural v => v

end

/-- Puts a value before the first of an ordered row that comes after it. -/
def insertOrdered (v : Value) : List Value → Attempt (List Value)
  | [] => .ok [v]
  | x :: xs => do
    if ← v.lessThan x then return v :: x :: xs
    else
      let r ← insertOrdered v xs
      return x :: r

/-- A row in order; equal values keep their places. -/
def sorted (xs : List Value) : Attempt (List Value) :=
  xs.foldlM (fun acc x => insertOrdered x acc) []

end ServerTree.Value
