import ServerTree.Value.Display
import ServerTree.Decimal.Reading
import ServerTree.Text.Case
import ServerTree.Assoc

/-!
# Time windows

A time window is a number of seconds, or a phrase of a number and a unit such as `1 minute`. Windows that
are not positive are refused.
-/

namespace ServerTree

/-- The units of a phrase, in seconds. -/
def windowUnits : List (String × Float) :=
  [("", 1.0), ("ms", 0.001), ("millisecond", 0.001), ("milliseconds", 0.001),
    ("s", 1.0), ("sec", 1.0), ("second", 1.0), ("seconds", 1.0),
    ("m", 60.0), ("min", 60.0), ("minute", 60.0), ("minutes", 60.0),
    ("h", 3600.0), ("hour", 3600.0), ("hours", 3600.0),
    ("d", 86400.0), ("day", 86400.0), ("days", 86400.0)]

/-- A number in front: digits, and a point with digits when both are there. -/
def phraseNumber (cs : List Char) : List Char × List Char :=
  let whole := cs.span Text.isDecimal
  match whole.2 with
  | '.' :: r =>
    let fraction := r.span Text.isDecimal
    if whole.1.isEmpty || fraction.1.isEmpty then whole else (whole.1 ++ '.' :: fraction.1, fraction.2)
  | _ => whole

/-- The number and the unit of a phrase, with white space around each. -/
def phrase? (cs : List Char) : Option (List Char × String) :=
  let number := phraseNumber (cs.dropWhile Text.isBlank)
  let unit := (number.2.dropWhile Text.isBlank).span Text.foldsLetter
  if number.1.isEmpty || !unit.2.all Text.isBlank then none
  else some (number.1, Text.lower (String.ofList unit.1))

/-- The seconds of a phrase. -/
def phraseSeconds? (s : String) : Option Float := do
  let (number, unit) ← phrase? s.toList
  let seconds ← Assoc.get? unit windowUnits
  let n ← Decimal.unsigned? number
  return n * seconds

/-- The seconds of a window, before they are known to be positive. -/
def windowSeconds : Value → Attempt Float
  | .int i =>
    let x := Float.ofInt i
    if x.isInf then refuse (.notFinite "int too large to convert to float") else .ok x
  | .float x => .ok x
  | .nan _ => .ok (0.0 / 0.0)
  | v => do
    match phraseSeconds? (← v.text) with
    | some x => return x
    | none => refuse (.unreadableWindow (← v.quotedText))

/-- The seconds of a window. -/
def parseWindow (v : Value) : Attempt Float := do
  let seconds ← windowSeconds v
  if seconds ≤ 0.0 then refuse (.windowNotPositive (← v.quotedText)) else return seconds

end ServerTree
