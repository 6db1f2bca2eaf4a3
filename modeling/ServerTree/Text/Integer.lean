import ServerTree.Text.Split

/-!
# Reading integers

An integer is written as one optional sign and decimal digits of any script, with single low lines
allowed between digits and white space around. More than `maxDigits` digits are refused.
-/

namespace ServerTree.Text

/-- The longest run of digits that is read as a number. -/
def maxDigits : Nat := 4300

/-- The digit values of a numeral. A low line must stand between two digits. -/
def digitValues? : List Char → Option (List Nat)
  | [] => none
  | [c] => (digitValue? c).map ([·])
  | c :: d :: cs =>
    match digitValue? c with
    | none => none
    | some v =>
      if d = '_' then (digitValues? cs).map (v :: ·)
      else (digitValues? (d :: cs)).map (v :: ·)

/-- The number with the given digits, most significant first. -/
def ofDigits (ds : List Nat) : Nat :=
  ds.foldl (fun n d => 10 * n + d) 0

/-- Reads an unsigned numeral. -/
def readNat? (cs : List Char) : Option Nat :=
  match digitValues? cs with
  | none => none
  | some ds => if ds.length ≤ maxDigits then some (ofDigits ds) else none

/-- Reads an integer. -/
def readInt? (s : String) : Option Int :=
  match trimmed (fun c => isBlank c && !isSeparatorControl c) s.toList with
  | '-' :: cs => (readNat? cs).map fun n => -(n : Int)
  | '+' :: cs => (readNat? cs).map fun n => (n : Int)
  | cs => (readNat? cs).map fun n => (n : Int)

end ServerTree.Text
