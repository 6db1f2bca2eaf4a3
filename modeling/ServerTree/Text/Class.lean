import ServerTree.Text.Ranges

/-!
# Character classes

The classes that path patterns, time windows, quoting and sanitizing ask about. Below 128 each class
is a rule on the code point; above, it is membership in a table of `ServerTree.Text.Ranges`.

## Main definitions
- `isBlank`: white space of every script
- `isDecimal`, `digitValue?`: decimal digits of every script and their values
- `isWord`: letters, numbers and the low line
- `isPrintable`: characters that are shown as themselves
- `isControl`: the ASCII control characters
-/

namespace ServerTree.Text

/-- Whether `n` lies in one of the closed ranges of `table`. -/
def covers (table : List (Nat × Nat)) (n : Nat) : Bool :=
  table.any fun r => decide (r.1 ≤ n) && decide (n ≤ r.2)

/-- White space: the ASCII blanks, the four information separators and the Unicode spaces. -/
def isBlank (c : Char) : Bool :=
  let n := c.toNat
  (9 ≤ n && n ≤ 13) || (28 ≤ n && n ≤ 32) || n == 0x85 || n == 0xA0 || n == 0x1680 ||
    (0x2000 ≤ n && n ≤ 0x200A) || n == 0x2028 || n == 0x2029 || n == 0x202F || n == 0x205F ||
    n == 0x3000

/-- One of the four information separators, which pad text but not numbers. -/
def isSeparatorControl (c : Char) : Bool :=
  28 ≤ c.toNat && c.toNat ≤ 31

/-- A decimal digit of any script. -/
def isDecimal (c : Char) : Bool :=
  if c.toNat < 128 then c.isDigit else covers decimalRanges c.toNat

/-- The value of a decimal digit. The digits of a script stand in order from zero, in runs of ten. -/
def digitValue? (c : Char) : Option Nat :=
  if c.toNat < 128 then
    if c.isDigit then some (c.toNat - 48) else none
  else
    (decimalRanges.find? fun r => decide (r.1 ≤ c.toNat) && decide (c.toNat ≤ r.2)).map
      fun r => (c.toNat - r.1) % 10

/-- A letter, a number or the low line. -/
def isWord (c : Char) : Bool :=
  if c.toNat < 128 then c.isAlphanum || c == '_' else covers wordRanges c.toNat

/-- A character that stands for itself when text is quoted. -/
def isPrintable (c : Char) : Bool :=
  if c.toNat < 128 then decide (32 ≤ c.toNat) && decide (c.toNat < 127)
  else covers printableRanges c.toNat

/-- The ASCII control characters. -/
def isControl (c : Char) : Bool :=
  decide (c.toNat < 32) || c.toNat == 127

/-- The control characters that make text unsafe: all but tab, line feed and carriage return. -/
def isUnsafeControl (c : Char) : Bool :=
  isControl c && c.toNat != 9 && c.toNat != 10 && c.toNat != 13

/-- An ASCII letter, digit, dash or low line. -/
def isIdentifier (c : Char) : Bool :=
  c.isAlphanum || c == '_' || c == '-'

end ServerTree.Text
