import ServerTree.Value
import ServerTree.Text.Case

/-!
# Letters of values

Names that applications give are compared in small letters and methods in capital ones. Texts have both,
and so have bytes, for the letters of ASCII; nothing else has.
-/

namespace ServerTree.Value

/-- A text or bytes in small letters. -/
def inSmallLetters : Value → Attempt Value
  | .str s => .ok (.str (Text.lower s))
  | .bytes b => .ok (.bytes (b.map fun x => if 65 ≤ x ∧ x ≤ 90 then x + 32 else x))
  | v => refuse (noAttribute v "lower")

/-- A text or bytes in capital letters. -/
def inCapitals : Value → Attempt Value
  | .str s => .ok (.str (Text.upper s))
  | .bytes b => .ok (.bytes (b.map fun x => if 97 ≤ x ∧ x ≤ 122 then x - 32 else x))
  | v => refuse (noAttribute v "upper")

end ServerTree.Value
