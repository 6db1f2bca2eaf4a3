import ServerTree.Text.Class
import ServerTree.Text.CaseRuns

/-!
# Small and capital letters

`lower` and `upper` follow the full Unicode mappings: a capital dotted I becomes two characters, a
capital sigma at the end of a word becomes a final sigma, and a sharp s becomes two capitals.

`folds` is the coarser relation of a case-insensitive search for an ASCII letter, which also accepts
the long s, the Kelvin sign and the two special letters i.
-/

namespace ServerTree.Text

/-- The small form of a character whose small form is one character. -/
def lowerChar (c : Char) : Char :=
  if c.toNat < 128 then c.toLower
  else ((lowerRuns.findSome? (·.image? c.toNat)).map Char.ofNat).getD c

/-- The capital form of a character. -/
def upperChars (c : Char) : List Char :=
  if c.toNat < 128 then [c.toUpper]
  else
    match upperExpansions.lookup c.toNat with
    | some ns => ns.map Char.ofNat
    | none => [((upperRuns.findSome? (·.image? c.toNat)).map Char.ofNat).getD c]

/-- A letter that has case. -/
def isCased (c : Char) : Bool :=
  if c.toNat < 128 then c.isAlpha else covers casedRanges c.toNat

/-- A character that is passed over when looking for a neighbouring letter with case. -/
def isCaseIgnorable (c : Char) : Bool :=
  if c.toNat < 128 then c == '\'' || c == '.' || c == ':' || c == '^' || c.toNat == 96
  else covers caseIgnorableRanges c.toNat

/-- Whether the nearest character that is not passed over is a letter with case. -/
def nextIsCased (cs : List Char) : Bool :=
  match cs.dropWhile isCaseIgnorable with
  | c :: _ => isCased c
  | [] => false

/-- The small form of a text, given the characters before it in reverse order. -/
def lowerChars (before : List Char) : List Char → List Char
  | [] => []
  | c :: cs =>
    let small : List Char :=
      if c.toNat = 0x130 then ['i', Char.ofNat 0x307]
      else if c.toNat = 0x3A3 then
        [if nextIsCased before && !nextIsCased cs then Char.ofNat 0x3C2 else Char.ofNat 0x3C3]
      else [lowerChar c]
    small ++ lowerChars (c :: before) cs

/-- The text in small letters. -/
def lower (s : String) : String :=
  String.ofList (lowerChars [] s.toList)

/-- The text in capital letters. -/
def upper (s : String) : String :=
  String.ofList (s.toList.flatMap upperChars)

/-- Whether `c` is accepted where a case-insensitive search asks for the small ASCII letter `l`. -/
def folds (l c : Char) : Bool :=
  c.toLower == l ||
    (l == 's' && c.toNat == 0x17F) || (l == 'k' && c.toNat == 0x212A) ||
    (l == 'i' && (c.toNat == 0x130 || c.toNat == 0x131))

/-- Whether `c` is a letter for a case-insensitive search for any small ASCII letter. -/
def foldsLetter (c : Char) : Bool :=
  c.isAlpha || c.toNat == 0x17F || c.toNat == 0x212A || c.toNat == 0x130 || c.toNat == 0x131

end ServerTree.Text
