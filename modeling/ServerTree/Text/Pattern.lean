import ServerTree.Text.Case

/-!
# Search patterns

A pattern is a row of pieces: one character of a class, an optional character, or one or more
characters of a class. `matchesAt` decides whether a pattern matches at the front of a text, trying
every way to divide the text between the pieces; `occurs` looks for a place where it does.
-/

namespace ServerTree.Text

/-- A piece of a pattern, for characters of the class `p`. -/
inductive Piece where
  /-- Exactly one character. -/
  | one (p : Char → Bool)
  /-- At most one character. -/
  | optional (p : Char → Bool)
  /-- One or more characters. -/
  | many (p : Char → Bool)

/-- Whether the pieces, in order, match a front part of the text. -/
def matchesAt : List Piece → List Char → Bool
  | [], _ => true
  | .one p :: ps, c :: cs => p c && matchesAt ps cs
  | .one _ :: _, [] => false
  | .optional p :: ps, c :: cs => (p c && matchesAt ps cs) || matchesAt ps (c :: cs)
  | .optional _ :: ps, [] => matchesAt ps []
  | .many p :: ps, c :: cs => p c && (matchesAt (.many p :: ps) cs || matchesAt ps cs)
  | .many _ :: _, [] => false
termination_by ps cs => ps.length + cs.length

/-- Whether the pattern matches somewhere in the text. -/
def occurs (ps : List Piece) : List Char → Bool
  | [] => matchesAt ps []
  | c :: cs => matchesAt ps (c :: cs) || occurs ps cs

/-- The pattern of a fixed word in any mixture of small and capital letters. -/
def word (w : String) : List Piece :=
  w.toList.map fun l => .one (if l.isAlpha then folds l else (· == l))

end ServerTree.Text
