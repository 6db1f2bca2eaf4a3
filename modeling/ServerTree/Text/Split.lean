import ServerTree.Text.Class
import ServerTree.Text.Points

/-!
# Splitting, trimming and joining

Text operations are given on lists of characters, where they are reasoned about, and lifted to
strings. `pieces` cuts at every separator, so that joining gives the text back and there is always
at least one piece.
-/

namespace ServerTree.Text

/-- The pieces of a list between separators, in order; one more than there are separators. -/
def piecesOf {α : Type} [DecidableEq α] (sep : α) : List α → List (List α)
  | [] => [[]]
  | x :: xs =>
    if x = sep then [] :: piecesOf sep xs
    else
      match piecesOf sep xs with
      | [] => [[x]]
      | w :: ws => (x :: w) :: ws

/-- The list before the first separator, and the list after it when there is one. -/
def cutAt {α : Type} [DecidableEq α] (sep : α) : List α → List α × Option (List α)
  | [] => ([], none)
  | x :: xs =>
    if x = sep then ([], some xs)
    else
      let r := cutAt sep xs
      (x :: r.1, r.2)

section

variable {α : Type} [DecidableEq α] {sep : α} {xs : List α}

/-- What has no separator is not cut. -/
theorem cutAt_eq_of_not_mem (h : sep ∉ xs) : cutAt sep xs = (xs, none) := by
  induction xs with
  | nil => rfl
  | cons x xs ih =>
    obtain ⟨hx, hxs⟩ : ¬ sep = x ∧ sep ∉ xs := by simpa using h
    rw [cutAt, if_neg (Ne.symm hx), ih hxs]

/-- What has no separator is what is cut off in front of one. -/
theorem cutAt_append_sep (h : sep ∉ xs) (rest : List α) : cutAt sep (xs ++ sep :: rest) = (xs, some rest) := by
  induction xs with
  | nil => simp [cutAt]
  | cons x xs ih =>
    obtain ⟨hx, hxs⟩ : ¬ sep = x ∧ sep ∉ xs := by simpa using h
    rw [List.cons_append, cutAt, if_neg (Ne.symm hx), ih hxs]

end

/-- The pieces of a text between separators. -/
def pieces (sep : Char) (s : String) : List String :=
  (piecesOf sep s.toList).map String.ofList

/-- Drops the elements at the end that satisfy `p`. -/
def dropEndWhile {α : Type} (p : α → Bool) : List α → List α
  | [] => []
  | x :: xs =>
    match dropEndWhile p xs with
    | [] => if p x then [] else [x]
    | ys => x :: ys

/-- Drops the elements at both ends that satisfy `p`. -/
def trimmed {α : Type} (p : α → Bool) (xs : List α) : List α :=
  dropEndWhile p (xs.dropWhile p)

/-- The text without the white space at both ends. -/
def strip (s : String) : String :=
  String.ofList (trimmed isBlank s.toList)

/-- Whether `s` begins with `t`. -/
def startsWith (t s : String) : Bool :=
  t.toList.isPrefixOf s.toList

/-- Whether `s` ends with `t`. -/
def endsWith (t s : String) : Bool :=
  (glyphs t).isSuffixOf (glyphs s)

/-- Whether the list `t` occurs in the list `s` without a gap. -/
def occursIn {α : Type} [BEq α] (t : List α) : List α → Bool
  | [] => t.isEmpty
  | c :: cs => t.isPrefixOf (c :: cs) || occursIn t cs

/-- Whether `t` occurs in `s`. -/
def contains (t s : String) : Bool :=
  occursIn (glyphs t) (glyphs s)

/-- Joins texts with a separator between neighbours. -/
def join (sep : String) (parts : List String) : String :=
  String.intercalate sep parts

/-- Adds blanks after the text until it is `width` code points long. -/
def padEnd (width : Nat) (s : String) : String :=
  String.ofList (s.toList ++ List.replicate (width - size s) ' ')

/-- The first line of a text, without its line feed. -/
def firstLine (s : String) : String :=
  String.ofList (cutAt '\n' s.toList).1

/-- The last element of a list of texts. -/
def lastOf (parts : List String) : Option String :=
  parts.getLast?

end ServerTree.Text
