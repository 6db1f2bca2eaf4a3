import ServerTree.Text.Split

/-!
# Paths

A path is read as its non-empty segments. Joining any number of paths gives one leading slash, single
slashes between segments and none at the end, or nothing when there is no segment.

## Main statements
- `segmentChars_append_slash`: the segments of two paths with a slash between are those of both
-/

namespace ServerTree

/-- The non-empty segments of a path. -/
def segmentChars (cs : List Char) : List (List Char) :=
  (Text.piecesOf '/' cs).filter fun p => !p.isEmpty

/-- The non-empty segments of a path. -/
def pathSegments (path : String) : List String :=
  (segmentChars path.toList).map String.ofList

/-- The path of a list of segments: a slash in front of each. -/
def segmentsPath (segments : List (List Char)) : List Char :=
  segments.flatMap fun s => '/' :: s

/-- Joins paths, normalizing to one slash between segments. -/
def joinPaths (parts : List String) : String :=
  String.ofList (segmentsPath (parts.flatMap fun p => segmentChars p.toList))

/-- A path, or the root when it is empty. -/
def orRoot (path : String) : String := if path.isEmpty then "/" else path

theorem piecesOf_ne_nil {α : Type} [DecidableEq α] (sep : α) (xs : List α) :
    Text.piecesOf sep xs ≠ [] := by
  induction xs with
  | nil => simp [Text.piecesOf]
  | cons x xs ih =>
    by_cases h : x = sep
    · simp [Text.piecesOf, h]
    · simp only [Text.piecesOf, h, if_false]
      split <;> simp

theorem piecesOf_append_sep {α : Type} [DecidableEq α] (sep : α) (xs ys : List α) :
    Text.piecesOf sep (xs ++ sep :: ys) = Text.piecesOf sep xs ++ Text.piecesOf sep ys := by
  induction xs with
  | nil => simp [Text.piecesOf]
  | cons x xs ih =>
    by_cases h : x = sep
    · simp [Text.piecesOf, h, ih]
    · simp only [List.cons_append, Text.piecesOf, h, if_false, ih]
      cases hp : Text.piecesOf sep xs with
      | nil => exact absurd hp (piecesOf_ne_nil sep xs)
      | cons w ws => simp

/-- The segments of two paths with a slash between are those of the first and then the second. -/
theorem segmentChars_append_slash (xs ys : List Char) :
    segmentChars (xs ++ '/' :: ys) = segmentChars xs ++ segmentChars ys := by
  simp [segmentChars, piecesOf_append_sep]

end ServerTree
