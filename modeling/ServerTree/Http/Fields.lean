import ServerTree.Assoc
import ServerTree.Text.Case
import ServerTree.Text.Hex
import ServerTree.Text.Integer
import ServerTree.Text.Split

/-!
# Header fields and query parameters

Both are read-only groupings of `(name, value)` pairs: the values of a name stay together in arrival
order, and names are in the order of their first arrival. Header names are compared in small letters,
query names as they are.

## Main definitions
- `Headers`, `Query`: what arrived, with the grouping computed from it
- `group`: the grouping of pairs under a normalized name
- `unquote`, `formPairs`: percent-encoded forms
-/

namespace ServerTree

/-- Values grouped by name. -/
abbrev Grouped : Type := List (String × List String)

/-- Groups the values of pairs whose names agree after `normalize`. -/
def group (normalize : String → String) (pairs : List (String × String)) : Grouped :=
  pairs.foldl (fun m p => Assoc.push (normalize p.1) p.2 m) []

/-- The first value stored under a name. -/
def Grouped.first? (m : Grouped) (name : String) : Option String :=
  (Assoc.get? name m).bind List.head?

/-- Every value stored under a name. -/
def Grouped.all (m : Grouped) (name : String) : List String :=
  (Assoc.get? name m).getD []

/-! ## Percent-encoded forms -/

/-- Replaces percent escapes in ASCII text by the bytes they name; other percent signs stay. -/
def unescape : List Char → Bytes
  | '%' :: a :: b :: r =>
    match hexValue? a, hexValue? b with
    | some x, some y => UInt8.ofNat (16 * x + y) :: unescape r
    | _, _ => 37 :: unescape (a :: b :: r)
  | c :: r => UInt8.ofNat c.toNat :: unescape r
  | [] => []
termination_by cs => cs.length

/-- The text that a percent-encoded text stands for. Each run of ASCII is decoded on its own, so an
escape sequence never joins with a character beyond ASCII. `run` holds the current run, reversed. -/
def unquoteRuns (run : List Char) : List Char → List Char
  | [] => (Text.utf8DecodeLossy (unescape run.reverse)).toList
  | c :: r =>
    if c.toNat < 128 then unquoteRuns (c :: run) r
    else (Text.utf8DecodeLossy (unescape run.reverse)).toList ++ c :: unquoteRuns [] r

/-- Decodes percent escapes. -/
def unquote (cs : List Char) : String :=
  String.ofList (unquoteRuns [] cs)

/-- Plus signs stand for blanks. -/
def plusToBlank (cs : List Char) : List Char :=
  cs.map fun c => if c = '+' then ' ' else c

/-- The pairs of an encoded form. Empty pieces are skipped; a piece without an equals sign has a blank
value. -/
def formPairs (text : String) : List (String × String) :=
  ((Text.piecesOf '&' text.toList).filter fun p => !p.isEmpty).map fun p =>
    let cut := Text.cutAt '=' p
    (unquote (plusToBlank cut.1), unquote (plusToBlank (cut.2.getD [])))

/-! ## Headers -/

/-- Request headers, as they arrived. -/
structure Headers where
  raw : List (Bytes × Bytes) := []
deriving DecidableEq, Repr, Inhabited

/-- The pairs as text. -/
def Headers.pairs (h : Headers) : List (String × String) :=
  h.raw.map fun p => (Text.latin1Decode p.1, Text.latin1Decode p.2)

/-- The values by lower-cased name. -/
def Headers.grouped (h : Headers) : Grouped :=
  group Text.lower h.pairs

/-- The first value of a header, whatever the spelling of its name. -/
def Headers.get? (h : Headers) (name : String) : Option String :=
  h.grouped.first? (Text.lower name)

/-- Every value of a header, in arrival order. -/
def Headers.getAll (h : Headers) (name : String) : List String :=
  h.grouped.all (Text.lower name)

/-- Whether a header arrived. -/
def Headers.has (h : Headers) (name : String) : Bool :=
  Assoc.has (Text.lower name) h.grouped

/-- The first value of each name. -/
def Headers.firsts (h : Headers) : List (String × String) :=
  h.grouped.map fun e => (e.1, e.2.headD "")

/-- One value a name: those of a repeated header are joined by commas. -/
def Headers.joined (h : Headers) : List (String × String) :=
  h.grouped.map fun e => (e.1, Text.join ", " e.2)

/-! ## Query parameters -/

/-- Query parameters, as the bytes that arrived. -/
structure Query where
  raw : Bytes := []
deriving DecidableEq, Repr, Inhabited

/-- The values by name. -/
def Query.grouped (q : Query) : Grouped :=
  group id (formPairs (Text.latin1Decode q.raw))

/-- The first value of a parameter. -/
def Query.get? (q : Query) (name : String) : Option String :=
  q.grouped.first? name

/-- Every value of a parameter, in arrival order. -/
def Query.getAll (q : Query) (name : String) : List String :=
  q.grouped.all name

/-- The first value of a parameter as an integer, when it is one. -/
def Query.getInt? (q : Query) (name : String) : Option Int :=
  (q.get? name).bind Text.readInt?

/-- The first value of each parameter. -/
def Query.firsts (q : Query) : List (String × String) :=
  q.grouped.map fun e => (e.1, e.2.headD "")

/-- Whether a parameter arrived. -/
def Query.has (q : Query) (name : String) : Bool :=
  Assoc.has name q.grouped

end ServerTree
