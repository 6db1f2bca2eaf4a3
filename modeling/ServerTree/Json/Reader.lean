import ServerTree.Value.Equality
import ServerTree.Decimal.Reading
import ServerTree.Http.Fields

/-!
# Reading JSON

A reader of documents in any of the Unicode encodings. Beyond the standard it knows the names of the
special doubles; integers are unbounded; control characters inside strings are refused. Of a repeated
key the last value counts, in the place of the first.

Each step returns what it read and the rest of the text. The fuel of the mutual readers is the length of
the text: every nested value lies between brackets of its own. Another bound, `depth`, limits how deep
values may be nested.

A surrogate that is escaped on its own stays one (see `ServerTree.Text.Points`).
-/

namespace ServerTree.Json

/-- Why a document is refused. -/
inductive Trouble where
  | malformed
  | tooDeep
  /-- An integer has more digits than are read. -/
  | tooManyDigits (count : Nat)
deriving DecidableEq, Repr

/-- The refusal of a document. -/
def Trouble.refusal : Trouble → Refusal
  | malformed => .notJson
  | tooDeep => .tooDeep
  | tooManyDigits count => .tooManyDigits (some count)

/-- What was read, and the rest. -/
abbrev Read (α : Type) : Type := Option (α × List Char)

/-- What was read, and the rest, or why there is nothing to be read. -/
abbrev Reading (α : Type) : Type := Except Trouble (α × List Char)

/-- How deep values may be nested. -/
def maxDepth : Nat := 970

/-- White space between tokens. -/
def isSpace (c : Char) : Bool :=
  c == ' ' || c == '\t' || c == '\n' || c == '\r'

/-- Drops white space in front. -/
def skip (cs : List Char) : List Char := cs.dropWhile isSpace

/-- The number of four hexadecimal digits. -/
def unit? : List Char → Read Nat
  | a :: b :: c :: d :: r =>
    match hexValue? a, hexValue? b, hexValue? c, hexValue? d with
    | some w, some x, some y, some z => some (((w * 16 + x) * 16 + y) * 16 + z, r)
    | _, _, _, _ => none
  | _ => none

/-- The character of an escape with one letter. -/
def escapeChar? (c : Char) : Option Char :=
  if c = '"' ∨ c = '\\' ∨ c = '/' then some c
  else if c = 'b' then some (Char.ofNat 8)
  else if c = 'f' then some (Char.ofNat 12)
  else if c = 'n' then some '\n'
  else if c = 'r' then some '\r'
  else if c = 't' then some '\t'
  else none

/-- The code point of a sixteen-bit unit and the text after its escape. A high surrogate joins with a low
one that is escaped right after it; a surrogate on its own stays one. -/
def joined (u : Nat) (r : List Char) : Nat × List Char :=
  match r with
  | '\\' :: 'u' :: r₁ =>
    match unit? r₁ with
    | some (v, r₂) => if Text.isPair u v then (Text.pairPoint u v, r₂) else (u, r)
    | none => (u, r)
  | _ => (u, r)

/-- The rest of a string after its opening quote. The fuel is the length of the text. -/
def stringBody : Nat → List Char → Read (List Char)
  | 0, _ => none
  | _ + 1, [] => none
  | fuel + 1, c :: r =>
    if c = '"' then some ([], r)
    else if c.toNat < 32 then none
    else if c = '\\' then
      match r with
      | [] => none
      | e :: r₁ =>
        if e = 'u' then
          match unit? r₁ with
          | none => none
          | some (u, r₂) =>
            let j := joined u r₂
            (stringBody fuel j.2).map fun p => (Text.held j.1 ++ p.1, p.2)
        else
          match escapeChar? e with
          | none => none
          | some x => (stringBody fuel r₁).map fun p => (x :: p.1, p.2)
    else (stringBody fuel r).map fun p => (c :: p.1, p.2)

/-- The digits in front of a text. -/
def digits (cs : List Char) : List Char × List Char :=
  cs.span Char.isDigit

/-- The whole part of a number: one zero, or digits that do not begin with zero. -/
def wholePart? : List Char → Read (List Char)
  | '0' :: r => some (['0'], r)
  | c :: r => if c.isDigit then let d := digits (c :: r); some d else none
  | [] => none

/-- The fraction of a number with its point, when there is one. -/
def fractionPart : List Char → List Char × List Char
  | '.' :: r =>
    let d := digits r
    if d.1.isEmpty then ([], '.' :: r) else ('.' :: d.1, d.2)
  | cs => ([], cs)

/-- The exponent of a number with its mark, when there is one. -/
def exponentPart : List Char → List Char × List Char
  | e :: r =>
    if e = 'e' ∨ e = 'E' then
      let signed : List Char × List Char :=
        match r with
        | '+' :: r₁ => (['+'], r₁)
        | '-' :: r₁ => (['-'], r₁)
        | _ => ([], r)
      let d := digits signed.2
      if d.1.isEmpty then ([], e :: r) else ('e' :: signed.1 ++ d.1, d.2)
    else ([], e :: r)
  | [] => ([], [])

/-- A number without its sign. -/
def number (negative : Bool) (cs : List Char) : Reading Value :=
  match wholePart? cs with
  | none => .error .malformed
  | some (whole, r) =>
    let f := fractionPart r
    let e := exponentPart f.2
    if f.1.isEmpty && e.1.isEmpty then
      if Text.maxDigits < whole.length then .error (.tooManyDigits whole.length) else
      let n : Nat := whole.foldl (fun (n : Nat) c => 10 * n + (c.toNat - 48)) 0
      .ok (.int (if negative then -(n : Int) else n), e.2)
    else
      match Decimal.unsigned? (whole ++ f.1 ++ e.1) with
      | some x => .ok (.float (if negative then -x else x), e.2)
      | none => .error .malformed

/-- The rest of `cs` after `word`. -/
def after? (word : String) (cs : List Char) : Option (List Char) :=
  if word.toList.isPrefixOf cs then some (cs.drop word.length) else none

/-- The names of values. Every name for what is no number means the same one. -/
def names : List (String × Value) :=
  [("null", .none), ("true", .bool true), ("false", .bool false), ("NaN", .nan 0),
    ("Infinity", .float (1.0 / 0.0)), ("-Infinity", .float (-1.0 / 0.0))]

/-- A value that holds no others: a name or a number. -/
def atom (cs : List Char) : Reading Value :=
  match names.findSome? fun e => (after? e.1 cs).map fun r => (e.2, r) with
  | some p => .ok p
  | none =>
    match cs with
    | '-' :: r => number true r
    | _ => number false cs

/-- A string after its opening quote. -/
def text (r : List Char) : Reading String :=
  match stringBody (r.length + 1) r with
  | some p => .ok (String.ofList p.1, p.2)
  | none => .error .malformed

mutual

/-- A value, with no white space in front. -/
def value : Nat → Nat → List Char → Reading Value
  | 0, _, _ => .error .malformed
  | fuel + 1, depth, cs =>
    match cs, depth with
    | '"' :: r, _ => (text r).map fun p => (.str p.1, p.2)
    | '[' :: _, 0 | '\x7b' :: _, 0 => .error .tooDeep
    | '[' :: r, depth + 1 =>
      match skip r with
      | ']' :: r₁ => .ok (.list [], r₁)
      | r₁ => (items fuel depth r₁).map fun p => (.list p.1, p.2)
    | '\x7b' :: r, depth + 1 =>
      match skip r with
      | '\x7d' :: r₁ => .ok (.mapping [], r₁)
      | r₁ => (members fuel depth r₁).map fun p => (Value.ofEntries p.1, p.2)
    | _, _ => atom cs

/-- The items of an array up to its bracket. -/
def items : Nat → Nat → List Char → Reading (List Value)
  | 0, _, _ => .error .malformed
  | fuel + 1, depth, cs =>
    match value fuel depth cs with
    | .error e => .error e
    | .ok (v, r) =>
      match skip r with
      | ']' :: r₁ => .ok ([v], r₁)
      | ',' :: r₁ => (items fuel depth (skip r₁)).map fun p => (v :: p.1, p.2)
      | _ => .error .malformed

/-- The members of an object up to its brace. -/
def members : Nat → Nat → List Char → Reading (List (Value × Value))
  | 0, _, _ => .error .malformed
  | fuel + 1, depth, cs =>
    match cs with
    | '"' :: r =>
      match text r with
      | .error e => .error e
      | .ok (key, r₁) =>
        match skip r₁ with
        | ':' :: r₂ =>
          match value fuel depth (skip r₂) with
          | .error e => .error e
          | .ok (v, r₃) =>
            let entry := (Value.str key, v)
            match skip r₃ with
            | '\x7d' :: r₄ => .ok ([entry], r₄)
            | ',' :: r₄ => (members fuel depth (skip r₄)).map fun p => (entry :: p.1, p.2)
            | _ => .error .malformed
        | _ => .error .malformed
    | _ => .error .malformed

end

/-- Reads a document that is one value with white space around. -/
def read (cs : List Char) : Except Trouble Value :=
  match value (2 * cs.length + 2) maxDepth (skip cs) with
  | .ok (v, r) => if (skip r).isEmpty then .ok v else .error .malformed
  | .error e => .error e

/-- The encodings of a document. -/
inductive Encoding where
  | utf8
  | utf8Marked
  | utf16 (bigEndian marked : Bool)
  | utf32 (bigEndian marked : Bool)
deriving DecidableEq, Repr

/-- The encoding of a document, from its byte order mark or from the zeros among its first bytes. -/
def Encoding.detect : Bytes → Encoding
  | 0x00 :: 0x00 :: 0xFE :: 0xFF :: _ => .utf32 true true
  | 0xFF :: 0xFE :: 0x00 :: 0x00 :: _ => .utf32 false true
  | 0xFE :: 0xFF :: _ => .utf16 true true
  | 0xFF :: 0xFE :: _ => .utf16 false true
  | 0xEF :: 0xBB :: 0xBF :: _ => .utf8Marked
  | a :: b :: c :: d :: _ =>
    if a = 0 then (if b = 0 then .utf32 true false else .utf16 true false)
    else if b = 0 then (if c = 0 && d = 0 then .utf32 false false else .utf16 false false)
    else .utf8
  | [a, b] => if a = 0 then .utf16 true false else if b = 0 then .utf16 false false else .utf8
  | _ => .utf8

/-- The text of a document. -/
def decode? (bs : Bytes) : Option String :=
  match Encoding.detect bs with
  | .utf8 => Text.utf8DecodeWide? bs
  | .utf8Marked => Text.utf8DecodeWide? (bs.drop 3)
  | .utf16 big marked =>
    (Text.units16 big (if marked then bs.drop 2 else bs)).map fun us =>
      Text.ofPoints (Text.utf16Points us)
  | .utf32 big marked =>
    (Text.utf32Points big (if marked then bs.drop 4 else bs)).map Text.ofPoints

/-- Reads a document from bytes. -/
def readBytes (bs : Bytes) : Attempt Value :=
  match decode? bs with
  | none => refuse .notUtf8
  | some s => (read s.toList).mapError fun e => .refused e.refusal

end ServerTree.Json
