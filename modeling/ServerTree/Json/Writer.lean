import ServerTree.Value.Display

/-!
# Writing JSON

Text is written in ASCII: what lies outside the visible ASCII range is escaped, characters beyond the
basic plane as a pair of surrogates. Keys that are numbers, truth values or nothing are written as the
text of that value; other keys that are no text are refused. A value that has no JSON form of its own is
written as its text.
-/

namespace ServerTree.Json

/-- The separators of a document. -/
structure Layout where
  item : String
  key : String

/-- No blanks at all. -/
def compact : Layout := ⟨",", ":"⟩

/-- A blank after each separator. -/
def spaced : Layout := ⟨", ", ": "⟩

/-- An escape of a sixteen-bit unit. -/
def unitEscape (n : Nat) : List Char :=
  '\\' :: 'u' :: Text.hexDigits 4 n

/-- A code point of a JSON string. -/
def stringPoint (n : Nat) : List Char :=
  if n = 0x22 then ['\\', '"']
  else if n = 0x5C then ['\\', '\\']
  else if n = 0x0A then ['\\', 'n']
  else if n = 0x0D then ['\\', 'r']
  else if n = 0x09 then ['\\', 't']
  else if n = 0x08 then ['\\', 'b']
  else if n = 0x0C then ['\\', 'f']
  else if 32 ≤ n ∧ n < 127 then [Char.ofNat n]
  else if n < 0x10000 then unitEscape n
  else unitEscape (0xD800 + (n - 0x10000) / 0x400) ++ unitEscape (0xDC00 + (n - 0x10000) % 0x400)

/-- A JSON string. -/
def string (s : String) : List Char :=
  '"' :: (Text.points s).flatMap stringPoint ++ ['"']

/-- A double. -/
def float (x : Float) : List Char :=
  (Decimal.jsonFormat.write x).toList

/-- An integer, unless it has too many digits. -/
def integer (i : Int) : Attempt String :=
  if Value.isHuge i then refuse (.tooManyDigits none) else .ok (toString i)

/-- The text that a key is written as. -/
def keyText : Value → Attempt String
  | .str s => .ok s
  | .int i => integer i
  | .float x => .ok (Decimal.jsonFormat.write x)
  | .nan _ => .ok "NaN"
  | .bool b => .ok (if b then "true" else "false")
  | .none => .ok "null"
  | k => refuse (.wrongType ("keys must be str, int, float, bool or None, not " ++ k.typeName))

/-- The text of a value that has no form of its own. -/
def textOf (v : Value) : Attempt String :=
  match v, v.text with
  | .failure (.http _), a => a
  | _, .error _ => refuse (.tooManyDigits none)
  | _, a => a

/-- Puts a separator between parts. -/
def separated (sep : String) : List (List Char) → List Char
  | [] => []
  | [p] => p
  | p :: q :: r => p ++ sep.toList ++ separated sep (q :: r)

/-- How deep values may be nested in a document that is written. -/
def writtenDepth : Nat := 970

mutual

/-- The document of a value nested at most `depth` deep. Without `anything`, a value that has no JSON form
is refused. -/
def chars (layout : Layout) (anything : Bool) (depth : Nat) : Value → Attempt (List Char)
  | .none => .ok "null".toList
  | .bool b => .ok (if b then "true" else "false").toList
  | .int i => (integer i).map String.toList
  | .float x => .ok (float x)
  | .nan _ => .ok "NaN".toList
  | .str s => .ok (string s)
  | .list xs | .tuple xs => do
    let parts ← charsAll layout anything depth xs
    return '[' :: separated layout.item parts ++ [']']
  | .mapping es => do
    let parts ← charsEntries layout anything depth es
    return '\x7b' :: separated layout.item parts ++ ['\x7d']
  | v =>
    if anything then (textOf v).map string
    else refuse (.wrongType ("Object of type " ++ v.typeName ++ " is not JSON serializable"))

/-- The documents of a row of values. -/
def charsAll (layout : Layout) (anything : Bool) (depth : Nat) :
    List Value → Attempt (List (List Char))
  | [] => .ok []
  | x :: xs =>
    match depth with
    | 0 => refuse .tooDeep
    | depth' + 1 => do
      let p ← chars layout anything depth' x
      let r ← charsAll layout anything (depth' + 1) xs
      return p :: r

/-- The members of an object. -/
def charsEntries (layout : Layout) (anything : Bool) (depth : Nat) :
    List (Value × Value) → Attempt (List (List Char))
  | [] => .ok []
  | (k, v) :: es =>
    match depth with
    | 0 => refuse .tooDeep
    | depth' + 1 => do
      let key ← keyText k
      let p ← chars layout anything depth' v
      let r ← charsEntries layout anything (depth' + 1) es
      return (string key ++ layout.key.toList ++ p) :: r

end

/-- The compact document of a value. Every value has one, unless it has a key that cannot be written or is
nested too deep. -/
def write (v : Value) : Attempt String :=
  (chars compact true writtenDepth v).map String.ofList

/-- The spaced document of a value that has a JSON form. -/
def writeSpaced (v : Value) : Attempt String :=
  (chars spaced false writtenDepth v).map String.ofList

end ServerTree.Json
