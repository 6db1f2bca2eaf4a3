import ServerTree.Value.Equality
import ServerTree.Value.Display
import ServerTree.Text.Pattern

/-!
# Request-time safety

Everything that reaches a client as an error text goes through `sanitizeMessage`: only the first line
survives, a message that mentions credentials, connections or stack frames is replaced, file paths are
masked and long messages are cut.

## Main definitions
- `isSensitive`, `maskPaths`, `sanitizeMessage`
- `safeErrorBody`: the body of an error response
- `forLog`: user input in one line of a log
- `isSafeText`, `isValidId`, `isNonEmptyText`: input checks
- `mergeFields`: a guarded merge of mappings
-/

namespace ServerTree

open Text

/-! ## Sensitive messages -/

/-- What must not be shown: each pattern is searched without regard to case. -/
def sensitivePatterns : List (List Piece) :=
  [word "password", word "secret", word "token",
    word "api" ++ .optional (fun c => c == '_' || c == '-') :: word "key",
    word "authorization", word "credential", word "private", word ".env", word "database",
    word "connection", word "site-packages", word "node_modules", word "traceback",
    word "file" ++ [.many isBlank, .one (· == '"')],
    word "at" ++ [.many isBlank, .many isWord, .many isBlank, .one (· == '(')]]

/-- Whether a text matches a sensitive pattern. -/
def isSensitive (cs : List Char) : Bool :=
  sensitivePatterns.any fun p => occurs p cs

/-! ## File paths -/

/-- The endings of source files, in the order in which they are tried. -/
def sourceEndings : List (List Char) :=
  [".pyc".toList, ".py".toList, ".js".toList, ".ts".toList, ".tsx".toList, ".jsx".toList]

/-- A character inside a path. -/
def isPathChar (c : Char) : Bool :=
  isWord c || c == '/' || c == '.' || c == '-'

/-- The text after the first ending that stands in front. -/
def afterEnding? (cs : List Char) : Option (List Char) :=
  sourceEndings.findSome? fun e => if e.isPrefixOf cs then some (cs.drop e.length) else none

/-- The text after the longest run of path characters that is followed by an ending. -/
def afterPath? : List Char → Option (List Char)
  | [] => none
  | c :: cs =>
    if isPathChar c then
      match afterPath? cs with
      | some r => some r
      | none => afterEnding? cs
    else none

/-- Replaces the paths of source files by a mark. The fuel is the length of the text. -/
def maskFrom : Nat → List Char → List Char
  | 0, cs => cs
  | _ + 1, [] => []
  | fuel + 1, c :: cs =>
    if c = '/' then
      match afterPath? cs with
      | some r => "[path]".toList ++ maskFrom fuel r
      | none => c :: maskFrom fuel cs
    else c :: maskFrom fuel cs

/-- Replaces the paths of source files by a mark. -/
def maskPaths (cs : List Char) : List Char := maskFrom cs.length cs

/-- Whether a path of a source file occurs in a text. -/
def hasPath : List Char → Bool
  | [] => false
  | c :: cs => (c == '/' && (afterPath? cs).isSome) || hasPath cs

/-! ## Messages -/

/-- The longest message that is shown whole. -/
def maxMessageLength : Nat := 200

/-- The shown form of a message; empty when nothing of it may be shown. -/
def sanitizeText (message : String) : String :=
  let line := (cutAt '\n' message.toList).1
  if isSensitive line then ""
  else
    let masked := maskPaths line
    if (glyphsOf masked).length > maxMessageLength then
      String.ofList (takeFirst maxMessageLength masked ++ ['.', '.', '.'])
    else String.ofList masked

/-- The text that an error shows: the detail of an HTTP error, which must be one, the text of any other, a
text itself. -/
def errorText? : Value → Attempt (Option String)
  | .failure (.http e) => (e.detail.asText "split").map some
  | .failure f => f.text.map some
  | .str s => .ok (some s)
  | _ => .ok none

/-- The client-safe message of an error value, or the fallback. -/
def sanitizeMessage (error : Value) (fallback : String) : Attempt String :=
  (errorText? error).map fun text? =>
    let shown := sanitizeText (text?.getD "")
    if shown.isEmpty then fallback else shown

/-- The client-safe message of a failure. -/
def sanitizeFailure (f : Fault) (fallback : String) : Attempt String :=
  sanitizeMessage (.failure f) fallback

/-! ## Debugging traces -/

/-- A line with its end, for each line of a text. -/
def linesOf (text : String) : String :=
  String.join ((piecesOf '\n' text.toList).map fun l => String.ofList l ++ "\n")

/-- A text in a trace, with what stands in its place when it cannot be shown. -/
def tracedText (text : Attempt String) (name function : String) : String :=
  match text with
  | .ok s => s
  | .error _ => "<" ++ name ++ " " ++ function ++ "() failed>"

/-- A failure as it ends a debugging trace. -/
def traceLine (f : Fault) : String :=
  let shown := tracedText f.text "exception" "str"
  f.errorClass.qualifiedName ++ (if shown.isEmpty then "" else ": " ++ shown) ++ "\n"

/-- The notes after the last line of a trace: a row has a line for each, anything else is shown as it is. -/
def traceNotes : Option Value → String
  | none | some .none => ""
  | some v =>
    let rows : Option (List Value) :=
      match v with
      | .list xs | .tuple xs => some xs
      | .str s => some ((glyphs s).map .str)
      | .bytes b => some (b.map fun x => .int x.toNat)
      | _ => none
    match rows with
    | some xs => String.join (xs.map fun x => linesOf (tracedText x.text "note" "str"))
    | none => tracedText v.quotedText "__notes__" "repr"

/-- What stands between the trace of a cause and that of its effect. -/
def causeLine : String :=
  "\nThe above exception was the direct cause of the following exception:\n\n"

/-- What stands between the trace of a failure and that of one that happened while it was handled. -/
def contextLine : String :=
  "\nDuring handling of the above exception, another exception occurred:\n\n"

/-- What comes before a trace, given the attributes with their traces. A cause hides the context. -/
def traceBefore (traces : List (String × Value × String)) : String :=
  let trace (name : String) : String := ((Assoc.get? name traces).map Prod.snd).getD ""
  let hidden := ((Assoc.get? "__suppress_context__" traces).map fun t => t.1.truthy).getD false
  if trace "__cause__" ≠ "" then trace "__cause__" ++ causeLine
  else if trace "__context__" ≠ "" && !hidden then trace "__context__" ++ contextLine
  else ""

mutual

/-- The trace of a failure, after those of what led to it; empty for any other value. -/
def traceOf : Value → String
  | .failure (.raised form arguments attributes id) =>
    traceBefore (tracesOf attributes) ++
      traceLine (.raised form arguments attributes id) ++
      traceNotes (Assoc.get? "__notes__" attributes)
  | .failure f => traceLine f
  | _ => ""

/-- Attributes with their traces. -/
def tracesOf : List (String × Value) → List (String × Value × String)
  | [] => []
  | (name, v) :: r => (name, v, traceOf v) :: tracesOf r

end

/-- The body of an error response. With `debug` it has the full message and the masked trace, which only a
failure has. -/
def safeErrorBody (error : Value) (debug : Bool) : Attempt Value := do
  let message ← sanitizeMessage error "Internal server error"
  let shown := ("error", Value.str message)
  if debug then
    match error with
    | .failure f =>
      let text ← f.text
      return (.ofFields
        [shown,
          ("details", .ofFields
            [("message", .str text),
              ("stack", .str (String.ofList (maskPaths (traceOf error).toList)))])])
    | v => refuse (noAttribute v "__traceback__")
  else return .ofFields [shown]

/-! ## Log lines -/

/-- User input in one line: line breaks become blanks, other control characters go, and the text is
cut at `limit`. A negative limit counts from the end. -/
def forLog (limit : Int) (s : String) : String :=
  let cs := (s.toList.map fun c => if c = '\r' ∨ c = '\n' then ' ' else c).filter
    fun c => !isControl c
  let n : Nat := if limit < 0 then (glyphsOf cs).length - (-limit).toNat else limit.toNat
  String.ofList (takeFirst n cs)

/-- A value as user input in one line of a log, with its limit given as a value. No limit cuts nothing. -/
def Value.forLog (v limit : Value) : Attempt String := do
  let s ← v.asText "replace"
  match limit with
  | .none => return ServerTree.forLog (size s) s
  | .int n => return ServerTree.forLog n s
  | .bool b => return ServerTree.forLog (if b then 1 else 0) s
  | _ => refuse (.wrongType "slice indices must be integers or None or have an __index__ method")

/-- How much of a message is logged. -/
def logLimit : Int := 100

/-- The message of a failure in a log. -/
def failureForLog (f : Fault) : Attempt String := f.text.map (forLog logLimit)

/-! ## Input checks -/

/-- Whether a value is a text with more than white space. -/
def isNonEmptyText : Value → Bool
  | .str s => s.toList.any fun c => !isBlank c
  | _ => false

/-- Whether a value is a text without control characters, line breaks and tabs apart. -/
def isSafeText : Value → Bool
  | .str s => !s.toList.any isUnsafeControl
  | _ => false

/-- Whether a value is a text of 1 to 128 identifier characters, not counting one line feed at the
end. -/
def isValidId : Value → Bool
  | .str s =>
    let cs :=
      match s.toList.getLast? with
      | some '\n' => s.toList.dropLast
      | _ => s.toList
    decide (1 ≤ cs.length) && decide (cs.length ≤ 128) && cs.all isIdentifier
  | _ => false

/-! ## Guarded merging -/

/-- Keys that are never merged. -/
def blockedKeys : List String := ["__proto__", "constructor", "prototype"]

/-- Whether a key is reserved: blocked, or between double low lines. -/
def isReservedKey (k : String) : Bool :=
  blockedKeys.contains k || (startsWith "__" k && endsWith "__" k)

/-- What merging does with an entry. -/
inductive MergeStep where
  | store (key : String) (value : Value)
  | reserved (key : String)
  | ignored

/-- Entries whose key is no text are ignored; reserved keys are refused. -/
def mergeStep : Value × Value → MergeStep
  | (.str k, v) => if isReservedKey k then .reserved k else .store k v
  | _ => .ignored

/-- The entries of a mapping that may be merged, in order. -/
def acceptedFields (source : Value) : List (String × Value) :=
  (source.entries?.getD []).filterMap fun e =>
    match mergeStep e with
    | .store k v => some (k, v)
    | _ => none

/-- The reserved keys of a mapping, in order. -/
def reservedKeys (source : Value) : List String :=
  (source.entries?.getD []).filterMap fun e =>
    match mergeStep e with
    | .reserved k => some k
    | _ => none

/-- Merges a mapping into fields. A source that is no mapping changes nothing. -/
def mergeFields (target : List (Value × Value)) (source : Value) : List (Value × Value) :=
  Assoc.update target ((acceptedFields source).map fun e => (.str e.1, e.2))

/-- Merges a mapping into another. What is no mapping cannot take an entry. -/
def mergeInto (target source : Value) : Attempt Value :=
  match target, acceptedFields source with
  | v, [] => .ok v
  | .mapping es, accepted => .ok (.ofEntries (es ++ accepted.map fun e => (.str e.1, e.2)))
  | .list _, _ => refuse (.wrongType "list indices must be integers or slices, not str")
  | v, _ => refuse (.wrongType ("'" ++ v.typeName ++ "' object does not support item assignment"))

/-- The warning about a reserved key. -/
def reservedKeyWarning (k : String) : String :=
  "Refusing to merge reserved key " ++ quoted k

end ServerTree
