import ServerTree.Value.Equality
import ServerTree.Text.Case

/-!
# Multipart forms

A multipart body is read in two steps. A reader cuts it into parts and reports what it meets: the start of
a part, pieces of header names and values, pieces of data, the end of a part. A collector turns the reports
into the fields and files of the form; it does not depend on how the pieces are cut, nor on the reader.

A text field that is repeated becomes a list; of a repeated file the last upload counts, and a file wins
over text fields of the same name.

## Main definitions
- `PartEvent`, `partEvents`: the reports of a body
- `headerParameters`: the parameters of a header value
- `Reader`, `Reader.standard`: what bodies are read with
- `Collector`, `Collector.step`: what the reports add up to
-/

namespace ServerTree.Multipart

/-! ## Reports -/

/-- A report about a multipart body. -/
inductive PartEvent where
  | partBegin
  | headerField (piece : Bytes)
  | headerValue (piece : Bytes)
  | headerEnd
  | partData (piece : Bytes)
  | partEnd
deriving DecidableEq, Repr

/-- Carriage return. -/
def cr : UInt8 := 13

/-- Line feed. -/
def lf : UInt8 := 10

/-- The hyphen. -/
def hyphen : UInt8 := 45

/-- A character of a header name. -/
def isTokenByte (b : UInt8) : Bool :=
  let c := Char.ofNat b.toNat
  b.toNat < 128 && (c.isAlphanum ||
    ['!', '#', '$', '%', '&', '\'', '*', '+', '-', '.', '^', '_', '|', '~'].contains c || b == 96)

/-- How far the headers of a part were read. -/
inductive HeaderRead where
  /-- All of them; the data follows. -/
  | complete (events : List PartEvent) (rest : Bytes)
  /-- The body ends among them. -/
  | cut
  | malformed
deriving DecidableEq, Repr

/-- Puts the reports of one header in front. -/
def HeaderRead.prepend (events : List PartEvent) : HeaderRead → HeaderRead
  | .complete es rest => .complete (events ++ es) rest
  | r => r

/-- How many headers a part may have. -/
def maxHeaders : Nat := 8

/-- How many bytes a header may have from its name to the end of its line. -/
def maxHeaderSize : Nat := 4224

/-- Whether a header is refused for its size, or for the number of those before it. -/
def isExcessive (before size : Nat) : Bool :=
  decide (maxHeaders ≤ before) || decide (maxHeaderSize < size)

/-- Reads the headers of a part, `before` of which were read. The fuel is the length of the body. -/
def readHeaders (before : Nat) : Nat → Bytes → HeaderRead
  | 0, _ => .cut
  | fuel + 1, bs =>
    let name := bs.takeWhile isTokenByte
    match bs.dropWhile isTokenByte with
    | [] => if !name.isEmpty && isExcessive before name.length then .malformed else .cut
    | c :: r =>
      if name.isEmpty then
        if c = cr then
          match r with
          | [] => .cut
          | d :: r₁ => if d = lf then .complete [] r₁ else .malformed
        else .malformed
      else if c = 58 then
        let line := r.takeWhile (· != cr)
        if isExcessive before (name.length + 1 + line.length) then .malformed
        else
          match r.dropWhile (· != cr) with
          | [] => .cut
          | [_] => .cut
          | _ :: d :: r₁ =>
            if d = lf then
              (readHeaders (before + 1) fuel r₁).prepend
                [.headerField name, .headerValue (line.dropWhile (· == 32)), .headerEnd]
            else .malformed
      else .malformed

/-- What is found where data is searched for a boundary. -/
inductive DataRead where
  /-- A boundary that ends the part: whether it is the last one, and what follows it. -/
  | boundary (last : Bool) (rest : Bytes)
  /-- A number of bytes that are data. -/
  | data (size : Nat)
deriving DecidableEq, Repr

/-- Looks for a boundary. One that is not followed by a line end or by two hyphens is data, and so is half of
what would have to follow. -/
def lookAt (mark bs : Bytes) : DataRead :=
  if mark.isPrefixOf bs then
    match bs.drop mark.length with
    | a :: b :: r =>
      if a = cr ∧ b = lf then .boundary false r
      else if a = hyphen ∧ b = hyphen then .boundary true r
      else .data (if a = cr ∨ a = hyphen then mark.length + 1 else mark.length)
    | _ => .data 1
  else .data 1

/-- The data of a part up to the boundary that ends it. The first bytes, as many as `known`, are data. -/
def readData (mark : Bytes) : Nat → Bytes → Option (Bytes × Bool × Bytes)
  | _, [] => none
  | known + 1, b :: r => (readData mark known r).map fun p => (b :: p.1, p.2)
  | 0, b :: r =>
    match lookAt mark (b :: r) with
    | .boundary last rest => some ([], last, rest)
    | .data size => (readData mark (size - 1) r).map fun p => (b :: p.1, p.2)

/-- The reports of the parts from the headers of the first on; `none` when a header is malformed. A part
that no boundary closes is reported without its end. The fuel is the length of the body. -/
def readParts (mark : Bytes) : Nat → Bytes → Option (List PartEvent)
  | 0, _ => some []
  | fuel + 1, bs =>
    match readHeaders 0 (bs.length + 1) bs with
    | .malformed => none
    | .cut => some [.partBegin]
    | .complete headers rest =>
      match readData mark 0 rest with
      | none => some (.partBegin :: headers)
      | some (data, last, rest) =>
        let part := .partBegin :: headers ++ [.partData data, .partEnd]
        if last then some part else (readParts mark fuel rest).map (part ++ ·)

/-- The rest of a body after the opening of its first boundary: `none` when it differs, and
`some none` when the body ends before it does. -/
def matchOpening : Bytes → Bytes → Option (Option Bytes)
  | [], bs => some (some bs)
  | _ :: _, [] => some none
  | m :: ms, b :: bs => if m = b then matchOpening ms bs else none

/-- Line ends in front are skipped, together with everything up to the next hyphen. -/
def skipPreamble : Bytes → Bytes
  | b :: r => if b = cr ∨ b = lf then (b :: r).dropWhile (· != hyphen) else b :: r
  | [] => []

/-- The reports of a body; `none` when it is malformed. -/
def partEvents (boundary body : Bytes) : Option (List PartEvent) :=
  let opening := hyphen :: hyphen :: boundary
  match matchOpening opening (skipPreamble body) with
  | none => none
  | some none => some []
  | some (some rest) =>
    match rest with
    | [] => some []
    | c :: r =>
      if c = hyphen then
        match r with
        | [] => some []
        | d :: _ => if d = hyphen then some [] else none
      else if c = cr then
        match r with
        | [] => some []
        | d :: r₁ =>
          if d = lf then readParts (cr :: lf :: opening) (r₁.length + 1) r₁ else none
      else none

/-! ## Header parameters -/

/-- Cuts a header value at the semicolons outside quotes. `quoted` tells whether the text so far has an
open quote; a quote after a backslash does not count. -/
def parameterPieces (quoted : Bool) : List Char → List (List Char)
  | [] => [[]]
  | '\\' :: '"' :: r =>
    match parameterPieces quoted r with
    | [] => [['\\', '"']]
    | p :: ps => ('\\' :: '"' :: p) :: ps
  | c :: r =>
    if c = ';' ∧ !quoted then [] :: parameterPieces false r
    else
      match parameterPieces (if c = '"' then !quoted else quoted) r with
      | [] => [[c]]
      | p :: ps => (c :: p) :: ps

/-- Removes the backslash in front of each `c`. -/
def dropEscapes (c : Char) : List Char → List Char
  | '\\' :: d :: r => if d = c then c :: dropEscapes c r else '\\' :: dropEscapes c (d :: r)
  | x :: r => x :: dropEscapes c r
  | [] => []

/-- The text of a parameter's value, without its quotes. Between quotes, backslashes are joined in pairs
first, and then those in front of quotes are removed. -/
def unquoteParameter (cs : List Char) : List Char :=
  match cs with
  | '"' :: r =>
    match r.getLast? with
    | some '"' => dropEscapes '"' (dropEscapes '\\' r.dropLast)
    | _ => cs
  | _ => cs

/-- Of a path with backslashes from a drive or a share, the last component. -/
def lastComponent (cs : List Char) : List Char :=
  let fromDrive := (cs.drop 1).take 2 == [':', '\\']
  let fromShare := cs.take 2 == ['\\', '\\']
  if fromDrive || fromShare then (Text.piecesOf '\\' cs).getLast?.getD [] else cs

/-- One parameter: its name in small letters and its value. A name that stands alone is kept as it is
written, with an empty value. -/
def parameter (piece : List Char) : String × String :=
  match Text.cutAt '=' piece with
  | (name, none) => (String.ofList (Text.trimmed Text.isBlank name), "")
  | (name, some value) =>
    let name := Text.lower (String.ofList (Text.trimmed Text.isBlank name))
    let value := unquoteParameter (Text.trimmed Text.isBlank value)
    (name, String.ofList (if name = "filename" then lastComponent value else value))

/-- The parameters of a header value, after its first piece. -/
def headerParameters (value : String) : List (String × String) :=
  Assoc.ofList (((parameterPieces false value.toList).drop 1).map parameter)

/-! ## Readers -/

/-- What bodies are read with. -/
structure Reader where
  /-- The parameters of a header value, by name. -/
  parameters : String → List (String × String)
  /-- The reports of a body with a boundary, unless the boundary is refused; `none` when the body is
  malformed. -/
  events : Bytes → Bytes → Attempt (Option (List PartEvent))

/-- How many bytes a boundary may have. -/
def maxBoundarySize : Nat := 256

/-- The reader that is used. -/
def Reader.standard : Reader where
  parameters := headerParameters
  events boundary body :=
    if maxBoundarySize < boundary.length then refuse (.boundaryTooLong boundary.length)
    else .ok (partEvents boundary body)

/-! ## Collection -/

/-- The fields and files so far, and the part in progress. -/
structure Collector where
  headers : List (String × String) := []
  field : Bytes := []
  value : Bytes := []
  data : Bytes := []
  fields : List (String × List String) := []
  files : List (String × Upload) := []
deriving DecidableEq, Repr

namespace Collector

/-- A parameter's text, read as UTF-8; `none` when it is not. -/
def parameterText? (s : String) : Option String :=
  (Text.latin1? s).bind Text.utf8Decode?

/-- Ends a part: a part without a name is dropped, one with a file name is a file, any other a text. -/
def finishPart (reader : Reader) (c : Collector) : Option Collector :=
  let parameters := reader.parameters ((Assoc.get? "content-disposition" c.headers).getD "")
  match Assoc.get? "name" parameters with
  | none => some c
  | some rawName => do
    let name ← parameterText? rawName
    match Assoc.get? "filename" parameters with
    | some rawFile =>
      let file ← parameterText? rawFile
      let type := (Assoc.get? "content-type" c.headers).getD "application/octet-stream"
      return { c with files := Assoc.set name ⟨file, type, c.data⟩ c.files }
    | none => return { c with fields := Assoc.push name (Text.utf8DecodeLossy c.data) c.fields }

/-- Takes one report into account; `none` when a name is not UTF-8. -/
def step (reader : Reader) (c : Collector) : PartEvent → Option Collector
  | .partBegin => some { c with headers := [], data := [] }
  | .headerField piece => some { c with field := c.field ++ piece }
  | .headerValue piece => some { c with value := c.value ++ piece }
  | .headerEnd =>
    some { c with
      headers := Assoc.set (Text.lower (Text.latin1Decode c.field)) (Text.latin1Decode c.value) c.headers
      field := []
      value := [] }
  | .partData piece => some { c with data := c.data ++ piece }
  | .partEnd => c.finishPart reader

/-- Takes reports into account, in order. -/
def run (reader : Reader) (c : Collector) : List PartEvent → Option Collector
  | [] => some c
  | e :: es => (c.step reader e).bind fun c' => c'.run reader es

/-- The form: text fields in order, then files. -/
def form (c : Collector) : Value :=
  .ofFields (Assoc.update (c.fields.map fun e => (e.1, Value.collapse e.2))
    (c.files.map fun e => (e.1, .upload e.2)))

end Collector

/-- The boundary that a content type gives. -/
def Reader.boundary? (reader : Reader) (contentType : String) : Option Bytes :=
  match (Assoc.get? "boundary" (reader.parameters contentType)).bind Text.latin1? with
  | none | some [] => none
  | some boundary => some boundary

/-- The form of a body with the given content type, as a reader reports it. -/
def Reader.parse (reader : Reader) (body : Bytes) (contentType : String) : Attempt Value :=
  match reader.boundary? contentType with
  | none => .error (.http (.badRequest (.str "Multipart body missing boundary parameter")))
  | some boundary => do
    let events ← reader.events boundary body
    match events.bind fun events => ({} : Collector).run reader events with
    | none => .error (.http (.badRequest (.str "Malformed multipart body")))
    | some c => .ok c.form

/-- The form of a body with the given content type. -/
def parse (body : Bytes) (contentType : String) : Attempt Value := Reader.standard.parse body contentType

end ServerTree.Multipart
