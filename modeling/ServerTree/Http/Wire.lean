import ServerTree.Http.Cors
import ServerTree.Json.Reader
import ServerTree.Json.Writer
import ServerTree.Value.Attribute

/-!
# Responses on the wire

A response is sent as a start message, with the status and the headers in Latin-1, and a body message.
A status that permits no body has neither body nor content headers. An answer to HEAD describes the body
and does not carry it. Anything that has the parts of a response can be sent; encoding fails when a part is
missing or of the wrong type, and when a header is not Latin-1.

## Main definitions
- `encodeAnswer`: the two messages of an answer
- `decodeResponse`: the response that a client sees in them
- `Response.header?`
-/

namespace ServerTree

/-- The first message of a response. -/
structure StartMessage where
  status : Value
  headers : List (Bytes × Bytes)

/-- The messages of a response. -/
structure WireResponse where
  start : StartMessage
  body : Value

/-- Whether a status permits a body. -/
def bodyAllowed (status : Int) : Bool :=
  !((decide (100 ≤ status) && decide (status < 200)) || status == 204 || status == 304)

/-- Whether a status given as a value permits a body. -/
def bodyAllowedFor : Value → Attempt Bool
  | .int s => .ok (bodyAllowed s)
  | .bool _ => .ok true
  | .float x =>
    .ok (!((decide (100.0 ≤ x) && decide (x < 200.0)) || x == 204.0 || x == 304.0))
  | .nan _ => .ok true
  | v =>
    refuse (.wrongType ("'<=' not supported between instances of 'int' and '" ++ v.typeName ++ "'"))

/-- The Latin-1 bytes of a text. -/
def latin1 (s : String) : Attempt Bytes :=
  match Text.latin1? s with
  | some b => .ok b
  | none => refuse .notLatin1

/-- The Latin-1 bytes of a content type. -/
def latin1Value : Value → Attempt Bytes
  | .str s => latin1 s
  | v => refuse (noAttribute v "encode")

/-- The bytes of a header, with its name in small letters. -/
def encodeHeader (h : Value × Value) : Attempt (Bytes × Bytes) := do
  let name ← h.1.inSmallLetters
  let name ← latin1Value name
  let value ← latin1Value h.2
  return (name, value)

/-- The bytes of headers, in order, each of which must be a pair. -/
def encodeHeaders : List Value → Attempt (List (Bytes × Bytes))
  | [] => .ok []
  | h :: hs => do
    let p ← h.asPair
    let e ← encodeHeader p
    let es ← encodeHeaders hs
    return e :: es

/-- The bytes of an ASCII text. -/
def asciiBytes (s : String) : Bytes := s.toList.map fun c => UInt8.ofNat c.toNat

/-- A body as it is sent: a text as UTF-8, anything else as it is. -/
def payloadOf : Value → Attempt Value
  | .str s => (utf8Bytes s).map .bytes
  | v => .ok v

/-- The bytes of an answer's body. -/
def contentOf : Value → Attempt Value
  | .response r => payloadOf r.body
  | v => v.part "body_bytes"

/-- The length of a body. -/
def contentLength (body : Value) : Attempt Nat :=
  match body.length? with
  | some n => .ok n
  | none => refuse (.wrongType ("object of type '" ++ body.typeName ++ "' has no len()"))

/-- The messages of an answer; `head` leaves the body out. -/
def encodeAnswer (answer : Value) (head : Bool) : Attempt WireResponse := do
  let status ← answer.part "status"
  let allowed ← bodyAllowedFor status
  let body ← if allowed then contentOf answer else .ok (.bytes [])
  let contentType ←
    if allowed then do
      let bytes ← latin1Value (← answer.part "content_type")
      pure [(asciiBytes "content-type", bytes)]
    else .ok []
  let fields ← (← answer.part "headers").iterate
  let headers ← encodeHeaders fields
  let length ←
    if allowed then do
      let n ← contentLength body
      pure [(asciiBytes "content-length", asciiBytes (toString n))]
    else .ok []
  return ⟨⟨status, contentType ++ headers ++ length⟩, if head then .bytes [] else body⟩

/-- The messages of a response; `head` leaves the body out. -/
def encodeResponse (r : Response Value) (head : Bool) : Attempt WireResponse :=
  encodeAnswer (.response r) head

/-- The content type that a client sees: that of the last such header. -/
def seenContentType (headers : List (Bytes × Bytes)) : String :=
  headers.foldl (fun acc h =>
    if Text.latin1Decode h.1 = "content-type" then Text.latin1Decode h.2 else acc) textContentType

/-- The response that a client sees. Its body is joined from bytes. -/
def decodeResponse (w : WireResponse) : Attempt (Response Value) := do
  let body ←
    match w.body with
    | .bytes b => pure b
    | v => refuse (.wrongType
        ("sequence item 0: expected a bytes-like object, " ++ v.typeName ++ " found"))
  return {
    body := .bytes body
    status := w.start.status
    contentType := .str (seenContentType w.start.headers)
    headers := Value.ofPairs
      ((w.start.headers.map fun h => (Text.latin1Decode h.1, Text.latin1Decode h.2)).filter
        fun h => h.1 != "content-type" && h.1 != "content-length") }

namespace Response

/-- The first value of a header among headers. -/
def firstHeader? (name : Value) : List (Value × Value) → Attempt (Option Value)
  | [] => .ok none
  | h :: hs => do
    let k ← h.1.inSmallLetters
    if k == name then return some h.2 else firstHeader? name hs

/-- The first value of a header, whatever the spelling of its name. The content type counts as one when
there is no such header. -/
def header? (r : Response Value) (name fallback : Value) : Attempt Value := do
  let name ← name.inSmallLetters
  match ← firstHeader? name r.headers with
  | some v => return v
  | none => return if name == .str "content-type" then r.contentType else fallback

/-- The body as text: bytes must be UTF-8, and anything else stands for itself. -/
def text (r : Response Value) : Attempt Value :=
  match r.body with
  | .bytes b => (utf8Text b).map .str
  | v => .ok v

/-- The body as a JSON document. -/
def json (r : Response Value) : Attempt Value := do
  match ← payloadOf r.body with
  | .bytes b => Json.readBytes b
  | v => refuse (.wrongType
      ("the JSON object must be str, bytes or bytearray, not " ++ v.typeName))

end Response

/-! ## Responses of the library -/

/-- A JSON response. -/
def jsonResponse (data : Value) (status : Value) : Attempt (Response Value) :=
  (Json.write data).map fun s => ⟨.str s, status, .str jsonContentType, []⟩

/-- Headers with the texts of their values. -/
def headerTexts : List (Value × Value) → Attempt (List (Value × Value))
  | [] => .ok []
  | (k, v) :: r => do
    let s ← v.text
    let hs ← headerTexts r
    return (k, .str s) :: hs

/-- The envelope of every error, around any message. Of a repeated header the last value counts. -/
def errorEnvelope (status message : Value) (headers : List (Value × Value)) :
    Attempt (Response Value) := do
  let r ← jsonResponse (.ofFields [("error", message)]) status
  let keyed ← headers.mapM fun h => h.1.asKey.map fun k => (k, h.2)
  return { r with headers := ← headerTexts (Assoc.ofList keyed) }

/-- The envelope of an error whose message is a text. -/
def errorResponse (status : Value) (message : String) (headers : List (String × String)) :
    Response Value :=
  { body := .str (String.ofList ("\x7b\"error\":".toList ++ Json.string message ++ ['\x7d']))
    status := status
    contentType := .str jsonContentType
    headers := Value.ofPairs (Assoc.ofList headers) }

end ServerTree
