import ServerTree.Http.Multipart
import ServerTree.Json.Reader

/-!
# Receiving and decoding bodies

The body of a request arrives as messages. Reading it takes messages until one says that no more follow;
the bytes are then kept, so that reading again gives them without receiving anything. A limit bounds both
the declared length and the bytes that arrive.

What a handler sees as the body depends on the content type.

## Main definitions
- `Incoming`, `Inbox`: the messages that are still to come, and the kept body
- `Inbox.body`: reads the whole body
- `decodeBody`: the value of a body
-/

namespace ServerTree

/-- A message of the peer. -/
inductive Incoming where
  /-- A piece of the body; `more` tells whether another follows. -/
  | chunk (bytes : Bytes) (more : Bool)
  | disconnect
deriving DecidableEq, Repr

/-- What is still to be received, and the body once it was read. When nothing is left, every further
message is a disconnect. -/
structure Inbox where
  pending : List Incoming := []
  cached : Option Bytes := none
deriving DecidableEq, Repr, Inhabited

namespace Inbox

/-- The messages of a body that is sent in one piece. -/
def single (body : Bytes) : Inbox := { pending := [.chunk body false] }

/-- The non-empty chunks up to the end of the body, and what is left to receive. -/
def chunks : List Incoming → List Bytes × List Incoming
  | [] => ([], [])
  | .disconnect :: r => ([], r)
  | .chunk b more :: r =>
    let rest := if more then chunks r else ([], r)
    (if b.isEmpty then rest.1 else b :: rest.1, rest.2)

/-- Whether a number of bytes is over a limit. -/
def isOver (limit : SizeLimit) (n : Int) : Attempt Bool :=
  match limit with
  | .unlimited => .ok false
  | .atMost l => .ok (decide (l < n))
  | .incomparable typeName =>
    refuse (.wrongType ("'>' not supported between instances of 'int' and '" ++ typeName ++ "'"))

/-- Refuses a number of bytes over a limit. -/
def checkSize (limit : SizeLimit) (n : Int) : Attempt Unit := do
  if ← isOver limit n then .error (.http .tooLarge)

/-- Receives chunks until the body ends or the limit is passed. `size` and `acc` are what came before. -/
def receive (limit : SizeLimit) (size : Nat) (acc : Bytes) :
    List Incoming → Attempt Bytes × List Incoming
  | [] => (.ok acc, [])
  | .disconnect :: r => (.ok acc, r)
  | .chunk b more :: r =>
    let size := size + b.length
    match if b.isEmpty then .ok () else checkSize limit size with
    | .error e => (.error e, r)
    | .ok () => if more then receive limit size (acc ++ b) r else (.ok (acc ++ b), r)

/-- Reads the whole body. -/
def body (limit : SizeLimit) (declared : Option Int) (inbox : Inbox) :
    Attempt Bytes × Inbox :=
  match inbox.cached with
  | some b => (.ok b, inbox)
  | none =>
    match checkSize limit (declared.getD 0) with
    | .error e => (.error e, inbox)
    | .ok () =>
      let r := receive limit 0 [] inbox.pending
      match r.1 with
      | .ok b => (.ok b, { pending := r.2, cached := some b })
      | .error e => (.error e, { inbox with pending := r.2 })

end Inbox

/-- A value as a limit. What is no number, or no bound at all, limits nothing; what cannot be compared with
a size is refused when it is compared. -/
def Value.asSizeLimit : Value → SizeLimit
  | .none | .nan _ => .unlimited
  | .int n => .atMost n
  | .bool b => .atMost (if b then 1 else 0)
  | .float x =>
    if x.isInf then (if 0.0 < x then .unlimited else .atMost (-1))
    else .atMost (Decimal.floor x)
  | v => .incomparable v.typeName

/-- Reads the whole body of a request. -/
def Request.body (r : Request) (inbox : Inbox) : Attempt Bytes × Inbox :=
  inbox.body r.maxBodySize r.contentLength

/-- The media type of a content type, in small letters and without parameters. -/
def mediaType (contentType : Option String) : String :=
  match contentType with
  | none => ""
  | some t => Text.lower (Text.strip (String.ofList (Text.cutAt ';' t.toList).1))

/-- The fields of an encoded form: single values as texts, repeated ones as lists. -/
def formValue (text : String) : Value :=
  .ofFields ((group id (formPairs text)).map fun e => (e.1, Value.collapse e.2))

/-- Whether a document was refused for its form, and not for its size. -/
def isMalformed (e : Fault) : Bool := e.errorClass = .jsonDecode || e.errorClass = .unicodeDecode

/-- The value of a body. An empty one is nothing; a malformed one is a bad request. -/
def decodeBody (raw : Bytes) (contentType : Option String) : Attempt Value :=
  if raw.isEmpty then .ok .none
  else
    let media := mediaType contentType
    if media = "application/json" || Text.endsWith "+json" media then
      match Json.readBytes raw with
      | .ok v => .ok v
      | .error e => .error (if isMalformed e then .http (.badRequest (.str "Invalid JSON body")) else e)
    else if media = "application/x-www-form-urlencoded" then
      .ok (formValue (Text.utf8DecodeLossy raw))
    else if media = "multipart/form-data" then Multipart.parse raw (contentType.getD "")
    else if Text.startsWith "text/" media then .ok (.str (Text.utf8DecodeLossy raw))
    else .ok (.bytes raw)

end ServerTree
