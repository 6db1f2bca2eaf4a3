import ServerTree.Config.Derive

/-!
# Cross-origin headers

A specification allows the literal any-origin mark, one origin, several, every origin, or none. A
request from an allowed origin gets the headers that let the origin read the response; a preflight
request is answered without going further.

## Main definitions
- `CorsSpec.allowedOrigin`: the value that an origin is answered with
- `addCorsHeaders`, `preflightResponse`
-/

namespace ServerTree

namespace Response

variable {V : Type}

/-- Appends a header. -/
def withHeader (r : Response V) (name value : V) : Response V :=
  { r with headers := r.headers ++ [(name, value)] }

/-- Appends headers. -/
def withHeaders (r : Response V) (headers : List (V × V)) : Response V :=
  { r with headers := r.headers ++ headers }

/-- Replaces the status. -/
def withStatus (r : Response V) (status : V) : Response V := { r with status := status }

/-- Replaces the content type. -/
def withContentType (r : Response V) (contentType : V) : Response V :=
  { r with contentType := contentType }

end Response

/-- A response with a body, a status and nothing else. -/
def Response.plain (body : Value) (status : Value) : Response Value :=
  ⟨body, status, .str textContentType, []⟩

/-- A response without a body. -/
def Response.empty : Response Value := .plain (.str "") (.int 204)

/-- Header fields of texts as values. -/
def Value.ofPairs (headers : List (String × String)) : List (Value × Value) :=
  headers.map fun h => (.str h.1, .str h.2)

namespace CorsSpec

/-- The value that an origin is answered with, when the specification allows it. -/
def allowedOrigin (s : CorsSpec Value) (origin : String) : Attempt (Option String) :=
  match s.origin with
  | .bool false => .ok none
  | .bool true => .ok (some origin)
  | .str allowed =>
    if allowed = "*" then .ok (some "*")
    else if allowed = origin then .ok (some origin)
    else .ok none
  | .tuple allowed | .list allowed =>
    if allowed.any (· == Value.str "*") then .ok (some "*")
    else if allowed.any (· == Value.str origin) then .ok (some origin)
    else .ok none
  | .mapping entries =>
    if entries.any (·.1 == Value.str "*") then .ok (some "*")
    else if entries.any (·.1 == Value.str origin) then .ok (some origin)
    else .ok none
  | v => refuse (.wrongType ("argument of type '" ++ v.typeName ++ "' is not iterable"))

end CorsSpec

/-- The headers that let an origin read a response. -/
def corsHeaders (allowed : String) : List (String × String) :=
  ("Access-Control-Allow-Origin", allowed) :: if allowed = "*" then [] else [("Vary", "Origin")]

/-- Adds the headers that let an origin read a response. -/
def addCorsHeaders (r : Response Value) (allowed : String) : Response Value :=
  r.withHeaders (Value.ofPairs (corsHeaders allowed))

/-- Whether a request asks for permission only. -/
def isPreflight (r : Request) : Bool :=
  r.method == "OPTIONS" && ((r.headers.get? "access-control-request-method").getD "") != ""

/-- Texts in one row; `position` is that of the first. -/
def textRow (position : Nat) : List Value → Attempt (List String)
  | [] => .ok []
  | .str s :: vs => do
    let r ← textRow (position + 1) vs
    return s :: r
  | v :: _ =>
    refuse (.wrongType ("sequence item " ++ toString position ++ ": expected str instance, " ++
      v.typeName ++ " found"))

/-- The answer to a preflight request from an allowed origin. The methods must be texts. -/
def preflightResponse (s : CorsSpec Value) (maxAge : Value) (request : Request) (allowed : String) :
    Attempt (Response Value) := do
  let methods ← textRow 0 s.methods
  let base := (addCorsHeaders .empty allowed).withHeader
    (.str "Access-Control-Allow-Methods") (.str (Text.join ", " methods))
  let asked := (request.headers.get? "access-control-request-headers").getD ""
  let base := if asked = "" then base
    else base.withHeader (.str "Access-Control-Allow-Headers") (.str asked)
  let seconds ← maxAge.text
  return base.withHeader (.str "Access-Control-Max-Age") (.str seconds)

end ServerTree
