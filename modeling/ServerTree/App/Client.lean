import ServerTree.App.Lifespan

/-!
# The client inside the process

A client that reaches an application without a network. It sends what a browser would and reads the
messages of the response back.

## Main definitions
- `ClientRequest`, `ClientRequest.send`: one request
- `visitAll`: a session, with the hooks of startup and shutdown around it
-/

namespace ServerTree

/-- A request of the client. The path may have a query. -/
structure ClientRequest where
  method : String := "GET"
  path : String
  headers : List (String × String) := []
  body : Option Bytes := none
  /-- A value that is sent as JSON instead of the body, unless it is nothing. -/
  json : Option Value := none
  /-- The address of the client. -/
  address : Option (String × Int) := some ("127.0.0.1", 0)

namespace ClientRequest

/-- The methods of requests that have no body. -/
def bodilessMethods : List String := ["get", "head", "options", "delete"]

/-- The refusal of a body or of JSON in a request that has no body. -/
def checkBody (c : ClientRequest) : Attempt Unit :=
  let refused (name : String) : Attempt Unit :=
    refuse (.wrongType ("got an unexpected keyword argument " ++ Text.quoted name))
  if !bodilessMethods.contains (Text.lower c.method) then .ok ()
  else if c.body.isSome then refused "body"
  else if c.json.isSome then refused "json"
  else .ok ()

/-- The headers and the body that are sent. JSON brings its content type unless the headers give one. -/
def content (c : ClientRequest) : Attempt (List (String × String) × Bytes) :=
  match c.json.getD .none with
  | .none => .ok (Assoc.ofList c.headers, c.body.getD [])
  | v => do
    let text ← Json.writeSpaced v
    return (Assoc.update [("content-type", "application/json")] c.headers, asciiBytes text)

/-- The request as it arrives, and its body. -/
def request (c : ClientRequest) : Attempt (Request × Bytes) := do
  c.checkBody
  let (headers, body) ← c.content
  let cut := Text.cutAt '?' c.path.toList
  let raw ← encodeHeaders (headers.map fun h => .tuple [.str h.1, .str h.2])
  let _ ← latin1 (String.ofList cut.1)
  let query ← latin1 (String.ofList (cut.2.getD []))
  return ({
    method := Text.upper c.method
    path := String.ofList cut.1
    headers := ⟨raw⟩
    query := ⟨query⟩
    server := some ("testserver", 80)
    client := c.address }, body)

variable {U : Type}

/-- Sends a request and reads the response. -/
def send (b : Behaviour U) (c : ClientRequest) : Act U (Response Value) := do
  let (request, body) ← Act.ofAttempt c.request
  let messages ← serveRequest b request (Inbox.single body)
  Act.ofAttempt (decodeResponse messages)

end ClientRequest

variable {U : Type}

/-- Gets every path in order. -/
def getAll (b : Behaviour U) : List String → Act U (List (Response Value))
  | [] => return []
  | path :: paths => do
    let r ← ({ path := path } : ClientRequest).send b
    let rs ← getAll b paths
    return r :: rs

/-- A session of the client: the startup hooks, a request for every path, and the shutdown hooks, which
run even when a request fails. -/
def visitAll (b : Behaviour U) (paths : List String) : Act U (List (Response Value)) := do
  Act.freeze
  startUp b
  let r ← Act.attempt (getAll b paths)
  shutDown b
  Act.ofAttempt r

end ServerTree
