import ServerTree.Pipeline.Respond

/-!
# Replies

A reply is a response under construction: handlers and middleware set its status and headers and mark it
as sent. A reply that was sent is the response, whatever the handler returns.

## Main definitions
- `Reply` and its operations
- `renderResult`: the response of a handler's result
-/

namespace ServerTree

/-- A response under construction. -/
structure Reply where
  status : Value := .int 200
  headers : List (Value × String) := []
  body : Value := .none
  sent : Bool := false

instance : Inhabited Reply := ⟨{}⟩

namespace Reply

/-- Sets the status. -/
def setStatus (r : Reply) (code : Value) : Reply := { r with status := code }

/-- Sets a header to the text of a value. -/
def setHeader (r : Reply) (name value : Value) : Attempt Reply := do
  let text ← value.text
  let key ← name.asKey
  return { r with headers := Assoc.set key text r.headers }

/-- Sets headers in order, up to the first that is refused. -/
def setHeaders (r : Reply) : List (Value × Value) → Reply × Attempt Unit
  | [] => (r, .ok ())
  | (name, value) :: es =>
    match r.setHeader name value with
    | .ok r => r.setHeaders es
    | .error f => (r, .error f)

/-- Marks the reply as sent with a body. Sending again replaces the body. -/
def send (r : Reply) (body : Value) : Reply := { r with body := body, sent := true }

/-- The reply as a descriptor. -/
def descriptor (r : Reply) : Descriptor :=
  { status := r.status, headers := r.headers.map fun e => (e.1, .str e.2), body := r.body }

/-- The response of a reply. -/
def response (r : Reply) : Attempt (Response Value) := r.descriptor.response

end Reply

variable {U : Type}

/-- The response of a handler's result. -/
def renderResult (call : Expander U) (result : Value) (reply : Reply) : Expand U (Response Value) :=
  if reply.sent then Expand.ofAttempt reply.response
  else
    match result with
    | .none => return .empty
    | .response r => return r
    | v =>
      if isResponseNode v then do
        let d ← describeResponse call v
        Expand.ofAttempt d.response
      else
        match v with
        | .str _ | .bytes _ => return .plain v reply.status
        | v => Expand.ofAttempt (jsonResponse v reply.status)

end ServerTree
