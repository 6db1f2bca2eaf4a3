import ServerTree.App.Outcome
import ServerTree.Pipeline.Handler

/-!
# Serving requests

A request passes through the engine middleware, outermost first, and then through the router to the
endpoint of its route. Every failure on the way becomes a response. The response is sent once, and then
every response hook runs.

## Main definitions
- `runCourse`: runs an engine function
- `corsServe`: the cross-origin middleware
- `dispatch`, `serveThrough`: the router and the middleware around it
- `transmit`: puts the answer on the wire
- `serveRequest`: one request from its arrival to its last hook
-/

namespace ServerTree

variable {U : Type}

/-- Lets the application reach a new state. -/
def Act.setEnv (env : Env U) : Act U Unit :=
  modify fun w => { w with env := env }

/-- What a request is passed on to. -/
abbrev Next (U : Type) : Type := Request → Act U Value

/-- Runs an engine function to its end. -/
def runCourse (next : Next U) : Course U → Act U Value
  | .finish env result => do
    Act.setEnv env
    Act.ofAttempt result
  | .next env request resume => do
    Act.setEnv env
    let r ← Act.attempt (next request)
    let world ← get
    runCourse next (resume world.env r)
  | .readBody env request resume => do
    Act.setEnv env
    let r ← receiveBody request
    let world ← get
    runCourse next (resume world.env r)

/-- Calls an engine function with a request. -/
def callEngine (course : Request → Env U → Course U) (next : Next U) (request : Request) :
    Act U Value := do
  let world ← get
  runCourse next (course request world.env)

/-! ## Middleware -/

/-- Asks what is no response to add headers, by the method that a response would have for it. -/
def askForHeaders (b : Behaviour U) (headers : List (String × String)) (v : Value) : Act U Value :=
  headers.foldlM (fun v h => do
    let fn ← Act.ofAttempt (v.part "with_header")
    callInPlace b fn [.str h.1, .str h.2] []) v

/-- Answers preflight requests from allowed origins, and adds the headers that let an allowed origin
read the response. Other requests pass untouched. -/
def corsServe (b : Behaviour U) (spec : CorsSpec Value) (maxAge : Value) (next : Next U) (request : Request) :
    Act U Value := do
  match request.headers.get? "origin" with
  | none => next request
  | some origin =>
    match ← Act.ofAttempt (spec.allowedOrigin origin) with
    | none => next request
    | some allowed =>
      if isPreflight request then do
        let r ← Act.ofAttempt (preflightResponse spec maxAge request allowed)
        return .response r
      else
        match ← next request with
        | .response r => return .response (addCorsHeaders r allowed)
        | v => askForHeaders b (corsHeaders allowed) v

/-- Runs one engine middleware around the next. -/
def EngineMiddleware.serve (b : Behaviour U) (m : EngineMiddleware) (next : Next U) : Next U :=
  match m with
  | .cors spec maxAge => corsServe b spec maxAge next
  | .custom fn => callEngine (b.callAround fn) next

/-- Runs middleware around the last, the first of the list outermost. -/
def serveThrough (b : Behaviour U) (chain : List EngineMiddleware) (last : Next U) : Next U :=
  chain.foldr (fun m next => m.serve b next) last

/-! ## Dispatch -/

/-- An endpoint has nothing to pass a request on to. -/
def nothingNext : Next U := fun _ =>
  Act.refuse (.wrongType "'NoneType' object is not callable")

/-- Passes a request to the endpoint of its route, with the parameters of the path. -/
def dispatch (b : Behaviour U) : Next U := fun request => do
  let world ← get
  if world.app.router.isTooDeepFor request.method request.path then Act.refuse .tooDeep
  match world.app.router.match? request.method request.path with
  | .error miss => Act.fail (.http miss.httpError)
  | .ok found =>
    let request := { request with pathParams := found.params }
    match found.route.endpoint.endpoint with
    | .wrapped w => w.serve b request
    | .custom fn => callEngine (b.callEndpoint fn) nothingNext request

/-- What a request is answered with. -/
def answerRequest (b : Behaviour U) (request : Request) : Act U Value := do
  let world ← get
  match ← Act.attempt (serveThrough b world.app.middleware (dispatch b) request) with
  | .ok v => return v
  | .error f => do
    let r ← answerFailure world.app.config.debug.truthy f request
    return .response r

/-! ## Sending -/

/-- What was answered and its messages. -/
structure Sent where
  answer : Value
  messages : WireResponse

/-- Puts an answer on the wire. Text that cannot be encoded makes it an internal error. -/
def transmit (debug : Bool) (request : Request) (answer : Value) : Act U Sent := do
  let head := request.method == "HEAD"
  match encodeAnswer answer head with
  | .ok messages => return ⟨answer, messages⟩
  | .error f =>
    if f.errorClass = .unicodeEncode then do
      let r ← answerInternalError debug f request
      let messages ← Act.ofAttempt (encodeResponse r head)
      return ⟨.response r, messages⟩
    else Act.fail f

/-- Runs a response hook. A failing hook is logged. -/
def runHook (b : Behaviour U) (request : Request) (response : Value) (elapsed : Float)
    (hook : Hook) : Act U Unit := do
  let r ← Act.withEnv fun env =>
    match hook with
    | .accessLog => logAccess request response elapsed env
    | .custom fn => b.callHook fn request response elapsed env
  match r with
  | .ok () => return ()
  | .error _ =>
    Act.logText .server .error (hook.shown.map fun shown => "Response hook " ++ shown ++ " failed")

/-- Ends the registrations of the application. -/
def Act.freeze : Act U Unit := modify fun w => { w with app := w.app.freeze }

/-- Serves a request of HTTP. -/
def serveRequest (b : Behaviour U) (request : Request) (inbox : Inbox) : Act U WireResponse := do
  Act.freeze
  modify fun w => { w with inbox := inbox }
  let world ← get
  let request := { request with maxBodySize := world.app.config.bodyLimit }
  let answer ← answerRequest b request
  let sent ← transmit world.app.config.debug.truthy request answer
  let after ← get
  let elapsed := (after.env.clock - world.env.clock) * 1000.0
  for hook in world.app.responseHooks do
    runHook b request sent.answer elapsed hook
  return sent.messages

/-- Serves a connection of any kind. Only HTTP is answered. -/
def serveScope (b : Behaviour U) (kind : String) (request : Request) (inbox : Inbox) :
    Act U (Option WireResponse) := do
  if kind = "http" then
    let r ← serveRequest b request inbox
    return some r
  else
    Act.freeze
    return none

end ServerTree
