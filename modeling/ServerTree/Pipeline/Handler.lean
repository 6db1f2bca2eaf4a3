import ServerTree.App.World
import ServerTree.Pipeline.Context
import ServerTree.Pipeline.Signal

/-!
# Serving a route

A route of the tree is served in stages: its limiter, the decoding of the body, its middleware in order,
and its handler. Every stage can end the request with a response of its own; the next stage runs only if
none did.

Each middleware gets a copy of the context, with the service and the configuration of the place where it
was declared. What it sets on its copy is lost; what it does to the reply is not, and the fields that its
result augments are merged into the context of all later stages.

## Main definitions
- `Value.status?`, `Failure.status`: the status that a value or a failure asks for
- `Visit`, `coreFields`: what the stages of a request share
- `runMiddleware`, `runChain`: the middleware stage
- `runHandler`, `WrappedHandler.serve`
-/

namespace ServerTree

/-! ## The status of a failure -/

/-- A value as the status of an error. -/
def Value.asErrorStatus? : Value → Option Int
  | .int n => if 400 ≤ n ∧ n ≤ 599 then some n else Option.none
  | _ => Option.none

/-- The error status that a value asks for. -/
def Value.status? (v : Value) : Option Int :=
  ((v.attribute? "status_code").bind asErrorStatus?) <|> ((v.attribute? "status").bind asErrorStatus?)

/-- The status that a failure asks for, or the fallback. -/
def Failure.status (f : Fault) (fallback : Int) : Int :=
  ((Value.failure f).status?).getD fallback

/-! ## The context -/

/-- What the stages of a request share: the fields of the context, and the reply. -/
structure Visit where
  fields : Fields
  reply : Reply := {}

instance : Inhabited Visit := ⟨⟨[], {}⟩⟩

/-- The fields of a context before any middleware has run. `level` is the one that lets records through. -/
def coreFields (w : WrappedHandler) (request : Request) (body : Value) (level : Int) : Fields :=
  List.map (fun e => (Value.str e.1, e.2)) [
    ("params", .ofFields (request.pathParams.map fun e => (e.1, .str e.2))),
    ("query", .query request.query),
    ("body", body),
    ("headers", .headers request.headers),
    ("request", .request request),
    ("reply", .reply),
    ("service", w.config.settings.service),
    ("log", .logger w.logger level),
    ("config", .config w.config)]

/-- The fields that a middleware sees: its own service and configuration instead of the route's. -/
def ScopedMiddleware.view (m : ScopedMiddleware Value) (fields : Fields) : Fields :=
  Assoc.update fields [(.str "service", m.captured.service), (.str "config", .config m.config)]

/-- How a stage ends: the next one runs, or the request is answered. -/
inductive Progress where
  | proceed (v : Visit)
  | answered (answer : Value)

instance : Inhabited Progress := ⟨.proceed default⟩

variable {U : Type}

/-- Calls a handler or a middleware on an argument, with the reply of a visit. -/
def callStage (b : Behaviour U) (fn : Value) (argument : Argument) (reply : Reply) :
    Act U (Settled × Reply) :=
  Act.withEnv fun env =>
    let r := b.callScoped fn argument reply env
    ((r.outcome, r.reply), r.env)

/-- Calls what stands in the place of a method. -/
def callInPlace (b : Behaviour U) (fn : Value) (arguments : List Value) (named : List (String × Value)) :
    Act U Value := do
  match ← Act.withEnv (b.callValue fn arguments named) with
  | .returned v => return v
  | .raised f => Act.fail f
  | .suspended _ => throw .unsettled

/-! ## Middleware -/

/-- The answer of a request that is halted: what was sent, or nothing. -/
def haltedAnswer (b : Behaviour U) (v : Visit) : Act U Value := do
  match Assoc.get? (.str "reply") v.fields with
  | some .reply => do
    let r ← Act.ofAttempt (if v.reply.sent then v.reply.response else .ok .empty)
    return .response r
  | some other => do
    let sent ← Act.ofAttempt (other.part "sent")
    if sent.truthy then
      let fn ← Act.ofAttempt (other.part "to_response")
      callInPlace b fn [] []
    else return .response .empty
  | none => Act.refuse (.noAttribute "'HandlerContext' object has no attribute 'reply'")

/-- What a signal does to a request. -/
def applySignal (b : Behaviour U) (v : Visit) : Signal Value → Act U Progress
  | .proceed => return .proceed v
  | .halt => do
    let r ← haltedAnswer b v
    return .answered r
  | .augment source =>
    match methodField? "augment" v.fields with
    | some fn => do
      let _ ← callInPlace b fn [source] []
      return .proceed v
    | none => do
      warnReserved source
      return .proceed { v with fields := mergeFields v.fields source }
  | .fail status message => do
    let shown ← Act.ofAttempt (sanitizeMessage message "Request failed")
    return .answered (.response (errorResponse status shown []))

/-- The answer of a request whose middleware failed. -/
def middlewareFailed (name : String) (timeout : Value) (f : Fault) : Act U Progress := do
  if f.errorClass = .middlewareTimeout then
    Act.logText .pipeline .warning
      (timeout.text.map fun limit => "Middleware " ++ name ++ " timed out after " ++ limit ++ "s")
    let status ← Act.ofAttempt ((Value.failure f).part "status_code")
    let message ← Act.ofAttempt f.text
    return .answered (.response (errorResponse status message []))
  else
    let logged ← Act.ofAttempt (failureForLog f)
    Act.log .pipeline .warning ("Middleware " ++ name ++ " failed: " ++ logged)
    let shown ← Act.ofAttempt (sanitizeFailure f "Middleware error")
    return .answered (.response (errorResponse (.int (f.status 500)) shown []))

/-- The failure of a middleware that did not settle in time. -/
def middlewareTimedOut : Fault := .refused (.timedOut "Middleware timeout")

/-- Gives up a call that did not settle. -/
def abandon (rest : Nat) : Act U Unit :=
  modify fun w => { w with abandoned := w.abandoned ++ [rest] }

/-- The refusal of a time limit that is no number of seconds. -/
def checkTimeout : Value → Attempt Unit
  | .none | .bool _ | .float _ | .nan _ => .ok ()
  | .int n =>
    if (Float.ofInt n).isInf then refuse (.notFinite "int too large to convert to float") else .ok ()
  | v => refuse (.wrongType ("unsupported operand type(s) for +: 'float' and '" ++ v.typeName ++ "'"))

/-- Calls a function within a time limit; one that makes no sense fails before the call. -/
def callWithin (timeout : Value) (call : Act U (Settled × Reply)) (reply : Reply) :
    Act U (Settled × Reply) :=
  match checkTimeout timeout with
  | .ok () => call
  | .error f => return (.raised f, reply)

/-- What a middleware is called with: its view of a visit, or what stands in the place of the method that
makes it. -/
def viewOf (b : Behaviour U) (m : ScopedMiddleware Value) (v : Visit) : Act U Argument := do
  match methodField? "fork" v.fields with
  | none => return .context (m.view v.fields)
  | some fn => do
    let view ← callInPlace b fn [] [("service", m.captured.service), ("config", .config m.config)]
    return .value view

/-- Calls a middleware on its view of a visit; what cannot be called fails before it is called. -/
def callMiddleware (b : Behaviour U) (timeout : Value) (m : ScopedMiddleware Value) (view : Argument)
    (reply : Reply) : Act U (Settled × Reply) :=
  if m.fn.isCallable then
    callWithin timeout (callStage b m.fn view reply) reply
  else return (.raised (.refused (.wrongType "the first argument must be callable")), reply)

/-- Runs one middleware. Without a time limit, one that does not settle is waited for. -/
def runMiddleware (b : Behaviour U) (timeout : Value) (m : ScopedMiddleware Value) (v : Visit) :
    Act U Progress := do
  let view ← viewOf b m v
  let r ← callMiddleware b timeout m view v.reply
  let v := { v with reply := r.2 }
  match r.1 with
  | .returned result => do
    let signal ← Act.expand (interpret b.expand result)
    applySignal b v signal
  | .raised f => middlewareFailed m.fn.functionName timeout f
  | .suspended rest =>
    match timeout with
    | .none => throw .unsettled
    | _ => do
      abandon rest
      middlewareFailed m.fn.functionName timeout middlewareTimedOut

/-- Runs middleware in order, up to the first that answers. -/
def runChain (b : Behaviour U) (timeout : Value) :
    List (ScopedMiddleware Value) → Visit → Act U Progress
  | [], v => return .proceed v
  | m :: ms, v => do
    match ← runMiddleware b timeout m v with
    | .proceed v' => runChain b timeout ms v'
    | .answered r => return .answered r

/-! ## The handler -/

/-- The answer of a request whose handler failed. -/
def handlerFailed (route : String) (reply : Reply) (f : Fault) : Act U (Response Value) := do
  let status := f.status 500
  if 500 ≤ status then
    Act.log .pipeline .error ("Handler for " ++ route ++ " failed")
  else
    Act.log .pipeline .info ("Handler for " ++ route ++ " raised " ++ toString status)
  if reply.sent then Act.ofAttempt reply.response
  else do
    let shown ← Act.ofAttempt (sanitizeFailure f "Internal server error")
    return errorResponse (.int status) shown []

/-- Runs the handler and renders its result. -/
def runHandler (b : Behaviour U) (w : WrappedHandler) (v : Visit) : Act U (Response Value) := do
  let r ← callStage b w.handler (.context v.fields) v.reply
  match r.1 with
  | .returned result => Act.expand (renderResult b.expand result r.2)
  | .raised f => handlerFailed w.route r.2 f
  | .suspended _ => throw .unsettled

/-! ## All stages -/

/-- Counts a request with the limiter of an endpoint. Gives the seconds to wait when it is denied. -/
def checkLimit (w : WrappedHandler) (request : Request) : Act U (Option Int) := do
  match w.config.settings.rateLimit with
  | .none => return none
  | .rateLimitSpec spec => do
    let world ← get
    let limiter := (Assoc.get? w.number world.limiters).getD {}
    let r := spec.check world.env.clock (.str (identityKey request spec.keyHeader)) limiter
    set { world with limiters := Assoc.set w.number r.2 world.limiters }
    let verdict ← Act.ofAttempt r.1
    return if verdict.allowed then none else some verdict.retryAfter
  | v => Act.refuse (noAttribute v "key_header")

/-- The answer of a request that was denied. -/
def deniedResponse (seconds : Int) : Response Value :=
  errorResponse (.int 429) "Too many requests" [("Retry-After", toString seconds)]

/-- Reads the whole body of a request. -/
def receiveBody (request : Request) : Act U (Attempt Bytes) := do
  let world ← get
  let r := request.body world.inbox
  set { world with inbox := r.2 }
  return r.1

/-- Reads and decodes the body of a request. -/
def receiveValue (request : Request) : Act U Value := do
  let raw ← Act.ofAttempt (← receiveBody request)
  Act.ofAttempt (decodeBody raw request.contentType)

/-- Serves a request that was routed to a handler of the tree. -/
def WrappedHandler.serve (b : Behaviour U) (w : WrappedHandler) (request : Request) :
    Act U Value := do
  match ← checkLimit w request with
  | some seconds => return .response (deniedResponse seconds)
  | none => do
    let body ← receiveValue request
    let level := (← get).env.log.effective
    match ← runChain b w.timeout w.config.middleware ⟨coreFields w request body level, {}⟩ with
    | .answered r => return r
    | .proceed v => return .response (← runHandler b w v)

/-! ## Calls that were given up -/

/-- Lets a call that was given up go on. Its result is dropped and its failure is only logged. -/
def settle (b : Behaviour U) (rest : Nat) : Act U Unit := do
  match ← Act.withEnv (b.resume rest) with
  | .returned _ => return ()
  | .raised f =>
    match failureForLog f with
    | .ok shown => Act.log .pipeline .debug ("Timed-out middleware later failed: " ++ shown)
    | .error _ => return ()
  | .suspended rest' => abandon rest'

/-- Lets every call that was given up go on. -/
def settleAll (b : Behaviour U) : Act U Unit := do
  let world ← get
  set { world with abandoned := [] }
  for rest in world.abandoned do
    settle b rest

end ServerTree
