import ServerTree.Script.Eval

/-!
# Running bodies

The steps of a body run in order until one returns, fails, or pauses for something that only the caller
can give: the end of a wait, the answer to a request that is passed on, the body of a request, or a change
of the application. What is left of a paused body is a list of steps again.

## Main definitions
- `Pause`, `Control`: how steps end
- `runStep`, `runSteps`
-/

namespace ServerTree.Script

/-- What a body waits for. -/
inductive Pause where
  | hang
  | next (headers : List (Value × Value))
  | body
  | plugin (step : PluginStep)

/-- How steps end. -/
inductive Control where
  | goesOn
  | returns (v : Value)
  | pauses (why : Pause) (rest : List Step)

instance : Inhabited Control := ⟨.goesOn⟩

/-! ## Effects -/

/-- Calls a method of the reply of the context, which may be refused part of the way. -/
def changeReply (name : String) (arguments : List Value) (f : Reply → Reply × Attempt Unit) : Run Unit := do
  let frame ← get
  match frame.caller, ← Run.ofAttempt (frame.caller.part "reply") with
  | .context fields reply, .reply => do
    let r := f reply
    set { frame with caller := .context fields r.1 }
    Run.ofAttempt r.2
  | _, v => do
    let _ ← Run.callMethod v name arguments

/-- Makes a record with the logger of the context. -/
def record (severity : Severity) (message : Value) : Run Unit := do
  let frame ← get
  match ← Run.ofAttempt (frame.caller.part "log") with
  | .logger l _ =>
    set { frame with env := { frame.env with log := l.emit severity message frame.env.log } }
  | v => do
    let _ ← Run.callMethod v (Text.lower severity.label) [message]

/-- Sets an attribute of the context. -/
def assignField (name v : Value) : Run Unit := do
  let key ← Run.ofAttempt (attributeName name)
  let frame ← get
  match frame.caller with
  | .context fields reply => do
    let c ← Run.ofAttempt (FieldChange.ofAttribute name v)
    set { frame with caller := .context (c.apply fields) reply }
  | .value (.failure (.raised form arguments attributes id)) => do
    let r ← Run.ofAttempt (setAttribute form (arguments, attributes) key v)
    set { frame with caller := .value (.failure (.raised form r.1 r.2 id)) }
  | c => Run.refuse (c.lacks key)

/-! ## Steps -/

mutual

/-- Runs a step. -/
def runStep : Step → Run Control
  | .ret e => do
    let v ← eval e
    return .returns v
  | .fail e => do
    let f ← evalFailure e
    throw f
  | .trace e => do
    let v ← eval e
    Run.modifyState fun s => s.note (.value v)
    return .goesOn
  | .branch test equals yes no => do
    let a ← eval test
    let b ← eval equals
    if a.eq b then runSteps yes else runSteps no
  | .setStatus code => do
    let v ← eval code
    changeReply "status" [v] fun r => (r.setStatus v, .ok ())
    return .goesOn
  | .setHeader name value => do
    let n ← eval name
    let v ← eval value
    changeReply "header" [n, v] fun r => r.setHeaders [(n, v)]
    return .goesOn
  | .setHeaders headers => do
    let v ← eval headers
    changeReply "headers" [v] fun r =>
      match v.asItems with
      | .ok es => r.setHeaders es
      | .error e => (r, .error e)
    return .goesOn
  | .send body => do
    let v ← eval body
    changeReply "send" [v] fun r => (r.send v, .ok ())
    return .goesOn
  | .log severity message => do
    let v ← eval message
    record severity v
    return .goesOn
  | .assign key e => do
    let k ← eval key
    let v ← eval e
    assignField k v
    return .goesOn
  | .tick seconds => do
    modify fun frame => { frame with env := { frame.env with clock := frame.env.clock + seconds } }
    return .goesOn
  | .hang => do
    let frame ← get
    return if frame.env.user.released then .goesOn else .pauses .hang []
  | .route method path endpoint name => do
    let v ← eval endpoint
    return .pauses (.plugin (.route method path v name)) []
  | .middleware use => do
    let v ← eval use
    return .pauses (.plugin (.middleware v)) []
  | .onResponse hook => do
    let v ← eval hook
    return .pauses (.plugin (.onResponse v)) []
  | .next headers => do
    let hs ← evalPairs headers
    return .pauses (.next hs) []
  | .returnResponse => do
    let frame ← get
    return .returns frame.response
  | .returnBody => return .pauses .body []

/-- Runs steps in order. -/
def runSteps : List Step → Run Control
  | [] => return .goesOn
  | s :: ss => do
    match ← runStep s with
    | .goesOn => runSteps ss
    | .returns v => return .returns v
    | .pauses why rest => return .pauses why (rest ++ ss)

end

mutual

/-- How many steps a step is. -/
def Step.size : Step → Nat
  | .branch _ _ yes no => 1 + Step.sizes yes + Step.sizes no
  | _ => 1

/-- How many steps a body is. -/
def Step.sizes : List Step → Nat
  | [] => 0
  | s :: ss => s.size + Step.sizes ss

end

/-- Runs a body until it ends or pauses. -/
def advance (body : List Step) (frame : Frame) : Except Fault Control × Frame :=
  (runSteps body).run frame

end ServerTree.Script
