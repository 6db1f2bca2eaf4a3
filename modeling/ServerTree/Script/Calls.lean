import ServerTree.Script.Run

/-!
# Calling scripts

Each role calls a function with arguments of its own and makes of its pauses what the role allows: handlers
and scoped middleware may wait, engine functions may pass a request on, plugins may change the application.

## Main definitions
- `callPlain`, `callsTo`: functions that are called with any arguments
- `callHandler`, `resumeCall`: handlers and scoped middleware
- `engineCourse`, `pluginSteps`: functions that call back
- `callHook`, `callBare`: hooks, and functions without arguments
- `defineComposite`, `callComposite`: composites
-/

namespace ServerTree.Script

/-- The body of a function and the scope that it stands in. -/
structure Body where
  steps : List Step
  isAsync : Bool
  scope : Scope

/-- The refusal to call a composite with arguments that are not named. -/
def positional (name : String) (given : Nat) : Refusal :=
  .wrongType (name ++ "() takes 0 positional arguments but " ++ toString given ++
    (if given = 1 then " was given" else " were given"))

/-- The body of a function that is called with a number of arguments, none of them named. -/
def bodyOf (s : State) (f : Func) (given : Nat) : Attempt Body :=
  match s.code[f.id]? with
  | some (.function steps isAsync scope) => .ok ⟨steps, isAsync, scope⟩
  | _ => refuse (positional f.name given)

/-- The failure of a step that its role makes no sense of. -/
def Pause.failure (why : Pause) (c : Caller) : Fault :=
  match why, c with
  | .next _, .plugin options _ => .refused (notCallable (.mapping options))
  | .next _, _ => .refused Caller.tooFew
  | .plugin (.route ..), c => .refused (c.lacking "route")
  | .plugin (.middleware _), c => .refused (c.lacking "add_middleware")
  | .plugin (.onResponse _), c => .refused (c.lacking "on_response")
  | .body, c => .refused (c.lacking "body")
  | .hang, _ => Run.outOfPlace

/-- What a function gives that ended without pausing. -/
def Control.value (c : Control) (caller : Caller) : Attempt Value :=
  match c with
  | .goesOn => .ok .none
  | .returns v => .ok v
  | .pauses why _ => .error (why.failure caller)

/-! ## Ends of calls -/

/-- How a call that may wait ends. The rest of one that waits gets a number. -/
def settledOf (scope : Scope) (r : Except Fault Control × Frame) : Settled × Env State :=
  match r.1 with
  | .error f => (.raised f, r.2.env)
  | .ok (.pauses .hang rest) =>
    let d := r.2.env.user.define (.rest rest scope r.2.caller)
    (.suspended d.1, { r.2.env with user := d.2 })
  | .ok c =>
    match c.value r.2.caller with
    | .ok v => (.returned v, r.2.env)
    | .error f => (.raised f, r.2.env)

/-! ## Composites -/

/-- Gives a composite its number. Its defaults are evaluated once. -/
def defineComposite (c : Composite Expr) : Run Unit := do
  let params ← c.params.mapM fun p => do
    let fallback ← evalOption p.2
    return (p.1, fallback)
  Run.modifyState fun s => s.defineNamed c.name (.composite ⟨c.name, params, c.takesAll, c.body⟩)

/-- The parameters without a value. -/
def Composite.unboundNames (c : Composite Value) (given : List (String × Value)) : List String :=
  c.params.filterMap fun p => if p.2.isNone && !Assoc.has p.1 given then some p.1 else none

/-- The arguments of a composite: every parameter has the one that is given or its default. -/
def bindArguments (c : Composite Value) (given : List (String × Value)) :
    Attempt (List (String × Value)) :=
  match given.find? fun e => !c.takesAll && !Assoc.has e.1 c.params with
  | some e => refuse (Node.unexpected c.name e.1)
  | none =>
    let missing := c.unboundNames given
    if !missing.isEmpty then refuse (Node.unbound c.name "keyword-only" missing)
    else
      .ok (c.params.map (fun p => (p.1, (Assoc.get? p.1 given <|> p.2).getD .none)) ++
        given.filter fun e => !Assoc.has e.1 c.params)

/-- Runs a composite with named arguments. -/
def runComposite (c : Composite Value) (given : List (String × Value)) : Run Value := do
  let arguments ← Run.ofAttempt (bindArguments c given)
  modify fun frame => { frame with scope := { arguments := some arguments } }
  let control ← runSteps c.body
  Run.ofAttempt (control.value .nobody)

/-! ## Calls with any arguments -/

/-- How a computation ends that cannot wait. -/
def settledAs (r : Attempt Value × Env State) : Settled × Env State :=
  match r.1 with
  | .ok v => (.returned v, r.2)
  | .error f => (.raised f, r.2)

/-- The first of the arguments that are all there is. -/
def callerOfAll (arguments : List Value) : Caller :=
  (arguments.head?.map Caller.value).getD .nobody

/-- Calls a function with arguments. Functions take any number of them, but none that is named; composites
take none but named ones. An asynchronous function does nothing until it is waited for. -/
def callPlain (calls : Calls) : Calls := fun f arguments named env =>
  match env.user.code[f.id]? with
  | some (.function steps isAsync scope) =>
    match named, isAsync with
    | e :: _, _ => (.raised (.refused (Node.unexpected f.name e.1)), env)
    | [], true =>
      let d := env.user.define (.rest steps scope (callerOfAll arguments))
      (.returned (.pending d.1), { env with user := d.2 })
    | [], false =>
      settledOf scope
        (advance steps { env := env, calls := calls, scope := scope, caller := callerOfAll arguments })
  | some (.composite c) =>
    if arguments.isEmpty then settledAs (atTop calls (runComposite c named) env)
    else (.raised (.refused (positional f.name arguments.length)), env)
  | some (.constructor name) => settledAs (Node.ofFields name named, env)
  | _ => (.raised (.refused (positional f.name arguments.length)), env)

/-- Calls that may be nested a number of times. -/
def callsTo : Nat → Calls
  | 0 => noCalls
  | n + 1 => callPlain (callsTo n)

/-- How deep calls may be nested. -/
def callLimit : Nat := 200

/-- What calls inside of a body do. -/
def innerCalls : Calls := callsTo callLimit

/-! ## Waiting -/

/-- Lets a call that waits go on. -/
def resumeCall (id : Nat) (env : Env State) : Settled × Env State :=
  match env.user.code[id]? with
  | some (.rest steps scope caller) =>
    settledOf scope
      (advance steps { env := env, calls := innerCalls, scope := scope, caller := caller })
  | _ => (.raised Run.outOfPlace, env)

/-- Waits for what a call gave, if it is a call itself. -/
def awaitOnce (r : Settled × Env State) : Settled × Env State :=
  match r.1 with
  | .returned (.pending id) => resumeCall id r.2
  | _ => r

/-! ## Handlers and scoped middleware -/

/-- The arguments of a handler or a scoped middleware. -/
def callerOf (argument : Argument) (reply : Reply) : Caller :=
  match argument with
  | .context fields => .context fields reply
  | .value v => .value v

/-- Calls a handler or a scoped middleware. -/
def callHandler (f : Func) (argument : Argument) (reply : Reply) (env : Env State) :
    ScopedResult State :=
  match bodyOf env.user f 1 with
  | .error e => ⟨.raised e, argument, reply, env⟩
  | .ok body =>
    let r := advance body.steps
      { env := env, calls := innerCalls, scope := body.scope, caller := callerOf argument reply }
    let settled := awaitOnce (settledOf body.scope r)
    match r.2.caller with
    | .context fields reply => ⟨settled.1, .context fields, reply, settled.2⟩
    | _ => ⟨settled.1, argument, reply, settled.2⟩

/-! ## Engine functions -/

/-- Adds headers to a response; anything else is asked to add them. -/
def withHeaders (v : Value) (headers : List (Value × Value)) : Run Value :=
  headers.foldlM (fun v h =>
    match v with
    | .response r => return .response (r.withHeader h.1 h.2)
    | v => Run.callMethod v "with_header" [h.1, h.2]) v

/-- What an engine function gives. One that is not asynchronous cannot be waited for. -/
def awaited (isAsync : Bool) (r : Attempt Value) : Attempt Value :=
  if isAsync then r
  else r.bind fun v => refuse (.wrongType
    ("object " ++ v.typeName ++ " can't be used in 'await' expression"))

/-- The course of an engine function with the given steps left. The fuel is the number of steps. -/
def engineCourse (isAsync : Bool) (request : Request) : Nat → List Step → Frame → Course State
  | 0, _, frame => .finish frame.env (.error Run.outOfPlace)
  | n + 1, steps, frame =>
    let r := advance steps frame
    let frame := r.2
    match r.1 with
    | .error f => .finish frame.env (.error f)
    | .ok (.pauses (.next headers) rest) =>
      .next frame.env request fun env answer =>
        match answer with
        | .error f => .finish env (.error f)
        | .ok v =>
          let r := (withHeaders v headers).run { frame with env := env }
          match r.1 with
          | .error f => .finish r.2.env (.error f)
          | .ok v => engineCourse isAsync request n rest { r.2 with response := v }
    | .ok (.pauses .body _) =>
      .readBody frame.env request fun env answer =>
        .finish env (awaited isAsync
          (answer.map fun b => .response (Response.plain (.bytes b) (.int 200))))
    | .ok c =>
      match c.value frame.caller with
      | .ok v => .finish frame.env (awaited isAsync (.ok v))
      | .error f => .finish frame.env (.error f)

/-- Calls an engine function with a request and `given` arguments in all. -/
def callEngine (f : Func) (given : Nat) (request : Request) (env : Env State) : Course State :=
  match bodyOf env.user f given with
  | .error e => .finish env (.error e)
  | .ok body =>
    engineCourse body.isAsync request (Step.sizes body.steps + 1) body.steps
      { env := env, calls := innerCalls, scope := body.scope, caller := .value (.request request) }

/-! ## Plugins -/

/-- The course of a plugin with the given steps left. The fuel is the number of steps. -/
def pluginSteps : Nat → List Step → Frame → PluginCourse State
  | 0, _, frame => .finish frame.env (.error Run.outOfPlace)
  | n + 1, steps, frame =>
    let r := advance steps frame
    let frame := r.2
    match r.1 with
    | .error f => .finish frame.env (.error f)
    | .ok (.pauses (.plugin step) rest) =>
      .act frame.env step fun env answer =>
        match answer with
        | .error f => .finish env (.error f)
        | .ok () => pluginSteps n rest { frame with env := env }
    | .ok c =>
      .finish frame.env ((c.value frame.caller).map fun _ => ())

/-- Calls a plugin. -/
def callPlugin (f : Func) (options : List (Value × Value)) (config : RouteConfig Value)
    (env : Env State) : PluginCourse State :=
  match bodyOf env.user f 3 with
  | .error e => .finish env (.error e)
  | .ok body =>
    pluginSteps (Step.sizes body.steps + 1) body.steps
      { env := env, calls := innerCalls, scope := body.scope, caller := .plugin options config }

/-! ## Hooks and functions without arguments -/

/-- Calls a function with arguments of a role. -/
def callWith (f : Func) (given : Nat) (caller : Caller) (env : Env State) : Settled × Env State :=
  match bodyOf env.user f given with
  | .error e => (.raised e, env)
  | .ok body =>
    awaitOnce (settledOf body.scope (advance body.steps
      { env := env, calls := innerCalls, scope := body.scope, caller := caller }))

/-- Calls a response hook; one that waits is waited for. -/
def callHook (f : Func) (request : Request) (response : Value) (elapsed : Float) (env : Env State) :
    Attempt Unit × Env State :=
  let r := callWith f 3 (.hook request response elapsed) env
  match r.1 with
  | .returned _ => (.ok (), r.2)
  | .raised e => (.error e, r.2)
  | .suspended _ => (.error Run.outOfPlace, r.2)

/-- Calls a function without arguments. A composite gives all its parameters their defaults. -/
def callBare (f : Func) (env : Env State) : Settled × Env State :=
  match env.user.code[f.id]? with
  | some (.composite c) => settledAs (atTop innerCalls (runComposite c []) env)
  | _ => callWith f 0 .nobody env

/-- Calls a composite, or a function as one. -/
def callComposite (f : Func) (props : List (String × Value)) (children : Option (List Value)) :
    Expand State Value :=
  ExceptT.mk fun s =>
    let given := props ++ (children.map fun cs => ("children", Value.tuple cs)).toList
    let r := innerCalls f [] given { user := s }
    match r.1 with
    | .returned v => (.ok v, r.2.user)
    | .raised e => (.error e, r.2.user)
    | .suspended _ => (.error Run.outOfPlace, r.2.user)

end ServerTree.Script
