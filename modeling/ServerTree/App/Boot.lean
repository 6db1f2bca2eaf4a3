import ServerTree.App.Launch
import ServerTree.Directory.Mount

/-!
# Walking a tree

A tree is walked once, depth first. Every node acts when it is reached: scoping nodes derive a new
configuration for what is below them, routes and directories register handlers with the configuration in
effect, plugins and providers run. A node that cannot act ends the walk; a failing plugin and a second
cross-origin node do not.

## Main definitions
- `visit`: what a node does, and the configuration for its children
- `walk`: a tree
- `build`: an application from a tree
-/

namespace ServerTree

variable {U : Type}

/-! ## Plugins -/

/-- Does to the application what a plugin asks for. -/
def PluginStep.run : PluginStep → Act U Unit
  | .route method path endpoint name => Act.addRouteOf method path (.custom endpoint) .none name
  | .middleware use => Act.register fun app => app.addMiddleware (.custom use)
  | .onResponse hook => Act.register fun app => app.onResponse (.custom hook)

/-- Runs a plugin to its end. -/
def runPlugin : PluginCourse U → Act U Unit
  | .finish env result => do
    modify fun w => { w with env := env }
    Act.ofAttempt result
  | .act env step resume => do
    modify fun w => { w with env := env }
    let r ← Act.attempt step.run
    let world ← get
    runPlugin (resume world.env r)

/-- The name of a plugin in the log. -/
def pluginTitle (handler name : Value) : Attempt String :=
  if name.truthy then name.text else .ok (handler.functionName?.getD "plugin")

/-- Runs the function of a plugin node. -/
def startPlugin (b : Behaviour U) (handler options : Value) (c : RouteConfig Value) :
    Act U Unit := do
  let given ← Act.ofAttempt (asEntries options)
  let world ← get
  runPlugin (b.callPlugin handler given c world.env)

/-! ## Nodes -/

/-- A refused value of a node is a mistake of the configuration. -/
def settingFailure (f : Fault) : Fault :=
  if f.errorClass = .value then .refused (.badSetting f.message) else f

/-- Asks a provider for its service. -/
def requestService (b : Behaviour U) (provider : Value) : Act U Value := do
  match ← Act.withEnv (b.callProvide provider) with
  | .returned service => do
    Act.log .tree .info "Database provider ready"
    return service
  | .suspended _ => throw .unsettled
  | .raised f => do
    Act.logText .tree .error (f.text.map ("Database provider failed: " ++ ·))
    let reason ← Act.ofAttempt f.text
    Act.refuse (.providerFailed reason)

/-- Enables cross-origin requests; when that is refused, the refusal is only logged. -/
def tryCors (spec : CorsSpec Value) : Act U Unit := do
  match ← Act.attempt (Act.register fun app => app.enableCors spec) with
  | .ok () => return ()
  | .error f => Act.logText .tree .warning (f.text.map ("CORS registration skipped: " ++ ·))

/-- Runs a plugin; a failure is only logged. -/
def tryPlugin (b : Behaviour U) (handler name options : Value) (c : RouteConfig Value) :
    Act U Unit := do
  let title := pluginTitle handler name
  match handler with
  | .none => Act.logText .tree .error (title.map fun t => "Plugin " ++ t ++ " has no handler; skipped")
  | _ =>
    match ← Act.attempt (startPlugin b handler options c) with
    | .ok () => Act.logText .tree .info (title.map fun t => "Plugin " ++ t ++ " registered")
    | .error f =>
      Act.logText .tree .error do
        let t ← title
        let reason ← f.text
        return "Plugin " ++ t ++ " failed: " ++ reason

/-- Registers the route of a node. -/
def registerRoute (method : String) (path handler schema : Value) (c : RouteConfig Value) :
    Act U Unit := do
  match handler with
  | .none => do
    let shown ← Act.ofAttempt path.text
    Act.refuse (.noHandler method shown)
  | _ => do
    let before ← Act.ofAttempt c.settings.mountPath.asPath
    let own ← Act.ofAttempt path.asPath
    let full := orRoot (joinPaths [before, own])
    let endpoint ← Act.wrap handler c (method ++ " " ++ full)
    Act.addRoute method full endpoint schema .none
    Act.log .tree .debug ("Registered " ++ method ++ " " ++ full)

/-- What a node does when it is reached: the configuration for its children, or none when they are not
visited. -/
def visit (b : Behaviour U) (c : RouteConfig Value) :
    Payload Value → Act U (Option (RouteConfig Value))
  | .server .. => Act.refuse .nestedServer
  | .logger level => do
    Act.mapFailure settingFailure (Act.setThreshold level)
    Act.logText .tree .debug (level.text.map ("Log level set to " ++ ·))
    return some (c.setLogLevel level)
  | .db provider => do
    match provider with
    | .none => Act.refuse .noProvider
    | _ => do
      let service ← requestService b provider
      return some (c.setService service)
  | .cors origin methods => do
    tryCors ⟨origin, methods⟩
    return some (c.setCors (.corsSpec ⟨origin, methods⟩))
  | .rateLimiter max timeWindow keyHeader => do
    let spec ← Act.ofAttempt
      ((RateLimitSpec.ofNode max timeWindow keyHeader).mapError settingFailure)
    return some (c.setRateLimit (.rateLimitSpec spec))
  | .middleware use => do
    match use with
    | .none => Act.refuse .noMiddleware
    | _ => return some (c.withMiddleware use)
  | .group path => do
    let below ← Act.ofAttempt (c.withPath path)
    return some below
  | .routes dir path => do
    let outside ← Act.ofAttempt (c.withPath path)
    let _ ← mountDirectory b dir outside.settings.mountPath (c.setPath (.str ""))
    return none
  | .plugin handler name options => do
    tryPlugin b handler name options c
    return some c
  | .route method path handler schema => do
    registerRoute method path handler schema c
    return none
  | .response | .status _ | .body _ | .headers _ | .err .. | .augment _ | .halt .. => return some c

/-! ## Trees -/

/-- How much deeper than a node its children are: nodes that act are visited in more steps. -/
def Kind.depth (k : Kind) : Nat :=
  match k with
  | .response | .status | .body | .headers | .err | .augment | .halt => 3
  | _ => 4

mutual

/-- Walks a tree. The fuel bounds the nesting. -/
def walkTree (b : Behaviour U) : Nat → Value → RouteConfig Value → Act U Unit
  | 0, _, _ => Act.refuse .tooDeep
  | fuel + 1, v, c => do
    match ← Act.expand (resolve b.expand v) with
    | .nothing => return ()
    | .items xs => walkTrees b fuel xs c
    | .node p cs =>
      match ← visit b c p with
      | some below => walkTrees b (fuel + 1 - p.kind.depth) cs below
      | none => return ()
termination_by fuel => (fuel, 0)
decreasing_by
  · exact Prod.Lex.left _ _ (Nat.lt_succ_self _)
  · refine Prod.Lex.left _ _ ?_
    have : 0 < p.kind.depth := by
      unfold Kind.depth
      split <;> decide
    omega

/-- Walks a row of trees, in order. -/
def walkTrees (b : Behaviour U) (fuel : Nat) : List Value → RouteConfig Value → Act U Unit
  | [], _ => return ()
  | v :: vs, c => do
    walkTree b fuel v c
    walkTrees b fuel vs c
termination_by vs => (fuel, vs.length + 1)

end

/-- Walks a tree. -/
def walk (b : Behaviour U) (v : Value) (c : RouteConfig Value) : Act U Unit :=
  walkTree b nestingLimit v c

/-- The name of what a root resolves to. -/
def Resolved.typeName : Resolved → String
  | .node p _ => Value.kindName p.kind
  | .items _ => "list"
  | .nothing => "nothing"

/-- Fills the application from a tree whose root is a server. The host and the port of the server are
the defaults of an application that is not configured. -/
def build (b : Behaviour U) (root : Value) (configured : Bool) : Act U Unit := do
  match ← Act.expand (resolve b.expand root) with
  | .node (.server port host) cs => do
    if !configured then
      modify fun w => { w with app := { w.app with config := { host := host, port := port } } }
    let world ← get
    if world.app.config.accessLog.truthy then
      Act.register fun app => app.onResponse .accessLog
    walkTrees b nestingLimit cs .empty
    let built ← get
    let routes ← Act.ofAttempt (built.app.listRoutes.mapError .refused)
    Act.log .tree .info ("Registered " ++ toString routes.length ++ " routes")
  | r => Act.refuse (.notServer r.typeName)

end ServerTree
