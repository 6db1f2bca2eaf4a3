import ServerTree.App.World
import ServerTree.Directory.Scan
import ServerTree.Directory.Settings

/-!
# Mounting a directory of routes

Every route module below a directory is loaded and registered under the URL of its path, with the
configuration that its directories and its own middleware add up to. A module that cannot be loaded is
logged and skipped; all others still load.

## Main definitions
- `RouteModule`, `RouteModule.ofExports?`: what a route module serves
- `discoverRoutes`: the route modules below a directory
- `mountDirectory`: registers them
- `routeTable`: them as a table
-/

namespace ServerTree

/-- A route module and the configuration in effect for it. -/
structure RouteModule where
  /-- The path below the root of the routes. -/
  source : String
  url : String
  config : RouteConfig Value
  /-- The handlers by method, in the order of the methods. -/
  handlers : List (String × Value)
  /-- The schemas by method, where there are any. -/
  schemas : List (String × Value)

/-! ## Modules -/

/-- The handlers that a module exports. -/
def moduleHandlers (exports : Exports) : List (String × Value) :=
  httpMethods.filterMap fun m =>
    match Assoc.get? m exports with
    | some v => if v.isCallable then some (m, v) else none
    | none => none

/-- The schemas that a module exports for methods. -/
def moduleSchemas (exports : Exports) (methods : List String) : List (String × Value) :=
  methods.filterMap fun m =>
    match Assoc.get? (m ++ "_SCHEMA") exports with
    | some .none => none
    | some v => some (m, v)
    | none => none

/-- The middleware that a module exports: one function or a list of them. Anything else is none. -/
def moduleMiddleware? (exports : Exports) : Option (List Value) :=
  match (Assoc.get? "middleware" exports).getD .none with
  | .none => some []
  | .list xs => some (xs.filter Value.isCallable)
  | .tuple xs => some (xs.filter Value.isCallable)
  | v => if v.isCallable then some [v] else none

/-- What a module is called in the log: its path, unless it says otherwise. -/
def moduleFile (exports : Exports) (path : String) : Attempt String :=
  ((Assoc.get? "__file__" exports).map Value.text).getD (.ok path)

variable {U : Type}

/-- Loads a module. -/
def loadModule (b : Behaviour U) (names : List String) : Act U Exports := do
  Act.ofAttempt (← Act.withEnv (b.load names))

/-- Loads the configuration module of a directory. -/
def loadConfig (b : Behaviour U) (names : List String) : Act U DirectoryConfig := do
  let exports ← loadModule b (names ++ [configFileName])
  let tree ← Act.ofAttempt (exportedConfig (Assoc.get? "config" exports))
  Act.expand (collectConfig b.expand tree)

/-! ## Discovery -/

/-- Where a discovery takes place. -/
structure Mount where
  /-- The names of the root of the routes. -/
  root : List String
  /-- The path in front of every URL. It must be a text once there is a URL. -/
  path : Value
  inherited : RouteConfig Value

/-- The path of a directory below the root of the routes. -/
def belowRoot (names : List String) : FilePath := ⟨"", names⟩

/-- Loads configuration modules in order; one that cannot be loaded is logged. -/
def loadConfigs (b : Behaviour U) (m : Mount) :
    List (List String) → Act U (List (FilePath × DirectoryConfig))
  | [] => return []
  | directory :: rest => do
    let r ← Act.attempt (loadConfig b (m.root ++ directory))
    match r with
    | .ok c => do
      let cs ← loadConfigs b m rest
      return (belowRoot directory, c) :: cs
    | .error f => do
      let world ← get
      let file := world.files.written (m.root ++ directory ++ [configFileName])
      Act.logText .files .error (f.text.map fun reason => "Failed to load " ++ file ++ ": " ++ reason)
      loadConfigs b m rest

/-- The configuration in effect for the route modules of a directory. -/
def Mount.configOf (m : Mount) (parsed : List (FilePath × DirectoryConfig))
    (directory : List String) : Attempt (RouteConfig Value) :=
  mergeChain m.inherited (configChain (belowRoot directory) (belowRoot []) parsed)

/-- Loads a route module; none when it cannot be loaded or has no handler. -/
def loadRoute (b : Behaviour U) (m : Mount) (parsed : List (FilePath × DirectoryConfig))
    (names : List String) : Act U (Option RouteModule) := do
  let source := Text.join "/" names
  match ← Act.attempt (loadModule b (m.root ++ names)) with
  | .error f => do
    Act.logText .files .error
      (f.text.map fun reason => "Failed to load route " ++ source ++ ": " ++ reason)
    return none
  | .ok exports =>
    match moduleHandlers exports with
    | [] => do
      Act.log .files .warning ("Route module " ++ source ++ " exports no HTTP method handlers")
      return none
    | handlers => do
      let merged ← Act.ofAttempt (m.configOf parsed names.dropLast)
      let middleware ←
        match moduleMiddleware? exports with
        | some fns => pure fns
        | none => do
          let file := moduleFile exports ((← get).files.written (m.root ++ names))
          Act.logText .files .warning (file.map ("Ignoring non-callable 'middleware' export in " ++ ·))
          pure []
      let config := middleware.foldl RouteConfig.withMiddleware merged
      let url ← Act.ofAttempt ((urlOfPath source).mapError .refused)
      let before ← Act.ofAttempt m.path.asPath
      let path ← Act.ofAttempt config.settings.mountPath.asPath
      return some {
        source := source
        url := orRoot (joinPaths [before, path, url])
        config := config
        handlers := handlers
        schemas := moduleSchemas exports (handlers.map Prod.fst) }

/-- Loads route modules in order. -/
def loadRoutes (b : Behaviour U) (m : Mount) (parsed : List (FilePath × DirectoryConfig)) :
    List (List String) → Act U (List RouteModule)
  | [] => return []
  | names :: rest => do
    let r ← loadRoute b m parsed names
    let rs ← loadRoutes b m parsed rest
    return r.toList ++ rs

/-- The path of a directory given by a node. -/
def Value.asDirectory : Value → Attempt String
  | .str s => .ok s
  | v => refuse (.wrongType
      ("expected str, bytes or os.PathLike object, not " ++ v.typeName))

/-- The route modules below a directory. One that is missing has none. -/
def discoverRoutes (b : Behaviour U) (directory : Value) (path : Value)
    (inherited : RouteConfig Value) : Act U (List RouteModule) := do
  let written ← Act.ofAttempt directory.asDirectory
  let fs := (← get).files
  match ← Act.ofAttempt ((fs.locate? written).mapError .refused) with
  | none => do
    Act.log .files .error ("Routes directory not found: " ++ (FilePath.ofText written).plain.toText)
    return []
  | some root =>
    match fs.list? root with
    | none => do
      Act.log .files .error ("Routes directory not found: " ++ fs.written root)
      return []
    | some entries => do
      let scan := Scan.of entries
      for link in scan.links do
        Act.log .files .debug ("Skipping symlink " ++ fs.written (root ++ link))
      let m : Mount := ⟨root, path, inherited⟩
      let parsed ← loadConfigs b m scan.configs
      loadRoutes b m parsed scan.routes

/-! ## Registration -/

/-- Registers the handlers of a route module. -/
def RouteModule.register (r : RouteModule) : Act U Unit := do
  for (method, handler) in r.handlers do
    let endpoint ← Act.wrap handler r.config (method ++ " " ++ r.url)
    Act.addRoute method r.url endpoint ((Assoc.get? method r.schemas).getD .none) .none
    Act.log .files .debug ("Registered " ++ method ++ " " ++ r.url ++ " from " ++ r.source)

/-- Registers every route module below a directory. -/
def mountDirectory (b : Behaviour U) (directory : Value) (path : Value)
    (inherited : RouteConfig Value) : Act U (List RouteModule) := do
  let modules ← discoverRoutes b directory path inherited
  for r in modules do
    r.register
  Act.logText .files .info
    (directory.text.map fun shown =>
      "Loaded " ++ toString modules.length ++ " route modules from " ++ shown)
  return modules

/-! ## Tables -/

/-- One row for each handler: the method, the URL and the source, in columns. -/
def routeTable (modules : List RouteModule) : String :=
  let rows := modules.flatMap fun r => r.handlers.map fun h => (h.1, r.url, r.source)
  let width (f : String × String × String → String) : Nat :=
    rows.foldl (fun n r => max n (Text.size (f r))) 0
  let methodWidth := width fun r => r.1
  let urlWidth := width fun r => r.2.1
  Text.join "\n" (rows.map fun r =>
    Text.padEnd methodWidth r.1 ++ "  " ++ Text.padEnd urlWidth r.2.1 ++ "  " ++ r.2.2)

end ServerTree
