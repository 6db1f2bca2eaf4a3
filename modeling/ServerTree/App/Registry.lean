import ServerTree.Config.Derive
import ServerTree.Http.Body
import ServerTree.Routing.Depth
import ServerTree.Log
import ServerTree.CommandLine

/-!
# The application

An application is filled while a tree is walked and frozen when it first serves. Routes go straight to
the router, so a conflict fails the registration and not the first request.

## Main definitions
- `AppConfig`: the settings of an application
- `Endpoint`, `EngineMiddleware`, `Hook`: what can be registered
- `App` and its registrations
-/

namespace ServerTree

/-- The settings of an application. -/
structure AppConfig where
  host : Value := .str defaultHost
  port : Value := .int defaultPort
  debug : Value := .bool false
  reloadInclude : Value := .tuple []
  reloadDirs : Value := .tuple []
  logLevel : Value := .str "info"
  accessLog : Value := .bool true
  middlewareTimeout : Value := .float 30.0
  maxContentLength : Value := .int (16 * 1024 * 1024)

namespace AppConfig

/-- The settings by name. -/
def fields (c : AppConfig) : List (String × Value) :=
  [("host", c.host), ("port", c.port), ("debug", c.debug), ("reload_include", c.reloadInclude),
    ("reload_dirs", c.reloadDirs), ("log_level", c.logLevel), ("access_log", c.accessLog),
    ("middleware_timeout", c.middlewareTimeout), ("max_content_length", c.maxContentLength)]

/-- The settings that differ from the defaults as given; a name that is no setting is refused. -/
def ofFields (given : List (String × Value)) : Attempt AppConfig :=
  let d : AppConfig := {}
  match given.find? fun e => !Assoc.has e.1 d.fields with
  | some e =>
    refuse (.wrongType ("AppConfig.__init__() got an unexpected keyword argument '" ++ e.1 ++ "'"))
  | none =>
    let get (name : String) (fallback : Value) : Value := (Assoc.get? name given).getD fallback
    .ok {
      host := get "host" d.host
      port := get "port" d.port
      debug := get "debug" d.debug
      reloadInclude := get "reload_include" d.reloadInclude
      reloadDirs := get "reload_dirs" d.reloadDirs
      logLevel := get "log_level" d.logLevel
      accessLog := get "access_log" d.accessLog
      middlewareTimeout := get "middleware_timeout" d.middlewareTimeout
      maxContentLength := get "max_content_length" d.maxContentLength }

/-- The limit of a body. -/
def bodyLimit (c : AppConfig) : SizeLimit := c.maxContentLength.asSizeLimit

end AppConfig

/-- A handler with the configuration in effect where it was declared. -/
structure WrappedHandler where
  handler : Value
  config : RouteConfig Value
  timeout : Value
  route : String
  logger : RouteLogger
  /-- The number by which the endpoint's limiter is known. -/
  number : Nat

/-- What serves a route. -/
inductive Endpoint where
  /-- A handler of the tree. -/
  | wrapped (w : WrappedHandler)
  /-- A function that takes a request and returns a response. -/
  | custom (fn : Value)

/-- A route's endpoint, its name, and its schema, which nothing validates against. -/
structure Registered where
  endpoint : Endpoint
  schema : Value
  name : Value

/-- Middleware around every request. -/
inductive EngineMiddleware where
  | cors (spec : CorsSpec Value) (maxAge : Value)
  | custom (fn : Value)

/-- A hook that runs after a response was sent. -/
inductive Hook where
  | accessLog
  | custom (fn : Value)

/-- The name of a hook in the log. -/
def Hook.shown : Hook → Attempt String
  | .accessLog => .ok "<function log_access>"
  | .custom fn => fn.quotedText

/-- An application. -/
structure App where
  config : AppConfig := {}
  router : Router Registered := {}
  middleware : List EngineMiddleware := []
  corsEnabled : Bool := false
  responseHooks : List Hook := []
  startupHooks : List Value := []
  shutdownHooks : List Value := []
  frozen : Bool := false
  /-- How many endpoints were wrapped. -/
  wrapped : Nat := 0

namespace App

/-- How long preflight answers may be kept, in seconds. -/
def corsMaxAge : Value := .int 600

/-- Refuses when the application is frozen. -/
def unlessFrozen (app : App) (changed : App) : Except Refusal App :=
  if app.frozen then .error .frozenApp else .ok changed

/-- Registers an endpoint for a method at a path. What a refused registration left in the router stays
there. -/
def route (app : App) (method path : String) (endpoint : Endpoint) (schema name : Value) :
    App × Option Refusal :=
  if app.frozen then (app, some .frozenApp)
  else
    let r := app.router.add path [Text.upper method] ⟨endpoint, schema, name⟩
    ({ app with router := r.1 }, r.2)

/-- Every registered route. -/
def routes (app : App) : List (Route Registered) := app.router.routes

/-- Every registered route, unless they lie too deep. -/
def listRoutes (app : App) : Except Refusal (List (Route Registered)) := app.router.list

/-- Adds an engine middleware inside those added before. -/
def addMiddleware (app : App) (m : EngineMiddleware) : Except Refusal App :=
  app.unlessFrozen { app with middleware := app.middleware ++ [m] }

/-- Installs the cross-origin middleware outside all others, once. -/
def enableCors (app : App) (spec : CorsSpec Value) : Except Refusal App :=
  if app.frozen then .error .frozenApp
  else if app.corsEnabled then .error .corsTwice
  else .ok { app with middleware := .cors spec corsMaxAge :: app.middleware, corsEnabled := true }

/-- Adds a response hook. -/
def onResponse (app : App) (hook : Hook) : Except Refusal App :=
  app.unlessFrozen { app with responseHooks := app.responseHooks ++ [hook] }

/-- Adds a startup hook. -/
def onStartup (app : App) (hook : Value) : Except Refusal App :=
  app.unlessFrozen { app with startupHooks := app.startupHooks ++ [hook] }

/-- Adds a shutdown hook. -/
def onShutdown (app : App) (hook : Value) : Except Refusal App :=
  app.unlessFrozen { app with shutdownHooks := app.shutdownHooks ++ [hook] }

/-- Ends the registrations. -/
def freeze (app : App) : App :=
  if app.frozen then app else { app with router := app.router.compile, frozen := true }

/-- Wraps a handler with its configuration. The level of the route's logger must be known. -/
def wrap (app : App) (handler : Value) (config : RouteConfig Value) (route : String) :
    Attempt (Endpoint × App) := do
  let logger ← RouteLogger.make route config.settings.logLevel
  return (.wrapped ⟨handler, config, app.config.middlewareTimeout, route, logger, app.wrapped⟩,
    { app with wrapped := app.wrapped + 1 })

end App

end ServerTree
