import ServerTree.Config.Window
import ServerTree.Routing.Path
import ServerTree.Value.Equality
import ServerTree.Value.Letters

/-!
# Deriving configurations

Each node of the tree derives a new configuration for what is below it. A configuration is a value:
deriving one never changes another.

## Main definitions
- `RateLimitSpec.ofNode`, `Value.asPath`: settings read from node fields
- `RouteConfig.empty`, `RouteConfig.withPath`, `RouteConfig.withExtension`
- `RouteConfig.describe`: a configuration as a mapping
-/

namespace ServerTree

/-- A path given by a node. -/
def Value.asPath (v : Value) : Attempt String := v.asText "split"

/-- The name of the header that identifies a client, in small letters; none when it is not set. -/
def keyHeaderName (v : Value) : Attempt Value :=
  if v.truthy then v.inSmallLetters else .ok .none

/-- The rate limit of a node's fields. -/
def RateLimitSpec.ofNode (max timeWindow keyHeader : Value) : Attempt (RateLimitSpec Value) := do
  let window ← parseWindow timeWindow
  let name ← keyHeaderName keyHeader
  let window :=
    match timeWindow with
    | .nan id => .nan id
    | _ => .ofFloat window
  return ⟨max, window, name⟩

/-- The rate limit that a node declares. -/
def RateLimitSpec.ofValue : Value → Attempt (RateLimitSpec Value)
  | .node (.rateLimiter max timeWindow keyHeader) _ => RateLimitSpec.ofNode max timeWindow keyHeader
  | v => refuse (noAttribute v "max")

/-- The cross-origin rules that a node declares. -/
def CorsSpec.ofValue : Value → Attempt (CorsSpec Value)
  | .node (.cors origin methods) _ => .ok ⟨origin, methods⟩
  | v => refuse (noAttribute v "origin")

/-- The cross-origin rules that hold unless told otherwise: any origin and the default methods. -/
def CorsSpec.standard : CorsSpec Value := ⟨.str "*", defaultCorsMethods.map Value.str⟩

/-- Settings that inherit nothing. -/
def Settings.empty : Settings Value :=
  ⟨.str "", .none, .none, .none, .none, []⟩

/-- A configuration that inherits nothing. -/
def RouteConfig.empty : RouteConfig Value := ⟨.empty, []⟩

instance : Inhabited (RouteConfig Value) := ⟨.empty⟩

namespace RouteConfig

/-- Appends a path to the current one. -/
def withPath (c : RouteConfig Value) (path : Value) : Attempt (RouteConfig Value) := do
  let before ← c.settings.mountPath.asPath
  let after ← path.asPath
  return { c with settings.mountPath := .str (joinPaths [before, after]) }

/-- Replaces the path. -/
def setPath (c : RouteConfig Value) (path : Value) : RouteConfig Value :=
  { c with settings.mountPath := path }

/-- Sets the log level. -/
def setLogLevel (c : RouteConfig Value) (level : Value) : RouteConfig Value :=
  { c with settings.logLevel := level }

/-- Sets the service. -/
def setService (c : RouteConfig Value) (service : Value) : RouteConfig Value :=
  { c with settings.service := service }

/-- Sets the rate limit. -/
def setRateLimit (c : RouteConfig Value) (spec : Value) : RouteConfig Value :=
  { c with settings.rateLimit := spec }

/-- Sets the cross-origin rules. -/
def setCors (c : RouteConfig Value) (spec : Value) : RouteConfig Value :=
  { c with settings.cors := spec }

/-- Replaces the extensions. -/
def setExtensions (c : RouteConfig Value) (entries : List (Value × Value)) : RouteConfig Value :=
  { c with settings.extensions := Assoc.ofList entries }

/-- Stores one extension. -/
def withExtension (c : RouteConfig Value) (key value : Value) : RouteConfig Value :=
  { c with settings.extensions := Assoc.set key value c.settings.extensions }

/-- Replaces the chain by functions that remember the settings as they are. -/
def setMiddleware (c : RouteConfig Value) (fns : List Value) : RouteConfig Value :=
  { c with middleware := fns.map fun fn => ⟨fn, c.settings⟩ }

end RouteConfig

/-! ## Descriptions -/

/-- A rate limit as a list. -/
def RateLimitSpec.describe (s : RateLimitSpec Value) : Value :=
  .list [s.max, s.window, s.keyHeader]

/-- Cross-origin rules as a list. -/
def CorsSpec.describe (s : CorsSpec Value) : Value :=
  let origin :=
    match s.origin with
    | .tuple xs => .list xs
    | v => v
  .list [origin, Value.list s.methods]

/-- A setting as it is described: a rate limit or cross-origin rules as a list, anything else as it is. -/
def Value.describe : Value → Value
  | .rateLimitSpec s => s.describe
  | .corsSpec s => s.describe
  | v => v

/-- A configuration as a mapping. -/
def RouteConfig.describe (c : RouteConfig Value) : Value :=
  .ofFields
    [("prefix", c.settings.mountPath),
      ("log_level", c.settings.logLevel),
      ("rate_limit", c.settings.rateLimit.describe),
      ("cors", c.settings.cors.describe),
      ("service", c.settings.service),
      ("middleware", .list (c.middleware.map fun m => .str m.fn.functionName)),
      ("extensions", .mapping c.settings.extensions)]

/-- The settings that a middleware remembers, as a configuration. -/
def ScopedMiddleware.config (m : ScopedMiddleware Value) : RouteConfig Value := ⟨m.captured, []⟩

end ServerTree
