/-!
# The configuration in effect at a point of the tree

`Settings` are the values that a node inherits from its ancestors; a `RouteConfig` adds the chain of
middleware. A middleware remembers the settings of the place where it was declared. The remembered
settings have no chain of their own, so snapshots never nest: the types say so.
-/

namespace ServerTree

/-- At most `max` requests for each client in a window of `window` seconds. -/
structure RateLimitSpec (V : Type) where
  max : V
  window : V
  keyHeader : V

/-- Which origins may read responses, and with which methods. -/
structure CorsSpec (V : Type) where
  origin : V
  methods : List V

/-- What a node inherits, apart from middleware. Every setting can be overridden by any value. -/
structure Settings (V : Type) where
  mountPath : V
  rateLimit : V
  cors : V
  logLevel : V
  service : V
  extensions : List (V × V)

/-- A middleware function and the settings of the place where it was declared. -/
structure ScopedMiddleware (V : Type) where
  fn : V
  captured : Settings V

/-- Everything a node inherits. -/
structure RouteConfig (V : Type) where
  settings : Settings V
  middleware : List (ScopedMiddleware V)

namespace RouteConfig

variable {V : Type}

/-- The configuration without its chain. -/
def snapshot (c : RouteConfig V) : RouteConfig V :=
  ⟨c.settings, []⟩

/-- Appends a middleware, which remembers the settings as they are. -/
def withMiddleware (c : RouteConfig V) (fn : V) : RouteConfig V :=
  { c with middleware := c.middleware ++ [⟨fn, c.settings⟩] }

end RouteConfig

end ServerTree
