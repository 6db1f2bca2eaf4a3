/-!
# What a node carries

A tree is made of nodes of seventeen kinds. Each has children and a payload of its own. A payload is
given over a type `V` of values, because applications may put anything into most fields; only what is
normalized when a node is built (the method of a route) has a fixed type.
-/

namespace ServerTree

/-- The kinds of nodes. -/
inductive Kind where
  | server | route | middleware | db | logger | group | cors | rateLimiter | routes | plugin
  | response | status | body | headers | err | augment | halt
deriving DecidableEq, Repr

/-- The tag a kind is known by. -/
def Kind.tag : Kind → String
  | .server => "server"
  | .route => "route"
  | .middleware => "middleware"
  | .db => "db"
  | .logger => "logger"
  | .group => "group"
  | .cors => "cors"
  | .rateLimiter => "rate_limiter"
  | .routes => "routes"
  | .plugin => "plugin"
  | .response => "response"
  | .status => "status"
  | .body => "body"
  | .headers => "headers"
  | .err => "err"
  | .augment => "augment"
  | .halt => "halt"

/-- Kinds that only make sense inside a handler's return value. -/
def Kind.isResponse : Kind → Bool
  | .response | .status | .body | .headers | .err => true
  | _ => false

/-- Kinds that a directory's configuration tree contributes. -/
def Kind.isConfig : Kind → Bool
  | .logger | .middleware | .rateLimiter | .group | .cors => true
  | _ => false

/-- Every kind. -/
def Kind.all : List Kind :=
  [.server, .route, .middleware, .db, .logger, .group, .cors, .rateLimiter, .routes, .plugin,
    .response, .status, .body, .headers, .err, .augment, .halt]

/-- The HTTP methods a route may have. -/
def httpMethods : List String :=
  ["GET", "POST", "PUT", "DELETE", "PATCH", "HEAD", "OPTIONS"]

/-- The methods that CORS allows unless told otherwise. -/
def defaultCorsMethods : List String :=
  ["GET", "POST", "PUT", "DELETE", "PATCH"]

/-- What a node carries besides its children. -/
inductive Payload (V : Type) where
  /-- The root of a tree. -/
  | server (port host : V)
  /-- One route; the path is relative to the enclosing groups. -/
  | route (method : String) (path handler schema : V)
  /-- Puts a path in front of every route below. -/
  | group (mountPath : V)
  /-- Mounts a directory of route modules. -/
  | routes (dir mountPath : V)
  /-- Runs a function before every handler below. -/
  | middleware (use : V)
  /-- Asks a provider for a service once and hands it to the handlers below. -/
  | db (provider : V)
  /-- Sets the log level. -/
  | logger (level : V)
  /-- Cross-origin rules. -/
  | cors (origin : V) (methods : List V)
  /-- At most `max` requests in a time window, for each client. -/
  | rateLimiter (max timeWindow keyHeader : V)
  /-- Runs a function once while the tree is walked. -/
  | plugin (handler name options : V)
  /-- Groups the parts of a response. -/
  | response
  /-- The status of a response. -/
  | status (code : V)
  /-- The body of a response. -/
  | body (data : V)
  /-- Headers of a response. -/
  | headers (headers : V)
  /-- An error response. -/
  | err (code message details : V)
  /-- Adds fields to the context of later functions. -/
  | augment (data : V)
  /-- Stops a request. -/
  | halt (code message : V)

/-- The kind of a payload. -/
def Payload.kind {V : Type} : Payload V → Kind
  | .server .. => .server
  | .route .. => .route
  | .group .. => .group
  | .routes .. => .routes
  | .middleware .. => .middleware
  | .db .. => .db
  | .logger .. => .logger
  | .cors .. => .cors
  | .rateLimiter .. => .rateLimiter
  | .plugin .. => .plugin
  | .response => .response
  | .status .. => .status
  | .body .. => .body
  | .headers .. => .headers
  | .err .. => .err
  | .augment .. => .augment
  | .halt .. => .halt

end ServerTree
