import ServerTree.Assoc
import ServerTree.Log

/-!
# Scripts

Application code can be given as scripts: functions whose bodies are lists of steps, composites with named
parameters, and modules with imports and exports. A script says what a function does in every role that it
can have; steps that make no sense in a role fail there.

## Main definitions
- `Read`: what a function can read from its arguments
- `Expr`: expressions, evaluated where they stand
- `Step`: the steps of a body
- `Composite`, `ModuleScript`: composites, over what defaults are, and modules
-/

namespace ServerTree.Script

/-- What a function can read from its arguments. -/
inductive Read where
  | params | param | body | service | config | item | member | get | has | keys | shown
  | replyStatus | replySent
  | query | queryAll | queryInteger | queryFields | header | headerFields
  | method | path | url | pathParams | clientHost | contentType
  | responseStatus | elapsed
  | options
deriving DecidableEq, Repr

/-- The names of reads. -/
def Read.names : List (String × Read) :=
  [("params", .params), ("param", .param), ("body", .body), ("service", .service),
    ("config", .config), ("item", .item), ("attr", .member), ("get", .get), ("has", .has),
    ("keys", .keys), ("repr", .shown), ("reply_status", .replyStatus), ("reply_sent", .replySent),
    ("query", .query), ("query_list", .queryAll), ("query_int", .queryInteger),
    ("query_all", .queryFields), ("header", .header), ("headers_all", .headerFields),
    ("method", .method), ("path", .path), ("url", .url), ("path_params", .pathParams),
    ("client_host", .clientHost), ("content_type", .contentType),
    ("response_status", .responseStatus), ("elapsed", .elapsed), ("options", .options)]

mutual

/-- An expression. -/
inductive Expr where
  | literal (v : Value)
  /-- A new double that is not a number. -/
  | notANumber
  /-- A new object. -/
  | object (text : String)
  | list (xs : List Expr)
  | tuple (xs : List Expr)
  | mapping (entries : List (Expr × Expr))
  /-- A node of a named class. -/
  | node (name : String) (fields : List (String × Expr))
  /-- A tree expression: the name of a composite or of a node class, properties and children. -/
  | tree (name : String) (props : List (Expr × Expr)) (children : List Expr)
  /-- A row of siblings. -/
  | fragment (children : List Expr)
  | plugin (handler name : Expr) (options : List (Expr × Expr)) (children : Option Expr)
  | composite (name : String)
  | function (name : String) (body : List Step) (isAsync : Bool)
  | response (body status contentType : Expr) (headers : List (Expr × Expr))
  | augment (fields : Expr)
  | halted (status message : Expr)
  /-- A failure with a class, arguments and attributes. -/
  | failure (form : ErrorClass) (arguments : List Expr) (attributes : List (String × Expr))
  /-- An argument of the composite in whose own body the expression stands. -/
  | argument (name : String)
  /-- One less than a number. -/
  | pred (e : Expr)
  /-- A variable of the module. -/
  | variable (name : String)
  /-- What the arguments of the function say. -/
  | read (what : Read) (key fallback : Expr)

/-- A step of a body. -/
inductive Step where
  | ret (e : Expr)
  | fail (e : Expr)
  | trace (e : Expr)
  | branch (test equals : Expr) (yes no : List Step)
  | setStatus (code : Expr)
  | setHeader (name value : Expr)
  | setHeaders (headers : Expr)
  | send (body : Expr)
  | log (severity : Severity) (message : Expr)
  /-- Sets a field of the context. -/
  | assign (key e : Expr)
  /-- Time passes. -/
  | tick (seconds : Float)
  /-- Waits until calls that were given up are let go on. -/
  | hang
  | route (method path : Value) (endpoint : Expr) (name : Value)
  | middleware (use : Expr)
  | onResponse (hook : Expr)
  /-- Passes the request on and keeps the response, with headers added. -/
  | next (headers : List (Expr × Expr))
  | returnResponse
  /-- Returns a response with the body of the request. -/
  | returnBody

end

instance : Inhabited Expr := ⟨.literal .none⟩

instance : Inhabited Step := ⟨.hang⟩

/-- A composite: a function of named parameters, some with defaults. -/
structure Composite (D : Type) where
  name : String
  params : List (String × Option D)
  /-- Whether arguments without a parameter are accepted. -/
  takesAll : Bool
  body : List Step

/-- Whether a composite accepts children. -/
def Composite.takesChildren {D : Type} (c : Composite D) : Bool :=
  c.takesAll || Assoc.has "children" c.params

/-- An import of one variable of a helper module of the same directory. -/
structure Import where
  helper : String
  name : String
  /-- Helpers of the directory are kept; others are loaded for each module. -/
  ofDirectory : Bool
deriving DecidableEq, Repr

/-- A module: what the trace calls it, its imports, a failure that ends it, and its exports. -/
structure ModuleScript where
  label : Option String
  imports : List Import := []
  failure : Option Expr := none
  exports : List (String × Expr) := []

instance : Inhabited ModuleScript := ⟨{ label := none }⟩

end ServerTree.Script
