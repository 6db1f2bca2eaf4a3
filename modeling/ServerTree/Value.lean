import ServerTree.Failure
import ServerTree.Http.Message
import ServerTree.Node.Payload
import ServerTree.Config.Settings

/-!
# Values

Handlers, middleware and tree nodes exchange values of any type: data that serializes to JSON, nodes
and composite elements, responses, signals and failures, and the parts of a request. `Value` is the
type of all of them. Functions of the application are opaque here: a value names a function, and what
it does is given by a `Behaviour`.
-/

namespace ServerTree

/-- A function of the application. Two functions are the same if their numbers are. -/
structure Func where
  name : String
  id : Nat
  /-- Whether the function has a parameter for children. -/
  takesChildren : Bool
deriving DecidableEq, Repr

/-- What a middleware's result means for the request. -/
inductive Signal (V : Type) where
  /-- Run the next function. -/
  | proceed
  /-- Stop; what was replied stands. -/
  | halt
  /-- Add fields to the context of later functions. -/
  | augment (fields : V)
  /-- Stop with an error. -/
  | fail (status message : V)

/-- The logger of a route: what is logged carries the route's name, and records below its level are
dropped. -/
structure RouteLogger where
  route : String
  level : Option Int
deriving DecidableEq, Repr

/-- A value. Objects, functions and what is no number have an identity, by which they are told apart. -/
inductive Value where
  | none
  | bool (b : Bool)
  | int (i : Int)
  | float (x : Float)
  /-- The double that is not a number. -/
  | nan (id : Nat)
  | str (s : String)
  | bytes (b : Bytes)
  | list (xs : List Value)
  | tuple (xs : List Value)
  | mapping (entries : List (Value × Value))
  /-- An object of which only the text is known. -/
  | object (text : String) (id : Nat)
  | func (f : Func)
  | node (payload : Payload Value) (children : List Value)
  /-- A composite that is not expanded yet. -/
  | element (type : Value) (props : List (Value × Value)) (children : List Value)
  | response (r : Response Value)
  | signal (s : Signal Value)
  | failure (f : Failure Value)
  | upload (u : Upload)
  | config (c : RouteConfig Value)
  | rateLimitSpec (s : RateLimitSpec Value)
  | corsSpec (s : CorsSpec Value)
  | request (r : Request)
  | headers (h : Headers)
  | query (q : Query)
  /-- The reply of the request in progress. -/
  | reply
  /-- A logger, and the level that lets its records through. -/
  | logger (l : RouteLogger) (effective : Int)
  /-- A method of a context, and the context as it is shown. -/
  | contextMethod (name context : String)
  /-- A call of an asynchronous function that nothing has waited for, known by a number. -/
  | pending (id : Nat)

instance : Inhabited Value := ⟨.none⟩

/-- A failure of the library. -/
abbrev Fault : Type := Failure Value

/-- A computation that may fail. -/
abbrev Attempt (α : Type) : Type := Except Fault α

/-- Refuses for a reason. -/
def refuse {α : Type} (r : Refusal) : Attempt α := .error (.refused r)

/-- The bytes of a text, which must have no lone surrogates. -/
def utf8Bytes (s : String) : Attempt Bytes :=
  match Text.utf8? s with
  | some b => .ok b
  | none => refuse .notEncodable

/-- The text of bytes, which must be UTF-8. -/
def utf8Text (raw : Bytes) : Attempt String :=
  match Text.utf8Decode? raw with
  | some s => .ok s
  | none => refuse .notUtf8

namespace Value

/-- The name of a node's class. -/
def kindName : Kind → String
  | .server => "Server"
  | .route => "Route"
  | .middleware => "Middleware"
  | .db => "DB"
  | .logger => "Logger"
  | .group => "Group"
  | .cors => "Cors"
  | .rateLimiter => "RateLimiter"
  | .routes => "Routes"
  | .plugin => "Plugin"
  | .response => "Response"
  | .status => "Status"
  | .body => "Body"
  | .headers => "Headers"
  | .err => "Err"
  | .augment => "Augment"
  | .halt => "Halt"

/-- The name of a value's type in messages. -/
def typeName : Value → String
  | none => "NoneType"
  | bool _ => "bool"
  | int _ => "int"
  | float _ | nan _ => "float"
  | str _ => "str"
  | bytes _ => "bytes"
  | list _ => "list"
  | tuple _ => "tuple"
  | mapping _ => "dict"
  | object .. => "object"
  | func _ => "function"
  | node p _ => kindName p.kind
  | element .. => "Element"
  | response _ => "Response"
  | signal .proceed => "Continue"
  | signal .halt => "HaltSilently"
  | signal (.augment _) => "AugmentFields"
  | signal (.fail ..) => "HaltWithError"
  | failure f => f.errorClass.name
  | upload _ => "UploadFile"
  | config _ => "RouteConfig"
  | rateLimitSpec _ => "RateLimitSpec"
  | corsSpec _ => "CorsSpec"
  | request _ => "Request"
  | headers _ => "Headers"
  | query _ => "QueryParams"
  | reply => "Reply"
  | logger .. => "RouteLogger"
  | contextMethod .. => "method"
  | pending _ => "coroutine"

/-- Whether a value counts as true in a condition: all do but nothing, zero and what is empty. -/
def truthy : Value → Bool
  | none => false
  | bool b => b
  | int i => i != 0
  | float x => x != 0.0
  | str s => !s.isEmpty
  | bytes b => !b.isEmpty
  | list xs => !xs.isEmpty
  | tuple xs => !xs.isEmpty
  | mapping es => !es.isEmpty
  | headers h => !h.raw.isEmpty
  | query q => !q.grouped.isEmpty
  | _ => true

/-- `a` unless it counts as false, else `b`. -/
def orElse (a b : Value) : Value := if a.truthy then a else b

/-- Whether a value can be called. -/
def isCallable : Value → Bool
  | func _ | contextMethod .. => true
  | _ => false

/-- The value is a mapping: its entries. -/
def entries? : Value → Option (List (Value × Value))
  | mapping es => some es
  | headers h => some (h.firsts.map fun e => (str e.1, str e.2))
  | query q => some (q.firsts.map fun e => (str e.1, str e.2))
  | _ => Option.none

/-- A double. What is no number gets the identity of all such numbers of the library's own. -/
def ofFloat (x : Float) : Value := if x.isNaN then nan 0 else float x

/-- The name of a function. -/
def functionName? : Value → Option String
  | func f => some f.name
  | contextMethod name _ => some name
  | _ => Option.none

/-- The name of a function, or of the type of anything else. -/
def functionName (v : Value) : String := v.functionName?.getD v.typeName

/-- A mapping from texts. -/
def ofFields (fields : List (String × Value)) : Value :=
  mapping (fields.map fun e => (str e.1, e.2))

/-- A list of texts. -/
def ofTexts (xs : List String) : Value := list (xs.map str)

/-- Texts of one name: a single one stands for itself, several for a list. -/
def collapse : List String → Value
  | [s] => str s
  | xs => ofTexts xs

/-- Header fields as a mapping from texts. -/
def ofHeaders (h : Headers) : Value := ofFields (h.joined.map fun e => (e.1, str e.2))

/-- Query parameters as a mapping; repeated ones are lists. -/
def ofQuery (q : Query) : Value := ofFields (q.grouped.map fun e => (e.1, collapse e.2))

/-- A value that may be missing. -/
def ofOption {α : Type} (f : α → Value) : Option α → Value
  | some a => f a
  | Option.none => none

end Value

/-! ## Common HTTP errors -/

namespace HttpError

/-- The request could not be understood. -/
def badRequest (detail : Value) : HttpError Value :=
  { form := .badRequest, status := .int 400, detail := detail }

/-- No route matches the path. -/
def notFound (detail : Value) : HttpError Value :=
  { form := .notFound, status := .int 404, detail := detail }

/-- Routes match the path but none serves the method. -/
def methodNotAllowed (allowed : List String) (detail : Value) : HttpError Value :=
  let names := Text.join ", " (Text.sorted allowed.eraseDups)
  { form := .methodNotAllowed
    status := .int 405
    detail := detail.orElse (.str ("Method not allowed. Allowed methods: " ++ names))
    headers := [(.str "Allow", .str names)] }

/-- The body is larger than the limit. -/
def tooLarge : HttpError Value :=
  { status := .int 413, detail := .str "Payload Too Large" }

end HttpError

/-! ## Common refusals -/

/-- The refusal to read an attribute that a value does not have. -/
def noAttribute (v : Value) (name : String) : Refusal :=
  .noAttribute ("'" ++ v.typeName ++ "' object has no attribute '" ++ name ++ "'")

/-- A value whose attribute is used as only texts have it. -/
def Value.asText (v : Value) (name : String) : Attempt String :=
  match v with
  | .str s => .ok s
  | .bytes _ => refuse (.wrongType "a bytes-like object is required, not 'str'")
  | v => refuse (noAttribute v name)

/-- A value whose entries are used as only mappings have them. -/
def Value.asItems (v : Value) : Attempt (List (Value × Value)) :=
  match v.entries? with
  | some es => .ok es
  | Option.none => refuse (noAttribute v "items")

/-- The refusal to call a value that cannot be called. -/
def notCallable (v : Value) : Refusal :=
  .wrongType ("'" ++ v.typeName ++ "' object is not callable")

end ServerTree
