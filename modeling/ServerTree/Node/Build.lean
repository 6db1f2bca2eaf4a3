import ServerTree.Value.Equality
import ServerTree.Value.Display
import ServerTree.Value.Letters

/-!
# Building nodes

Nodes are built from named fields. Children may be given as a list, a tuple, a single node or nothing. A
field that a kind does not have is refused, and methods are normalized to capital letters.

## Main definitions
- `Node.ofFields`: a node of a named class
- `Value.payloadFields`: the fields of a payload by name
- `flattenChildren`, `Node.make`: children written in a tree
-/

namespace ServerTree

/-- Children given as a list, a tuple, a single value or nothing. -/
def Value.asChildren : Value → List Value
  | .none => []
  | .tuple xs => xs
  | .list xs => xs
  | v => [v]

/-- The elements of a value that can be iterated. -/
def Value.iterate : Value → Attempt (List Value)
  | .list xs => .ok xs
  | .tuple xs => .ok xs
  | .mapping es => .ok (es.map Prod.fst)
  | .str s => .ok ((Text.glyphs s).map .str)
  | .bytes b => .ok (b.map fun x => .int x.toNat)
  | .headers h => .ok (h.grouped.map fun e => .str e.1)
  | .query q => .ok (q.grouped.map fun e => .str e.1)
  | v => refuse (.wrongType ("'" ++ v.typeName ++ "' object is not iterable"))

/-- Opens one level of lists and drops what counts as false. -/
def flattenChildren (children : List Value) : List Value :=
  (children.flatMap fun c =>
    match c with
    | .list xs => xs
    | .tuple xs => xs
    | v => [v]).filter Value.truthy

/-- The fields of a payload, by name. -/
def Value.payloadFields : Payload Value → List (String × Value)
  | .server port host => [("port", port), ("host", host)]
  | .route method path handler schema =>
    [("method", .str method), ("path", path), ("handler", handler), ("schema", schema)]
  | .group p => [("prefix", p)]
  | .routes dir p => [("dir", dir), ("prefix", p)]
  | .middleware use => [("use", use)]
  | .db provider => [("provider", provider)]
  | .logger level => [("level", level)]
  | .cors origin methods => [("origin", origin), ("methods", .tuple methods)]
  | .rateLimiter max timeWindow keyHeader =>
    [("max", max), ("time_window", timeWindow), ("key_header", keyHeader)]
  | .plugin handler name options => [("handler", handler), ("name", name), ("options", options)]
  | .response => []
  | .status code => [("code", code)]
  | .body data => [("data", data)]
  | .headers h => [("headers", h)]
  | .err code message details => [("code", code), ("message", message), ("details", details)]
  | .augment data => [("data", data)]
  | .halt code message => [("code", code), ("message", message)]

namespace Node

/-- The origin of cross-origin rules. Several are given as a list or a tuple. -/
def asOrigin : Value → Value
  | .list xs => .tuple xs
  | v => v

/-- A method in capital letters, when it is one of the HTTP methods. -/
def asMethod (v : Value) : Attempt String := do
  let other : Attempt String := do refuse (.unsupportedMethod (← v.quotedText))
  match ← v.inCapitals with
  | .str m => if httpMethods.contains m then return m else other
  | _ => other

/-- Methods in capital letters. -/
def asMethods (v : Value) : Attempt (List Value) := v.asChildren.mapM Value.inCapitals

/-- The kind of a class name. -/
def kindOfName? (name : String) : Option Kind :=
  Kind.all.find? fun k => Value.kindName k == name

/-- The names of the fields of a kind. -/
def fieldNames : Kind → List String
  | .server => ["port", "host"]
  | .route => ["method", "path", "handler", "schema"]
  | .group => ["prefix"]
  | .routes => ["dir", "prefix"]
  | .middleware => ["use"]
  | .db => ["provider"]
  | .logger => ["level"]
  | .cors => ["origin", "methods"]
  | .rateLimiter => ["max", "time_window", "key_header"]
  | .plugin => ["handler", "name", "options"]
  | .response => []
  | .status => ["code"]
  | .body => ["data"]
  | .headers => ["headers"]
  | .err => ["code", "message", "details"]
  | .augment => ["data"]
  | .halt => ["code", "message"]

/-- The payload of a kind from fields that are all known, with the defaults of the kind. -/
def payload (kind : Kind) (fields : List (String × Value)) : Attempt (Payload Value) :=
  let get (name : String) (fallback : Value) : Value := (Assoc.get? name fields).getD fallback
  match kind with
  | .server => .ok (.server (get "port" (.int 3000)) (get "host" (.str "0.0.0.0")))
  | .route => do
    let method ← asMethod (get "method" (.str "GET"))
    return .route method (get "path" (.str "/")) (get "handler" .none) (get "schema" .none)
  | .group => .ok (.group (get "prefix" (.str "")))
  | .routes => .ok (.routes (get "dir" (.str "routes")) (get "prefix" (.str "")))
  | .middleware => .ok (.middleware (get "use" .none))
  | .db => .ok (.db (get "provider" .none))
  | .logger => .ok (.logger (get "level" (.str "info")))
  | .cors => do
    let methods ← asMethods (get "methods" (.tuple (defaultCorsMethods.map .str)))
    return .cors (asOrigin (get "origin" (.str "*"))) methods
  | .rateLimiter =>
    .ok (.rateLimiter (get "max" (.int 100)) (get "time_window" (.str "1 minute"))
      (get "key_header" .none))
  | .plugin => .ok (.plugin (get "handler" .none) (get "name" (.str "")) (get "options" (.mapping [])))
  | .response => .ok .response
  | .status => .ok (.status (get "code" (.int 200)))
  | .body => .ok (.body (get "data" .none))
  | .headers => .ok (.headers (get "headers" (.mapping [])))
  | .err =>
    .ok (.err (get "code" (.int 500)) (get "message" (.str "Error")) (get "details" .none))
  | .augment => .ok (.augment (get "data" (.mapping [])))
  | .halt => .ok (.halt (get "code" .none) (get "message" .none))

/-- The methods that have a constructor of their own, by its name. -/
def methodNames : List (String × String) :=
  [("Get", "GET"), ("Post", "POST"), ("Put", "PUT"), ("Delete", "DELETE"), ("Patch", "PATCH"),
    ("Head", "HEAD"), ("Options", "OPTIONS")]

/-- Quoted names in one phrase. -/
def listed : List String → String
  | [] => ""
  | [a] => "'" ++ a ++ "'"
  | [a, b] => "'" ++ a ++ "' and '" ++ b ++ "'"
  | as => Text.join ", " (as.dropLast.map fun a => "'" ++ a ++ "'") ++ ", and '" ++
      (as.getLast?.getD "") ++ "'"

/-- The refusal of a call that leaves parameters of a kind without a value. -/
def unbound (function kind : String) (names : List String) : Refusal :=
  .wrongType (function ++ "() missing " ++ toString names.length ++ " required " ++ kind ++ " argument" ++
    (if names.length = 1 then ": " else "s: ") ++ listed names)

/-- The refusal of an argument that there is no parameter for. -/
def unexpected (function name : String) : Refusal :=
  .wrongType (function ++ "() got an unexpected keyword argument '" ++ name ++ "'")

/-- The node of a kind with the given fields. -/
def ofKind (kind : Kind) (fields : List (String × Value)) : Attempt Value :=
  match fields.find? fun e => e.1 != "children" && !(fieldNames kind).contains e.1 with
  | some e =>
    refuse (unexpected (Value.kindName kind ++ ".__init__") e.1)
  | none => do
    let p ← payload kind fields
    return .node p ((Assoc.get? "children" fields).getD .none).asChildren

/-- The parameters of the constructors of methods; the first two must be given. -/
def methodParameters : List String := ["path", "handler", "schema", "children"]

/-- The route that the constructor of a method makes. Path and handler must be given. -/
def ofMethod (constructor method : String) (fields : List (String × Value)) : Attempt Value :=
  match fields.find? fun e => !methodParameters.contains e.1 with
  | some e => refuse (unexpected constructor e.1)
  | none =>
    match (methodParameters.take 2).filter fun name => !Assoc.has name fields with
    | [] => ofKind .route (("method", .str method) :: fields)
    | names => refuse (unbound constructor "positional" names)

/-- The node of a named class with the given fields. -/
def ofFields (name : String) (fields : List (String × Value)) : Attempt Value :=
  match Assoc.get? name methodNames with
  | some method => ofMethod name method fields
  | none =>
    match kindOfName? name with
    | some kind => ofKind kind fields
    | none => refuse (.wrongType ("unknown node class " ++ name))

/-- The key of children among properties. -/
def childrenKey : Value := .str "children"

/-- The children that a tree expression gives: those written after the properties, or else the property
of that name. -/
def givenChildren (props : List (Value × Value)) (children : List Value) : Attempt (List Value) :=
  match flattenChildren children with
  | [] =>
    match Assoc.get? childrenKey props with
    | some v => if v.truthy then v.iterate.map flattenChildren else .ok []
    | none => .ok []
  | xs => .ok xs

/-- Properties that are given by name. -/
def asNamed (props : List (Value × Value)) : Attempt (List (String × Value)) :=
  let named := Value.textFields props
  if named.length = props.length then .ok named else refuse (.wrongType "keywords must be strings")

/-- A tree expression: a composite to be expanded later. -/
def element (type : Value) (props : List (Value × Value)) (children : List Value) : Attempt Value := do
  let cs ← givenChildren props children
  return .element type (Assoc.erase childrenKey props) cs

/-- A tree expression: a node of a named class. -/
def make (name : String) (props : List (Value × Value)) (children : List Value) : Attempt Value := do
  let cs ← givenChildren props children
  let fields ← asNamed (Assoc.erase childrenKey props)
  ofFields name (fields ++ [("children", .tuple cs)])

/-- The name of a plugin: the one that is given, or that of its function. -/
def pluginName (handler name : Value) : Attempt String :=
  if name.truthy then
    match name with
    | .str s => .ok s
    | v => refuse (.wrongType ("__name__ must be set to a string object, not '" ++ v.typeName ++ "'"))
  else .ok (handler.functionName?.getD "plugin")

/-- The plugin node that runs a function. An option that is called children gives the children. -/
def plugin (handler name : Value) (options : List (Value × Value)) (children : Option Value) :
    Attempt Value := do
  let title ← pluginName handler name
  let named ← asNamed options
  let given :=
    match children with
    | some v => named ++ [("children", v)]
    | none => named
  if (given.filter fun e => e.1 == "children").length ≤ 1 then
    return .node (.plugin handler (.str title) (.ofFields (Assoc.erase "children" given)))
      ((Assoc.get? "children" given).getD .none).asChildren
  else
    refuse (.wrongType (title ++ "() got multiple values for keyword argument 'children'"))

end Node

end ServerTree
