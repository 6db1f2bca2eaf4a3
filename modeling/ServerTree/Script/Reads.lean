import ServerTree.Pipeline.Context
import ServerTree.Script.State

/-!
# Reading arguments

What a function reads from its arguments: the fields of a context, the parts of a request, and what hooks
and plugins are given. Whatever stands in the place of a part is read by the same names.
-/

namespace ServerTree.Script

/-- The refusal to read an attribute that a context does not have. -/
def noField {α : Type} (name : String) : Attempt α :=
  refuse (.noAttribute ("'HandlerContext' object has no attribute '" ++ name ++ "'"))

/-- An attribute of a context that is a field. -/
def fieldOf (fields : Fields) (name : String) : Attempt Value :=
  match Assoc.get? (.str name) fields with
  | some v => .ok v
  | none => noField name

/-- An attribute of a context: a field, or else a method. -/
def memberOf (fields : Fields) (name : String) : Attempt Value :=
  match Assoc.get? (.str name) fields with
  | some v => .ok v
  | none =>
    if name = "__dict__" then .ok (.mapping fields)
    else if contextMethods.contains name then
      (showContext (fields.map Prod.fst)).map (.contextMethod name)
    else noField name

namespace Caller

/-- The refusal to use an argument that is not there. -/
def tooFew : Refusal := .outOfRange "tuple index out of range"

/-- The first argument, unless it is a context. -/
def first? : Caller → Option Value
  | .value v => some v
  | .hook request _ _ => some (.request request)
  | _ => none

/-- What the first argument is called when it is refused. -/
def typeName : Caller → String
  | .context .. => "HandlerContext"
  | .plugin .. => "App"
  | .nobody => "NoneType"
  | c => (c.first?.map Value.typeName).getD "NoneType"

/-- The refusal to use an attribute that the first argument does not have. -/
def lacks (c : Caller) (name : String) : Refusal :=
  .noAttribute ("'" ++ c.typeName ++ "' object has no attribute '" ++ name ++ "'")

/-- The refusal to use an attribute of the first argument, or the first argument at all. -/
def lacking (c : Caller) (name : String) : Refusal :=
  match c with
  | .nobody => tooFew
  | c => c.lacks name

/-- An attribute of the first argument. -/
def part (c : Caller) (name : String) : Attempt Value :=
  match c with
  | .context fields _ => fieldOf fields name
  | c =>
    match c.first? with
    | some v => v.part name
    | none => refuse (c.lacking name)

/-- The request that the arguments are about. -/
def request (c : Caller) : Attempt Value :=
  match c with
  | .context fields _ => fieldOf fields "request"
  | c =>
    match c.first? with
    | some v => .ok v
    | none => refuse (c.lacking "request")

end Caller

/-- A configuration as a mapping; anything in its place stands for itself. -/
def describe (v : Value) : Value :=
  match v with
  | .config c => c.describe
  | v => v

/-- Whether a value holds another. -/
def holds (v key : Value) : Attempt Bool :=
  match v, key with
  | .mapping es, key => (key.lookUp es).map Option.isSome
  | .headers h, key => .ok (key.name?.any h.has)
  | .query q, key => .ok (key.name?.any q.has)
  | .str s, .str part => .ok (Text.contains part s)
  | .str _, key =>
    refuse (.wrongType ("'in <string>' requires string as left operand, not " ++ key.typeName))
  | v, key =>
    match v.iterate with
    | .ok xs => .ok (xs.any fun x => x.same key)
    | .error _ => refuse (.wrongType ("argument of type '" ++ v.typeName ++ "' is not iterable"))

/-- What a context says, apart from its request. -/
def ofContext (fields : Fields) (what : Read) (key fallback : Value) : Option (Run Value) :=
  match what with
  | .item => some (Run.ofAttempt ((key.lookUp fields).bind key.foundUnder))
  | .member => some do
    let name ← Run.ofAttempt (attributeName key)
    Run.ofAttempt (memberOf fields name)
  | .get => some do
    match methodField? "get" fields with
    | some fn => Run.call fn [key, fallback]
    | none => do
      let found ← Run.ofAttempt (key.lookUp fields)
      return found.getD fallback
  | .has => some do
    let found ← Run.ofAttempt (key.lookUp fields)
    return .bool found.isSome
  | .keys => some do
    let names ← Run.ofAttempt (Value.sorted (fields.map Prod.fst))
    return .list names
  | .shown => some do
    let shown ← Run.ofAttempt (showContext (fields.map Prod.fst))
    return .str shown
  | _ => none

/-- What a value that is no context says, apart from its parts. -/
def ofValue (v : Value) (what : Read) (key fallback : Value) : Option (Run Value) :=
  match what with
  | .item => some (Run.ofAttempt (v.entry key))
  | .member => some do
    let name ← Run.ofAttempt (attributeName key)
    Run.ofAttempt (v.part name)
  | .get => some (Run.callMethod v "get" [key, fallback])
  | .has => some (Run.ofAttempt ((holds v key).map .bool))
  | .keys => some (Run.ofAttempt do
      let xs ← v.iterate
      let names ← Value.sorted xs
      return .list names)
  | .shown => some (Run.ofAttempt (v.quotedText.map .str))
  | _ => none

/-- What the request that a call is about says. -/
def ofRequest (c : Caller) (what : Read) (key fallback : Value) : Run Value := do
  let part (name : String) : Run Value := do
    let r ← Run.ofAttempt c.request
    Run.ofAttempt (r.part name)
  let ask (name method : String) (arguments : List Value) : Run Value := do
    let v ← part name
    Run.callMethod v method arguments
  match what with
  | .query => ask "query" "get" [key]
  | .queryAll => ask "query" "get_list" [key]
  | .queryInteger => ask "query" "get_int" [key, fallback]
  | .queryFields => ask "query" "to_dict" []
  | .header => ask "headers" "get" [key]
  | .headerFields => ask "headers" "to_dict" []
  | .method => part "method"
  | .path => part "path"
  | .url => part "url"
  | .pathParams => part "path_params"
  | .clientHost => part "client_host"
  | .contentType => part "content_type"
  | _ => Run.refuse Caller.tooFew

/-- What the parts of the first argument say. -/
def ofParts (c : Caller) (what : Read) (key fallback : Value) : Run Value := do
  let part (name : String) : Run Value := Run.ofAttempt (c.part name)
  let ofReply (name : String) (own : Reply → Value) : Run Value := do
    match c, ← part "reply" with
    | .context _ reply, .reply => return own reply
    | _, v => Run.ofAttempt (v.part name)
  match what with
  | .params => part "params"
  | .param => do
    let params ← part "params"
    Run.ofAttempt (params.entry key)
  | .body => part "body"
  | .service => part "service"
  | .config => do
    let v ← part "config"
    return describe v
  | .replyStatus => ofReply "status_code" fun reply => reply.status
  | .replySent => ofReply "sent" fun reply => .bool reply.sent
  | what => ofRequest c what key fallback

/-- What an application says about itself: it has no entries, and none of the parts that are read. -/
def ofApplication (c : Caller) (what : Read) (key : Value) : Option (Run Value) :=
  match what with
  | .item => some (Run.refuse (.wrongType ("'" ++ c.typeName ++ "' object is not subscriptable")))
  | .member => some do
    let name ← Run.ofAttempt (attributeName key)
    Run.refuse (c.lacking name)
  | .get => some (Run.refuse (c.lacking "get"))
  | .has => some (Run.refuse (.wrongType ("argument of type '" ++ c.typeName ++ "' is not iterable")))
  | .keys => some (Run.refuse (.wrongType ("'" ++ c.typeName ++ "' object is not iterable")))
  | _ => none

/-- What the arguments of a call say. -/
def Caller.read (c : Caller) (what : Read) (key fallback : Value) : Run Value :=
  match c, what with
  | .hook _ response _, .responseStatus => Run.ofAttempt (response.part "status")
  | .hook _ _ elapsed, .elapsed => return .ofFloat elapsed
  | .plugin options _, .options => return .mapping options
  | .plugin _ config, .config => return config.describe
  | .nobody, _ => Run.refuse Caller.tooFew
  | .plugin .., what => (ofApplication c what key).getD (ofParts c what key fallback)
  | .context fields _, what => (ofContext fields what key fallback).getD (ofParts c what key fallback)
  | .value v, what => (ofValue v what key fallback).getD (ofParts c what key fallback)
  | .hook request _ _, what =>
    (ofValue (.request request) what key fallback).getD (ofParts c what key fallback)

end ServerTree.Script
