import ServerTree.Node.Build

/-!
# Attributes of values

Whoever handles a response, a request or a failure reads it by the names of its parts, and takes whatever
has parts of those names. `Value.attribute?` gives the part of a value that has a name.

## Main definitions
- `Value.attribute?`: the part of a name
- `Value.part`: the same, refused when there is none
- `Value.method?`: what a method of fields and mappings gives
- `Value.asPair`: an element that must have two parts
-/

namespace ServerTree

/-- Pairs as a tuple of tuples. -/
def Value.ofPairTuple (ps : List (Value × Value)) : Value :=
  .tuple (ps.map fun p => .tuple [p.1, p.2])

/-- An attribute of a failure. -/
def Failure.attribute? (f : Fault) (name : String) : Option Value :=
  match f with
  | .raised form arguments attributes _ =>
    match Assoc.get? name attributes with
    | some v => some v
    | none =>
      if name = "args" then some (.tuple arguments)
      else if form = .middlewareTimeout ∧ name = "status_code" then some (.int 500)
      else none
  | .http e =>
    if name = "status_code" ∨ name = "status" then some e.status
    else if name = "detail" then some e.detail
    else if name = "headers" then some (Value.ofPairTuple e.headers)
    else none
  | .refused r =>
    if r.errorClass = .middlewareTimeout ∧ name = "status_code" then some (.int 500) else none

namespace Request

/-- The parts of a request, by name. -/
def attributes (r : Request) : List (String × Value) :=
  let address (a : String × Int) : Value := .tuple [.str a.1, .int a.2]
  [("method", .str r.method), ("path", .str r.path), ("headers", .headers r.headers),
    ("query", .query r.query), ("path_params", .ofFields (r.pathParams.map fun e => (e.1, .str e.2))),
    ("http_version", .str r.httpVersion), ("server", Value.ofOption address r.server),
    ("client", Value.ofOption address r.client), ("content_type", Value.ofOption .str r.contentType),
    ("content_length", Value.ofOption .int r.contentLength), ("url", .str r.url),
    ("client_host", Value.ofOption .str r.clientHost)]

end Request

namespace Value

/-- The attributes of what has the same ones whatever it holds. -/
def attributes : Value → List (String × Value)
  | .response r =>
    [("body", r.body), ("status", r.status), ("content_type", r.contentType),
      ("headers", ofPairTuple r.headers)]
  | .signal (.augment fields) => [("fields", fields)]
  | .signal (.fail status message) => [("status", status), ("message", message)]
  | .node p cs => ("children", .tuple cs) :: payloadFields p
  | .element type props cs => [("type", type), ("props", .mapping props), ("children", .tuple cs)]
  | .upload u =>
    [("filename", .str u.filename), ("content_type", .str u.contentType), ("size", .int u.size),
      ("content", .bytes u.content)]
  | .config c =>
    [("prefix", c.settings.mountPath), ("rate_limit", c.settings.rateLimit), ("cors", c.settings.cors),
      ("log_level", c.settings.logLevel), ("service", c.settings.service)]
  | .rateLimitSpec s => [("max", s.max), ("window", s.window), ("key_header", s.keyHeader)]
  | .corsSpec s => [("origin", s.origin), ("methods", .tuple s.methods)]
  | .request r => r.attributes
  | v => (v.functionName?.map fun name => ("__name__", .str name)).toList

/-- The part of a value that has a name. -/
def attribute? (v : Value) (name : String) : Option Value :=
  match v with
  | .failure f => f.attribute? name
  | v => Assoc.get? name v.attributes

/-- The part of a value that has a name, which must be there. -/
def part (v : Value) (name : String) : Attempt Value :=
  match v.attribute? name with
  | some x => .ok x
  | Option.none => refuse (noAttribute v name)

/-- The two parts of an element. -/
def asPair (v : Value) : Attempt (Value × Value) :=
  match v.iterate with
  | .ok [a, b] => .ok (a, b)
  | .ok xs => refuse (.notTwo xs.length)
  | .error _ => refuse (.wrongType ("cannot unpack non-iterable " ++ v.typeName ++ " object"))

/-- How many elements a value has. -/
def length? (v : Value) : Option Nat :=
  match v.iterate with
  | .ok xs => some xs.length
  | .error _ => Option.none

/-! ## Looking up -/

/-- The name that a key is; only texts are names. -/
def name? : Value → Option String
  | .str s => some s
  | _ => Option.none

/-- The first value under a key, or the fallback. Only texts are names of fields. -/
def firstOf (get? : String → Option Value) (key fallback : Value) : Value :=
  (key.name?.bind get?).getD fallback

/-- Every value under a key. One that is no text has none, but it must be able to be a key. -/
def everyOf (getAll : String → List String) (key : Value) : Attempt Value :=
  match key with
  | .str name => .ok (ofTexts (getAll name))
  | v => v.asKey.map fun _ => .list []

/-- What a method of a mapping, of header fields or of query parameters gives. -/
def method? (v : Value) (name : String) (arguments : List Value) : Option (Attempt Value) :=
  let key := arguments.headD .none
  let fallback := arguments.getD 1 .none
  match v, name with
  | .mapping es, "get" => some ((key.lookUp es).map fun x => x.getD fallback)
  | .headers h, "get" => some (.ok (firstOf (fun k => (h.get? k).map .str) key fallback))
  | .headers h, "get_list" => some (key.inSmallLetters.bind (everyOf h.getAll))
  | .headers h, "to_dict" => some (.ok (ofHeaders h))
  | .query q, "get" => some (.ok (firstOf (fun k => (q.get? k).map .str) key fallback))
  | .query q, "get_list" => some (everyOf q.getAll key)
  | .query q, "get_int" => some (.ok (firstOf (fun k => (q.getInt? k).map .int) key fallback))
  | .query q, "to_dict" => some (.ok (ofQuery q))
  | _, _ => Option.none

/-- The element of a row at a position; a negative one counts from the end. -/
def elementAt (row : String) (xs : List Value) (i : Int) : Attempt Value :=
  let j := if i < 0 then i + xs.length else i
  if i < -0x8000000000000000 ∨ 0x8000000000000000 ≤ i then
    refuse (.outOfRange "cannot fit 'int' into an index-sized integer")
  else
    match if j < 0 then Option.none else xs[j.toNat]? with
    | some v => .ok v
    | Option.none => refuse (.outOfRange (row ++ "index out of range"))

/-- The element of a row under a key, which must be a position. -/
def elementUnder (row : String) (refusal : String) (xs : List Value) (key : Value) : Attempt Value :=
  match key with
  | .int i => elementAt row xs i
  | .bool b => elementAt row xs (if b then 1 else 0)
  | _ => refuse (.wrongType refusal)

/-- The failure to find a key. -/
def missingKey (key : Value) : Fault := .raised .key [key] [] 0

/-- What is found under a key, which must be there. -/
def foundUnder (key : Value) (found : Option Value) : Attempt Value :=
  match found with
  | some v => .ok v
  | Option.none => .error (missingKey key)

/-- An entry of a mapping or an element of a row. -/
def entry (v : Value) (key : Value) : Attempt Value :=
  let positions := " indices must be integers or slices, not " ++ key.typeName
  match v with
  | .mapping es => (key.lookUp es).bind (foundUnder key)
  | .headers h => foundUnder key (key.name?.bind fun k => (h.get? k).map .str)
  | .query q => foundUnder key (key.name?.bind fun k => (q.get? k).map .str)
  | .list xs => elementUnder "list " ("list" ++ positions) xs key
  | .tuple xs => elementUnder "tuple " ("tuple" ++ positions) xs key
  | .bytes b => elementUnder "" ("byte" ++ positions) (b.map fun x => .int x.toNat) key
  | .str s =>
    elementUnder "string " ("string indices must be integers, not '" ++ key.typeName ++ "'")
      ((Text.glyphs s).map .str) key
  | v => refuse (.wrongType ("'" ++ v.typeName ++ "' object is not subscriptable"))

end Value

end ServerTree
