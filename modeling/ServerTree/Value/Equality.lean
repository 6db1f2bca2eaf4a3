import ServerTree.Value
import ServerTree.Decimal.Comparison
import ServerTree.Assoc

/-!
# Equality of values

Numbers are compared by value across booleans, integers and doubles, so `1`, `true` and `1.0` are equal
and are one key of a mapping. Containers are compared element by element, mappings without regard to
order, nodes and configurations field by field; functions, objects and errors of the application by
identity. What is no number is equal to nothing, but inside containers and as a key it is the same as
itself.

A key of a mapping must be hashable: what contains a mapping or a list is not.

## Main definitions
- `Value.eq`: equality
- `Value.same`: equality or identity, as containers compare their elements
- `Value.unhashable?`: why a value can be no key
-/

namespace ServerTree.Value

/-- The first value of each name, for a row of fields that count as a mapping. -/
def textPairsEq (a b : List (String × String)) : Bool :=
  a.length == b.length && a.all fun e => Assoc.get? e.1 b == some e.2

/-- Whether the entries of a mapping are the given fields. -/
def textEntriesEq (fields : List (String × String)) (entries : List (Value × Value)) : Bool :=
  fields.length == entries.length && entries.all fun e =>
    match e.1, e.2 with
    | .str k, .str v => Assoc.get? k fields == some v
    | _, _ => false

mutual

/-- Equality of values; `inside` tells whether a container compares its elements, for which identity is
enough. -/
def eqWith (inside : Bool) : Value → Value → Bool
  | .none, .none => true
  | .nan a, .nan b => inside && a == b
  | .bool a, .bool b => a == b
  | .bool a, .int j => (if a then 1 else 0) == j
  | .bool a, .float y => Decimal.equalsInt y (if a then 1 else 0)
  | .int i, .bool b => i == (if b then 1 else 0)
  | .int i, .int j => i == j
  | .int i, .float y => Decimal.equalsInt y i
  | .float x, .bool b => Decimal.equalsInt x (if b then 1 else 0)
  | .float x, .int j => Decimal.equalsInt x j
  | .float x, .float y => x == y
  | .str s, .str t => s == t
  | .bytes a, .bytes b => a == b
  | .list xs, .list ys => eqAll xs ys
  | .tuple xs, .tuple ys => eqAll xs ys
  | .mapping es, .mapping fs => es.length == fs.length && eqEntries es fs
  | .mapping es, .headers h => textEntriesEq h.firsts es
  | .mapping es, .query q => textEntriesEq q.firsts es
  | .headers h, .mapping es => textEntriesEq h.firsts es
  | .query q, .mapping es => textEntriesEq q.firsts es
  | .headers h, .query q => textPairsEq h.firsts q.firsts
  | .query q, .headers h => textPairsEq q.firsts h.firsts
  | .headers h, .headers k => textPairsEq h.firsts k.firsts
  | .query q, .query r => textPairsEq q.firsts r.firsts
  | .object _ a, .object _ b => a == b
  | .func f, .func g => f.id == g.id
  | .node p xs, .node q ys => eqPayload p q && eqAll xs ys
  | .element a props xs, .element b props' ys =>
    eqWith true a b && props.length == props'.length && eqEntries props props' && eqAll xs ys
  | .response ⟨b, s, c, h⟩, .response ⟨b', s', c', h'⟩ =>
    eqWith true b b' && eqWith true s s' && eqWith true c c' && eqPairs h h'
  | .signal .proceed, .signal .proceed => true
  | .signal .halt, .signal .halt => true
  | .signal (.augment a), .signal (.augment b) => eqWith true a b
  | .signal (.fail a b), .signal (.fail c d) => eqWith true a c && eqWith true b d
  | .failure (.http ⟨form, status, detail, fields⟩), .failure (.http ⟨form', status', detail', fields'⟩) =>
    form == form' && eqWith true status status' && eqWith true detail detail' && eqPairs fields fields'
  | .failure (.raised _ _ _ a), .failure (.raised _ _ _ b) => a == b
  | .config ⟨s, ms⟩, .config ⟨t, ns⟩ => eqMiddleware ms ns && eqSettings s t
  | .rateLimitSpec ⟨max, window, header⟩, .rateLimitSpec ⟨max', window', header'⟩ =>
    eqWith true max max' && eqWith true window window' && eqWith true header header'
  | .corsSpec ⟨origin, methods⟩, .corsSpec ⟨origin', methods'⟩ => eqWith true origin origin' && eqAll methods methods'
  | .upload u, .upload v => decide (u = v)
  | .request r, .request s => decide (r = s)
  | .reply, .reply => true
  | .logger l _, .logger m _ => decide (l = m)
  | .contextMethod a c, .contextMethod b d => a == b && c == d
  | .pending a, .pending b => a == b
  | _, _ => false
termination_by structural v => v

/-- Rows of values are equal in every place. -/
def eqAll : List Value → List Value → Bool
  | [], [] => true
  | x :: xs, y :: ys => eqWith true x y && eqAll xs ys
  | _, _ => false
termination_by structural v => v

/-- Every entry of the first mapping has an equal entry in the second. -/
def eqEntries : List (Value × Value) → List (Value × Value) → Bool
  | [], _ => true
  | (k, v) :: r, fs => fs.any (fun e => eqWith true k e.1 && eqWith true v e.2) && eqEntries r fs
termination_by structural v => v

/-- Pairs are equal in every place. -/
def eqPairs : List (Value × Value) → List (Value × Value) → Bool
  | [], [] => true
  | (a, b) :: r, (c, d) :: r' => eqWith true a c && eqWith true b d && eqPairs r r'
  | _, _ => false
termination_by structural v => v

/-- Settings are equal in every field. -/
def eqSettings : Settings Value → Settings Value → Bool
  | ⟨path, limit, cors, level, service, extensions⟩,
      ⟨path', limit', cors', level', service', extensions'⟩ =>
    eqWith true path path' && eqWith true limit limit' && eqWith true cors cors' && eqWith true level level' &&
      eqWith true service service' && extensions.length == extensions'.length &&
      eqEntries extensions extensions'
termination_by structural v => v

/-- Scoped middleware is equal in every place: one function, declared under equal settings. -/
def eqMiddleware : List (ScopedMiddleware Value) → List (ScopedMiddleware Value) → Bool
  | [], [] => true
  | ⟨fn, captured⟩ :: r, ⟨fn', captured'⟩ :: r' =>
    eqWith true fn fn' && eqSettings captured captured' && eqMiddleware r r'
  | _, _ => false
termination_by structural v => v

/-- Payloads of one kind are equal in every field. -/
def eqPayload : Payload Value → Payload Value → Bool
  | .server a b, .server c d => eqWith true a c && eqWith true b d
  | .route m a b c, .route m' a' b' c' => m == m' && eqWith true a a' && eqWith true b b' && eqWith true c c'
  | .group a, .group b => eqWith true a b
  | .routes a b, .routes c d => eqWith true a c && eqWith true b d
  | .middleware a, .middleware b => eqWith true a b
  | .db a, .db b => eqWith true a b
  | .logger a, .logger b => eqWith true a b
  | .cors a m, .cors b n => eqWith true a b && eqAll m n
  | .rateLimiter a b c, .rateLimiter a' b' c' => eqWith true a a' && eqWith true b b' && eqWith true c c'
  | .plugin a b c, .plugin a' b' c' => eqWith true a a' && eqWith true b b' && eqWith true c c'
  | .response, .response => true
  | .status a, .status b => eqWith true a b
  | .body a, .body b => eqWith true a b
  | .headers a, .headers b => eqWith true a b
  | .err a b c, .err a' b' c' => eqWith true a a' && eqWith true b b' && eqWith true c c'
  | .augment a, .augment b => eqWith true a b
  | .halt a b, .halt c d => eqWith true a c && eqWith true b d
  | _, _ => false
termination_by structural v => v

end

/-- Equality of values. -/
def eq (a b : Value) : Bool := eqWith false a b

/-- Equality or identity, as containers compare their elements and mappings their keys. -/
def same (a b : Value) : Bool := eqWith true a b

instance : BEq Value := ⟨same⟩

/-- Texts are equal as keys when they are equal. -/
theorem beq_str (a b : String) : (Value.str a == Value.str b) = (a == b) := rfl

/-- No other value is equal to a text as a key. -/
theorem eq_of_beq_str {v : Value} {s : String} (h : (v == .str s) = true) : v = .str s := by
  cases v with
  | str t => rw [eq_of_beq ((beq_str t s).symm.trans h)]
  | signal signal => cases signal <;> cases h
  | failure f => cases f <;> cases h
  | _ => cases h

mutual

/-- The name of the type that keeps a value from being a key. -/
def unhashable? : Value → Option String
  | .list _ => some "list"
  | .mapping _ | .element .. | .signal (.augment (.mapping _)) => some "dict"
  | .tuple xs => anyUnhashable? xs
  | .node p cs => anyUnhashable? cs <|> payloadUnhashable? p
  | .response ⟨body, status, contentType, fields⟩ =>
    unhashable? body <|> unhashable? status <|> unhashable? contentType <|> pairsUnhashable? fields
  | .failure (.http ⟨_, status, detail, fields⟩) =>
    unhashable? status <|> unhashable? detail <|> pairsUnhashable? fields
  | .signal (.augment fields) => unhashable? fields
  | .signal (.fail status message) => unhashable? status <|> unhashable? message
  | .config ⟨settings, middleware⟩ =>
    middlewareUnhashable? middleware <|> settingsUnhashable? settings
  | .rateLimitSpec ⟨max, window, header⟩ => unhashable? max <|> unhashable? window <|> unhashable? header
  | .corsSpec ⟨origin, methods⟩ => unhashable? origin <|> anyUnhashable? methods
  | .request _ | .headers _ => some "Headers"
  | .query _ => some "QueryParams"
  | _ => Option.none

/-- The name of the first type that keeps one of a row of values from being a key. -/
def anyUnhashable? : List Value → Option String
  | [] => Option.none
  | x :: xs => unhashable? x <|> anyUnhashable? xs

/-- The name of the first type that keeps one of a row of pairs from being a key. -/
def pairsUnhashable? : List (Value × Value) → Option String
  | [] => Option.none
  | (a, b) :: r => unhashable? a <|> unhashable? b <|> pairsUnhashable? r

/-- The name of the type that keeps a payload from being hashed. -/
def payloadUnhashable? : Payload Value → Option String
  | .server a b => unhashable? a <|> unhashable? b
  | .route _ a b c => unhashable? a <|> unhashable? b <|> unhashable? c
  | .group a => unhashable? a
  | .routes a b => unhashable? a <|> unhashable? b
  | .middleware a => unhashable? a
  | .db a => unhashable? a
  | .logger a => unhashable? a
  | .cors a methods => unhashable? a <|> anyUnhashable? methods
  | .rateLimiter a b c => unhashable? a <|> unhashable? b <|> unhashable? c
  | .plugin a b c => unhashable? a <|> unhashable? b <|> unhashable? c
  | .response => Option.none
  | .status a => unhashable? a
  | .body a => unhashable? a
  | .headers a => unhashable? a
  | .err a b c => unhashable? a <|> unhashable? b <|> unhashable? c
  | .augment a => unhashable? a
  | .halt a b => unhashable? a <|> unhashable? b

/-- The name of the type that keeps settings from being hashed. Extensions always do. -/
def settingsUnhashable? : Settings Value → Option String
  | ⟨path, limit, cors, level, service, _⟩ =>
    unhashable? path <|> unhashable? limit <|> unhashable? cors <|> unhashable? level <|> unhashable? service <|>
      some "mappingproxy"

/-- The name of the type that keeps scoped middleware from being hashed. -/
def middlewareUnhashable? : List (ScopedMiddleware Value) → Option String
  | [] => Option.none
  | ⟨fn, captured⟩ :: r =>
    unhashable? fn <|> settingsUnhashable? captured <|> middlewareUnhashable? r

end

/-- The refusal of a value that can be no key. -/
def refuseUnhashable {α : Type} (typeName : String) : Attempt α :=
  refuse (.wrongType ("unhashable type: '" ++ typeName ++ "'"))

/-- A value as a key. -/
def asKey (v : Value) : Attempt Value :=
  match v.unhashable? with
  | some name => refuseUnhashable name
  | Option.none => .ok v

/-- The value under a key of a mapping; a value that can be no key is refused. -/
def lookUp {α : Type} (key : Value) (entries : List (Value × α)) : Attempt (Option α) :=
  key.asKey.map fun k => Assoc.get? k entries

/-- The mapping of a list of entries: a repeated key keeps its first position and last value. -/
def ofEntries (entries : List (Value × Value)) : Value :=
  .mapping (Assoc.ofList entries)

/-- The keys of a mapping that are texts, with their values. -/
def textFields (entries : List (Value × Value)) : List (String × Value) :=
  entries.filterMap fun e =>
    match e.1 with
    | .str k => some (k, e.2)
    | _ => Option.none

end ServerTree.Value

namespace ServerTree

/-- Equality of configurations. -/
def RouteConfig.eq (a b : RouteConfig Value) : Bool :=
  Value.eqMiddleware a.middleware b.middleware && Value.eqSettings a.settings b.settings

end ServerTree
