import ServerTree.Routing.Segment
import ServerTree.Assoc

/-!
# Routing

Routes live in a trie: at each node a fixed segment is tried first, then the parameter edge, then the
edge that takes everything that remains. A branch counts only if it serves the method that is asked for,
so a search falls through to the next edge. A request for HEAD is served by a GET route when no HEAD
route is there.

A registration that is refused for a method that is taken stays under the methods before that one; any
other refusal leaves the trie as it was.

## Main definitions
- `Route`, `Trie`, `Router`
- `Router.add`: registers a route
- `Router.routes`: every registered route
- `Router.match?`, `Miss`: the route for a method and a path, or why there is none
-/

namespace ServerTree

/-- A registered endpoint of type `E`. -/
structure Route (E : Type) where
  path : String
  methods : List String
  endpoint : E
  /-- The number of the registration, by which routes are told apart. -/
  serial : Nat

/-- The methods of a route in order, and its path. -/
def Route.label {E : Type} (r : Route E) : String :=
  Text.join ", " (Text.sorted r.methods) ++ " " ++ r.path

/-- Routes by method. -/
abbrev MethodTable (E : Type) : Type := List (String × Route E)

/-- A node of the trie. -/
inductive Trie (E : Type) where
  | node
    (routes : MethodTable E)
    (children : List (String × Trie E))
    (param : Option (String × Converter × Trie E))
    (catchAll : Option (String × MethodTable E))

namespace Trie

variable {E : Type}

/-- A node without routes or edges. -/
def empty : Trie E := .node [] [] none none

instance : Inhabited (Trie E) := ⟨empty⟩

/-- Enters a route under each of its methods, up to the first that is taken. -/
def register (route : Route E) : List String → MethodTable E → MethodTable E × Option Refusal
  | [], table => (table, none)
  | m :: ms, table =>
    match Assoc.get? m table with
    | some taken => (table, some (.duplicateRoute m route.path taken.label))
    | none => register route ms (Assoc.set m route table)

/-- Enters a route at the end of its segments. -/
def insert (route : Route E) : List Segment → Trie E → Trie E × Option Refusal
  | [], .node routes children param catchAll =>
    let r := register route route.methods routes
    (.node r.1 children param catchAll, r.2)
  | .fixed text :: segments, .node routes children param catchAll =>
    let child := (Assoc.get? text children).getD empty
    let r := insert route segments child
    (.node routes (Assoc.set text r.1 children) param catchAll, r.2)
  | .param _ name .rest :: _, .node routes children param catchAll =>
    let edge := catchAll.getD (if name = "" then "path" else name, [])
    let r := register route route.methods edge.2
    (.node routes children param (some (edge.1, r.1)), r.2)
  | .param _ name converter :: segments, .node routes children param catchAll =>
    match param with
    | none =>
      let r := insert route segments empty
      (.node routes children (some (name, converter, r.1)) catchAll, r.2)
    | some (taken, first, next) =>
      if taken = name then
        let r := insert route segments next
        (.node routes children (some (taken, first, r.1)) catchAll, r.2)
      else (.node routes children param catchAll, some (.parameterClash route.path name taken))

/-- The route of a table that serves a method. -/
def serving (table : MethodTable E) (method : String) : Option (Route E) :=
  match Assoc.get? method table with
  | some r => some r
  | none => if method = "HEAD" then Assoc.get? "GET" table else none

/-- Whether a table can answer: with a method, it must serve it; without one, it must not be empty. -/
def answers (table : MethodTable E) : Option String → Bool
  | none => !table.isEmpty
  | some m => (serving table m).isSome

/-- The table that answers for the segments of a path, and what the parameters on the way stand for. -/
def find (method : Option String) :
    List String → List (String × String) → Trie E → Option (MethodTable E × List (String × String))
  | [], params, .node routes _ _ _ => if answers routes method then some (routes, params) else none
  | part :: parts, params, .node _ children param catchAll =>
    let viaChild :=
      match Assoc.get? part children with
      | some child => find method parts params child
      | none => none
    match viaChild with
    | some r => some r
    | none =>
      let viaParam :=
        match param with
        | some (name, converter, next) =>
          if converter.accepts part then find method parts (Assoc.set name part params) next else none
        | none => none
      match viaParam with
      | some r => some r
      | none =>
        match catchAll with
        | some (name, table) =>
          if method.isNone || answers table method then
            some (table, Assoc.set name (Text.join "/" (part :: parts)) params)
          else none
        | none => none

mutual

/-- Every entry of the trie: a node's own routes, those of its edge for the rest, the children in order
of arrival, and the parameter edge last. -/
def entries : Trie E → List (Route E)
  | .node routes children param catchAll =>
    routes.map Prod.snd ++ (match catchAll with | some (_, t) => t.map Prod.snd | none => []) ++
      entriesChildren children ++ entriesParam param

/-- The entries below a row of children. -/
def entriesChildren : List (String × Trie E) → List (Route E)
  | [] => []
  | (_, t) :: r => entries t ++ entriesChildren r

/-- The entries below a parameter edge. -/
def entriesParam : Option (String × Converter × Trie E) → List (Route E)
  | none => []
  | some (_, _, t) => entries t

end

end Trie

/-- Drops entries whose number was seen before. -/
def firstOfEach {E : Type} : List Nat → List (Route E) → List (Route E)
  | _, [] => []
  | seen, r :: rs =>
    if seen.contains r.serial then firstOfEach seen rs
    else r :: firstOfEach (r.serial :: seen) rs

/-- A router. -/
structure Router (E : Type) where
  trie : Trie E := .empty
  /-- How many registrations were tried. -/
  count : Nat := 0
  compiled : Bool := false

/-- Why no route was found. -/
inductive Miss where
  /-- No route matches the path. -/
  | notFound
  /-- Routes of these methods match the path, but none of the method that was asked for. -/
  | otherMethods (allowed : List String)
deriving DecidableEq, Repr

/-- A route that was found, and its parameters. -/
structure RouteMatch (E : Type) where
  route : Route E
  params : List (String × String)

namespace Router

variable {E : Type}

/-- Registers an endpoint. What was entered before a refusal stays. -/
def add (router : Router E) (path : String) (methods : List String) (endpoint : E) :
    Router E × Option Refusal :=
  if router.compiled then (router, some .compiledRouter)
  else
    match parsePattern path with
    | .error r => (router, some r)
    | .ok segments =>
      let route : Route E := ⟨path, methods, endpoint, router.count⟩
      let r := router.trie.insert route segments
      ({ router with trie := r.1, count := router.count + 1 }, r.2)

/-- Every registered route, each once. -/
def routes (router : Router E) : List (Route E) :=
  firstOfEach [] router.trie.entries

/-- Ends the registrations. -/
def compile (router : Router E) : Router E :=
  { router with compiled := true }

/-- The route for a method and a path. A path that no route matches is not found; a path that only
routes of other methods match is answered with those methods. -/
def match? (router : Router E) (method path : String) : Except Miss (RouteMatch E) :=
  let parts := pathSegments path
  match router.trie.find (some method) parts [] with
  | some (table, params) =>
    match Trie.serving table method with
    | some route => .ok ⟨route, params⟩
    | none => .error .notFound
  | none =>
    match router.trie.find none parts [] with
    | none => .error .notFound
    | some (table, _) => .error (.otherMethods (table.map Prod.fst))

end Router

end ServerTree
