import ServerTree.Proofs.Routing.Search

/-!
# Routers that were filled by registrations

A router that accepted a row of registrations is known by the routes that these made: each table holds
exactly the routes of its edges, under their methods, and each edge has the label of the first route that
follows it.

## Main definitions
- `Registration`, `Router.addAll`: registrations, one after the other
- `registered`: the routes that they make
- `Router.Holds`: a router holds just these routes

## Main statements
- `holds_addAll`: what a router holds after a row of accepted registrations
- `accepts_some_iff`, `accepts_none_iff`: which edges accept a path
- `match?_eq_ok`, `match?_eq_notFound_iff`: the answers of a router
-/

namespace ServerTree

variable {E : Type}

/-- What a router is asked to register. -/
structure Registration (E : Type) where
  path : String
  methods : List String
  endpoint : E

/-- The route that a registration makes when it is the one of the given number. -/
def Registration.route (r : Registration E) (serial : Nat) : Route E :=
  ⟨r.path, r.methods, r.endpoint, serial⟩

/-- The routes that registrations make, numbered from the given number on. -/
def routesFrom (first : Nat) : List (Registration E) → List (Route E)
  | [] => []
  | r :: rs => r.route first :: routesFrom (first + 1) rs

/-- The routes that registrations make in a new router. -/
def registered (rs : List (Registration E)) : List (Route E) := routesFrom 0 rs

/-- A route has the path and the methods of a registration. -/
theorem exists_of_mem_registered {rs : List (Registration E)} {route : Route E}
    (h : route ∈ registered rs) : ∃ r ∈ rs, route.path = r.path ∧ route.methods = r.methods := by
  suffices ∀ n, route ∈ routesFrom n rs → ∃ r ∈ rs, route.path = r.path ∧ route.methods = r.methods from
    this 0 h
  clear h
  induction rs with
  | nil => simp [routesFrom]
  | cons r rs ih =>
    intro n hmem
    rcases List.mem_cons.mp hmem with rfl | hmem
    · exact ⟨r, List.mem_cons_self .., rfl, rfl⟩
    · obtain ⟨r', hr', hroute⟩ := ih (n + 1) hmem
      exact ⟨r', List.mem_cons_of_mem _ hr', hroute⟩

/-- The pattern of a route. One that cannot be read has no segments. -/
def Route.pattern (r : Route E) : List Segment := (parsePattern r.path).toOption.getD []

/-- Performs registrations in order, up to the first that is refused. -/
def Router.addAll (router : Router E) : List (Registration E) → Except Refusal (Router E)
  | [] => .ok router
  | r :: rs =>
    match router.add r.path r.methods r.endpoint with
    | (next, none) => next.addAll rs
    | (_, some refusal) => .error refusal

/-- The label of an edge is given by the first route that follows it. -/
def firstLabel (routes : List (Route E)) : Labels :=
  fun before e => routes.findSome? fun r => labelAt r.pattern before e

@[simp] theorem firstLabel_fixed (routes : List (Route E)) (before : List Edge) (text : String) :
    firstLabel routes before (.fixed text) = none :=
  List.findSome?_eq_none_iff.mpr fun r _ => labelAt_fixed r.pattern before text

/-- An edge that some route labels has a label, and it is that of some route. -/
theorem firstLabel_eq_some {routes : List (Route E)} {r : Route E} (hr : r ∈ routes)
    {before : List Edge} {e : Edge} {l : String × Converter} (h : labelAt r.pattern before e = some l) :
    ∃ c ∈ routes, ∃ l', labelAt c.pattern before e = some l' ∧ firstLabel routes before e = some l' := by
  cases hfirst : firstLabel routes before e with
  | none =>
    rw [List.findSome?_eq_none_iff.mp hfirst r hr] at h
    exact absurd h (by simp)
  | some l' =>
    obtain ⟨c, hc, hl'⟩ := List.exists_of_findSome?_eq_some hfirst
    exact ⟨c, hc, l', hl', rfl⟩

/-- What a router holds: the given routes at the end of their edges, each under all its methods, and
labels from the first route that follows an edge. -/
structure Router.Holds (router : Router E) (routes : List (Route E)) : Prop where
  parsed : ∀ r ∈ routes, parsePattern r.path = .ok r.pattern
  table : ∀ es m r, Assoc.get? m (Trie.table (Trie.follow es router.trie)) = some r ↔
    r ∈ routes ∧ edgesOf r.pattern = es ∧ m ∈ r.methods
  labels : ∀ before e, router.trie.labels before e = firstLabel routes before e
  /-- Routes that share a parameter edge give it the same name. -/
  names : ∀ r ∈ routes, ∀ before l l', labelAt r.pattern before .param = some l →
    firstLabel routes before .param = some l' → l'.1 = l.1

/-! ## Names of parameters -/

namespace Trie

/-- No parameter of a pattern has another name in the trie exactly when all shared names agree. -/
theorem clash?_eq_none_iff (segments : List Segment) (t : Trie E) :
    clash? segments t = none ↔ ∀ before l l', labelAt segments before .param = some l →
      t.labels before .param = some l' → l'.1 = l.1 := by
  induction segments using tailOf_induction generalizing t with
  | nil => simp [clash?, labelAt]
  | cons s segments ih =>
    cases h : headClash? s t with
    | some names =>
      simp only [clash?_cons_of_some h, reduceCtorEq, false_iff]
      intro hall
      cases s with
      | fixed text => simp [headClash?] at h
      | param written name converter =>
        cases converter with
        | rest => simp [headClash?] at h
        | text | digits =>
          obtain ⟨l, hl, hne⟩ := Option.bind_eq_some_iff.mp h
          have hagree : l.1 = name := hall [] (name, _) l rfl hl
          rw [if_pos hagree] at hne
          exact absurd hne (by simp)
    | none =>
      rw [clash?_cons_of_none h, ih]
      constructor
      · intro hbelow before l l' hown htaken
        rcases labelAt_cons_eq_some.mp hown with ⟨rfl, hedge, hl⟩ | ⟨behind, rfl, htail⟩
        · -- the shared edge is the first one, where the check of the head applies
          cases s with
          | fixed text => simp [Segment.edge] at hedge
          | param written name converter =>
            cases converter with
            | rest => simp [Segment.edge] at hedge
            | text | digits =>
              obtain rfl : (name, _) = l := Option.some.inj hl
              have htaken' : label .param t = some l' := htaken
              by_cases heq : l'.1 = name
              · exact heq
              · simp [headClash?, htaken', heq] at h
        · exact hbelow behind l l' htail htaken
      · intro hall before l l' hown htaken
        exact hall (s.edge :: before) l l' (labelAt_cons_eq_some.mpr (.inr ⟨before, rfl, hown⟩)) htaken

end Trie

/-! ## One registration -/

/-- A registration that is accepted: what was checked, and the router afterwards. -/
theorem add_eq_none {router next : Router E} {r : Registration E}
    (h : router.add r.path r.methods r.endpoint = (next, none)) :
    router.compiled = false ∧ parsePattern r.path = .ok (r.route router.count).pattern ∧
    Trie.clash? (r.route router.count).pattern router.trie = none ∧
    (Trie.register (r.route router.count) r.methods (Trie.table
      (Trie.follow (edgesOf (r.route router.count).pattern) router.trie))).2 = none ∧
    next = { router with
      trie := (Trie.insert (r.route router.count) (r.route router.count).pattern router.trie).1
      count := router.count + 1 } := by
  -- the checks in order: the router is open, the pattern is well-formed, names agree, methods are free
  cases hcompiled : router.compiled with
  | true => simp [Router.add, hcompiled] at h
  | false =>
    cases hparsed : parsePattern r.path with
    | error refusal => simp [Router.add, hcompiled, hparsed] at h
    | ok segments =>
      have hpattern : (r.route router.count).pattern = segments := by
        simp [Route.pattern, Registration.route, hparsed, Except.toOption]
      rw [hpattern]
      simp only [Router.add, hcompiled, Bool.false_eq_true, if_false, hparsed, Prod.mk.injEq] at h
      obtain ⟨hnext, hrefusal⟩ := h
      change (Trie.insert (r.route router.count) segments router.trie).2 = none at hrefusal
      rw [Trie.insert_refusal] at hrefusal
      cases hclash : Trie.clash? segments router.trie with
      | some names => simp [hclash] at hrefusal
      | none =>
        rw [hclash] at hrefusal
        exact ⟨rfl, rfl, rfl, hrefusal, hnext.symm⟩

/-- A new router holds nothing. -/
theorem holds_empty : Router.Holds ({} : Router E) [] where
  parsed := by simp
  table := by
    intro es m r
    show Assoc.get? m (Trie.table (Trie.follow es Trie.empty)) = some r ↔ _
    simp [Assoc.get?]
  labels := by
    intro before e
    show Trie.label e (Trie.follow before Trie.empty) = _
    simp [firstLabel]
  names := by simp

/-- **Step lemma**: an accepted registration adds its route to what a router holds. -/
theorem holds_add {router next : Router E} {routes : List (Route E)} {r : Registration E}
    (holds : router.Holds routes) (h : router.add r.path r.methods r.endpoint = (next, none)) :
    next.Holds (routes ++ [r.route router.count]) ∧ next.count = router.count + 1 := by
  obtain ⟨-, hparsed, hclash, hregister, rfl⟩ := add_eq_none h
  generalize hroute : r.route router.count = route at *
  have hmethods : route.methods = r.methods := by rw [← hroute]; rfl
  have hpath : route.path = r.path := by rw [← hroute]; rfl
  rw [← hmethods] at hregister
  have hfree := ((Trie.register_refusal_eq_none_iff _ _ _).mp hregister).2
  -- the new route comes last, so it labels only the edges that no other route follows
  have hlabels : ∀ before e,
      Trie.labels (Trie.insert route route.pattern router.trie).1 before e =
        firstLabel (routes ++ [route]) before e := by
    intro before e
    rw [Trie.labels_insert hclash, holds.labels]
    simp [firstLabel, List.findSome?_append]
  refine ⟨⟨?_, ?_, hlabels, ?_⟩, rfl⟩
  · intro r' hr'
    rcases List.mem_append.mp hr' with hold | hnew
    · exact holds.parsed r' hold
    · obtain rfl := List.mem_singleton.mp hnew
      rw [hpath, hparsed]
  · intro es m r'
    rw [Trie.table_follow_insert]
    simp only [List.mem_append, List.mem_singleton]
    -- one table changes: the one at the end of the new route's edges
    by_cases hes : es = edgesOf route.pattern
    · subst hes
      rw [if_pos ⟨rfl, hclash⟩, Trie.get?_register hregister]
      by_cases hm : m ∈ route.methods
      · have hnone := hfree m hm
        have hnot : ¬ (r' ∈ routes ∧ edgesOf r'.pattern = edgesOf route.pattern ∧ m ∈ r'.methods) :=
          fun hold => by rw [(holds.table _ m r').mpr hold] at hnone; simp at hnone
        rw [if_pos hm, Option.some.injEq]
        constructor
        · rintro rfl
          exact ⟨.inr rfl, rfl, hm⟩
        · rintro ⟨hold | rfl, hrest⟩
          · exact absurd ⟨hold, hrest⟩ hnot
          · rfl
      · rw [if_neg hm, holds.table]
        constructor
        · rintro ⟨hmem, hrest⟩
          exact ⟨.inl hmem, hrest⟩
        · rintro ⟨hold | rfl, hrest⟩
          · exact ⟨hold, hrest⟩
          · exact absurd hrest.2 hm
    · rw [if_neg fun hboth => hes hboth.1, holds.table]
      constructor
      · rintro ⟨hmem, hrest⟩
        exact ⟨.inl hmem, hrest⟩
      · rintro ⟨hold | rfl, hrest⟩
        · exact ⟨hold, hrest⟩
        · exact absurd hrest.1.symm hes
  · -- the new route agrees with the names that are there; no old route follows the edges that it labels
    intro r' hr' before l l' hown hfirst
    have hagree := (Trie.clash?_eq_none_iff _ _).mp hclash
    rw [firstLabel, List.findSome?_append] at hfirst
    cases hold : firstLabel routes before .param with
    | none =>
      -- the new route is the first to follow this edge
      have hfirst' : labelAt route.pattern before .param = some l' := by
        rw [firstLabel] at hold
        simpa [hold] using hfirst
      rcases List.mem_append.mp hr' with hmem | hnew
      · rw [firstLabel, List.findSome?_eq_none_iff] at hold
        rw [hold r' hmem] at hown
        exact absurd hown (by simp)
      · obtain rfl := List.mem_singleton.mp hnew
        rw [hown] at hfirst'
        simpa using congrArg Prod.fst (Option.some.inj hfirst').symm
    | some l'' =>
      obtain rfl : l'' = l' := by
        have := hold
        rw [firstLabel] at this
        simpa [this] using hfirst
      rcases List.mem_append.mp hr' with hmem | hnew
      · exact holds.names r' hmem before l l'' hown hold
      · obtain rfl := List.mem_singleton.mp hnew
        exact hagree before l l'' hown (by rw [holds.labels, hold])

/-! ## Rows of registrations -/

theorem holds_addAll_from {rs : List (Registration E)} {router next : Router E}
    {routes : List (Route E)} (holds : router.Holds routes) (h : router.addAll rs = .ok next) :
    next.Holds (routes ++ routesFrom router.count rs) := by
  induction rs generalizing router routes with
  | nil =>
    obtain rfl : router = next := by simpa [Router.addAll] using h
    simpa [routesFrom] using holds
  | cons r rs ih =>
    rw [Router.addAll] at h
    cases hadd : router.add r.path r.methods r.endpoint with
    | mk mid refusal =>
      rw [hadd] at h
      cases refusal with
      | some refusal => simp at h
      | none =>
        -- the counter goes on from here, which is where the other routes are numbered from
        obtain ⟨hmid, hcount⟩ := holds_add holds hadd
        have := ih hmid h
        rw [hcount] at this
        simpa [routesFrom] using this

/-- **Run lemma**: a new router that accepted a row of registrations holds just the routes that these
make. -/
theorem holds_addAll {rs : List (Registration E)} {router : Router E}
    (h : Router.addAll {} rs = .ok router) : router.Holds (registered rs) := by
  simpa [registered] using holds_addAll_from holds_empty h

/-! ## Serving a method -/

/-- A route serves its own methods, and HEAD when it serves GET. -/
def Route.Serves (r : Route E) (method : String) : Prop :=
  method ∈ r.methods ∨ method = "HEAD" ∧ "GET" ∈ r.methods

/-- The route that serves a method: the one for it, or else the one for GET when the method is HEAD. -/
theorem serving_eq_some_iff (table : MethodTable E) (method : String) (r : Route E) :
    Trie.serving table method = some r ↔ Assoc.get? method table = some r ∨
      Assoc.get? method table = none ∧ method = "HEAD" ∧ Assoc.get? "GET" table = some r := by
  rw [Trie.serving]
  cases Assoc.get? method table with
  | some own => simp
  | none => by_cases h : method = "HEAD" <;> simp [h]

/-- What answers some method answers a search without one. -/
theorem Trie.Accepts.any {t : Trie E} {method : String} {parts : List String} {es : List Edge}
    {bs : List (String × String)} (h : t.Accepts (some method) parts es bs) :
    t.Accepts none parts es bs := by
  refine ⟨h.bindings, .inl ?_⟩
  rcases h.answers with hanswers | ⟨hnone, -⟩
  · obtain ⟨r, hr⟩ := Option.isSome_iff_exists.mp hanswers
    have hne : Trie.table (Trie.follow es t) ≠ [] := by
      rw [← Assoc.exists_get?_iff_ne_nil]
      rcases (serving_eq_some_iff _ _ _).mp hr with hown | ⟨-, -, hget⟩
      · exact ⟨_, _, hown⟩
      · exact ⟨_, _, hget⟩
    simpa [Trie.answers] using hne
  · exact absurd hnone (by simp)

namespace Router.Holds

variable {router : Router E} {routes : List (Route E)}

/-- A route that is served from a table is one of the routes, it serves the method, and it is there for
the method itself whenever any route with the same edges is. -/
theorem of_serving (holds : router.Holds routes) {es : List Edge} {method : String} {r : Route E}
    (h : Trie.serving (Trie.table (Trie.follow es router.trie)) method = some r) :
    r ∈ routes ∧ edgesOf r.pattern = es ∧ r.Serves method ∧
      ∀ c ∈ routes, edgesOf c.pattern = es → method ∈ c.methods → method ∈ r.methods := by
  rcases (serving_eq_some_iff _ _ _).mp h with hown | ⟨hnone, hhead, hget⟩
  · obtain ⟨hmem, hedges, hmethod⟩ := (holds.table es method r).mp hown
    exact ⟨hmem, hedges, .inl hmethod, fun _ _ _ _ => hmethod⟩
  · -- GET answers for HEAD only where no route is entered for HEAD itself
    obtain ⟨hmem, hedges, hmethod⟩ := (holds.table es "GET" r).mp hget
    refine ⟨hmem, hedges, .inr ⟨hhead, hmethod⟩, fun c hc hedges' hmethod' => ?_⟩
    rw [(holds.table es method c).mpr ⟨hc, hedges', hmethod'⟩] at hnone
    exact absurd hnone (by simp)

/-- A table serves a method exactly when some route with its edges does. -/
theorem isSome_serving_iff (holds : router.Holds routes) (es : List Edge) (method : String) :
    (Trie.serving (Trie.table (Trie.follow es router.trie)) method).isSome = true ↔
      ∃ r ∈ routes, edgesOf r.pattern = es ∧ r.Serves method := by
  constructor
  · intro h
    obtain ⟨r, hr⟩ := Option.isSome_iff_exists.mp h
    obtain ⟨hmem, hedges, hserves, -⟩ := holds.of_serving hr
    exact ⟨r, hmem, hedges, hserves⟩
  · rintro ⟨r, hmem, hedges, hmethod | ⟨hhead, hmethod⟩⟩
    · have hget := (holds.table es method r).mpr ⟨hmem, hedges, hmethod⟩
      exact Option.isSome_iff_exists.mpr ⟨r, (serving_eq_some_iff _ _ _).mpr (.inl hget)⟩
    · have hget := (holds.table es "GET" r).mpr ⟨hmem, hedges, hmethod⟩
      cases hown : Assoc.get? method (Trie.table (Trie.follow es router.trie)) with
      | some own =>
        exact Option.isSome_iff_exists.mpr ⟨own, (serving_eq_some_iff _ _ _).mpr (.inl hown)⟩
      | none =>
        exact Option.isSome_iff_exists.mpr
          ⟨r, (serving_eq_some_iff _ _ _).mpr (.inr ⟨hown, hhead, hget⟩)⟩

/-- The labels of a router are those of its routes. -/
theorem labels_eq (holds : router.Holds routes) : router.trie.labels = firstLabel routes :=
  funext fun before => funext fun e => holds.labels before e

/-- A row of edges accepts a path and serves a method exactly when it is that of a route that does. -/
theorem accepts_some_iff (holds : router.Holds routes) {method : String} {parts : List String}
    {es : List Edge} {bs : List (String × String)} :
    router.trie.Accepts (some method) parts es bs ↔
      bindingsAlong (firstLabel routes) es parts = some bs ∧
        ∃ r ∈ routes, edgesOf r.pattern = es ∧ r.Serves method := by
  rw [← holds.isSome_serving_iff, ← holds.labels_eq]
  constructor
  · rintro ⟨hbindings, hanswers | ⟨hnone, -⟩⟩
    · exact ⟨hbindings, hanswers⟩
    · exact absurd hnone (by simp)
  · rintro ⟨hbindings, hanswers⟩
    exact ⟨hbindings, .inl hanswers⟩

/-- The edges of a route that has a method accept what they bind. -/
theorem accepts_none_of_mem (holds : router.Holds routes) {r : Route E} (hr : r ∈ routes)
    (hmethods : r.methods ≠ []) {parts : List String} {bs : List (String × String)}
    (hbindings : bindingsAlong (firstLabel routes) (edgesOf r.pattern) parts = some bs) :
    router.trie.Accepts none parts (edgesOf r.pattern) bs := by
  refine ⟨by rw [holds.labels_eq, hbindings], .inl ?_⟩
  obtain ⟨m, hm⟩ := List.exists_mem_of_ne_nil _ hmethods
  have hget := (holds.table (edgesOf r.pattern) m r).mpr ⟨hr, rfl, hm⟩
  have hne := (Assoc.exists_get?_iff_ne_nil _).mp ⟨m, r, hget⟩
  simpa [Trie.answers] using hne

/-- A row of edges accepts a path for some method exactly when it is that of a route. -/
theorem accepts_none_iff (holds : router.Holds routes) (hmethods : ∀ r ∈ routes, r.methods ≠ [])
    {parts : List String} {es : List Edge} {bs : List (String × String)} :
    router.trie.Accepts none parts es bs ↔
      bindingsAlong (firstLabel routes) es parts = some bs ∧ ∃ r ∈ routes, edgesOf r.pattern = es := by
  constructor
  · rintro ⟨hbindings, hanswers⟩
    rw [holds.labels_eq] at hbindings
    refine ⟨hbindings, ?_⟩
    rcases hanswers with hanswers | ⟨-, hlast⟩
    · have hne : Trie.table (Trie.follow es router.trie) ≠ [] := by
        simpa [Trie.answers] using hanswers
      obtain ⟨m, r, hget⟩ := (Assoc.exists_get?_iff_ne_nil _).mpr hne
      obtain ⟨hmem, hedges, -⟩ := (holds.table es m r).mp hget
      exact ⟨r, hmem, hedges⟩
    · obtain ⟨before, rfl, hlabel⟩ := label_rest_of_bindingsAlong hbindings hlast
      obtain ⟨l, hl⟩ := Option.isSome_iff_exists.mp hlabel
      obtain ⟨r, hmem, hr⟩ := List.exists_of_findSome?_eq_some hl
      exact ⟨r, hmem, (edgesOf_of_labelAt_rest hr).1⟩
  · rintro ⟨hbindings, r, hmem, rfl⟩
    exact holds.accepts_none_of_mem hmem (hmethods r hmem) hbindings

end Router.Holds

/-! ## Answers of a router -/

/-- A route that is found serves the method at the end of the first row of edges that accepts the path,
and its parameters are those of this row. -/
theorem match?_eq_ok {router : Router E} {method path : String} {m : RouteMatch E}
    (h : router.match? method path = .ok m) :
    ∃ es bs, router.trie.IsFirst (some method) (pathSegments path) es bs ∧
      Trie.serving (Trie.table (Trie.follow es router.trie)) method = some m.route ∧
      m.params = Assoc.ofList bs := by
  rw [Router.match?] at h
  cases hfind : Trie.find (some method) (pathSegments path) [] router.trie with
  | some r =>
    obtain ⟨found, params⟩ := r
    simp only [hfind] at h
    obtain ⟨es, bs, hfirst, rfl, rfl⟩ := Trie.find_sound hfind
    cases hserving : Trie.serving (Trie.table (Trie.follow es router.trie)) method with
    | some route =>
      simp only [hserving, Except.ok.injEq] at h
      subst h
      exact ⟨es, bs, hfirst, hserving, rfl⟩
    | none => simp [hserving] at h
  | none =>
    simp only [hfind] at h
    cases hany : Trie.find none (pathSegments path) [] router.trie with
    | some r => simp [hany] at h
    | none => simp [hany] at h

/-- Some route is found exactly when some row of edges accepts the path and serves the method. -/
theorem exists_match?_eq_ok_iff {router : Router E} {method path : String} :
    (∃ m, router.match? method path = .ok m) ↔
      ∃ es bs, router.trie.Accepts (some method) (pathSegments path) es bs := by
  constructor
  · rintro ⟨m, h⟩
    obtain ⟨es, bs, hfirst, -⟩ := match?_eq_ok h
    exact ⟨es, bs, hfirst.accepts⟩
  · rintro ⟨es, bs, hacc⟩
    rw [Router.match?]
    cases hfind : Trie.find (some method) (pathSegments path) [] router.trie with
    | none => exact absurd hacc (Trie.not_accepts_of_find_eq_none hfind es bs)
    | some r =>
      obtain ⟨found, params⟩ := r
      obtain ⟨es', bs', hfirst, rfl, -⟩ := Trie.find_sound hfind
      rcases hfirst.accepts.answers with hanswers | ⟨hnone, -⟩
      · obtain ⟨route, hroute⟩ := Option.isSome_iff_exists.mp hanswers
        exact ⟨⟨route, params⟩, by simp only [hroute]⟩
      · exact absurd hnone (by simp)

/-- A path is not found exactly when no row of edges accepts it, whatever the method. -/
theorem match?_eq_notFound_iff {router : Router E} {method path : String} :
    router.match? method path = .error .notFound ↔
      ∀ es bs, ¬ router.trie.Accepts none (pathSegments path) es bs := by
  rw [← Trie.find_eq_none_iff [], Router.match?]
  cases hfind : Trie.find (some method) (pathSegments path) [] router.trie with
  | none => cases Trie.find none (pathSegments path) [] router.trie <;> simp
  | some r =>
    obtain ⟨found, params⟩ := r
    obtain ⟨es, bs, hfirst, -⟩ := Trie.find_sound hfind
    -- what answers the method also answers a search for any method, so both sides are false
    have hany : Trie.find none (pathSegments path) [] router.trie ≠ none := fun hnone =>
      (Trie.find_eq_none_iff []).mp hnone es bs hfirst.accepts.any
    have hok : ∃ m, router.match? method path = .ok m :=
      exists_match?_eq_ok_iff.mpr ⟨es, bs, hfirst.accepts⟩
    obtain ⟨m, hm⟩ := hok
    rw [Router.match?, hfind] at hm
    simp only [hm, hany]
    simp

end ServerTree
