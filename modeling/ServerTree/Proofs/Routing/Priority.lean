import ServerTree.App.Registry
import ServerTree.Proofs.Routing.Registration

/-!
# The router as a scan of all routes

The routes of an application have one method each. When no pattern restricts a parameter to digits, the
search of the trie agrees with a scan of the list of routes: of those that match the path and serve the
method, the one with the least pattern is taken, segment by segment, fixed texts before parameters and
parameters before an edge for the rest. Of two with the same edges, the one for the method itself is taken.

## Main definitions
- `App.routeAll`: a row of accepted registrations
- `Route.Matches`, `Route.Serves`: what a scan asks of a route
- `IsScanResult`: the route that a scan takes

## Main statement
- `match?_eq_scan`: what the router answers is what a scan finds
-/

namespace ServerTree

variable {E : Type}

/-! ## Registrations of an application -/

/-- What an application is asked to route. -/
structure RouteRequest where
  method : String
  path : String
  endpoint : Endpoint
  schema : Value
  name : Value

/-- What the router is asked for. -/
def RouteRequest.registration (r : RouteRequest) : Registration Registered :=
  ⟨r.path, [Text.upper r.method], ⟨r.endpoint, r.schema, r.name⟩⟩

/-- Routes requests in order, up to the first that is refused. -/
def App.routeAll (app : App) : List RouteRequest → Except Refusal App
  | [] => .ok app
  | r :: rs =>
    match app.route r.method r.path r.endpoint r.schema r.name with
    | (next, none) => next.routeAll rs
    | (_, some refusal) => .error refusal

/-- The registrations of an application are those of its router. -/
theorem addAll_of_routeAll {rs : List RouteRequest} {app next : App} (h : app.routeAll rs = .ok next) :
    app.router.addAll (rs.map RouteRequest.registration) = .ok next.router := by
  induction rs generalizing app with
  | nil =>
    obtain rfl : app = next := by simpa [App.routeAll] using h
    rfl
  | cons r rs ih =>
    rw [App.routeAll] at h
    cases hfrozen : app.frozen with
    | true => simp [App.route, hfrozen] at h
    | false =>
      simp only [App.route, hfrozen, Bool.false_eq_true, if_false] at h
      rw [List.map_cons, Router.addAll]
      simp only [RouteRequest.registration]
      cases hadd : app.router.add r.path [Text.upper r.method] ⟨r.endpoint, r.schema, r.name⟩ with
      | mk router refusal =>
        rw [hadd] at h
        cases refusal with
        | some refusal => simp at h
        | none => exact ih h

/-- Every route of an application has one method. -/
theorem methods_of_mem_registered {rs : List RouteRequest} {route : Route Registered}
    (h : route ∈ registered (rs.map RouteRequest.registration)) :
    ∃ r ∈ rs, route.path = r.path ∧ route.methods = [Text.upper r.method] := by
  obtain ⟨registration, hmem, hroute⟩ := exists_of_mem_registered h
  obtain ⟨r, hr, rfl⟩ := List.mem_map.mp hmem
  exact ⟨r, hr, hroute⟩

/-! ## Scans -/

/-- The segments of a path are in the language of a route's pattern. -/
def Route.Matches (r : Route E) (parts : List String) : Prop :=
  (bindings? r.pattern parts).isSome = true

/-- A scan prefers a route to another: its pattern comes first, or both have the same edges and it is
there for the method itself whenever the other is. -/
def Route.PreferredTo (method : String) (r c : Route E) : Prop :=
  List.Lex Edge.Precedes (edgesOf r.pattern) (edgesOf c.pattern) ∨
    edgesOf r.pattern = edgesOf c.pattern ∧ (method ∈ c.methods → method ∈ r.methods)

/-- The route that a scan takes for a method and the segments of a path. -/
structure IsScanResult (routes : List (Route E)) (method : String) (parts : List String)
    (r : Route E) : Prop where
  mem : r ∈ routes
  matched : r.Matches parts
  serves : r.Serves method
  preferred : ∀ c ∈ routes, c.Matches parts → c.Serves method → r.PreferredTo method c

/-! ## Patterns without digits -/

/-- Without digits, a pattern accepts the same paths whoever labels its edges. -/
theorem Router.Holds.matches_iff {router : Router E} {routes : List (Route E)}
    (holds : router.Holds routes)
    (hplain : ∀ r ∈ routes, ∀ s ∈ r.pattern, s.converter ≠ .digits) {r : Route E} (hr : r ∈ routes)
    (parts : List String) :
    r.Matches parts ↔ (bindingsAlong (firstLabel routes) (edgesOf r.pattern) parts).isSome = true := by
  have hconverter : ∀ c ∈ routes, ∀ before l, labelAt c.pattern before .param = some l →
      l.2 = .text := by
    intro c hc before l hl
    obtain ⟨hrest, s, hs, hconv⟩ := converter_of_labelAt_param hl
    have hdigits := hplain c hc s hs
    cases hl2 : l.2 with
    | text => rfl
    | digits => exact absurd (hconv.trans hl2) hdigits
    | rest => exact absurd hl2 hrest
  rw [Route.Matches, bindings?_eq_bindingsAlong _ _ (named_of_parsePattern (holds.parsed r hr))]
  rw [isSome_bindingsAlong_congr]
  -- a label that another route gave can have another name, but not another converter
  intro before e hstart
  cases e with
  | fixed text => rw [labelAt_fixed, firstLabel_fixed]
  | param =>
    obtain ⟨l, hl⟩ := Option.isSome_iff_exists.mp (isSome_labelAt hstart (by simp))
    obtain ⟨c, hc, l', hl', hfirst⟩ := firstLabel_eq_some hr hl
    rw [hl, hfirst, Option.map_some, Option.map_some, hconverter r hr before l hl,
      hconverter c hc before l' hl']
  | rest =>
    obtain ⟨l, hl⟩ := Option.isSome_iff_exists.mp (isSome_labelAt hstart (by simp))
    obtain ⟨c, hc, l', hl', hfirst⟩ := firstLabel_eq_some hr hl
    rw [hl, hfirst, Option.map_some, Option.map_some, (edgesOf_of_labelAt_rest hl).2,
      (edgesOf_of_labelAt_rest hl').2]

/-! ## Routers as scans -/

section

variable {router : Router E} {routes : List (Route E)}

/-- A router finds some route exactly when a scan does. -/
theorem Router.Holds.exists_ok_iff (holds : router.Holds routes)
    (hplain : ∀ r ∈ routes, ∀ s ∈ r.pattern, s.converter ≠ .digits) (method path : String) :
    (∃ m, router.match? method path = .ok m) ↔
      ∃ r ∈ routes, r.Matches (pathSegments path) ∧ r.Serves method := by
  rw [exists_match?_eq_ok_iff]
  constructor
  · rintro ⟨es, bs, hacc⟩
    obtain ⟨hbindings, r, hr, rfl, hserves⟩ := holds.accepts_some_iff.mp hacc
    exact ⟨r, hr, (holds.matches_iff hplain hr _).mpr (by simp [hbindings]), hserves⟩
  · rintro ⟨r, hr, hmatches, hserves⟩
    obtain ⟨bs, hbs⟩ := Option.isSome_iff_exists.mp ((holds.matches_iff hplain hr _).mp hmatches)
    exact ⟨_, bs, holds.accepts_some_iff.mpr ⟨hbs, r, hr, rfl, hserves⟩⟩

/-- The route that a router finds is one that a scan takes. -/
theorem Router.Holds.isScanResult (holds : router.Holds routes)
    (hplain : ∀ r ∈ routes, ∀ s ∈ r.pattern, s.converter ≠ .digits) {method path : String}
    {m : RouteMatch E} (h : router.match? method path = .ok m) :
    IsScanResult routes method (pathSegments path) m.route := by
  obtain ⟨es, bs, hfirst, hserving, -⟩ := match?_eq_ok h
  obtain ⟨hmem, rfl, hserves, hown⟩ := holds.of_serving hserving
  obtain ⟨hbindings, -⟩ := holds.accepts_some_iff.mp hfirst.accepts
  refine ⟨hmem, (holds.matches_iff hplain hmem _).mpr (by simp [hbindings]), hserves, ?_⟩
  intro c hc hmatches hserves'
  obtain ⟨bs', hbs'⟩ := Option.isSome_iff_exists.mp ((holds.matches_iff hplain hc _).mp hmatches)
  have hacc := holds.accepts_some_iff.mpr ⟨hbs', c, hc, rfl, hserves'⟩
  -- a candidate has the same edges, and so the same table, or it comes later
  rcases hfirst.first _ bs' hacc with heq | hlex
  · exact .inr ⟨heq.symm, hown c hc heq⟩
  · exact .inl hlex

theorem Edge.precedes_asymm {e e' : Edge} (h : e.Precedes e') : ¬ e'.Precedes e :=
  Nat.lt_asymm h

theorem Edge.precedes_irrefl (e : Edge) : ¬ e.Precedes e :=
  Nat.lt_irrefl _

/-- Two routes that a scan could take are the same one. -/
theorem Router.Holds.scan_unique (holds : router.Holds routes) {method : String}
    {parts : List String} {r r' : Route E} (h : IsScanResult routes method parts r)
    (h' : IsScanResult routes method parts r') : r = r' := by
  -- each is preferred to the other, and the order of edges is strict
  have hsame : edgesOf r.pattern = edgesOf r'.pattern ∧ (method ∈ r.methods ↔ method ∈ r'.methods) := by
    rcases h.preferred r' h'.mem h'.matched h'.serves with hlex | ⟨hedges, hown⟩
    · rcases h'.preferred r h.mem h.matched h.serves with hlex' | ⟨hedges', -⟩
      · exact absurd hlex' (List.lex_asymm Edge.precedes_asymm hlex)
      · rw [hedges'] at hlex
        exact absurd hlex (List.lex_irrefl Edge.precedes_irrefl _)
    · rcases h'.preferred r h.mem h.matched h.serves with hlex' | ⟨-, hown'⟩
      · rw [hedges] at hlex'
        exact absurd hlex' (List.lex_irrefl Edge.precedes_irrefl _)
      · exact ⟨hedges, hown', hown⟩
  -- both are in the same table under the same method
  have htable : ∀ m, m ∈ r.methods → m ∈ r'.methods → r = r' := by
    intro m hm hm'
    have hget := (holds.table _ m r).mpr ⟨h.mem, hsame.1, hm⟩
    have hget' := (holds.table _ m r').mpr ⟨h'.mem, rfl, hm'⟩
    rw [hget] at hget'
    exact Option.some.inj hget'
  rcases h.serves with hm | ⟨hhead, hm⟩
  · exact htable method hm (hsame.2.mp hm)
  · rcases h'.serves with hm' | ⟨-, hm'⟩
    · exact htable method (hsame.2.mpr hm') hm'
    · exact htable "GET" hm hm'

end

/-- **The router is a scan of its routes.** For a new application that accepted a row of registrations
without digits: a route is found exactly when some pattern matches the path and its route serves the
method; it is the one that a scan takes; nothing is found exactly when no pattern matches the path; and
other methods are named exactly when some pattern does but no route of a matching one serves the method. -/
theorem match?_eq_scan {config : AppConfig} {requests : List RouteRequest} {app : App}
    (h : App.routeAll { config := config } requests = .ok app)
    (hplain : ∀ r ∈ requests, ∀ segments, parsePattern r.path = .ok segments →
      ∀ s ∈ segments, s.converter ≠ .digits)
    (method path : String) :
    let routes := registered (requests.map RouteRequest.registration)
    let parts := pathSegments path
    ((∃ m, app.router.match? method path = .ok m) ↔ ∃ r ∈ routes, r.Matches parts ∧ r.Serves method) ∧
    (∀ r, (∃ params, app.router.match? method path = .ok ⟨r, params⟩) ↔
      IsScanResult routes method parts r) ∧
    (app.router.match? method path = .error .notFound ↔ ∀ r ∈ routes, ¬ r.Matches parts) ∧
    ((∃ allowed, app.router.match? method path = .error (.otherMethods allowed)) ↔
      (∃ r ∈ routes, r.Matches parts) ∧ ∀ r ∈ routes, r.Matches parts → ¬ r.Serves method) := by
  intro routes parts
  have holds : app.router.Holds routes := holds_addAll (addAll_of_routeAll h)
  -- every route is entered under a method, so a search for any method sees them all
  have hmethods : ∀ r ∈ routes, r.methods ≠ [] := by
    intro r hr
    obtain ⟨request, -, -, hmethod⟩ := methods_of_mem_registered hr
    rw [hmethod]
    exact List.cons_ne_nil _ _
  have hdigits : ∀ r ∈ routes, ∀ s ∈ r.pattern, s.converter ≠ .digits := by
    intro r hr
    obtain ⟨request, hrequest, hpath, -⟩ := methods_of_mem_registered hr
    exact hplain request hrequest r.pattern (hpath ▸ holds.parsed r hr)
  have hok := holds.exists_ok_iff hdigits method path
  have hnotFound : app.router.match? method path = .error .notFound ↔
      ∀ r ∈ routes, ¬ r.Matches parts := by
    rw [match?_eq_notFound_iff]
    constructor
    · intro hno r hr hmatches
      obtain ⟨bs, hbs⟩ := Option.isSome_iff_exists.mp ((holds.matches_iff hdigits hr _).mp hmatches)
      exact hno _ bs ((holds.accepts_none_iff hmethods).mpr ⟨hbs, r, hr, rfl⟩)
    · intro hno es bs hacc
      obtain ⟨hbindings, r, hr, rfl⟩ := (holds.accepts_none_iff hmethods).mp hacc
      exact hno r hr ((holds.matches_iff hdigits hr _).mpr (Option.isSome_iff_exists.mpr ⟨bs, hbindings⟩))
  refine ⟨hok, ?_, hnotFound, ?_⟩
  · intro r
    constructor
    · rintro ⟨params, hm⟩
      exact holds.isScanResult hdigits hm
    · intro hr
      -- some route is found, a scan can take it, and a scan can take just one
      obtain ⟨⟨found, params⟩, hm⟩ := hok.mpr ⟨r, hr.mem, hr.matched, hr.serves⟩
      have hfound := holds.isScanResult hdigits hm
      rw [holds.scan_unique hr hfound]
      exact ⟨params, hm⟩
  · -- the answer that remains where neither a route is found nor every pattern fails
    constructor
    · rintro ⟨allowed, hm⟩
      have hne : ¬ app.router.match? method path = .error .notFound := by simp [hm]
      rw [hnotFound] at hne
      refine ⟨?_, ?_⟩
      · by_cases hex : ∃ r ∈ routes, r.Matches parts
        · exact hex
        · exact absurd (fun r hr hmatches => hex ⟨r, hr, hmatches⟩) hne
      · intro r hr hmatches hserves
        obtain ⟨m, hm'⟩ := hok.mpr ⟨r, hr, hmatches, hserves⟩
        simp [hm] at hm'
    · rintro ⟨⟨r, hr, hmatches⟩, hno⟩
      cases hm : app.router.match? method path with
      | ok m =>
        obtain ⟨c, hc, hmatches', hserves⟩ := hok.mp ⟨m, hm⟩
        exact absurd hserves (hno c hc hmatches')
      | error miss =>
        cases miss with
        | notFound => exact absurd hmatches (hnotFound.mp hm r hr)
        | otherMethods allowed => exact ⟨allowed, rfl⟩

/-- A request with one parameter. -/
def RouteRequest.user : RouteRequest := ⟨"GET", "/users/{id}", .custom .none, .none, .none⟩

/-- Requests that share edges. -/
def RouteRequest.users : List RouteRequest :=
  [⟨"GET", "/users", .custom .none, .none, .none⟩, RouteRequest.user,
   ⟨"post", "/users/{id}", .custom .none, .none, .none⟩,
   ⟨"HEAD", "/{rest:path}", .custom .none, .none, .none⟩]

/-- These are accepted and without digits, and a route is found for a HEAD request. -/
theorem match?_eq_scan_users :
    ∃ app m, App.routeAll {} RouteRequest.users = .ok app ∧
      app.router.match? "HEAD" "/users/7" = .ok m ∧
      IsScanResult (registered (RouteRequest.users.map RouteRequest.registration)) "HEAD"
        (pathSegments "/users/7") m.route := by
  have haccepted : (App.routeAll {} RouteRequest.users).isOk = true := by decide +kernel
  have hall : RouteRequest.users.all (fun r => ((parsePattern r.path).toOption.getD []).all
      fun s => s.converter ≠ .digits) = true := by decide +kernel
  have hplain : ∀ r ∈ RouteRequest.users, ∀ segments, parsePattern r.path = .ok segments →
      ∀ s ∈ segments, s.converter ≠ .digits := by
    intro r hr segments hsegments s hs
    have hof := List.all_eq_true.mp hall r hr
    rw [hsegments] at hof
    exact of_decide_eq_true (List.all_eq_true.mp hof s hs)
  cases happ : App.routeAll {} RouteRequest.users with
  | error refusal =>
    rw [happ] at haccepted
    exact absurd haccepted Bool.false_ne_true
  | ok app =>
    obtain ⟨hfound, hscan, -⟩ := match?_eq_scan happ hplain "HEAD" "/users/7"
    obtain ⟨m, hm⟩ := hfound.mpr ⟨RouteRequest.user.registration.route 1,
      by simp [RouteRequest.users, registered, routesFrom],
      by unfold Route.Matches; decide +kernel, .inr ⟨rfl, by decide +kernel⟩⟩
    exact ⟨app, m, rfl, hm, (hscan m.route).mp ⟨m.params, hm⟩⟩

end ServerTree
