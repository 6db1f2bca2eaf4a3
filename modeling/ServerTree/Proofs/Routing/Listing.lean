import Mathlib.Data.List.Basic
import ServerTree.Routing.Depth
import ServerTree.Proofs.Routing.Priority

/-!
# What an application lists

A registration is refused on the spot, and an application goes on after it: a route with one method that is
refused leaves nothing behind. So the table of an application that was asked for any routes, some of them
in vain, has the routes that were accepted, each of them once, and a request is served by one of these.

## Main definitions
- `entered`: what a registration adds to the table
- `App.routeEach`: routes requests one after the other, whatever becomes of each
- `Router.Lists`: a router has just these routes

## Main statements
- `entries_insert`: what a registration adds to the entries of a trie
- `lists_add`, `lists_routeEach`: what a router has after one registration, and after all of them
- `routes_are_accepted`: the table is that of the accepted routes
-/

namespace ServerTree

variable {E : Type}

/-- What a registration adds to the table: its route, unless it is refused. -/
def entered (route : Route E) (refusal : Option Refusal) : List (Route E) :=
  if refusal.isNone then [route] else []

theorem mem_entered {route r : Route E} {refusal : Option Refusal} (h : r ∈ entered route refusal) :
    r = route ∧ refusal = none := by
  cases refusal with
  | none => exact ⟨List.mem_singleton.mp h, rfl⟩
  | some refusal => cases h

/-! ## Entries of a trie -/

/-- Something new in the middle of a row may as well stand in front of it. -/
theorem perm_of_middle {α : Type} {middle middle' new : List α} (h : middle'.Perm (new ++ middle))
    (before behind : List α) :
    (before ++ (middle' ++ behind)).Perm (new ++ (before ++ (middle ++ behind))) := by
  have hgrown := (h.append_right behind).append_left before
  rw [List.append_assoc] at hgrown
  exact hgrown.trans (List.perm_append_comm_assoc before new (middle ++ behind))

namespace Trie

/-- A route with one method is entered last in a table, unless the method is taken. -/
theorem register_singleton (route : Route E) (m : String) (table : MethodTable E) :
    (register route [m] table).1.map Prod.snd =
      table.map Prod.snd ++ entered route (register route [m] table).2 := by
  cases hm : Assoc.get? m table with
  | some taken => simp [register, hm, entered]
  | none =>
    have hnew : m ∉ table.map Prod.fst := by
      intro hmem
      obtain ⟨taken, htaken⟩ := Assoc.exists_get?_of_mem hmem
      rw [htaken] at hm
      cases hm
    simp [register, hm, entered, Assoc.set_of_not_mem route hnew]

/-- What is found in a table after a registration was there or is its route, which was accepted. -/
theorem get?_register_singleton {route r : Route E} {m k : String} {table : MethodTable E}
    (h : Assoc.get? k (register route [m] table).1 = some r) :
    Assoc.get? k table = some r ∨ (r = route ∧ k = m) ∧ (register route [m] table).2 = none := by
  cases hm : Assoc.get? m table with
  | some taken => exact .inl (by simpa [register, hm] using h)
  | none =>
    simp only [register, hm, Assoc.get?_set] at h
    by_cases hk : k = m
    · rw [if_pos hk, Option.some.injEq] at h
      exact .inr ⟨⟨h.symm, hk⟩, by simp [register, hm]⟩
    · exact .inl (by rwa [if_neg hk] at h)

@[simp] theorem entries_empty : entries (empty : Trie E) = [] := rfl

/-- The entries of an edge for the rest. -/
def entriesRest : Option (String × MethodTable E) → List (Route E)
  | none => []
  | some (_, table) => table.map Prod.snd

theorem entries_node (routes : MethodTable E) (children : List (String × Trie E))
    (param : Option (String × Converter × Trie E)) (catchAll : Option (String × MethodTable E)) :
    entries (.node routes children param catchAll) =
      routes.map Prod.snd ++ (entriesRest catchAll ++ (entriesChildren children ++ entriesParam param)) := by
  cases catchAll <;> simp [entries, entriesRest]

/-- Writing a child changes the entries where the old child has its own. -/
theorem exists_entriesChildren_set (text : String) (next : Trie E) (children : List (String × Trie E)) :
    ∃ before behind,
      entriesChildren children = before ++ (((Assoc.get? text children).getD empty).entries ++ behind) ∧
      entriesChildren (Assoc.set text next children) = before ++ (next.entries ++ behind) := by
  induction children with
  | nil => exact ⟨[], [], by simp [entriesChildren, Assoc.get?], by simp [entriesChildren, Assoc.set]⟩
  | cons entry children ih =>
    obtain ⟨text', t⟩ := entry
    by_cases h : text' = text
    · exact ⟨[], entriesChildren children, by simp [entriesChildren, Assoc.get?, h],
        by simp [entriesChildren, Assoc.set, h]⟩
    · obtain ⟨before, behind, hold, hnew⟩ := ih
      refine ⟨t.entries ++ before, behind, ?_, ?_⟩
      · simp [entriesChildren, Assoc.get?, h, hold]
      · simp [entriesChildren, Assoc.set, h, hnew]

/-- A registration adds its route to the entries when it is accepted, and nothing when it is refused,
however far it has come by then. -/
theorem entries_insert {route : Route E} {m : String} (hm : route.methods = [m])
    (segments : List Segment) (t : Trie E) :
    (insert route segments t).1.entries.Perm
      (entered route (insert route segments t).2 ++ t.entries) := by
  have hregister (table : MethodTable E) :
      ((register route route.methods table).1.map Prod.snd).Perm
        (entered route (register route route.methods table).2 ++ table.map Prod.snd) := by
    rw [hm, register_singleton]
    exact List.perm_append_comm
  -- in each case one part of the node's entries grows, and the others stay where they are
  fun_induction insert route segments t with
  | case1 routes children param catchAll r =>
    rw [entries_node, entries_node]
    exact perm_of_middle (hregister routes) [] _
  | case2 text segments routes children param catchAll child r ih =>
    obtain ⟨before, behind, hold, hnew⟩ := exists_entriesChildren_set text r.1 children
    have hchildren := perm_of_middle ih before behind
    rw [← hold, ← hnew] at hchildren
    have hnode := perm_of_middle hchildren (routes.map Prod.snd ++ entriesRest catchAll) (entriesParam param)
    rw [entries_node, entries_node]
    rwa [List.append_assoc, List.append_assoc] at hnode
  | case3 _ name _ routes children param catchAll edge r =>
    have hrest : entriesRest catchAll = edge.2.map Prod.snd := by cases catchAll <;> rfl
    rw [entries_node, entries_node, hrest]
    exact perm_of_middle (hregister edge.2) _ _
  | case4 _ name converter segments routes children catchAll _ r ih
  | case5 _ converter segments routes children catchAll _ name first next r ih =>
    have hnode := perm_of_middle ih
      (routes.map Prod.snd ++ (entriesRest catchAll ++ entriesChildren children)) []
    rw [entries_node, entries_node]
    simpa [entriesParam] using hnode
  | case6 => simp [entered]

/-! ## How deep a registration goes -/

theorem height_child_le (text : String) (children : List (String × Trie E)) :
    ((Assoc.get? text children).getD empty).height ≤ max 1 (heightChildren children) := by
  induction children with
  | nil => simp [Assoc.get?, empty, height, heightChildren, heightParam]
  | cons entry children ih =>
    obtain ⟨text', t⟩ := entry
    by_cases h : text' = text
    · simp only [Assoc.get?, beq_iff_eq, h, if_true, Option.getD_some, heightChildren]
      omega
    · simp only [Assoc.get?, beq_iff_eq, h, if_false, heightChildren]
      omega

theorem heightChildren_set_le (text : String) (next : Trie E) (children : List (String × Trie E)) :
    heightChildren (Assoc.set text next children) ≤ max (heightChildren children) next.height := by
  induction children with
  | nil => simp [Assoc.set, heightChildren]
  | cons entry children ih =>
    obtain ⟨text', t⟩ := entry
    by_cases h : text' = text
    · simp only [Assoc.set, beq_iff_eq, h, if_true, heightChildren]
      omega
    · simp only [Assoc.set, beq_iff_eq, h, if_false, heightChildren]
      omega

/-- A registration goes one node down for each of its segments. -/
theorem height_insert_le (route : Route E) (segments : List Segment) (t : Trie E) :
    (insert route segments t).1.height ≤ max t.height (segments.length + 1) := by
  fun_induction insert route segments t with
  | case1 => exact Nat.le_max_left _ _
  | case2 text segments routes children param catchAll child r ih =>
    have hnext : r.1.height ≤ _ := ih
    have hset := heightChildren_set_le text r.1 children
    have hchild : child.height ≤ _ := height_child_le text children
    simp only [height, List.length_cons]
    omega
  | case3 => exact Nat.le_max_left _ _
  | case4 _ name converter segments routes children catchAll _ r ih =>
    have hnext : r.1.height ≤ _ := ih
    have hempty : (empty : Trie E).height = 1 := rfl
    simp only [height, heightParam, List.length_cons]
    omega
  | case5 _ converter segments routes children catchAll _ name first next r ih =>
    have hnext : r.1.height ≤ _ := ih
    simp only [height, heightParam, List.length_cons]
    omega
  | case6 => exact Nat.le_max_left _ _

end Trie

/-- A pattern has a segment for each of its path. -/
theorem length_of_parseSegments {route : String} {parts : List String} {segments : List Segment}
    (h : parseSegments route parts = .ok segments) : segments.length = parts.length := by
  induction parts generalizing segments with
  | nil =>
    obtain rfl : [] = segments := Except.ok.inj h
    rfl
  | cons part parts ih =>
    obtain ⟨s, rest, -, hrest, rfl⟩ := parseSegments_cons_eq_ok h
    rw [List.length_cons, List.length_cons, ih hrest]

/-! ## Registrations -/

/-- What a router has: an entry for each of the given routes, whose numbers differ, and in its tables
nothing but these under their methods. -/
structure Router.Lists (router : Router E) (routes : List (Route E)) : Prop where
  entries : router.trie.entries.Perm routes
  distinct : (routes.map Route.serial).Nodup
  numbered : ∀ r ∈ routes, r.serial < router.count
  table : ∀ es m r, Assoc.get? m (Trie.table (Trie.follow es router.trie)) = some r →
    r ∈ routes ∧ m ∈ r.methods

theorem lists_empty : Router.Lists ({} : Router E) [] where
  entries := .refl _
  distinct := .nil
  numbered := fun _ h => nomatch h
  table := by
    intro es m r h
    change Assoc.get? m (Trie.table (Trie.follow es Trie.empty)) = some r at h
    simp [Assoc.get?] at h

/-- A route that is entered in the trie, or refused there, gets the next number. -/
theorem Router.Lists.insert {router : Router E} {routes : List (Route E)} (lists : router.Lists routes)
    {route : Route E} {m : String} (hm : route.methods = [m]) (hserial : route.serial = router.count)
    (segments : List Segment) :
    Router.Lists
      { router with trie := (Trie.insert route segments router.trie).1, count := router.count + 1 }
      (routes ++ entered route (Trie.insert route segments router.trie).2) where
  entries := (Trie.entries_insert hm segments router.trie).trans
    ((lists.entries.append_left _).trans List.perm_append_comm)
  distinct := by
    rw [List.map_append, List.nodup_append]
    refine ⟨lists.distinct, ?_, ?_⟩
    · unfold entered
      split <;> simp
    · intro n hn n' hn' heq
      obtain ⟨old, hold, rfl⟩ := List.mem_map.mp hn
      obtain ⟨new, hnew, rfl⟩ := List.mem_map.mp hn'
      rw [(mem_entered hnew).1, hserial] at heq
      exact absurd heq (Nat.ne_of_lt (lists.numbered old hold))
  numbered := by
    intro r hr
    rcases List.mem_append.mp hr with hold | hnew
    · exact Nat.lt_succ_of_lt (lists.numbered r hold)
    · rw [(mem_entered hnew).1, hserial]
      exact Nat.lt_succ_self _
  table := by
    intro es k r hget
    rw [Trie.table_follow_insert, hm] at hget
    split at hget
    · next h =>
      -- the table at the end of the route's own edges, which decides whether the route is accepted
      have hrefusal : (Trie.insert route segments router.trie).2 =
          (Trie.register route [m] (Trie.table (Trie.follow es router.trie))).2 := by
        rw [Trie.insert_refusal, h.2, h.1, hm]
      rcases Trie.get?_register_singleton hget with hold | ⟨⟨rfl, rfl⟩, haccepted⟩
      · exact (lists.table es k r hold).imp_left (List.mem_append_left _)
      · rw [hrefusal, haccepted, hm]
        exact ⟨List.mem_append_right _ (List.mem_singleton_self _), List.mem_singleton_self _⟩
    · exact (lists.table es k r hget).imp_left (List.mem_append_left _)

/-- **Step lemma**: a registration adds its route when it is accepted, and nothing when it is refused. -/
theorem lists_add {router : Router E} {routes : List (Route E)} (lists : router.Lists routes)
    (r : Registration E) {m : String} (hm : r.methods = [m]) :
    (router.add r.path r.methods r.endpoint).1.Lists
      (routes ++ entered (r.route router.count) (router.add r.path r.methods r.endpoint).2) := by
  have hsame (refusal : Refusal) :
      router.Lists (routes ++ entered (r.route router.count) (some refusal)) := by
    simpa [entered] using lists
  rw [Router.add]
  split
  · exact hsame _
  · split
    · exact hsame _
    · next segments _ =>
      have hroute : (r.route router.count).methods = [m] := hm
      exact lists.insert hroute rfl segments

/-- **Step lemma**: a registration makes a trie no higher than its own path needs. -/
theorem height_add_le (router : Router E) (r : Registration E) :
    (router.add r.path r.methods r.endpoint).1.trie.height ≤
      max router.trie.height ((pathSegments r.path).length + 1) := by
  rw [Router.add]
  split
  · exact Nat.le_max_left _ _
  · split
    · exact Nat.le_max_left _ _
    · next segments hparsed =>
      rw [← length_of_parseSegments hparsed]
      exact Trie.height_insert_le _ segments router.trie

/-! ## Registrations of an application -/

/-- Routes requests one after the other, whatever becomes of each: the application afterwards, and the
routes of the requests that were accepted. -/
def App.routeEach (app : App) : List RouteRequest → App × List (Route Registered)
  | [] => (app, [])
  | r :: rs =>
    let tried := app.route r.method r.path r.endpoint r.schema r.name
    let rest := tried.1.routeEach rs
    (rest.1, entered (r.registration.route app.router.count) tried.2 ++ rest.2)

/-- An application that is asked for a route refuses because it is frozen, or asks its router. -/
theorem route_router (app : App) (r : RouteRequest) :
    app.route r.method r.path r.endpoint r.schema r.name = (app, some .frozenApp) ∨
      ∃ next refusal, app.route r.method r.path r.endpoint r.schema r.name = (next, refusal) ∧
        app.router.add r.registration.path r.registration.methods r.registration.endpoint =
          (next.router, refusal) := by
  cases hfrozen : app.frozen with
  | true => exact .inl (by simp [App.route, hfrozen])
  | false =>
    refine .inr ⟨_, _, by simp only [App.route, hfrozen, Bool.false_eq_true, if_false]; rfl, rfl⟩

/-- **Run lemma**: an application lists the routes that it accepts behind those that it had. -/
theorem lists_routeEach {app : App} {routes : List (Route Registered)} (lists : app.router.Lists routes)
    (requests : List RouteRequest) :
    (app.routeEach requests).1.router.Lists (routes ++ (app.routeEach requests).2) := by
  induction requests generalizing app routes with
  | nil => simpa [App.routeEach] using lists
  | cons r requests ih =>
    simp only [App.routeEach]
    rw [← List.append_assoc]
    apply ih
    rcases route_router app r with hfrozen | ⟨next, refusal, hroute, hadd⟩
    · simpa [hfrozen, entered] using lists
    · have hstep := lists_add lists r.registration rfl
      rw [hadd] at hstep
      rw [hroute]
      exact hstep

/-- **Run lemma**: paths that are short enough make no trie that is too high. -/
theorem height_routeEach {app : App} {bound : Nat} (happ : app.router.trie.height ≤ bound)
    {requests : List RouteRequest} (hrequests : ∀ r ∈ requests, (pathSegments r.path).length < bound) :
    (app.routeEach requests).1.router.trie.height ≤ bound := by
  induction requests generalizing app with
  | nil => exact happ
  | cons r requests ih =>
    refine ih ?_ fun r' hr' => hrequests r' (List.mem_cons_of_mem _ hr')
    rcases route_router app r with hfrozen | ⟨next, refusal, hroute, hadd⟩
    · rw [hfrozen]
      exact happ
    · have hstep := height_add_le app.router r.registration
      rw [hadd] at hstep
      rw [hroute]
      have hshort := hrequests r (List.mem_cons_self ..)
      exact Nat.le_trans hstep (Nat.max_le.mpr ⟨happ, hshort⟩)

/-! ## The table -/

/-- Routes whose numbers differ are all kept. -/
theorem firstOfEach_of_nodup {seen : List Nat} {routes : List (Route E)}
    (hdistinct : (routes.map Route.serial).Nodup) (hnew : ∀ r ∈ routes, r.serial ∉ seen) :
    firstOfEach seen routes = routes := by
  induction routes generalizing seen with
  | nil => rfl
  | cons r routes ih =>
    rw [List.map_cons, List.nodup_cons] at hdistinct
    have hr : seen.contains r.serial = false := by simpa using hnew r (List.mem_cons_self ..)
    rw [firstOfEach, if_neg (by rw [hr]; exact Bool.false_ne_true), ih hdistinct.2]
    intro r' hr' hseen
    rcases List.mem_cons.mp hseen with heq | hold
    · exact hdistinct.1 (heq ▸ List.mem_map_of_mem hr')
    · exact hnew r' (List.mem_cons_of_mem _ hr') hold

/-- The routes of a router are those that it has. -/
theorem Router.Lists.routes_perm {router : Router E} {routes : List (Route E)}
    (lists : router.Lists routes) : router.routes.Perm routes := by
  have hdistinct : (router.trie.entries.map Route.serial).Nodup :=
    (lists.entries.map Route.serial).nodup_iff.mpr lists.distinct
  rw [Router.routes, firstOfEach_of_nodup hdistinct (by simp)]
  exact lists.entries

/-- What a router finds is one of its routes and serves the method. -/
theorem Router.Lists.of_match? {router : Router E} {routes : List (Route E)} (lists : router.Lists routes)
    {method path : String} {found : RouteMatch E} (h : router.match? method path = .ok found) :
    found.route ∈ routes ∧ found.route.Serves method := by
  obtain ⟨es, _, -, hserving, -⟩ := match?_eq_ok h
  rcases (serving_eq_some_iff _ _ _).mp hserving with hown | ⟨-, hhead, hget⟩
  · exact (lists.table es method found.route hown).imp_right .inl
  · exact (lists.table es "GET" found.route hget).imp_right fun hmem => .inr ⟨hhead, hmem⟩

/-- Freezing changes no route. -/
theorem Router.Lists.freeze {app : App} {routes : List (Route Registered)}
    (lists : app.router.Lists routes) : app.freeze.router.Lists routes := by
  rw [App.freeze]
  split
  · exact lists
  · exact { lists with }

/-- **The table loses and invents nothing.** However often a new application is asked for routes, and
whichever of them it refuses: its routes are those that it accepted, each once, and what is found for a
request is one of them that serves the method, before registrations end and afterwards. The table can be
shown unless some path was as long as the limit. -/
theorem routes_are_accepted (config : AppConfig) (requests : List RouteRequest) :
    let run := App.routeEach { config := config } requests
    (run.2.map Route.serial).Nodup ∧
    ∀ app ∈ [run.1, run.1.freeze],
      app.routes.Perm run.2 ∧
      (∀ method path found, app.router.match? method path = .ok found →
        found.route ∈ run.2 ∧ found.route.Serves method) ∧
      (app.listRoutes = .ok app.routes ∨ ∃ r ∈ requests, Trie.maxDepth ≤ (pathSegments r.path).length) := by
  intro run
  have lists : run.1.router.Lists run.2 := by
    have hstart : ({ config } : App).router.Lists [] := lists_empty
    simpa using lists_routeEach hstart requests
  have hempty : (Trie.empty : Trie Registered).height ≤ Trie.maxDepth := by decide
  have hheight : (∀ r ∈ requests, (pathSegments r.path).length < Trie.maxDepth) →
      run.1.router.trie.height ≤ Trie.maxDepth := height_routeEach hempty
  refine ⟨lists.distinct, fun app happ => ?_⟩
  obtain ⟨happ, htrie⟩ : app.router.Lists run.2 ∧ app.router.trie = run.1.router.trie := by
    rcases List.mem_pair.mp happ with rfl | rfl
    · exact ⟨lists, rfl⟩
    · refine ⟨lists.freeze, ?_⟩
      rw [App.freeze]
      split <;> rfl
  refine ⟨happ.routes_perm, fun method path found h => happ.of_match? h, ?_⟩
  by_cases hlong : ∃ r ∈ requests, Trie.maxDepth ≤ (pathSegments r.path).length
  · exact .inr hlong
  · have hshort := hheight fun r hr => Nat.lt_of_not_le fun hle => hlong ⟨r, hr, hle⟩
    refine .inl ?_
    rw [App.listRoutes, Router.list, htrie, if_neg (Nat.not_lt.mpr hshort)]
    rfl

end ServerTree
