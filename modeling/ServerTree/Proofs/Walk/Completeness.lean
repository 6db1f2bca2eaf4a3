import ServerTree.Proofs.Routing.Entered
import ServerTree.Proofs.Serving.Enforced

/-!
# Which routes of a tree are registered

A walk registers every route that it comes to, once: an application that is built has exactly one route with the
method and the path of the node, and this serves the handler of the node with what it inherits at its place. But
a walk does not come to everything: what stands below a route or a directory of routes is not looked at, whatever
it is, so a route that stands there is missing from the application, and nothing says so.

## Main definitions
- `Router.Offers`: a router lists routes and offers each of them where its path leads
- `Place.Makes`: a route is that of a node at its place
- `Grove`, `Grows`: trees with nothing left out, and what a row of values stands for in full
- `Grove.visible`, `Grove.hidden`: the nodes that a walk comes to, and those that it does not

## Main statements
- `Router.Offers.filter_eq`: a route is told from all others by its path and its methods
- `Threads.offers`: what an application offers after a walk
- `build_registers_visible`: the routes of a tree that are registered
-/

namespace ServerTree

/-! ## One route for a method and a path -/

section

variable {E : Type}

/-- A router lists routes, and offers each of them under its methods where its path leads. -/
structure Router.Offers (router : Router E) (routes : List (Route E)) : Prop extends router.Lists routes where
  offered : ∀ r ∈ routes, ∀ m ∈ r.methods,
    Assoc.get? m (Trie.table (Trie.follow (edgesOf r.pattern) router.trie)) = some r

theorem offers_empty : Router.Offers ({} : Router E) [] where
  toLists := lists_empty
  offered := fun _ h => nomatch h

/-- **Step lemma**: a registration offers its route when it is accepted, and takes none away. -/
theorem Router.Offers.add {router : Router E} {routes : List (Route E)} (h : router.Offers routes)
    (r : Registration E) {m : String} (hm : r.methods = [m]) :
    (router.add r.path r.methods r.endpoint).1.Offers
      (routes ++ entered (r.route router.count) (router.add r.path r.methods r.endpoint).2) where
  toLists := lists_add h.toLists r hm
  offered := by
    intro offered hmem k hk
    rcases List.mem_append.mp hmem with hold | hnew
    · exact get?_add_of_some (h.offered offered hold k hk) r
    · -- the new route was accepted, so it stands in the table that its path leads to
      obtain ⟨rfl, haccepted⟩ := mem_entered hnew
      obtain ⟨-, -, hclash, hregister, hnext⟩ := add_eq_none (Prod.ext rfl haccepted)
      have htrie := congrArg Router.trie hnext
      simp only at htrie
      rw [htrie, Trie.table_follow_insert, if_pos ⟨rfl, hclash⟩]
      have hentered := Trie.get?_register hregister k
      rwa [if_pos (show k ∈ r.methods from hk)] at hentered

/-- One route has the path and the methods of another. -/
def Route.isLike (r other : Route E) : Bool := r.path == other.path && r.methods == other.methods

theorem Route.isLike_iff {r other : Route E} :
    r.isLike other = true ↔ r.path = other.path ∧ r.methods = other.methods := by
  simp [Route.isLike]

/-- **Of the routes of a router one alone has its path and its methods.** -/
theorem Router.Offers.filter_eq {router : Router E} {routes : List (Route E)} (h : router.Offers routes)
    {r : Route E} (hr : r ∈ routes) (hmethods : r.methods ≠ []) :
    router.routes.filter (fun other => other.isLike r) = [r] := by
  obtain ⟨m, hm⟩ := List.exists_mem_of_ne_nil _ hmethods
  have hnodup : routes.Nodup := .of_map _ h.distinct
  have hlisted : (router.routes.filter fun other => other.isLike r).Perm
      (routes.filter fun other => other.isLike r) := h.routes_perm.filter _
  refine List.perm_singleton.mp (hlisted.trans ?_)
  refine (List.perm_ext_iff_of_nodup (hnodup.filter _) (List.nodup_singleton r)).mpr fun other => ?_
  rw [List.mem_filter, List.mem_singleton, Route.isLike_iff]
  constructor
  · rintro ⟨hother, hpath, hsame⟩
    -- both stand under one method at the end of one path
    have hfound := h.offered other hother m (hsame ▸ hm)
    rw [Route.pattern, hpath] at hfound
    exact Option.some.inj (hfound.symm.trans (h.offered r hr m hm))
  · rintro rfl
    exact ⟨hr, rfl, rfl⟩

end

/-! ## What a walk registers -/

section

variable {U : Type} {b : Behaviour U} {start : RouteConfig Value} {w w' : World U}

/-- An application offers some routes in the order of their registration, and perhaps others between them. -/
def App.Offers (app : App) (own : List (Route Registered)) : Prop :=
  ∃ routes, app.router.Offers routes ∧ own.Sublist routes

/-- **Step lemma**: an application that is asked for a route still offers what it did. -/
theorem App.Offers.asked {app : App} {own : List (Route Registered)} (h : app.Offers own) (method path : String)
    (endpoint : Endpoint) (schema name : Value) : (app.route method path endpoint schema name).1.Offers own := by
  obtain ⟨routes, hoffers, hown⟩ := h
  let request : RouteRequest := ⟨method, path, endpoint, schema, name⟩
  rcases route_router app request with hfrozen | ⟨next, refusal, hroute, hadd⟩
  · rw [hfrozen]
    exact ⟨routes, hoffers, hown⟩
  · have hstep := hoffers.add request.registration rfl
    rw [hadd] at hstep
    rw [hroute]
    exact ⟨_, hstep, hown.trans (List.sublist_append_left _ _)⟩

/-- **Step lemma**: an application that accepts a route offers it. -/
theorem App.Offers.accepted {app app' : App} {own : List (Route Registered)} (h : app.Offers own)
    {method path : String} {endpoint : Endpoint} {schema name : Value}
    (haccepted : app.route method path endpoint schema name = (app', none)) :
    app'.Offers (own ++ [⟨path, [Text.upper method], ⟨endpoint, schema, name⟩, app.router.count⟩]) := by
  obtain ⟨routes, hoffers, hown⟩ := h
  let request : RouteRequest := ⟨method, path, endpoint, schema, name⟩
  rcases route_router app request with hfrozen | ⟨next, refusal, hroute, hadd⟩
  · exact absurd (hfrozen.symm.trans haccepted) (by simp)
  · obtain ⟨rfl, rfl⟩ := Prod.mk.inj (hroute.symm.trans haccepted)
    have hstep := hoffers.add request.registration rfl
    rw [hadd] at hstep
    exact ⟨_, hstep, hown.append (.refl _)⟩

/-- What does not concern the router leaves an application what it offers. -/
theorem App.Offers.of_router {app app' : App} {own : List (Route Registered)} (h : app.Offers own)
    (hrouter : app'.router = app.router) : app'.Offers own := by
  obtain ⟨routes, hoffers, hown⟩ := h
  exact ⟨routes, hrouter ▸ hoffers, hown⟩

/-- What an application does unless it is frozen leaves its routes alone when they are not concerned. -/
theorem App.router_of_unlessFrozen {app changed app' : App} (h : app.unlessFrozen changed = .ok app')
    (hrouter : changed.router = app.router) : app'.router = app.router := by
  rw [App.unlessFrozen] at h
  split at h
  · cases h
  · obtain rfl := Except.ok.inj h
    exact hrouter

theorem App.router_of_enableCors {app app' : App} {spec : CorsSpec Value}
    (h : app.enableCors spec = .ok app') : app'.router = app.router := by
  rw [App.enableCors] at h
  split at h
  · cases h
  · split at h
    · cases h
    · obtain rfl := Except.ok.inj h
      rfl

/-- Registrations take no route away. -/
theorem keptByRegistrations_offers {own : List (Route Registered)} :
    App.KeptByRegistrations fun app _ => app.Offers own where
  route h method path _ schema name := h.asked method path _ schema name
  wrapped {app _} h _ _ _ _ method path schema name :=
    have hnumbered : ({ app with wrapped := app.wrapped + 1 } : App).Offers own := h.of_router rfl
    hnumbered.asked method path _ schema name
  middleware h hadd := h.of_router (App.router_of_unlessFrozen hadd rfl)
  hook h hadd := h.of_router (App.router_of_unlessFrozen hadd rfl)

/-- A route is that of a node at its place: it has the path of the node's groups and its own, and serves the
handler of the node with what is inherited there. -/
def Place.Makes (start : RouteConfig Value) (place : Place) (r : Route Registered) : Prop :=
  ∃ method own handler schema timeout logger number serial,
    place.payload = .route method (.str own) handler schema ∧
      let path := orRoot (joinPaths (start.settings.mountPath.pathText :: (groupPaths place.above ++ [own])))
      let wrapped : WrappedHandler :=
        ⟨handler, inherited start place.above, timeout, method ++ " " ++ path, logger, number⟩
      r = ⟨path, [Text.upper method], ⟨.wrapped wrapped, schema, .none⟩, serial⟩

theorem Place.Makes.methods_ne_nil {place : Place} {r : Route Registered} (h : place.Makes start r) :
    r.methods ≠ [] := by
  obtain ⟨method, _, _, _, _, _, _, _, -, rfl⟩ := h
  exact List.cons_ne_nil _ _

/-- **Step lemma**: a route that is visited at its place is offered from then on. -/
theorem NodeVisit.Registers.offers {visit : NodeVisit U} {place : Place} {own : List (Route Registered)}
    (h : visit.Registers start place) (hown : visit.before.app.Offers own) :
    ∃ r, place.Makes start r ∧ visit.after.app.Offers (own ++ [r]) := by
  obtain ⟨method, path, handler, schema, logger, hpayload, haccepted⟩ := h
  have hnumbered : ({ visit.before.app with wrapped := visit.before.app.wrapped + 1 } : App).Offers own :=
    hown.of_router rfl
  have hoffers := hnumbered.accepted haccepted
  exact ⟨_, ⟨method, path, handler, schema, _, logger, _, _, hpayload, rfl⟩, hoffers⟩

/-- **Step lemma**: no node takes a route away. -/
theorem NodeVisit.IsAt.offers {visit : NodeVisit U} {place : Place} {own : List (Route Registered)}
    (h : visit.IsAt b start place) (hown : visit.before.app.Offers own) : visit.after.app.Offers own := by
  obtain ⟨r, hvisited⟩ := h.visited
  have hkeeps := Act.keeps_visit b keptByRegistrations_offers visit.config (p := visit.payload)
    (fun spec _ => Act.keeps_tryCors fun app app' bank henabled hoffers =>
      hoffers.of_router (App.router_of_enableCors henabled)) visit.before hown
  rwa [show outcome (ServerTree.visit b visit.config visit.payload) visit.before = _ from hvisited] at hkeeps

/-- Composites do not touch the application. -/
theorem World.Expands.app (h : World.Expands b w w') : w'.app = w.app := by
  obtain ⟨user, rfl⟩ := h.user
  rfl

/-- **Run lemma**: after visits at places an application offers what it did before and a route for each of the
places of routes, in order. -/
theorem Threads.offers {visits : List (NodeVisit U)} {places : List Place} {own : List (Route Registered)}
    (h : Threads b w visits w') (hvisits : List.Forall₂ (NodeVisit.IsAt b start) visits places)
    (hown : w.app.Offers own) :
    ∃ new, List.Forall₂ (Place.Makes start) (places.filter fun place => place.payload.isRoute) new ∧
      w'.app.Offers (own ++ new) := by
  induction h generalizing places own with
  | nil expands =>
    cases hvisits
    exact ⟨[], .nil, by rw [expands.app, List.append_nil]; exact hown⟩
  | cons expands _ ih =>
    obtain ⟨place, places, hvisit, hrest, rfl⟩ := List.forall₂_cons_left_iff.mp hvisits
    rw [← expands.app] at hown
    cases hroute : place.payload.isRoute with
    | true =>
      obtain ⟨r, hmakes, hoffers⟩ := (hvisit.registers hroute).offers hown
      obtain ⟨new, hnew, hend⟩ := ih hrest hoffers
      refine ⟨r :: new, ?_, by rwa [List.append_assoc] at hend⟩
      rw [List.filter_cons_of_pos (by exact hroute)]
      exact .cons hmakes hnew
    | false =>
      obtain ⟨new, hnew, hend⟩ := ih hrest (hvisit.offers hown)
      refine ⟨new, ?_, hend⟩
      rwa [List.filter_cons_of_neg (by simp [hroute])]

/-- Before its tree is walked an application may install its access log. -/
theorem exists_returns_opened {x : Act U Unit} (h : Act.Returns (do
      let world ← get
      if world.app.config.accessLog.truthy then Act.register fun app => app.onResponse .accessLog
      x) w () w') : ∃ w₁, w₁.env = w.env ∧ w₁.app.router = w.app.router ∧ Act.Returns x w₁ () w' := by
  obtain ⟨_, _, hget, hrest⟩ := Act.returns_bind.mp h
  obtain ⟨rfl, rfl⟩ := Act.returns_get.mp hget
  split at hrest
  · obtain ⟨_, w₁, hregister, hrest⟩ := Act.returns_bind.mp hrest
    rw [Act.Returns, Act.register, Act.outcome_get_bind] at hregister
    cases hadd : w.app.onResponse .accessLog with
    | error refusal =>
      rw [hadd] at hregister
      cases hregister
    | ok app =>
      rw [hadd] at hregister
      obtain rfl : { w with app := app } = w₁ := (Prod.mk.inj hregister).2
      have hrouter : app.router = w.app.router := App.router_of_unlessFrozen hadd rfl
      exact ⟨{ w with app := app }, rfl, hrouter, hrest⟩
  · exact ⟨w, rfl, rfl, hrest⟩

/-- A launch that returns walked the children of a server, from an application with the routes that were there, and
made a record after it. -/
theorem walks_of_build {root : Value} {configured : Bool} (h : Act.Returns (build b root configured) w () w') :
    ∃ port host children w₁ w₂ w₃ visits message,
      Act.Returns (Act.expand (resolve b.expand root)) w (.node (.server port host) children) w₁ ∧
      w₂.env = w₁.env ∧ w₂.app.router = w.app.router ∧ Walks b children .empty w₂ visits w₃ ∧
      w' = w₃.noting .tree .info (some message) := by
  obtain ⟨r, w₁, hroot, hrest⟩ := Act.returns_bind.mp h
  have hstill : w₁.app.router = w.app.router := by rw [app_of_returns_expand hroot]
  cases r with
  | nothing => exact absurd hrest Act.returns_refuse
  | items xs => exact absurd hrest Act.returns_refuse
  | node p children =>
    cases p with
    | server port host =>
      obtain ⟨w₂, henv, hrouter, hwalk⟩ : ∃ w₂, w₂.env = w₁.env ∧ w₂.app.router = w₁.app.router ∧ Act.Returns (do
          walkTrees b nestingLimit children .empty
          let built ← get
          let routes ← Act.ofAttempt (built.app.listRoutes.mapError .refused)
          Act.log .tree .info ("Registered " ++ toString routes.length ++ " routes") : Act U Unit) w₂ () w' := by
        cases configured with
        | true => exact exists_returns_opened hrest
        | false =>
          obtain ⟨_, w₂, hconfigure, hrest⟩ := Act.returns_bind.mp hrest
          obtain rfl := Act.returns_modify.mp hconfigure
          obtain ⟨w₂, henv, hrouter, hwalk⟩ := exists_returns_opened hrest
          exact ⟨w₂, henv, hrouter, hwalk⟩
      obtain ⟨_, w₃, hwalked, hlisting⟩ := Act.returns_bind.mp hwalk
      obtain ⟨_, _, hget, hlisting⟩ := Act.returns_bind.mp hlisting
      obtain ⟨rfl, rfl⟩ := Act.returns_get.mp hget
      obtain ⟨_, _, hlisted, hlog⟩ := Act.returns_bind.mp hlisting
      obtain ⟨-, rfl⟩ := Act.returns_ofAttempt.mp hlisted
      obtain ⟨visits, hvisits⟩ := walks_of_walkTrees (walks_of_walkTree nestingLimit) hwalked
      exact ⟨port, host, children, w₁, w₂, w₃, visits, _, hroot, henv, hrouter.trans hstill, hvisits,
        (Act.returns_log.mp hlog).symm⟩
    | _ => exact absurd hrest Act.returns_refuse

/-! ## Trees with nothing left out -/

/-- A row of trees as they are declared: also what stands below nodes whose children are not visited. -/
inductive Grove where
  | nil
  | node (payload : Payload Value) (below next : Grove)

/-- What a row of values stands for in full. -/
inductive Grows (b : Behaviour U) : List Value → Grove → Prop where
  | nil : Grows b [] .nil
  | nothing {v : Value} {vs : List Value} {user : U} {next : Grove}
      (resolved : (outcome (resolve b.expand v) user).1 = .ok .nothing) (rest : Grows b vs next) :
      Grows b (v :: vs) next
  | splice {v : Value} {xs vs : List Value} {user : U} {next : Grove}
      (resolved : (outcome (resolve b.expand v) user).1 = .ok (.items xs)) (rest : Grows b (xs ++ vs) next) :
      Grows b (v :: vs) next
  | node {v : Value} {vs children : List Value} {user : U} {p : Payload Value} {below next : Grove}
      (resolved : (outcome (resolve b.expand v) user).1 = .ok (.node p children))
      (inside : Grows b children below) (rest : Grows b vs next) : Grows b (v :: vs) (.node p below next)

namespace Grove

/-- What all nodes carry, in preorder. -/
def payloads : Grove → List (Payload Value)
  | .nil => []
  | .node p below next => p :: (below.payloads ++ next.payloads)

/-- What the nodes carry that stand below no route and no directory of routes. -/
def visible : Grove → List (Payload Value)
  | .nil => []
  | .node p below next => p :: ((if p.closes then [] else below.visible) ++ next.visible)

/-- What the nodes carry that stand below one. -/
def hidden : Grove → List (Payload Value)
  | .nil => []
  | .node p below next => (if p.closes then below.payloads else below.hidden) ++ next.hidden

/-- Every node is visible or hidden. -/
theorem payloads_perm (g : Grove) : g.payloads.Perm (g.visible ++ g.hidden) := by
  induction g with
  | nil => exact .refl _
  | node p below next ihBelow ihNext =>
    have hbelow : below.payloads.Perm ((if p.closes then [] else below.visible) ++
        (if p.closes then below.payloads else below.hidden)) := by
      cases p.closes with
      | true => exact .refl _
      | false => exact ihBelow
    -- the visible ones of both parts, and then the hidden ones
    simp only [payloads, visible, hidden, List.cons_append, List.append_assoc]
    refine .cons p ((hbelow.append ihNext).trans ?_)
    rw [List.append_assoc]
    exact (List.perm_append_comm_assoc _ _ _).append_left _

/-- The routes of a tree are its visible ones exactly when none is hidden. -/
theorem filter_payloads_perm_iff (g : Grove) (P : Payload Value → Bool) :
    (g.payloads.filter P).Perm (g.visible.filter P) ↔ ∀ p ∈ g.hidden, P p = false := by
  have hsplit := g.payloads_perm.filter P
  rw [List.filter_append] at hsplit
  constructor
  · intro h
    have hlength := h.length_eq.symm.trans hsplit.length_eq
    rw [List.length_append] at hlength
    have hnone : g.hidden.filter P = [] := List.eq_nil_of_length_eq_zero (by omega)
    intro p hp
    simpa using List.filter_eq_nil_iff.mp hnone p hp
  · intro h
    have hnone : g.hidden.filter P = [] := List.filter_eq_nil_iff.mpr fun p hp => by simp [h p hp]
    rwa [hnone, List.append_nil] at hsplit

end Grove

/-- When composites always return the same, a walk comes to the visible nodes. -/
theorem Grows.visible_eq {vs : List Value} {f : Forest} {g : Grove} (hb : b.Steady) (h : Grows b vs g)
    (hf : Unfolds b vs f) : f.payloads = g.visible := by
  induction h generalizing f with
  | nil =>
    cases hf
    rfl
  | nothing resolved _ ih => exact ih (hf.cons_inv hb resolved)
  | splice resolved _ ih => exact ih (hf.cons_inv hb resolved)
  | node resolved _ _ ihInside ihRest =>
    rcases hf.cons_inv hb resolved with ⟨hopened, service, below, next, rfl, hbelow, hnext⟩ |
      ⟨hcloses, next, rfl, hnext⟩
    · simp only [Forest.payloads, Grove.visible, hopened, Bool.false_eq_true, if_false, ihInside hbelow, ihRest hnext]
    · simp only [Forest.payloads, Grove.visible, hcloses, if_true, List.nil_append, ihRest hnext]

/-- **What stands below a route or a directory of routes has no part in a walk**, whatever it is: it may as well
not be there. -/
theorem outcome_walkTree_closed {p : Payload Value} (hcloses : p.closes = true) (fuel : Nat)
    (children : List Value) (c : RouteConfig Value) (w : World U) :
    outcome (walkTree b fuel (.node p children) c) w = outcome (walkTree b fuel (.node p []) c) w := by
  cases fuel with
  | zero => rw [walkTree, walkTree]
  | succ fuel =>
    have hresolved (cs : List Value) : Act.Returns (Act.expand (resolve b.expand (.node p cs))) w (.node p cs) w :=
      returns_resolve_node.mpr ⟨rfl, rfl⟩
    rw [walkTree, walkTree, outcome_bind, outcome_bind, hresolved, hresolved]
    simp only [outcome_bind]
    cases hvisit : outcome (visit b c p) w with
    | mk r w₁ =>
      rcases r with e | (_ | below)
      · rfl
      · rfl
      · -- such a node hands nothing down
        have hstart : Act.Returns (visit b (inherited c []) p) w (some below) w₁ := by rwa [inherited_nil]
        exact absurd hcloses (by simp [(visit_below hstart).1])

/-! ## Launches -/

/-- **The routes of a tree that are registered.** Whatever application a tree is built into, each route that the
walk comes to is registered once: it is new, the application has no other route with its path and its methods, and
it serves the handler of the node with what is inherited at its place. When composites always return the same, the
walk comes to the routes that do not stand below another route or a directory of routes, so all routes of the tree
are registered exactly when none of them stands there. -/
theorem build_registers_visible {root : Value} {configured : Bool} {before : List (Route Registered)}
    (hbefore : w.app.router.Offers before) (h : Act.Returns (build b root configured) w () w') :
    ∃ port host children w₁ f own,
      Act.Returns (Act.expand (resolve b.expand root)) w (.node (.server port host) children) w₁ ∧
      Unfolds b children f ∧ (before ++ own).Nodup ∧
      List.Forall₂ (fun place r => place.Makes .empty r ∧ w'.app.routes.filter (fun other => other.isLike r) = [r])
        f.routes own ∧
      (b.Steady → ∀ whole, Grows b children whole →
        f.routes.map Place.payload = whole.visible.filter Payload.isRoute ∧
        ((whole.payloads.filter Payload.isRoute).Perm (f.routes.map Place.payload) ↔
          ∀ p ∈ whole.hidden, p.isRoute = false)) := by
  obtain ⟨port, host, children, w₁, w₂, w₃, visits, _, hroot, -, hrouter, hwalks, rfl⟩ := walks_of_build h
  obtain ⟨f, hunfolds, hvisits⟩ := hwalks.forall₂_places [] (inherited_nil .empty).symm
  have hstart : w₂.app.Offers before := ⟨before, hrouter ▸ hbefore, .refl _⟩
  obtain ⟨own, hmade, hend⟩ := hwalks.threads.offers hvisits hstart
  obtain ⟨routes, hoffers, hown⟩ := hend
  refine ⟨port, host, children, w₁, f, own, hroot, hunfolds, ?_, ?_, ?_⟩
  · exact hown.nodup (.of_map _ hoffers.distinct)
  · have hlisted : ∀ r ∈ own, r ∈ routes := fun r hr => hown.subset (List.mem_append_right _ hr)
    rw [Forest.routes]
    refine List.forall₂_iff_zip.mpr ⟨hmade.length_eq, fun hzip => ?_⟩
    have hmakes := (List.forall₂_iff_zip.mp hmade).2 hzip
    refine ⟨hmakes, ?_⟩
    exact hoffers.filter_eq (hlisted _ (List.of_mem_zip hzip).2) hmakes.methods_ne_nil
  · intro hb whole hwhole
    have hroutes : f.routes.map Place.payload = whole.visible.filter Payload.isRoute := by
      rw [← hwhole.visible_eq hb hunfolds, ← Forest.map_places f [], List.filter_map]
      rfl
    refine ⟨hroutes, ?_⟩
    rw [hroutes]
    exact whole.filter_payloads_perm_iff _

end

/-! ### A route below a route -/

/-- What a route carries that another one stands below. -/
def outerRoute : Payload Value := .route "GET" (.str "/a") (.func ⟨"a", 0, false⟩) .none

/-- What the one below it carries. -/
def innerRoute : Payload Value := .route "GET" (.str "/b") (.func ⟨"b", 0, false⟩) .none

/-- A server with just these. -/
def nestedRoutes : Value :=
  .node (.server (.int 3000) (.str "0.0.0.0")) [.node outerRoute [.node innerRoute []]]

/-- The world in which the walk of its tree ends. -/
def nestedRoutesWalked : World Unit :=
  (outcome (visit .idle .empty outerRoute)
    { env := { user := () }, app := App.opened {} false (.str "0.0.0.0") (.int 3000) }).2

/-- The world with the built application. -/
def nestedRoutesBuilt : World Unit :=
  { nestedRoutesWalked with env := nestedRoutesWalked.env.emit .tree .info "Registered 1 routes" }

theorem returns_build_nestedRoutes :
    Act.Returns (build .idle nestedRoutes false) { env := { user := () } } () nestedRoutesBuilt := by
  have hroot : Act.Returns (Act.expand (resolve Behaviour.idle.expand nestedRoutes)) { env := { user := () } }
      (.node (.server (.int 3000) (.str "0.0.0.0")) _) { env := { user := () } } := rfl
  refine (returns_build_iff hroot rfl).mpr ⟨nestedRoutesWalked, _, ?_, rfl, rfl⟩
  exact returns_walkTrees_singleton.mpr (returns_walkTree_node.mpr ⟨none, nestedRoutesWalked, rfl, rfl⟩)

theorem paths_nestedRoutesBuilt : nestedRoutesBuilt.app.routes.map Route.path = ["/a"] := rfl

theorem grows_nestedRoutes :
    Grows .idle [.node outerRoute [.node innerRoute []]] (.node outerRoute (.node innerRoute .nil .nil) .nil) :=
  have hresolved (p : Payload Value) (children : List Value) :
      (outcome (resolve Behaviour.idle.expand (.node p children)) ()).1 = .ok (.node p children) := rfl
  .node (hresolved _ _) (.node (hresolved _ _) .nil .nil) .nil

/-- The outer one is registered. -/
theorem build_registers_visible_nestedRoutes :
    ({ env := { user := () } } : World Unit).app.router.Offers [] ∧
      Act.Returns (build .idle nestedRoutes false) { env := { user := () } } () nestedRoutesBuilt ∧
      ∃ r h, nestedRoutesBuilt.app.routes.filter (fun other => other.isLike r) = [r] ∧ r.path = "/a" ∧
        r.endpoint.endpoint = .wrapped h ∧ h.handler = .func ⟨"a", 0, false⟩ := by
  refine ⟨offers_empty, returns_build_nestedRoutes, ?_⟩
  obtain ⟨_, _, children, _, f, own, hroot, -, -, hmade, hsteady⟩ :=
    build_registers_visible (w := { env := { user := () } }) offers_empty returns_build_nestedRoutes
  obtain ⟨-, rfl⟩ := Resolved.node.inj (returns_resolve_node.mp hroot).1
  obtain ⟨hroutes, -⟩ := hsteady (fun _ _ _ => rfl) _ grows_nestedRoutes
  -- the outer route is the only one that the walk comes to
  obtain ⟨place, rest, hplaces, hpayload, -⟩ := List.map_eq_cons_iff.mp (hroutes : _ = [outerRoute])
  rw [hplaces] at hmade
  obtain ⟨r, own, ⟨hmakes, honce⟩, -, rfl⟩ := List.forall₂_cons_left_iff.mp hmade
  obtain ⟨method, path, handler, schema, timeout, logger, number, serial, hroute, rfl⟩ := hmakes
  obtain ⟨-, -, rfl, -⟩ := Payload.route.inj (hroute.symm.trans hpayload)
  refine ⟨_, _, honce, ?_, rfl, rfl⟩
  have hlisted := List.mem_of_mem_filter (honce ▸ List.mem_singleton_self _)
  exact List.mem_singleton.mp (paths_nestedRoutesBuilt ▸ List.mem_map_of_mem hlisted)

/-- The one below it is lost, although building the application returns. -/
theorem build_loses_nestedRoute :
    Act.Returns (build .idle nestedRoutes false) { env := { user := () } } () nestedRoutesBuilt ∧
      (∃ whole, Grows .idle [.node outerRoute [.node innerRoute []]] whole ∧ innerRoute ∈ whole.payloads) ∧
      ∀ r ∈ nestedRoutesBuilt.app.routes, r.path ≠ "/b" := by
  refine ⟨returns_build_nestedRoutes, ⟨_, grows_nestedRoutes, ?_⟩, fun r hr hpath => ?_⟩
  · exact List.mem_cons_of_mem _ List.mem_cons_self
  · have hmem : r.path ∈ nestedRoutesBuilt.app.routes.map Route.path := List.mem_map_of_mem hr
    rw [paths_nestedRoutesBuilt, hpath] at hmem
    exact absurd hmem (by decide)

end ServerTree
