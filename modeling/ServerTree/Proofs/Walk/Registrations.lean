import Mathlib.Data.List.Forall2
import ServerTree.Proofs.Walk.Inheritance

/-!
# The registrations of a walk

A walk that comes to its end has visited the nodes of the tree in preorder, except those below nodes that
register routes, and each with the configuration that its ancestors say. So every route of the tree is
registered once, in order, with what it inherits.

## Main definitions
- `Forest`, `Unfolds`: trees with composites replaced and rows of nodes spliced in
- `Forest.places`: the nodes of a tree in preorder, with their ancestors
- `Walks`: the visits of a walk
- `NodeVisit.Registers`: the registration of a route at its place

## Main statements
- `walks_of_walk`: a walk that returns is a row of visits
- `walk_registers`: its registrations are those of the routes of the tree
-/

namespace ServerTree

variable {U : Type}

/-! ## Trees -/

/-- A row of trees as they are walked. -/
inductive Forest where
  | nil
  | node (root : Ancestor) (below next : Forest)
  /-- A node whose children are not visited. -/
  | closed (payload : Payload Value) (next : Forest)

/-- What a row of values stands for: composites are replaced by what they resolve to, rows of nodes are
spliced in, and nothing is left out but nothing itself. -/
inductive Unfolds (b : Behaviour U) : List Value → Forest → Prop where
  | nil : Unfolds b [] .nil
  | nothing {v : Value} {vs : List Value} {user : U} {next : Forest}
      (resolved : (outcome (resolve b.expand v) user).1 = .ok .nothing) (rest : Unfolds b vs next) :
      Unfolds b (v :: vs) next
  | splice {v : Value} {xs vs : List Value} {user : U} {next : Forest}
      (resolved : (outcome (resolve b.expand v) user).1 = .ok (.items xs))
      (rest : Unfolds b (xs ++ vs) next) : Unfolds b (v :: vs) next
  | node {v : Value} {vs children : List Value} {user : U} {p : Payload Value} {service : Option Value}
      {below next : Forest} (resolved : (outcome (resolve b.expand v) user).1 = .ok (.node p children))
      (opened : p.closes = false) (served : Ancestor.IsServed b ⟨p, service⟩)
      (inside : Unfolds b children below) (rest : Unfolds b vs next) :
      Unfolds b (v :: vs) (.node ⟨p, service⟩ below next)
  | closed {v : Value} {vs children : List Value} {user : U} {p : Payload Value} {next : Forest}
      (resolved : (outcome (resolve b.expand v) user).1 = .ok (.node p children))
      (closes : p.closes = true) (rest : Unfolds b vs next) : Unfolds b (v :: vs) (.closed p next)

/-- A node of a tree: its ancestors, outermost first, and what it carries. -/
structure Place where
  above : List Ancestor
  payload : Payload Value

/-- The nodes of a row of trees in preorder, below given ancestors. -/
def Forest.places (above : List Ancestor) : Forest → List Place
  | .nil => []
  | .node root below next =>
    ⟨above, root.payload⟩ :: (below.places (above ++ [root]) ++ next.places above)
  | .closed p next => ⟨above, p⟩ :: next.places above

/-- Whether a node is a route. -/
def Payload.isRoute : Payload Value → Bool
  | .route .. => true
  | _ => false

/-- The routes of a tree in preorder. -/
def Forest.routes (f : Forest) : List Place :=
  (f.places []).filter fun place => place.payload.isRoute

/-! ## Walks -/

/-- One visit of a node: what it carries, the configuration in effect, and the world before and after. -/
structure NodeVisit (U : Type) where
  payload : Payload Value
  config : RouteConfig Value
  before : World U
  after : World U

/-- A walk along a row of values with a configuration: the visits that it makes, one after the other. -/
inductive Walks (b : Behaviour U) :
    List Value → RouteConfig Value → World U → List (NodeVisit U) → World U → Prop where
  | nil {c : RouteConfig Value} {w : World U} : Walks b [] c w [] w
  | nothing {v : Value} {vs : List Value} {c : RouteConfig Value} {w w₁ w' : World U}
      {visits : List (NodeVisit U)} (resolved : Act.Returns (Act.expand (resolve b.expand v)) w .nothing w₁)
      (rest : Walks b vs c w₁ visits w') : Walks b (v :: vs) c w visits w'
  | splice {v : Value} {xs vs : List Value} {c : RouteConfig Value} {w w₁ w' : World U}
      {visits : List (NodeVisit U)}
      (resolved : Act.Returns (Act.expand (resolve b.expand v)) w (.items xs) w₁)
      (rest : Walks b (xs ++ vs) c w₁ visits w') : Walks b (v :: vs) c w visits w'
  | node {v : Value} {vs children : List Value} {c below : RouteConfig Value} {p : Payload Value}
      {w w₁ w₂ w₃ w' : World U} {inner visits : List (NodeVisit U)}
      (resolved : Act.Returns (Act.expand (resolve b.expand v)) w (.node p children) w₁)
      (visited : Act.Returns (visit b c p) w₁ (some below) w₂) (inside : Walks b children below w₂ inner w₃)
      (rest : Walks b vs c w₃ visits w') :
      Walks b (v :: vs) c w (⟨p, c, w₁, w₂⟩ :: (inner ++ visits)) w'
  | closed {v : Value} {vs children : List Value} {c : RouteConfig Value} {p : Payload Value}
      {w w₁ w₂ w' : World U} {visits : List (NodeVisit U)}
      (resolved : Act.Returns (Act.expand (resolve b.expand v)) w (.node p children) w₁)
      (visited : Act.Returns (visit b c p) w₁ none w₂) (rest : Walks b vs c w₂ visits w') :
      Walks b (v :: vs) c w (⟨p, c, w₁, w₂⟩ :: visits) w'

/-- Two walks with the same configuration, one after the other. -/
theorem Walks.append {b : Behaviour U} {vs vs' : List Value} {c : RouteConfig Value} {w w₁ w' : World U}
    {visits visits' : List (NodeVisit U)} (h : Walks b vs c w visits w₁)
    (h' : Walks b vs' c w₁ visits' w') :
    Walks b (vs ++ vs') c w (visits ++ visits') w' := by
  induction h with
  | nil => exact h'
  | nothing resolved _ ih => exact .nothing resolved (ih h')
  | splice resolved _ ih =>
    have hrest := ih h'
    rw [List.append_assoc] at hrest
    exact .splice resolved hrest
  | node resolved visited inside _ _ ih =>
    rw [List.cons_append, List.cons_append, List.append_assoc]
    exact .node resolved visited inside (ih h')
  | closed resolved visited _ ih => exact .closed resolved visited (ih h')

/-- **Run lemma**: a walk along a row that returns is a row of visits, when those along each of its values
are. -/
theorem walks_of_walkTrees {b : Behaviour U} {fuel : Nat}
    (tree : ∀ {v c} {w w' : World U}, Act.Returns (walkTree b fuel v c) w () w' →
      ∃ visits, Walks b [v] c w visits w')
    {vs : List Value} {c : RouteConfig Value} {w w' : World U}
    (h : Act.Returns (walkTrees b fuel vs c) w () w') : ∃ visits, Walks b vs c w visits w' := by
  induction vs generalizing w with
  | nil =>
    rw [walkTrees] at h
    obtain ⟨-, rfl⟩ := Act.returns_pure.mp h
    exact ⟨[], .nil⟩
  | cons v vs ih =>
    rw [walkTrees] at h
    obtain ⟨_, w₁, hv, hvs⟩ := Act.returns_bind.mp h
    obtain ⟨visits, hvisits⟩ := tree hv
    obtain ⟨visits', hvisits'⟩ := ih hvs
    exact ⟨_, hvisits.append hvisits'⟩

theorem depth_pos (k : Kind) : 0 < k.depth := by
  cases k <;> decide

/-- The induction is on the fuel: rows of nodes have less than what they stand in, and so have children. -/
theorem walks_of_walkTree {b : Behaviour U} (fuel : Nat) {v : Value} {c : RouteConfig Value}
    {w w' : World U} (h : Act.Returns (walkTree b fuel v c) w () w') :
    ∃ visits, Walks b [v] c w visits w' := by
  induction fuel using Nat.strongRecOn generalizing v c w w' with
  | ind fuel ih =>
    cases fuel with
    | zero =>
      rw [walkTree] at h
      exact absurd h Act.returns_refuse
    | succ fuel =>
      rw [walkTree] at h
      obtain ⟨r, w₁, hresolved, hrest⟩ := Act.returns_bind.mp h
      cases r with
      | nothing =>
        obtain ⟨-, rfl⟩ := Act.returns_pure.mp hrest
        exact ⟨[], .nothing hresolved .nil⟩
      | items xs =>
        obtain ⟨visits, hvisits⟩ := walks_of_walkTrees (ih fuel (Nat.lt_succ_self fuel)) hrest
        refine ⟨visits, .splice hresolved ?_⟩
        rwa [List.append_nil]
      | node p children =>
        obtain ⟨below, w₂, hvisit, hchildren⟩ := Act.returns_bind.mp hrest
        cases below with
        | none =>
          obtain ⟨-, rfl⟩ := Act.returns_pure.mp hchildren
          exact ⟨_, .closed hresolved hvisit .nil⟩
        | some below =>
          have hless : fuel + 1 - p.kind.depth < fuel + 1 :=
            Nat.sub_lt (Nat.succ_pos fuel) (depth_pos p.kind)
          obtain ⟨inner, hinner⟩ := walks_of_walkTrees (ih _ hless) hchildren
          exact ⟨_, .node hresolved hvisit hinner .nil⟩

/-- A walk that returns is a row of visits. -/
theorem walks_of_walk {b : Behaviour U} {v : Value} {c : RouteConfig Value} {w w' : World U}
    (h : Act.Returns (walk b v c) w () w') : ∃ visits, Walks b [v] c w visits w' :=
  walks_of_walkTree nestingLimit h

/-! ## Nodes -/

/-- A node is what it resolves to. -/
theorem returns_resolve_node {call : Expander U} {p : Payload Value} {cs : List Value} {r : Resolved}
    {w w' : World U} :
    Act.Returns (Act.expand (resolve call (.node p cs))) w r w' ↔ r = .node p cs ∧ w = w' := by
  have hself : Act.expand (resolve call (.node p cs)) = (pure (.node p cs) : Act U Resolved) := rfl
  rw [hself, Act.returns_pure, eq_comm]

/-- A walk of a node is a visit, and a walk of its children unless it hands nothing down. -/
theorem returns_walkTree_node {b : Behaviour U} {fuel : Nat} {p : Payload Value} {cs : List Value}
    {c : RouteConfig Value} {w w' : World U} :
    Act.Returns (walkTree b (fuel + 1) (.node p cs) c) w () w' ↔
      ∃ below w₁, Act.Returns (visit b c p) w below w₁ ∧
        match below with
        | some below => Act.Returns (walkTrees b (fuel + 1 - p.kind.depth) cs below) w₁ () w'
        | none => w₁ = w' := by
  rw [walkTree, (returns_resolve_node.mpr ⟨rfl, rfl⟩).bind_iff]
  simp only [Act.returns_bind]
  refine exists_congr fun below => exists_congr fun w₁ => and_congr_right fun _ => ?_
  cases below with
  | none => simp
  | some below => rfl

theorem returns_walkTrees_singleton {b : Behaviour U} {fuel : Nat} {v : Value} {c : RouteConfig Value}
    {w w' : World U} :
    Act.Returns (walkTrees b fuel [v] c) w () w' ↔ Act.Returns (walkTree b fuel v c) w () w' := by
  have hrow : walkTrees b fuel [v] c = walkTree b fuel v c := by
    rw [walkTrees, walkTrees]
    exact bind_pure _
  rw [hrow]

/-! ## Visits at their places -/

/-- A visit of the node of a place with the configuration that is inherited there. -/
structure NodeVisit.IsAt (b : Behaviour U) (start : RouteConfig Value) (visit : NodeVisit U)
    (place : Place) : Prop where
  payload : visit.payload = place.payload
  config : visit.config = inherited start place.above
  visited : ∃ r, Act.Returns (ServerTree.visit b visit.config visit.payload) visit.before r visit.after

/-- **Every node is visited in preorder with what it inherits.** -/
theorem Walks.forall₂_places {b : Behaviour U} {start c : RouteConfig Value} {vs : List Value}
    {w w' : World U} {visits : List (NodeVisit U)} (h : Walks b vs c w visits w') (above : List Ancestor)
    (hc : c = inherited start above) :
    ∃ f, Unfolds b vs f ∧ List.Forall₂ (NodeVisit.IsAt b start) visits (f.places above) := by
  induction h generalizing above with
  | nil => exact ⟨.nil, .nil, .nil⟩
  | nothing resolved _ ih =>
    obtain ⟨f, hf, hplaces⟩ := ih above hc
    exact ⟨f, .nothing (Act.returns_expand.mp resolved).1 hf, hplaces⟩
  | splice resolved _ ih =>
    obtain ⟨f, hf, hplaces⟩ := ih above hc
    exact ⟨f, .splice (Act.returns_expand.mp resolved).1 hf, hplaces⟩
  | node resolved visited _ _ ihInside ihRest =>
    -- the children have one more ancestor; the row goes on below the same ones
    subst hc
    obtain ⟨hopened, service, hserved, hbelow⟩ := visit_below visited
    obtain ⟨inside, hinside, hinner⟩ := ihInside _ hbelow
    obtain ⟨next, hnext, hplaces⟩ := ihRest above rfl
    refine ⟨.node ⟨_, service⟩ inside next,
      .node (Act.returns_expand.mp resolved).1 hopened hserved hinside hnext, ?_⟩
    exact .cons ⟨rfl, rfl, _, visited⟩ (List.rel_append hinner hplaces)
  | closed resolved visited _ ih =>
    obtain ⟨next, hnext, hplaces⟩ := ih above hc
    exact ⟨.closed _ next, .closed (Act.returns_expand.mp resolved).1 (closes_of_visit visited) hnext,
      .cons ⟨rfl, hc, _, visited⟩ hplaces⟩

/-! ## Registrations -/

/-- The endpoint of a route of an application, and the application that it is registered with. -/
def App.wrapping (app : App) (handler : Value) (config : RouteConfig Value) (route : String)
    (logger : RouteLogger) : Endpoint × App :=
  (.wrapped ⟨handler, config, app.config.middlewareTimeout, route, logger, app.wrapped⟩,
    { app with wrapped := app.wrapped + 1 })

/-- The registration of a route that has a handler. -/
theorem registerRoute_eq {method : String} {path handler schema : Value} {c : RouteConfig Value}
    (h : handler ≠ .none) : registerRoute (U := U) method path handler schema c = (do
      let before ← Act.ofAttempt c.settings.mountPath.asPath
      let own ← Act.ofAttempt path.asPath
      let full := orRoot (joinPaths [before, own])
      let endpoint ← Act.wrap handler c (method ++ " " ++ full)
      Act.addRoute method full endpoint schema .none
      Act.log .tree .debug ("Registered " ++ method ++ " " ++ full)) := by
  cases handler <;> first | rfl | exact absurd rfl h

/-- The registration of a route that returns: paths are texts, and the application accepts the route. -/
theorem returns_registerRoute {method : String} {path handler schema : Value} {c : RouteConfig Value}
    {w w' : World U} {u : Unit} (h : Act.Returns (registerRoute method path handler schema c) w u w') :
    ∃ before own logger, c.settings.mountPath = .str before ∧ path = .str own ∧
      let full := orRoot (joinPaths [before, own])
      let (endpoint, app) := w.app.wrapping handler c (method ++ " " ++ full) logger
      app.route method full endpoint schema .none = (w'.app, none) := by
  by_cases hhandler : handler = .none
  · subst hhandler
    obtain ⟨_, _, -, hrefused⟩ := Act.returns_bind.mp h
    exact absurd hrefused Act.returns_refuse
  · rw [registerRoute_eq hhandler] at h
    obtain ⟨before, _, hbefore, hrest⟩ := Act.returns_bind.mp h
    obtain ⟨hbeforeText, rfl⟩ := Act.returns_ofAttempt.mp hbefore
    obtain ⟨own, _, hown, hrest⟩ := Act.returns_bind.mp hrest
    obtain ⟨hownText, rfl⟩ := Act.returns_ofAttempt.mp hown
    obtain ⟨endpoint, _, hwrap, hrest⟩ := Act.returns_bind.mp hrest
    obtain ⟨logger, -, rfl, rfl⟩ := Act.returns_wrap.mp hwrap
    obtain ⟨_, _, hadd, hlog⟩ := Act.returns_bind.mp hrest
    obtain ⟨haccepted, rfl⟩ := Act.returns_addRoute.mp hadd
    -- the record that is made at the end does not touch the application
    have hafter := Act.returns_log.mp hlog
    refine ⟨before, own, logger, asPath_eq_ok.mp hbeforeText, asPath_eq_ok.mp hownText, ?_⟩
    rw [← hafter]
    exact Prod.ext rfl haccepted

/-- A visit of the route of a place registers it once, at the path of its groups and with what is inherited
at the place, and the application accepts it. -/
def NodeVisit.Registers (start : RouteConfig Value) (visit : NodeVisit U) (place : Place) : Prop :=
  ∃ method own handler schema logger, place.payload = .route method (.str own) handler schema ∧
    let path := orRoot (joinPaths (start.settings.mountPath.pathText :: (groupPaths place.above ++ [own])))
    let (endpoint, app) := visit.before.app.wrapping handler (inherited start place.above)
      (method ++ " " ++ path) logger
    app.route method path endpoint schema .none = (visit.after.app, none)

/-- A route that is visited at its place is registered there. -/
theorem NodeVisit.IsAt.registers {b : Behaviour U} {start : RouteConfig Value} {visit : NodeVisit U}
    {place : Place} (h : visit.IsAt b start place) (hroute : place.payload.isRoute = true) :
    visit.Registers start place := by
  obtain ⟨r, hvisited⟩ := h.visited
  rw [h.payload, h.config] at hvisited
  cases hpayload : place.payload with
  | route method path handler schema =>
    rw [hpayload] at hvisited
    obtain ⟨_, _, hregister, hnone⟩ := Act.returns_bind.mp hvisited
    obtain ⟨-, rfl⟩ := Act.returns_pure.mp hnone
    obtain ⟨before, own, logger, hbefore, rfl, haccepted⟩ := returns_registerRoute hregister
    rw [joinPaths_inherited hbefore] at haccepted
    exact ⟨method, own, handler, schema, logger, hpayload, haccepted⟩
  | _ => simp [hpayload, Payload.isRoute] at hroute

/-- The visits of routes are those at the places of routes. -/
theorem forall₂_registers {b : Behaviour U} {start : RouteConfig Value} {visits : List (NodeVisit U)}
    {places : List Place} (h : List.Forall₂ (NodeVisit.IsAt b start) visits places) :
    List.Forall₂ (NodeVisit.Registers start) (visits.filter fun visit => visit.payload.isRoute)
      (places.filter fun place => place.payload.isRoute) := by
  induction h with
  | nil => exact .nil
  | @cons visit place visits places hvisit _ ih =>
    have hsame : visit.payload.isRoute = place.payload.isRoute := by rw [hvisit.payload]
    cases hroute : place.payload.isRoute with
    | true =>
      simp only [List.filter_cons, hsame, hroute, if_true]
      exact .cons (hvisit.registers hroute) ih
    | false =>
      simp only [List.filter_cons, hsame, hroute, Bool.false_eq_true, if_false]
      exact ih

/-- **A walk registers the routes of its tree.** When a walk returns, it has registered the routes of the
tree that are not below another route or a directory of routes, in preorder and each once. Each is accepted
at the path of its groups with the configuration that it inherits from its ancestors. -/
theorem walk_registers {b : Behaviour U} {v : Value} {start : RouteConfig Value} {w w' : World U}
    (h : Act.Returns (walk b v start) w () w') :
    ∃ visits f, Walks b [v] start w visits w' ∧ Unfolds b [v] f ∧
      List.Forall₂ (NodeVisit.IsAt b start) visits (f.places []) ∧
      List.Forall₂ (NodeVisit.Registers start) (visits.filter fun visit => visit.payload.isRoute)
        f.routes := by
  obtain ⟨visits, hwalks⟩ := walks_of_walk h
  obtain ⟨f, hunfolds, hplaces⟩ := hwalks.forall₂_places [] (inherited_nil start).symm
  exact ⟨visits, f, hwalks, hunfolds, hplaces, forall₂_registers hplaces⟩

/-- A route below a middleware in a group. -/
def guardedUsers : Value :=
  .node (.group (.str "/api"))
    [.node (.middleware (.object "auth" 0))
      [.node (.route "GET" (.str "users") (.object "list" 1) .none) []]]

/-- A walk of this tree returns. -/
theorem walk_registers_guardedUsers :
    ∃ w', Act.Returns (walk .idle guardedUsers .empty) { env := { user := () } } () w' ∧
      ∃ visits f, Walks .idle [guardedUsers] .empty { env := { user := () } } visits w' ∧
        Unfolds .idle [guardedUsers] f ∧ List.Forall₂ (NodeVisit.IsAt .idle .empty) visits (f.places []) ∧
        List.Forall₂ (NodeVisit.Registers .empty) (visits.filter fun visit => visit.payload.isRoute)
          f.routes := by
  let w : World Unit := { env := { user := () } }
  let grouped : RouteConfig Value := RouteConfig.empty.setPath (.str "/api")
  let guarded := grouped.withMiddleware (.object "auth" 0)
  have hresolved : ∀ p children, Act.Returns (Act.expand (resolve Behaviour.idle.expand (.node p children)))
      w (.node p children) w := fun _ _ => rfl
  have hgroup : Act.Returns (visit .idle .empty (.group (.str "/api"))) w (some grouped) w := rfl
  have hguard : Act.Returns (visit .idle grouped (.middleware (.object "auth" 0))) w (some guarded) w := rfl
  obtain ⟨w', hroute⟩ : ∃ w', Act.Returns (visit .idle guarded
      (.route "GET" (.str "users") (.object "list" 1) .none)) w none w' := ⟨_, rfl⟩
  -- a node with one child, walked from the root down
  have hchild : ∀ {fuel p v c below}, Act.Returns (visit .idle c p) w (some below) w →
      Act.Returns (walkTree .idle (fuel + 1 - p.kind.depth) v below) w () w' →
      Act.Returns (walkTree .idle (fuel + 1) (.node p [v]) c) w () w' := by
    intro fuel p v c below hvisit hv
    rw [walkTree]
    refine Act.returns_bind.mpr ⟨_, w, hresolved p [v], Act.returns_bind.mpr ⟨some below, w, hvisit, ?_⟩⟩
    simp only [walkTrees]
    exact Act.returns_bind.mpr ⟨(), w', hv, rfl⟩
  have hwalk : Act.Returns (walk .idle guardedUsers .empty) w () w' := by
    refine hchild hgroup (hchild hguard ?_)
    show Act.Returns (walkTree .idle (951 + 1) _ _) w () w'
    rw [walkTree]
    exact Act.returns_bind.mpr ⟨_, w, hresolved _ [], Act.returns_bind.mpr ⟨none, w', hroute, rfl⟩⟩
  exact ⟨w', hwalk, walk_registers hwalk⟩

end ServerTree
