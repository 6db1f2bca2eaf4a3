import Mathlib.Logic.Relation
import ServerTree.Proofs.Walk.Registrations

/-!
# The order of a walk

A walk visits the nodes of a tree in preorder, each once and before what is below it, and does nothing else
but to resolve composites. It comes to its end unless a node cannot act or a value cannot be resolved: then
it stops right there, and nothing that comes later in preorder has an effect.

## Main definitions
- `Halts`: a walk that stops
- `Begins`: what a walk that stops has reached of a tree
- `Threads`: the visits of a walk one after the other, with nothing but expansions in between
- `RunsInPreorder`: a walk in preorder that returns or stops at the first node that cannot act

## Main statements
- `ends_of_walkTree`: a walk comes to its end or stops
- `Ends.runsInPreorder`: either way it is a run in preorder
- `RunsInPreorder.map_payload`: which visits the first nodes of the whole tree
-/

namespace ServerTree

variable {U : Type}

/-! ## Walks that stop -/

/-- A walk along a row of values with a configuration that stops: the visits that it makes, the last of
which may be the one that stops. -/
inductive Halts (b : Behaviour U) :
    List Value → RouteConfig Value → World U → List (NodeVisit U) → Stop → World U → Prop where
  | tooDeep {v : Value} {vs : List Value} {c : RouteConfig Value} {w : World U} :
      Halts b (v :: vs) c w [] (.failed (.refused .tooDeep)) w
  | unresolved {v : Value} {vs : List Value} {c : RouteConfig Value} {w w' : World U} {e : Stop}
      (failed : outcome (Act.expand (resolve b.expand v)) w = (.error e, w')) : Halts b (v :: vs) c w [] e w'
  | fatal {v : Value} {vs children : List Value} {c : RouteConfig Value} {p : Payload Value}
      {w w₁ w' : World U} {e : Stop}
      (resolved : Act.Returns (Act.expand (resolve b.expand v)) w (.node p children) w₁)
      (failed : outcome (visit b c p) w₁ = (.error e, w')) : Halts b (v :: vs) c w [⟨p, c, w₁, w'⟩] e w'
  | inside {v : Value} {vs children : List Value} {c below : RouteConfig Value} {p : Payload Value}
      {w w₁ w₂ w' : World U} {inner : List (NodeVisit U)} {e : Stop}
      (resolved : Act.Returns (Act.expand (resolve b.expand v)) w (.node p children) w₁)
      (visited : Act.Returns (visit b c p) w₁ (some below) w₂)
      (halted : Halts b children below w₂ inner e w') :
      Halts b (v :: vs) c w (⟨p, c, w₁, w₂⟩ :: inner) e w'
  | nothing {v : Value} {vs : List Value} {c : RouteConfig Value} {w w₁ w' : World U}
      {visits : List (NodeVisit U)} {e : Stop}
      (resolved : Act.Returns (Act.expand (resolve b.expand v)) w .nothing w₁)
      (rest : Halts b vs c w₁ visits e w') : Halts b (v :: vs) c w visits e w'
  | splice {v : Value} {xs vs : List Value} {c : RouteConfig Value} {w w₁ w' : World U}
      {visits : List (NodeVisit U)} {e : Stop}
      (resolved : Act.Returns (Act.expand (resolve b.expand v)) w (.items xs) w₁)
      (rest : Halts b (xs ++ vs) c w₁ visits e w') : Halts b (v :: vs) c w visits e w'
  | node {v : Value} {vs children : List Value} {c below : RouteConfig Value} {p : Payload Value}
      {w w₁ w₂ w₃ w' : World U} {inner visits : List (NodeVisit U)} {e : Stop}
      (resolved : Act.Returns (Act.expand (resolve b.expand v)) w (.node p children) w₁)
      (visited : Act.Returns (visit b c p) w₁ (some below) w₂) (inside : Walks b children below w₂ inner w₃)
      (rest : Halts b vs c w₃ visits e w') :
      Halts b (v :: vs) c w (⟨p, c, w₁, w₂⟩ :: (inner ++ visits)) e w'
  | closed {v : Value} {vs children : List Value} {c : RouteConfig Value} {p : Payload Value}
      {w w₁ w₂ w' : World U} {visits : List (NodeVisit U)} {e : Stop}
      (resolved : Act.Returns (Act.expand (resolve b.expand v)) w (.node p children) w₁)
      (visited : Act.Returns (visit b c p) w₁ none w₂) (rest : Halts b vs c w₂ visits e w') :
      Halts b (v :: vs) c w (⟨p, c, w₁, w₂⟩ :: visits) e w'

/-- What stops along a row stops along a longer one. -/
theorem Halts.append {b : Behaviour U} {vs : List Value} {c : RouteConfig Value} {w w' : World U}
    {visits : List (NodeVisit U)} {e : Stop} (h : Halts b vs c w visits e w') (vs' : List Value) :
    Halts b (vs ++ vs') c w visits e w' := by
  induction h with
  | tooDeep => exact .tooDeep
  | unresolved failed => exact .unresolved failed
  | fatal resolved failed => exact .fatal resolved failed
  | inside resolved visited halted => exact .inside resolved visited halted
  | nothing resolved _ ih => exact .nothing resolved ih
  | splice resolved _ ih =>
    rw [List.append_assoc] at ih
    exact .splice resolved ih
  | node resolved visited inside _ ih => exact .node resolved visited inside ih
  | closed resolved visited _ ih => exact .closed resolved visited ih

/-- A walk along a row, and then one that stops. -/
theorem Walks.halts {b : Behaviour U} {vs vs' : List Value} {c : RouteConfig Value} {w w₁ w' : World U}
    {visits visits' : List (NodeVisit U)} {e : Stop} (h : Walks b vs c w visits w₁)
    (h' : Halts b vs' c w₁ visits' e w') : Halts b (vs ++ vs') c w (visits ++ visits') e w' := by
  induction h with
  | nil => exact h'
  | nothing resolved _ ih => exact .nothing resolved (ih h')
  | splice resolved _ ih =>
    have hrest := ih h'
    rw [List.append_assoc] at hrest
    exact .splice resolved hrest
  | node resolved visited inside _ _ ih =>
    rw [List.cons_append, List.cons_append, List.append_assoc]
    exact .node resolved visited inside (ih h')
  | closed resolved visited _ ih => exact .closed resolved visited (ih h')

/-! ## Every walk -/

/-- A walk comes to its end or stops. -/
inductive Ends (b : Behaviour U) (vs : List Value) (c : RouteConfig Value) (w : World U) :
    Except Stop Unit × World U → Prop where
  | returns {visits : List (NodeVisit U)} {w' : World U} (h : Walks b vs c w visits w') :
      Ends b vs c w (.ok (), w')
  | stops {visits : List (NodeVisit U)} {e : Stop} {w' : World U} (h : Halts b vs c w visits e w') :
      Ends b vs c w (.error e, w')

/-- **Run lemma**: a walk along a row comes to its end or stops, when those along each of its values do. -/
theorem ends_of_walkTrees {b : Behaviour U} {fuel : Nat}
    (tree : ∀ v c w, Ends b [v] c w (outcome (walkTree b fuel v c) w)) (vs : List Value)
    (c : RouteConfig Value) (w : World U) : Ends b vs c w (outcome (walkTrees b fuel vs c) w) := by
  induction vs generalizing w with
  | nil =>
    rw [walkTrees]
    exact .returns .nil
  | cons v vs ih =>
    have hfirst := tree v c w
    rw [walkTrees, outcome_bind]
    cases hv : outcome (walkTree b fuel v c) w with
    | mk r w₁ =>
      rw [hv] at hfirst
      cases hfirst with
      -- what stops in the first value is not affected by those behind it
      | stops hhalts => exact .stops (hhalts.append vs)
      | returns hwalks =>
        have hrest := ih w₁
        simp only
        cases hvs : outcome (walkTrees b fuel vs c) w₁ with
        | mk r w' =>
          rw [hvs] at hrest
          cases hrest with
          | returns h => exact .returns (hwalks.append h)
          | stops h => exact .stops (hwalks.halts h)

/-- A walk that resolves its value to a row of siblings ends as the walk along them does. -/
theorem Ends.splice {b : Behaviour U} {v : Value} {xs : List Value} {c : RouteConfig Value} {w w₁ : World U}
    {last : Except Stop Unit × World U}
    (resolved : Act.Returns (Act.expand (resolve b.expand v)) w (.items xs) w₁) (h : Ends b xs c w₁ last) :
    Ends b [v] c w last := by
  cases h with
  | returns h => exact .returns (.splice resolved (by rwa [List.append_nil]))
  | stops h => exact .stops (.splice resolved (by rwa [List.append_nil]))

/-- A walk that visits a node ends as the walk along its children does. -/
theorem Ends.node {b : Behaviour U} {v : Value} {children : List Value} {c below : RouteConfig Value}
    {p : Payload Value} {w w₁ w₂ : World U} {last : Except Stop Unit × World U}
    (resolved : Act.Returns (Act.expand (resolve b.expand v)) w (.node p children) w₁)
    (visited : Act.Returns (visit b c p) w₁ (some below) w₂) (h : Ends b children below w₂ last) :
    Ends b [v] c w last := by
  cases h with
  | returns h => exact .returns (.node resolved visited h .nil)
  | stops h => exact .stops (.inside resolved visited h)

/-- The induction is on the fuel, as for walks that return. -/
theorem ends_of_walkTree (b : Behaviour U) (fuel : Nat) (v : Value) (c : RouteConfig Value) (w : World U) :
    Ends b [v] c w (outcome (walkTree b fuel v c) w) := by
  induction fuel using Nat.strongRecOn generalizing v c w with
  | ind fuel ih =>
    cases fuel with
    | zero =>
      rw [walkTree]
      exact .stops .tooDeep
    | succ fuel =>
      rw [walkTree, outcome_bind]
      cases hresolved : outcome (Act.expand (resolve b.expand v)) w with
      | mk r w₁ =>
        rcases r with e | (⟨p, children⟩ | xs | _)
        · exact .stops (.unresolved hresolved)
        · simp only [outcome_bind]
          cases hvisit : outcome (visit b c p) w₁ with
          | mk r w₂ =>
            rcases r with e | (_ | below)
            · exact .stops (.fatal hresolved hvisit)
            · exact .returns (.closed hresolved hvisit .nil)
            · -- children are walked with the fuel that the kind of the node leaves
              have hless : fuel + 1 - p.kind.depth < fuel + 1 :=
                Nat.sub_lt (Nat.succ_pos fuel) (depth_pos p.kind)
              exact .node hresolved hvisit (ends_of_walkTrees (ih _ hless) children below w₂)
        · exact .splice hresolved (ends_of_walkTrees (ih fuel (Nat.lt_succ_self fuel)) xs c w₁)
        · exact .returns (.nothing hresolved .nil)

/-! ## What a walk reaches -/

/-- What a walk that stops has reached of the trees that a row of values stands for: the beginning of what
they unfold to, up to a node that cannot act, or up to a value at which no node is reached any more. -/
inductive Begins (b : Behaviour U) : List Value → Forest → Option Value → Prop where
  | unresolved {v : Value} {vs : List Value} : Begins b (v :: vs) .nil (some v)
  | fatal {v : Value} {vs children : List Value} {user : U} {p : Payload Value}
      (resolved : (outcome (resolve b.expand v) user).1 = .ok (.node p children)) :
      Begins b (v :: vs) (.closed p .nil) none
  | inside {v : Value} {vs children : List Value} {user : U} {p : Payload Value} {service : Option Value}
      {below : Forest} {stop : Option Value}
      (resolved : (outcome (resolve b.expand v) user).1 = .ok (.node p children))
      (opened : p.closes = false) (served : Ancestor.IsServed b ⟨p, service⟩)
      (inside : Begins b children below stop) : Begins b (v :: vs) (.node ⟨p, service⟩ below .nil) stop
  | nothing {v : Value} {vs : List Value} {user : U} {next : Forest} {stop : Option Value}
      (resolved : (outcome (resolve b.expand v) user).1 = .ok .nothing) (rest : Begins b vs next stop) :
      Begins b (v :: vs) next stop
  | splice {v : Value} {xs vs : List Value} {user : U} {next : Forest} {stop : Option Value}
      (resolved : (outcome (resolve b.expand v) user).1 = .ok (.items xs))
      (rest : Begins b (xs ++ vs) next stop) : Begins b (v :: vs) next stop
  | node {v : Value} {vs children : List Value} {user : U} {p : Payload Value} {service : Option Value}
      {below next : Forest} {stop : Option Value}
      (resolved : (outcome (resolve b.expand v) user).1 = .ok (.node p children))
      (opened : p.closes = false) (served : Ancestor.IsServed b ⟨p, service⟩)
      (inside : Unfolds b children below) (rest : Begins b vs next stop) :
      Begins b (v :: vs) (.node ⟨p, service⟩ below next) stop
  | closed {v : Value} {vs children : List Value} {user : U} {p : Payload Value} {next : Forest}
      {stop : Option Value} (resolved : (outcome (resolve b.expand v) user).1 = .ok (.node p children))
      (closes : p.closes = true) (rest : Begins b vs next stop) : Begins b (v :: vs) (.closed p next) stop

/-- What the nodes of a row of trees carry, in preorder. -/
def Forest.payloads : Forest → List (Payload Value)
  | .nil => []
  | .node root below next => root.payload :: (below.payloads ++ next.payloads)
  | .closed p next => p :: next.payloads

theorem Forest.map_places (f : Forest) (above : List Ancestor) :
    (f.places above).map Place.payload = f.payloads := by
  induction f generalizing above with
  | nil => rfl
  | node root below next ihBelow ihNext =>
    simp only [Forest.places, Forest.payloads, List.map_cons, List.map_append, ihBelow, ihNext]
  | closed p next ih => simp only [Forest.places, Forest.payloads, List.map_cons, ih]

/-! ## Composites that always return the same -/

/-- What a value resolves to does not depend on when this is done. -/
def Behaviour.Steady (b : Behaviour U) : Prop :=
  ∀ v user user', (outcome (resolve b.expand v) user).1 = (outcome (resolve b.expand v) user').1

section

variable {b : Behaviour U} {vs : List Value} {f whole : Forest}

/-- The first value of a row that unfolds to a row of trees, by what it is resolved to at any time. -/
theorem Unfolds.cons_inv {v : Value} {user : U} {r : Resolved} (hb : b.Steady)
    (h : Unfolds b (v :: vs) f) (hr : (outcome (resolve b.expand v) user).1 = .ok r) :
    match r with
    | .nothing => Unfolds b vs f
    | .items xs => Unfolds b (xs ++ vs) f
    | .node p children =>
      (p.closes = false ∧ ∃ service below next, f = .node ⟨p, service⟩ below next ∧
        Unfolds b children below ∧ Unfolds b vs next) ∨
      (p.closes = true ∧ ∃ next, f = .closed p next ∧ Unfolds b vs next) := by
  -- in each case the value was resolved once, to what it resolves to now
  cases h with
  | nothing resolved rest =>
    obtain rfl := Except.ok.inj (hr.symm.trans ((hb v _ _).trans resolved))
    exact rest
  | splice resolved rest =>
    obtain rfl := Except.ok.inj (hr.symm.trans ((hb v _ _).trans resolved))
    exact rest
  | node resolved opened _ inside rest =>
    obtain rfl := Except.ok.inj (hr.symm.trans ((hb v _ _).trans resolved))
    exact .inl ⟨opened, _, _, _, rfl, inside, rest⟩
  | closed resolved closes rest =>
    obtain rfl := Except.ok.inj (hr.symm.trans ((hb v _ _).trans resolved))
    exact .inr ⟨closes, _, rfl, rest⟩

/-- Such values stand for one row of trees. -/
theorem Unfolds.payloads_eq (hb : b.Steady) (h : Unfolds b vs f) (hwhole : Unfolds b vs whole) :
    f.payloads = whole.payloads := by
  induction h generalizing whole with
  | nil =>
    cases hwhole
    rfl
  | nothing resolved _ ih => exact ih (hwhole.cons_inv hb resolved)
  | splice resolved _ ih => exact ih (hwhole.cons_inv hb resolved)
  | node resolved opened _ _ _ ihInside ihRest =>
    rcases hwhole.cons_inv hb resolved with ⟨-, service, below, next, rfl, hbelow, hnext⟩ | ⟨hcloses, -⟩
    · simp only [Forest.payloads, ihInside hbelow, ihRest hnext]
    · exact absurd hcloses (by simp [opened])
  | closed resolved closes _ ih =>
    rcases hwhole.cons_inv hb resolved with ⟨hopened, -⟩ | ⟨-, next, rfl, hnext⟩
    · exact absurd closes (by simp [hopened])
    · simp only [Forest.payloads, ih hnext]

/-- What is reached of them are their first nodes in preorder. -/
theorem Begins.payloads_isPrefix {stop : Option Value} (hb : b.Steady) (h : Begins b vs f stop)
    (hwhole : Unfolds b vs whole) : f.payloads <+: whole.payloads := by
  induction h generalizing whole with
  | unresolved => exact List.nil_prefix
  | fatal resolved =>
    rcases hwhole.cons_inv hb resolved with ⟨-, service, below, next, rfl, -⟩ | ⟨-, next, rfl, -⟩
    · exact List.cons_prefix_cons.mpr ⟨rfl, List.nil_prefix⟩
    · exact List.cons_prefix_cons.mpr ⟨rfl, List.nil_prefix⟩
  | inside resolved opened _ _ ih =>
    rcases hwhole.cons_inv hb resolved with ⟨-, service, below, next, rfl, hbelow, -⟩ | ⟨hcloses, -⟩
    · simp only [Forest.payloads, List.append_nil]
      exact List.cons_prefix_cons.mpr ⟨rfl, (ih hbelow).trans (List.prefix_append _ _)⟩
    · exact absurd hcloses (by simp [opened])
  | nothing resolved _ ih => exact ih (hwhole.cons_inv hb resolved)
  | splice resolved _ ih => exact ih (hwhole.cons_inv hb resolved)
  | node resolved opened _ inside _ ih =>
    rcases hwhole.cons_inv hb resolved with ⟨-, service, below, next, rfl, hbelow, hnext⟩ | ⟨hcloses, -⟩
    · simp only [Forest.payloads, inside.payloads_eq hb hbelow]
      exact List.cons_prefix_cons.mpr ⟨rfl, (List.prefix_append_right_inj _).mpr (ih hnext)⟩
    · exact absurd hcloses (by simp [opened])
  | closed resolved closes _ ih =>
    rcases hwhole.cons_inv hb resolved with ⟨hopened, -⟩ | ⟨-, next, rfl, hnext⟩
    · exact absurd closes (by simp [hopened])
    · exact List.cons_prefix_cons.mpr ⟨rfl, ih hnext⟩

end

/-! ## Nothing but visits and expansions -/

/-- One world comes of another by resolving values. -/
def World.Expands (b : Behaviour U) : World U → World U → Prop :=
  Relation.ReflTransGen fun w w' => ∃ v, (outcome (Act.expand (resolve b.expand v)) w).2 = w'

/-- A value that is resolved. -/
theorem World.Expands.of_returns {b : Behaviour U} {v : Value} {w w' : World U} {r : Resolved}
    (h : Act.Returns (Act.expand (resolve b.expand v)) w r w') : World.Expands b w w' :=
  .single ⟨v, congrArg Prod.snd h⟩

/-- Resolving values concerns the state of application code alone. -/
theorem World.Expands.user {b : Behaviour U} {w w' : World U} (h : World.Expands b w w') :
    ∃ user, w' = { w with env := { w.env with user := user } } := by
  induction h with
  | refl => exact ⟨w.env.user, rfl⟩
  | tail _ hstep ih =>
    obtain ⟨user, rfl⟩ := ih
    obtain ⟨v, rfl⟩ := hstep
    refine ⟨(outcome (resolve b.expand v) user).2, ?_⟩
    -- whether the expansion fails makes no difference to the world
    change (outcome (Act.ofAttempt (outcome (resolve b.expand v) user).1) _).2 = _
    cases (outcome (resolve b.expand v) user).1 <;> rfl

/-- The visits of a walk one after the other: in between values are resolved, and nothing else is done. -/
inductive Threads (b : Behaviour U) : World U → List (NodeVisit U) → World U → Prop where
  | nil {w w' : World U} (expands : World.Expands b w w') : Threads b w [] w'
  | cons {w w' : World U} {visit : NodeVisit U} {visits : List (NodeVisit U)}
      (expands : World.Expands b w visit.before) (rest : Threads b visit.after visits w') :
      Threads b w (visit :: visits) w'

theorem Threads.refl {b : Behaviour U} {w : World U} : Threads b w [] w := .nil .refl

/-- Before the first visit values may be resolved. -/
theorem Threads.expand {b : Behaviour U} {w w₁ w' : World U} {visits : List (NodeVisit U)}
    (h : World.Expands b w w₁) (h' : Threads b w₁ visits w') : Threads b w visits w' := by
  cases h' with
  | nil expands => exact .nil (h.trans expands)
  | cons expands rest => exact .cons (h.trans expands) rest

theorem Threads.append {b : Behaviour U} {w w₁ w' : World U} {visits visits' : List (NodeVisit U)}
    (h : Threads b w visits w₁) (h' : Threads b w₁ visits' w') : Threads b w (visits ++ visits') w' := by
  induction h with
  | nil expands => exact h'.expand expands
  | cons expands _ ih => exact .cons expands (ih h')

/-- A walk that returns is its visits. -/
theorem Walks.threads {b : Behaviour U} {vs : List Value} {c : RouteConfig Value} {w w' : World U}
    {visits : List (NodeVisit U)} (h : Walks b vs c w visits w') : Threads b w visits w' := by
  induction h with
  | nil => exact .refl
  | nothing resolved _ ih => exact ih.expand (.of_returns resolved)
  | splice resolved _ ih => exact ih.expand (.of_returns resolved)
  | node resolved _ _ _ ihInside ihRest => exact .cons (.of_returns resolved) (ihInside.append ihRest)
  | closed resolved _ _ ih => exact .cons (.of_returns resolved) ih

/-! ## Where a walk stops -/

/-- Visits at places, after which a walk stops: in the visit of the last place, or at a value where no
further node is reached. -/
inductive StopsAt (b : Behaviour U) (start : RouteConfig Value) (w : World U) :
    List (NodeVisit U) → List Place → Option Value → Stop → World U → Prop where
  | fatal {visits : List (NodeVisit U)} {places : List Place} {last : NodeVisit U} {place : Place} {e : Stop}
      (visited : List.Forall₂ (NodeVisit.IsAt b start) visits places) (threads : Threads b w visits last.before)
      (payload : last.payload = place.payload) (config : last.config = inherited start place.above)
      (failed : outcome (visit b last.config last.payload) last.before = (.error e, last.after)) :
      StopsAt b start w (visits ++ [last]) (places ++ [place]) none e last.after
  | unresolved {visits : List (NodeVisit U)} {places : List Place} {v : Value} {w₁ w' : World U} {e : Stop}
      (visited : List.Forall₂ (NodeVisit.IsAt b start) visits places) (threads : Threads b w visits w₁)
      (failed : outcome (Act.expand (resolve b.expand v)) w₁ = (.error e, w')) :
      StopsAt b start w visits places (some v) e w'
  | tooDeep {visits : List (NodeVisit U)} {places : List Place} {v : Value} {w' : World U}
      (visited : List.Forall₂ (NodeVisit.IsAt b start) visits places) (threads : Threads b w visits w') :
      StopsAt b start w visits places (some v) (.failed (.refused .tooDeep)) w'

/-- Visits that return, and then others after which a walk stops. -/
theorem StopsAt.after {b : Behaviour U} {start : RouteConfig Value} {w w₁ w' : World U}
    {visits visits' : List (NodeVisit U)} {places places' : List Place} {stop : Option Value} {e : Stop}
    (hvisits : List.Forall₂ (NodeVisit.IsAt b start) visits places) (hthreads : Threads b w visits w₁)
    (h : StopsAt b start w₁ visits' places' stop e w') :
    StopsAt b start w (visits ++ visits') (places ++ places') stop e w' := by
  cases h with
  | fatal visited threads payload config failed =>
    rw [← List.append_assoc, ← List.append_assoc]
    exact .fatal (List.rel_append hvisits visited) (hthreads.append threads) payload config failed
  | unresolved visited threads failed =>
    exact .unresolved (List.rel_append hvisits visited) (hthreads.append threads) failed
  | tooDeep visited threads => exact .tooDeep (List.rel_append hvisits visited) (hthreads.append threads)

/-- **Every node is visited in preorder with what it inherits, up to where the walk stops.** -/
theorem Halts.stopsAt {b : Behaviour U} {start c : RouteConfig Value} {vs : List Value} {w w' : World U}
    {visits : List (NodeVisit U)} {e : Stop} (h : Halts b vs c w visits e w') (above : List Ancestor)
    (hc : c = inherited start above) :
    ∃ f stop, Begins b vs f stop ∧ StopsAt b start w visits (f.places above) stop e w' := by
  induction h generalizing above with
  | @tooDeep v => exact ⟨.nil, some v, .unresolved, .tooDeep .nil .refl⟩
  | @unresolved v _ _ _ _ _ failed => exact ⟨.nil, some v, .unresolved, .unresolved .nil .refl failed⟩
  | fatal resolved failed =>
    refine ⟨.closed _ .nil, none, .fatal (Act.returns_expand.mp resolved).1, ?_⟩
    exact .fatal .nil (.nil (.of_returns resolved)) rfl hc failed
  | inside resolved visited _ ih =>
    -- the children have one more ancestor
    subst hc
    obtain ⟨hopened, service, hserved, hbelow⟩ := visit_below visited
    obtain ⟨inside, stop, hinside, hstops⟩ := ih _ hbelow
    refine ⟨.node ⟨_, service⟩ inside .nil, stop,
      .inside (Act.returns_expand.mp resolved).1 hopened hserved hinside, ?_⟩
    rw [Forest.places, Forest.places, List.append_nil]
    exact .after (.cons ⟨rfl, rfl, _, visited⟩ .nil) (.cons (.of_returns resolved) .refl) hstops
  | nothing resolved _ ih =>
    obtain ⟨f, stop, hf, hstops⟩ := ih above hc
    exact ⟨f, stop, .nothing (Act.returns_expand.mp resolved).1 hf,
      .after .nil (.nil (.of_returns resolved)) hstops⟩
  | splice resolved _ ih =>
    obtain ⟨f, stop, hf, hstops⟩ := ih above hc
    exact ⟨f, stop, .splice (Act.returns_expand.mp resolved).1 hf,
      .after .nil (.nil (.of_returns resolved)) hstops⟩
  | node resolved visited hwalks _ ih =>
    subst hc
    obtain ⟨hopened, service, hserved, hbelow⟩ := visit_below visited
    obtain ⟨inside, hinside, hinner⟩ := hwalks.forall₂_places _ hbelow
    obtain ⟨next, stop, hnext, hstops⟩ := ih above rfl
    refine ⟨.node ⟨_, service⟩ inside next, stop,
      .node (Act.returns_expand.mp resolved).1 hopened hserved hinside hnext, ?_⟩
    exact .after (.cons ⟨rfl, rfl, _, visited⟩ hinner) (.cons (.of_returns resolved) hwalks.threads) hstops
  | closed resolved visited _ ih =>
    obtain ⟨next, stop, hnext, hstops⟩ := ih above hc
    refine ⟨.closed _ next, stop,
      .closed (Act.returns_expand.mp resolved).1 (closes_of_visit visited) hnext, ?_⟩
    exact .after (.cons ⟨rfl, hc, _, visited⟩ .nil) (.cons (.of_returns resolved) .refl) hstops

/-- A walk along a row of values in preorder: it visits the nodes that the values unfold to, each once and
in order, and nothing else has an effect. When it does not return, it has visited the first of them, and
ends where the last visit left the world, or where a value could not be resolved. -/
inductive RunsInPreorder (b : Behaviour U) (start : RouteConfig Value) (vs : List Value) (w : World U)
    (visits : List (NodeVisit U)) : Except Stop Unit × World U → Prop where
  | returns {f : Forest} {w' : World U} (unfolds : Unfolds b vs f)
      (visited : List.Forall₂ (NodeVisit.IsAt b start) visits (f.places [])) (threads : Threads b w visits w') :
      RunsInPreorder b start vs w visits (.ok (), w')
  | stops {f : Forest} {stop : Option Value} {e : Stop} {w' : World U} (begins : Begins b vs f stop)
      (stopped : StopsAt b start w visits (f.places []) stop e w') :
      RunsInPreorder b start vs w visits (.error e, w')

/-- A walk that comes to its end or stops does so in preorder. -/
theorem Ends.runsInPreorder {b : Behaviour U} {vs : List Value} {c : RouteConfig Value} {w : World U}
    {last : Except Stop Unit × World U} (h : Ends b vs c w last) :
    ∃ visits, RunsInPreorder b c vs w visits last := by
  cases h with
  | returns h =>
    obtain ⟨f, hf, hplaces⟩ := h.forall₂_places [] (inherited_nil c).symm
    exact ⟨_, .returns hf hplaces h.threads⟩
  | stops h =>
    obtain ⟨f, stop, hf, hstops⟩ := h.stopsAt [] (inherited_nil c).symm
    exact ⟨_, .stops hf hstops⟩

/-! ## Against the whole tree -/

/-- Visits at places are visits of what the places carry. -/
theorem map_payload_of_forall₂ {b : Behaviour U} {start : RouteConfig Value} {visits : List (NodeVisit U)}
    {places : List Place} (h : List.Forall₂ (NodeVisit.IsAt b start) visits places) :
    visits.map NodeVisit.payload = places.map Place.payload := by
  induction h with
  | nil => rfl
  | cons hhead _ ih => rw [List.map_cons, List.map_cons, hhead.payload, ih]

theorem StopsAt.map_payload {b : Behaviour U} {start : RouteConfig Value} {w w' : World U}
    {visits : List (NodeVisit U)} {places : List Place} {stop : Option Value} {e : Stop}
    (h : StopsAt b start w visits places stop e w') :
    visits.map NodeVisit.payload = places.map Place.payload := by
  cases h with
  | fatal visited _ payload _ _ =>
    simp only [List.map_append, List.map_cons, List.map_nil, map_payload_of_forall₂ visited, payload]
  | unresolved visited _ _ => exact map_payload_of_forall₂ visited
  | tooDeep visited _ => exact map_payload_of_forall₂ visited

/-- When composites always return the same, a walk visits the first nodes of the tree in preorder, and all
of them when it returns. -/
theorem RunsInPreorder.map_payload {b : Behaviour U} {start : RouteConfig Value} {vs : List Value}
    {w : World U} {visits : List (NodeVisit U)} {last : Except Stop Unit × World U} {whole : Forest}
    (hb : b.Steady) (h : RunsInPreorder b start vs w visits last) (hwhole : Unfolds b vs whole) :
    visits.map NodeVisit.payload <+: whole.payloads ∧
      (last.1 = .ok () → visits.map NodeVisit.payload = whole.payloads) := by
  cases h with
  | returns unfolds visited _ =>
    have hall := (map_payload_of_forall₂ visited).trans
      ((Forest.map_places _ []).trans (unfolds.payloads_eq hb hwhole))
    exact ⟨hall ▸ List.prefix_rfl, fun _ => hall⟩
  | stops begins stopped =>
    rw [stopped.map_payload, Forest.map_places]
    exact ⟨begins.payloads_isPrefix hb hwhole, by simp⟩

end ServerTree
