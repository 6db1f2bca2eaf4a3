import ServerTree.Pipeline.Respond
import ServerTree.Proofs.Node.Traversal
import ServerTree.Proofs.Walk.Providers

/-!
# Trees without an end

Composites may return what leads to themselves again. Building an application, collecting a configuration and
describing a response all end nevertheless, and they fail when there is no end to what they traverse. Calls that
lead straight to further calls are counted, so that a composite which runs away by itself is refused as a mistake
of the configuration. The count begins anew at every row and at every child: a composite that runs away through
them ends where trees may not be nested deeper.

## Main definitions
- `EndsWith`: how a computation in a state ends
- `collecting`, `describing`, `walking`: the three traversals
- `IsStoppedBy`: what stops a traversal without an end
- `Launches`, `LaunchStopped`: what becomes of a launch

## Main statements
- `steps_collecting`, `steps_describing`, `steps_walking`: the functions go on as traversals do
- `Endless.isRunaway`: calls that are endless by themselves are refused as a mistake of the configuration
- `launches_of_build`: a launch is a walk along the children of its server
- `runaway_raises`: without an end they fail
-/

namespace ServerTree

variable {U : Type}

/-! ## How computations end -/

section

variable {ε σ α β : Type} {stop : ε → Stop} {x : ExceptT ε (StateM σ) α} {s s' : σ} {result : Option Stop}

/-- A computation in a state returns, or it is stopped by something. -/
def EndsWith (stop : ε → Stop) (x : ExceptT ε (StateM σ) α) (s : σ) (result : Option Stop) : Prop :=
  match (outcome x s).1 with
  | .ok _ => result = none
  | .error e => result = some (stop e)

theorem endsWith_of_ok {a : α} (h : outcome x s = (.ok a, s')) : EndsWith stop x s none := by
  rw [EndsWith, h]

theorem endsWith_of_error {e : ε} (h : outcome x s = (.error e, s')) : EndsWith stop x s (some (stop e)) := by
  rw [EndsWith, h]

theorem endsWith_pure {a : α} (h : EndsWith stop (pure a : ExceptT ε (StateM σ) α) s result) : result = none := h

/-- A sequence ends as its rest does, unless its first computation is stopped. -/
theorem endsWith_bind {f : α → ExceptT ε (StateM σ) β} (h : EndsWith stop (x >>= f) s result) :
    (∃ a s', outcome x s = (.ok a, s') ∧ EndsWith stop (f a) s' result) ∨
      ∃ e s', outcome x s = (.error e, s') ∧ result = some (stop e) := by
  rw [EndsWith, outcome_bind] at h
  cases hx : outcome x s with
  | mk r s' =>
    rw [hx] at h
    cases r with
    | ok a => exact .inl ⟨a, s', rfl, h⟩
    | error e => exact .inr ⟨e, s', rfl, h⟩

/-- What is stopped however it ends fails. -/
theorem exists_error_of_stops {P : Stop → Prop}
    (h : ∀ {result}, EndsWith stop x s result → ∃ e, result = some e ∧ P e) :
    ∃ e, (outcome x s).1 = .error e ∧ P (stop e) := by
  cases hresult : outcome x s with
  | mk r s' =>
    cases r with
    | ok a =>
      obtain ⟨e, he, -⟩ := h (endsWith_of_ok hresult)
      cases he
    | error e =>
      obtain ⟨e', he, hP⟩ := h (endsWith_of_error hresult)
      obtain rfl := Option.some.inj he
      exact ⟨e, rfl, hP⟩

/-- So does a row: its first value returns and the rest goes on, or it is stopped. -/
theorem endsWith_row {f : α → ExceptT ε (StateM σ) β} (h : EndsWith stop (x >>= f) s result) :
    (EndsWith stop x s none ∧ ∃ a s', EndsWith stop (f a) s' result) ∨
      ∃ e, result = some e ∧ EndsWith stop x s (some e) := by
  rcases endsWith_bind h with ⟨a, s', hx, hf⟩ | ⟨e, s', hx, rfl⟩
  · exact .inl ⟨endsWith_of_ok hx, a, s', hf⟩
  · exact .inr ⟨_, rfl, endsWith_of_error hx⟩

end

section

variable {g : Composites} {α : Type} {v : Value} {result : Option Stop}

/-- What begins with resolving a value goes on with what this stands for, or is stopped there. -/
theorem endsWith_resolve {k : Resolved → Expand U α} {s : U}
    (h : EndsWith .failed (resolve g.call v >>= k) s result) :
    (∃ r, Expands g v r ∧ EndsWith .failed (k r) s result) ∨
      ∃ f, Resolves g maxExpansions v (.error f) ∧ result = some (.failed f) := by
  obtain ⟨resolved, hresolve, hresolves⟩ := exists_outcome_resolveWithin g maxExpansions v s
  rcases endsWith_bind h with ⟨r, s', hr, hk⟩ | ⟨f, s', hf, rfl⟩
  · obtain ⟨rfl, rfl⟩ := Prod.mk.inj (hresolve.symm.trans hr)
    exact .inl ⟨r, hresolves, hk⟩
  · obtain ⟨rfl, rfl⟩ := Prod.mk.inj (hresolve.symm.trans hf)
    exact .inr ⟨f, hresolves, rfl⟩

/-- The same in a world. -/
theorem endsWith_expand_resolve {k : Resolved → Act U α} {w : World U}
    (h : EndsWith id (Act.expand (resolve g.call v) >>= k) w result) :
    (∃ r, Expands g v r ∧ EndsWith id (k r) w result) ∨
      ∃ f, Resolves g maxExpansions v (.error f) ∧ result = some (.failed f) := by
  obtain ⟨resolved, hresolve, hresolves⟩ := exists_outcome_resolveWithin g maxExpansions v w.env.user
  have hexpand := outcome_expand hresolve
  rcases endsWith_bind h with ⟨r, w', hr, hk⟩ | ⟨e, w', he, rfl⟩
  · obtain ⟨hmapped, rfl⟩ := Prod.mk.inj (hexpand.symm.trans hr)
    cases resolved with
    | error f => cases hmapped
    | ok r' =>
      obtain rfl := Except.ok.inj hmapped
      exact .inl ⟨r', hresolves, hk⟩
  · obtain ⟨hmapped, rfl⟩ := Prod.mk.inj (hexpand.symm.trans he)
    cases resolved with
    | ok r => cases hmapped
    | error f =>
      obtain rfl := Except.error.inj hmapped
      exact .inr ⟨f, hresolves, rfl⟩

end

/-! ## The traversals -/

/-- Collecting a configuration goes on to the children of every node. -/
def collecting : Traversal where
  opens _ := true
  depth _ := 1
  fails p e := ∃ (c : DirectoryConfig) (f : Fault), c.collect p = .error f ∧ e = .failed f
  depth_pos _ := Nat.one_pos

/-- Whether a node is one that holds those of a response. -/
def Payload.isResponse : Payload Value → Bool
  | .response => true
  | _ => false

/-- Describing a response goes on to the children of the nodes that hold others. -/
def describing : Traversal where
  opens := Payload.isResponse
  depth _ := 1
  fails p e := ∃ (d : Descriptor) (f : Fault), d.applyLeaf p = .error f ∧ e = .failed f
  depth_pos _ := Nat.one_pos

/-- Walking a tree goes on to the children of the nodes that do not register routes. -/
def walking (b : Behaviour U) : Traversal where
  opens p := !p.closes
  depth p := p.kind.depth
  fails p e := ∃ c w, (outcome (visit b c p) w).1 = .error e
  depth_pos p := depth_pos p.kind

variable {g : Composites}

/-- Collecting is such a traversal. -/
theorem steps_collecting (U : Type) : collecting.Steps g
    (fun n v result => ∃ (c : DirectoryConfig) (s : U),
      EndsWith .failed (collectTree g.call n v c) s result)
    (fun n vs result => ∃ (c : DirectoryConfig) (s : U),
      EndsWith .failed (collectTrees g.call n vs c) s result) where
  zero := by
    rintro v result ⟨c, s, h⟩
    rw [collectTree] at h
    exact h
  succ := by
    rintro n v result ⟨c, s, h⟩
    rw [collectTree] at h
    rcases endsWith_resolve h with ⟨r, hexpands, h⟩ | ⟨f, hunresolved, rfl⟩
    · cases r with
      | nothing =>
        obtain rfl := endsWith_pure h
        exact .nothing hexpands
      | items xs => exact .items hexpands ⟨c, s, h⟩
      | node p children =>
        simp only at h
        cases hcollect : c.collect p with
        | error f =>
          rw [hcollect] at h
          obtain rfl : result = some (.failed f) := h
          exact .fails hexpands ⟨c, f, hcollect, rfl⟩
        | ok c' =>
          rw [hcollect] at h
          exact .node hexpands rfl ⟨c', s, h⟩
    · exact .unresolved hunresolved
  nil := by
    rintro n result ⟨c, s, h⟩
    rw [collectTrees] at h
    exact endsWith_pure h
  cons := by
    rintro n v vs result ⟨c, s, h⟩
    rw [collectTrees] at h
    rcases endsWith_row h with ⟨hv, c', s', hvs⟩ | ⟨e, he, hv⟩
    · exact .inl ⟨⟨c, s, hv⟩, c', s', hvs⟩
    · exact .inr ⟨e, he, c, s, hv⟩

/-- So is describing a response. -/
theorem steps_describing (U : Type) : describing.Steps g
    (fun n v result => ∃ (d : Descriptor) (s : U), EndsWith .failed (applyTree g.call n v d) s result)
    (fun n vs result => ∃ (d : Descriptor) (s : U), EndsWith .failed (applyTrees g.call n vs d) s result) where
  zero := by
    rintro v result ⟨d, s, h⟩
    rw [applyTree] at h
    exact h
  succ := by
    rintro n v result ⟨d, s, h⟩
    rw [applyTree] at h
    rcases endsWith_resolve h with ⟨r, hexpands, h⟩ | ⟨f, hunresolved, rfl⟩
    · cases r with
      | nothing =>
        obtain rfl := endsWith_pure h
        exact .nothing hexpands
      | items xs => exact .items hexpands ⟨d, s, h⟩
      | node p children =>
        -- a node that holds others has its children described, and any other is a leaf
        have hleaf : ∀ {row}, EndsWith .failed (Expand.ofAttempt (d.applyLeaf p) : Expand U Descriptor) s result →
            p.isResponse = false → describing.Next g row n v result := by
          intro row hleaf hclosed
          cases happly : d.applyLeaf p with
          | error f =>
            rw [happly] at hleaf
            obtain rfl : result = some (.failed f) := hleaf
            exact .fails hexpands ⟨d, f, happly, rfl⟩
          | ok d' =>
            rw [happly] at hleaf
            obtain rfl : result = none := hleaf
            exact .closed hexpands hclosed
        cases p with
        | response => exact .node hexpands rfl ⟨d, s, h⟩
        | _ => exact hleaf h rfl
    · exact .unresolved hunresolved
  nil := by
    rintro n result ⟨d, s, h⟩
    rw [applyTrees] at h
    exact endsWith_pure h
  cons := by
    rintro n v vs result ⟨d, s, h⟩
    rw [applyTrees] at h
    rcases endsWith_row h with ⟨hv, d', s', hvs⟩ | ⟨e, he, hv⟩
    · exact .inl ⟨⟨d, s, hv⟩, d', s', hvs⟩
    · exact .inr ⟨e, he, d, s, hv⟩

/-- The same behaviour with composites that are pure functions. -/
def Behaviour.withComposites (b : Behaviour U) (g : Composites) : Behaviour U := { b with expand := g.call }

/-- And so is walking a tree. -/
theorem steps_walking (b : Behaviour U) : (walking (b.withComposites g)).Steps g
    (fun n v result => ∃ c w, EndsWith id (walkTree (b.withComposites g) n v c) w result)
    (fun n vs result => ∃ c w, EndsWith id (walkTrees (b.withComposites g) n vs c) w result) where
  zero := by
    rintro v result ⟨c, w, h⟩
    rw [walkTree] at h
    exact h
  succ := by
    rintro n v result ⟨c, w, h⟩
    rw [walkTree] at h
    rcases endsWith_expand_resolve h with ⟨r, hexpands, h⟩ | ⟨f, hunresolved, rfl⟩
    · cases r with
      | nothing =>
        obtain rfl := endsWith_pure h
        exact .nothing hexpands
      | items xs => exact .items hexpands ⟨c, w, h⟩
      | node p children =>
        -- the children are walked only when the node was visited
        rcases endsWith_bind h with ⟨below, w', hvisit, h⟩ | ⟨e, w', hvisit, rfl⟩
        · cases below with
          | none =>
            obtain rfl := endsWith_pure h
            exact .closed hexpands (by simp [walking, closes_of_visit hvisit])
          | some below =>
            refine .node hexpands ?_ ⟨below, w', h⟩
            -- a node that hands something down is one that does not register a route
            have hstart : Act.Returns (visit (b.withComposites g) (inherited c []) p) w (some below) w' := by
              rwa [inherited_nil]
            simp [walking, (visit_below hstart).1]
        · exact .fails hexpands ⟨c, w, by rw [hvisit]; rfl⟩
    · exact .unresolved hunresolved
  nil := by
    rintro n result ⟨c, w, h⟩
    rw [walkTrees] at h
    exact endsWith_pure h
  cons := by
    rintro n v vs result ⟨c, w, h⟩
    rw [walkTrees] at h
    rcases endsWith_row h with ⟨hv, _, w', hvs⟩ | ⟨e, he, hv⟩
    · exact .inl ⟨⟨c, w, hv⟩, c, w', hvs⟩
    · exact .inr ⟨e, he, c, w, hv⟩

/-! ## What stops them -/

/-- Calls of composites that led to further ones are refused as a mistake of the configuration. -/
def Failure.IsRunaway (f : Fault) : Prop :=
  f.errorClass = .configuration ∧ ∃ name, f = .refused (.endlessComposite name maxExpansions)

section

variable {g : Composites} {t : Traversal} {n : Nat} {v : Value} {vs : List Value} {e : Stop}

/-- What stops a traversal of a row without an end. -/
structure IsStoppedBy (g : Composites) (t : Traversal) (n : Nat) (vs : List Value) (e : Stop) : Prop where
  /-- It is the nesting, or something at a value that the traversal has come to. -/
  cause : e = .failed (.refused .tooDeep) ∨ Stopped g t vs e
  shallow : Shallow g t n vs → Stopped g t vs e
  /-- Where no value fails by itself, calls have run out. -/
  runaway : Shallow g t n vs → (∀ u, Reached g t vs u → ¬ FailsAt g t u e) → ∃ f, e = .failed f ∧ Failure.IsRunaway f

theorem RunsOut.isRunaway {f : Fault} (h : RunsOut g maxExpansions v f) : f.IsRunaway := by
  cases h with
  | intro calls => exact ⟨rfl, _, rfl⟩

/-- **Without an end** a traversal is stopped. -/
theorem Traverses.exists_stop {result : Option Stop} (h : Traverses g t n vs result)
    (hend : ¬ BottomsOut g t vs) : ∃ e, result = some e ∧ IsStoppedBy g t n vs e := by
  cases result with
  | none => exact absurd h.bottomsOut hend
  | some e =>
    refine ⟨e, rfl, h.cause, h.cause_of_shallow, fun hshallow hacts => ?_⟩
    obtain ⟨u, hu, hstop⟩ := h.cause_of_shallow hshallow
    cases hstop with
    | runsOut hout => exact ⟨_, rfl, hout.isRunaway⟩
    | fails hfails => exact absurd hfails (hacts u hu)

/-- Where no value fails, what has no end is nested too deep. -/
theorem IsStoppedBy.tooDeep (h : IsStoppedBy g t n vs e)
    (hacts : ∀ u, Reached g t vs u → ¬ StoppedAt g t u e) : e = .failed (.refused .tooDeep) := by
  rcases h.cause with rfl | ⟨u, hu, hstop⟩
  · rfl
  · exact absurd hstop (hacts u hu)

/-- A value whose calls are endless stands for nothing, so that no traversal gets beyond it. -/
theorem Endless.not_bottomsOut (h : Endless g v) : ¬ BottomsOut g t (v :: vs) := by
  intro hend
  cases hend with
  | nothing expands | splice expands | closed expands | node expands => exact expands.not_endless h

/-- It is all that a traversal comes to. -/
theorem Endless.eq_of_reached {u : Value} (h : Endless g v) (hu : Reached g t [v] u) : u = v := by
  cases hu with
  | here => rfl
  | later hlater => cases hlater
  | inside expands _ | child expands _ _ => exact absurd h expands.not_endless

/-- **Calls that are endless by themselves** run out before anything else stops a traversal. -/
theorem Endless.isRunaway (h : Endless g v) (hstopped : IsStoppedBy g t (n + 1) [v] e) :
    ∃ f, e = .failed f ∧ Failure.IsRunaway f := by
  refine hstopped.runaway (.endless fun r hexpands => hexpands.not_endless h) fun u hu hfails => ?_
  -- there is nothing but the value to come to, and it does not fail by itself
  obtain rfl := h.eq_of_reached hu
  cases hfails with
  | miscalls hmiscalls => exact h.not_miscalls hmiscalls
  | node expands _ => exact expands.not_endless h

end

/-! ## Collecting and describing -/

section

variable {g : Composites} {v : Value}

/-- Collecting a configuration without an end fails. -/
theorem collectConfig_runaway (s : U) (hend : ¬ BottomsOut g collecting [v]) :
    ∃ f, (outcome (collectConfig g.call v) s).1 = .error f ∧
      IsStoppedBy g collecting nestingLimit [v] (.failed f) := by
  apply exists_error_of_stops
  intro result h
  exact ((steps_collecting U).traverses ⟨{}, s, h⟩).exists_stop hend

/-- So does describing a response. -/
theorem describeResponse_runaway (s : U) (hend : ¬ BottomsOut g describing [v]) :
    ∃ f, (outcome (describeResponse g.call v) s).1 = .error f ∧
      IsStoppedBy g describing nestingLimit [v] (.failed f) := by
  apply exists_error_of_stops
  intro result h
  exact ((steps_describing U).traverses ⟨{}, s, h⟩).exists_stop hend

end

/-! ## Building -/

section

variable {b : Behaviour U} {g : Composites} {root : Value} {configured : Bool} {w : World U}
  {result : Option Stop}

theorem endsWith_congr {α : Type} {x y : Act U α} {w' : World U} (h : outcome x w = outcome y w') :
    EndsWith id x w result ↔ EndsWith id y w' result := by
  rw [EndsWith, EndsWith, h]

/-- Recording the routes of an application returns, or it is refused. -/
theorem endsWith_record (h : EndsWith id (do
      let built ← get
      let routes ← Act.ofAttempt (built.app.listRoutes.mapError .refused)
      Act.log .tree .info ("Registered " ++ toString routes.length ++ " routes") : Act U Unit) w result) :
    result = none ∨ ∃ r, result = some (.failed (.refused r)) := by
  rw [EndsWith, Act.outcome_get_bind] at h
  cases hlisted : w.app.listRoutes with
  | ok routes =>
    rw [hlisted] at h
    exact .inl h
  | error r =>
    rw [hlisted] at h
    exact .inr ⟨r, h⟩

/-- What becomes of a launch: the walk along the children of its server, and a record of the routes. -/
inductive Launches (b : Behaviour U) (g : Composites) (root : Value) : Option Stop → Prop where
  | unresolved {f : Fault} (unresolved : Resolves g maxExpansions root (.error f)) :
      Launches b g root (some (.failed f))
  | notServer {r : Resolved} (expands : Expands g root r)
      (other : ∀ port host children, r ≠ .node (.server port host) children) :
      Launches b g root (some (.failed (.refused (.notServer r.typeName))))
  | walked {port host : Value} {children : List Value} {result : Option Stop}
      (expands : Expands g root (.node (.server port host) children))
      (walked : Traverses g (walking b) nestingLimit children result) : Launches b g root result
  | unlisted {port host : Value} {children : List Value} {r : Refusal}
      (expands : Expands g root (.node (.server port host) children))
      (walked : Traverses g (walking b) nestingLimit children none) : Launches b g root (some (.failed (.refused r)))

theorem launches_of_build (hopen : w.app.frozen = false)
    (h : EndsWith id (build (b.withComposites g) root configured) w result) :
    Launches (b.withComposites g) g root result := by
  obtain ⟨resolved, hresolve, hresolves⟩ := exists_outcome_resolveWithin g maxExpansions root w.env.user
  have hexpand := outcome_expand hresolve
  cases resolved with
  | error f =>
    -- the root is resolved before anything else is done
    have hbuild : outcome (build (b.withComposites g) root configured) w = (.error (.failed f), w) := by
      rw [build, outcome_bind, resolve, Behaviour.withComposites, hexpand]
      rfl
    rw [EndsWith, hbuild] at h
    obtain rfl : result = some (.failed f) := h
    exact .unresolved hresolves
  | ok r =>
    have hroot : Act.Returns (Act.expand (resolve (b.withComposites g).expand root)) w r w := hexpand
    by_cases hserver : ∃ port host children, r = .node (.server port host) children
    · obtain ⟨port, host, children, rfl⟩ := hserver
      rw [endsWith_congr (outcome_build_eq hroot hopen)] at h
      have hwalks {result w} (hwalk : EndsWith id (walkTrees (b.withComposites g) nestingLimit children .empty) w
          result) : Traverses g (walking (b.withComposites g)) nestingLimit children result :=
        (steps_walking b).traverses_row (steps_walking b).traverses ⟨_, _, hwalk⟩
      -- the routes are recorded when the walk has returned
      rcases endsWith_bind h with ⟨_, w', hwalk, hrecord⟩ | ⟨e, w', hwalk, rfl⟩
      · have hwalked := hwalks (endsWith_of_ok hwalk)
        rcases endsWith_record hrecord with rfl | ⟨refusal, rfl⟩
        · exact .walked hresolves hwalked
        · exact .unlisted hresolves hwalked
      · exact .walked hresolves (hwalks (endsWith_of_error hwalk))
    · -- whatever else the root stands for is refused
      have hrefused : result = some (.failed (.refused (.notServer r.typeName))) := by
        rw [EndsWith, build, outcome_bind, hroot] at h
        cases r with
        | nothing | items xs => exact h
        | node p children =>
          cases p with
          | server port host => exact absurd ⟨_, _, _, rfl⟩ hserver
          | _ => exact h
      subst hrefused
      exact .notServer hresolves fun port host children hr => hserver ⟨port, host, children, hr⟩

/-- What stops a launch of a tree without an end. -/
inductive LaunchStopped (b : Behaviour U) (g : Composites) (root : Value) : Stop → Prop where
  /-- The calls for its root run out. -/
  | runsOut {f : Fault} (runsOut : RunsOut g maxExpansions root f) (runaway : f.IsRunaway) :
      LaunchStopped b g root (.failed f)
  | miscalls {f : Fault} (miscalls : Miscalls g root f) : LaunchStopped b g root (.failed f)
  | notServer {r : Resolved} (expands : Expands g root r)
      (other : ∀ port host children, r ≠ .node (.server port host) children) :
      LaunchStopped b g root (.failed (.refused (.notServer r.typeName)))
  /-- The walk along the children of its server is stopped. -/
  | walk {port host : Value} {children : List Value} {e : Stop}
      (expands : Expands g root (.node (.server port host) children))
      (stopped : IsStoppedBy g (walking b) nestingLimit children e) : LaunchStopped b g root e

/-- Without an end a launch is stopped. -/
theorem Launches.exists_stop (h : Launches b g root result) (hend : ¬ BottomsOut g (walking b) [root]) :
    ∃ e, result = some e ∧ LaunchStopped b g root e := by
  -- the end of a root is the one of its children
  have hbelow {port host children} (expands : Expands g root (.node (.server port host) children)) :
      ¬ BottomsOut g (walking b) children := fun hchildren => hend (.node expands rfl hchildren .nil)
  cases h with
  | unresolved unresolved =>
    rcases unresolved with hout | hmiscalls
    · exact ⟨_, rfl, .runsOut hout hout.isRunaway⟩
    · exact ⟨_, rfl, .miscalls hmiscalls⟩
  | notServer expands other => exact ⟨_, rfl, .notServer expands other⟩
  | walked expands walked =>
    obtain ⟨e, he, hstopped⟩ := walked.exists_stop (hbelow expands)
    exact ⟨e, he, .walk expands hstopped⟩
  | unlisted expands walked => exact absurd walked.bottomsOut (hbelow expands)

/-- **Building an application without an end fails.** -/
theorem build_runaway (hopen : w.app.frozen = false)
    (hend : ¬ BottomsOut g (walking (b.withComposites g)) [root]) :
    ∃ e, (outcome (build (b.withComposites g) root configured) w).1 = .error e ∧
      LaunchStopped (b.withComposites g) g root e := by
  apply exists_error_of_stops
  intro result h
  exact (launches_of_build hopen h).exists_stop hend

/-- **What a launch waits for** is the provider of a database that its walk has come to. -/
theorem suspended_of_build (hopen : w.app.frozen = false)
    (h : (outcome (build (b.withComposites g) root configured) w).1 = .error .unsettled) :
    ∃ u provider children env rest, Reached g (walking (b.withComposites g)) [root] u ∧
      Expands g u (.node (.db provider) children) ∧ (b.callProvide provider env).1 = .suspended rest := by
  have hends : EndsWith id (build (b.withComposites g) root configured) w (some .unsettled) :=
    endsWith_of_error (Prod.ext h rfl)
  -- what is refused or fails has settled, so that the walk has come to what is waited for
  cases launches_of_build hopen hends with
  | walked expands walked =>
    rcases walked.cause with hdeep | ⟨u, hu, hstop⟩
    · cases hdeep
    · cases hstop with
      | fails hfails =>
        cases hfails with
        | node hdb hvisited =>
          obtain ⟨c, w', hvisit⟩ := hvisited
          obtain ⟨provider, rest, rfl, hrest⟩ := waits_of_visit hvisit
          exact ⟨u, provider, _, _, rest, .child expands rfl hu, hdb, hrest⟩

end

/-! ## All of them -/

section

variable {b : Behaviour U} {g : Composites} {v : Value}

/-- A launch whose root has endless calls is stopped by them. -/
theorem Endless.launch {e : Stop} (h : Endless g v) (hstopped : LaunchStopped b g v e) :
    ∃ f, e = .failed f ∧ Failure.IsRunaway f := by
  cases hstopped with
  | runsOut _ runaway => exact ⟨_, rfl, runaway⟩
  | miscalls hmiscalls => exact absurd hmiscalls h.not_miscalls
  | notServer expands _ | walk expands _ => exact absurd h expands.not_endless

/-- **Composites that run away by themselves** are refused as a mistake of the configuration by all three. -/
theorem Endless.raises (h : Endless g v) (b : Behaviour U) :
    (∀ s : U, ∃ f, (outcome (collectConfig g.call v) s).1 = .error f ∧ f.IsRunaway) ∧
    (∀ s : U, ∃ f, (outcome (describeResponse g.call v) s).1 = .error f ∧ f.IsRunaway) ∧
    ∀ configured (w : World U), w.app.frozen = false →
      ∃ f, (outcome (build (b.withComposites g) v configured) w).1 = .error (.failed f) ∧ f.IsRunaway := by
  refine ⟨fun s => ?_, fun s => ?_, fun configured w hopen => ?_⟩
  · obtain ⟨f, hf, hstopped⟩ := collectConfig_runaway s h.not_bottomsOut
    obtain ⟨_, hsame, hrunaway⟩ := h.isRunaway hstopped
    obtain rfl := Stop.failed.inj hsame
    exact ⟨f, hf, hrunaway⟩
  · obtain ⟨f, hf, hstopped⟩ := describeResponse_runaway s h.not_bottomsOut
    obtain ⟨_, hsame, hrunaway⟩ := h.isRunaway hstopped
    obtain rfl := Stop.failed.inj hsame
    exact ⟨f, hf, hrunaway⟩
  · obtain ⟨e, he, hstopped⟩ := build_runaway hopen h.not_bottomsOut
    obtain ⟨f, rfl, hrunaway⟩ := h.launch hstopped
    exact ⟨f, he, hrunaway⟩

end

/-- **What has no end fails.** Collecting a configuration and describing a response return or fail, a launch may
also wait for a provider of a database, and whatever runs away is stopped. Where calls run out by themselves, it
is refused as a mistake of the configuration. -/
theorem runaway_raises (g : Composites) (b : Behaviour U) :
    (∀ v (s : U), ¬ BottomsOut g collecting [v] →
      ∃ f, (outcome (collectConfig g.call v) s).1 = .error f ∧
        IsStoppedBy g collecting nestingLimit [v] (.failed f)) ∧
    (∀ v (s : U), ¬ BottomsOut g describing [v] →
      ∃ f, (outcome (describeResponse g.call v) s).1 = .error f ∧
        IsStoppedBy g describing nestingLimit [v] (.failed f)) ∧
    (∀ root configured (w : World U), w.app.frozen = false →
      (¬ BottomsOut g (walking (b.withComposites g)) [root] →
        ∃ e, (outcome (build (b.withComposites g) root configured) w).1 = .error e ∧
          LaunchStopped (b.withComposites g) g root e) ∧
      ((outcome (build (b.withComposites g) root configured) w).1 = .error .unsettled →
        ∃ u provider children env rest, Reached g (walking (b.withComposites g)) [root] u ∧
          Expands g u (.node (.db provider) children) ∧ (b.callProvide provider env).1 = .suspended rest)) ∧
    ∀ v, Endless g v →
      (∀ s : U, ∃ f, (outcome (collectConfig g.call v) s).1 = .error f ∧ f.IsRunaway) ∧
      (∀ s : U, ∃ f, (outcome (describeResponse g.call v) s).1 = .error f ∧ f.IsRunaway) ∧
      ∀ configured (w : World U), w.app.frozen = false →
        ∃ f, (outcome (build (b.withComposites g) v configured) w).1 = .error (.failed f) ∧ f.IsRunaway :=
  ⟨fun _ s hend => collectConfig_runaway s hend, fun _ s hend => describeResponse_runaway s hend,
    fun _ _ _ hopen => ⟨build_runaway hopen, suspended_of_build hopen⟩, fun _ hendless => hendless.raises b⟩

/-! ## A composite that returns itself -/

section

/-- An element of a composite. -/
def loop : Value := .element (.func ⟨"Loop", 0, false⟩) [] []

/-- A server with one. -/
def loopServer : Value := .node (.server (.int 8000) (.str "127.0.0.1")) [loop]

/-- The composite returns its own element. -/
def returnsItself : Composites := fun _ _ _ => loop

/-- It returns a row of its own element. -/
def returnsRow : Composites := fun _ _ _ => .list [loop]

variable {g : Composites} {t : Traversal} {u : Value} {e : Stop}

/-- The root of a server is what it stands for. -/
theorem LaunchStopped.walk_node {b : Behaviour U} {port host : Value} {children : List Value}
    (h : LaunchStopped b g (.node (.server port host) children) e) :
    IsStoppedBy g (walking b) nestingLimit children e := by
  cases h with
  | runsOut hout => rcases hout with ⟨calls⟩; cases calls
  | miscalls hmiscalls => rcases hmiscalls with ⟨calls, _⟩; cases calls
  | notServer expands other => exact absurd (expands.unique .node) (other _ _ _)
  | walk expands stopped =>
    obtain ⟨-, rfl⟩ := Resolved.node.inj (expands.unique .node)
    exact stopped

/-- Nor does it have an end when its child has none. -/
theorem not_bottomsOut_server {b : Behaviour U} {port host : Value} {children : List Value}
    (h : ¬ BottomsOut g (walking b) children) : ¬ BottomsOut g (walking b) [.node (.server port host) children] := by
  intro hend
  cases hend with
  | nothing expands | splice expands => cases expands.unique .node
  | closed expands hclosed =>
    obtain ⟨rfl, -⟩ := Resolved.node.inj (expands.unique .node)
    cases hclosed
  | node expands _ inside =>
    obtain ⟨-, rfl⟩ := Resolved.node.inj (expands.unique .node)
    exact h inside

theorem endless_loop : Endless returnsItself loop := by
  intro n
  refine ⟨loop, ?_⟩
  induction n with
  | zero => exact .none
  | succ n ih => exact .more rfl ih

/-- Where the composite returns itself, building is refused as a mistake of the configuration. -/
theorem runaway_raises_loop :
    ¬ BottomsOut returnsItself (walking (Behaviour.idle.withComposites returnsItself)) [loopServer] ∧
      ∃ f, (outcome (build (Behaviour.idle.withComposites returnsItself) loopServer false)
          { env := { user := () } }).1 = .error (.failed f) ∧ f.IsRunaway := by
  have hend : ¬ BottomsOut returnsItself (walking (Behaviour.idle.withComposites returnsItself)) [loopServer] :=
    not_bottomsOut_server endless_loop.not_bottomsOut
  refine ⟨hend, ?_⟩
  obtain ⟨-, -, hbuild, -⟩ := runaway_raises returnsItself Behaviour.idle
  obtain ⟨e, he, hstopped⟩ := (hbuild loopServer false { env := { user := () } } rfl).1 hend
  obtain ⟨f, rfl, hrunaway⟩ := endless_loop.isRunaway hstopped.walk_node
  exact ⟨f, he, hrunaway⟩

theorem expands_loop : Expands returnsRow loop (.items [loop]) := .call rfl .list

/-- A walk along the row comes to nothing but the element. -/
theorem eq_loop_of_reached {vs : List Value} (hvs : vs = [loop]) (h : Reached returnsRow t vs u) : u = loop := by
  induction h with
  | here => exact (List.cons.inj hvs).1
  | later hlater =>
    obtain ⟨-, rfl⟩ := List.cons.inj hvs
    cases hlater
  | inside expands _ ih =>
    obtain ⟨rfl, -⟩ := List.cons.inj hvs
    exact ih (Resolved.items.inj (expands.unique expands_loop))
  | child expands _ _ =>
    obtain ⟨rfl, -⟩ := List.cons.inj hvs
    cases expands.unique expands_loop

/-- It stops no traversal, since one call is enough for it. -/
theorem not_stoppedAt_loop : ¬ StoppedAt returnsRow t loop e := by
  intro h
  cases h with
  | runsOut hout =>
    rcases hout with ⟨calls⟩
    cases calls with
    | more returned rest =>
      obtain rfl := Except.ok.inj returned
      cases rest
  | fails hfails =>
    cases hfails with
    | miscalls hmiscalls =>
      rcases hmiscalls with ⟨calls, refused⟩
      cases calls with
      | none => cases refused
      | more returned rest =>
        obtain rfl := Except.ok.inj returned
        cases rest
    | node expands _ => cases expands.unique expands_loop

theorem not_bottomsOut_loop {vs : List Value} (hvs : vs = [loop]) : ¬ BottomsOut returnsRow t vs := by
  intro h
  induction h with
  | nil => cases hvs
  | splice expands _ _ ih =>
    obtain ⟨rfl, -⟩ := List.cons.inj hvs
    exact ih (Resolved.items.inj (expands.unique expands_loop))
  | nothing expands | closed expands | node expands =>
    obtain ⟨rfl, -⟩ := List.cons.inj hvs
    cases expands.unique expands_loop

/-- Where it returns a row of itself, the count of its calls begins anew in each row: building ends where trees
may not be nested deeper, and that is no mistake of the configuration. -/
theorem build_nestedTooDeep :
    ¬ BottomsOut returnsRow (walking (Behaviour.idle.withComposites returnsRow)) [loopServer] ∧
      (outcome (build (Behaviour.idle.withComposites returnsRow) loopServer false) { env := { user := () } }).1 =
        .error (.failed (.refused .tooDeep)) ∧
      (Failure.refused .tooDeep : Fault).errorClass ≠ .configuration := by
  have hend : ¬ BottomsOut returnsRow (walking (Behaviour.idle.withComposites returnsRow)) [loopServer] :=
    not_bottomsOut_server (not_bottomsOut_loop rfl)
  have hopen : ({ env := { user := () } } : World Unit).app.frozen = false := rfl
  obtain ⟨e, he, hstopped⟩ := build_runaway hopen hend
  refine ⟨hend, ?_, by decide⟩
  obtain rfl : e = .failed (.refused .tooDeep) := hstopped.walk_node.tooDeep fun u hu => by
    obtain rfl := eq_loop_of_reached rfl hu
    exact not_stoppedAt_loop
  exact he

end

end ServerTree
