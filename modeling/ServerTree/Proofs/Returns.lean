import ServerTree.App.World

/-!
# Computations that return

A computation runs in a world and returns a value in a world that it may have changed, or it stops. Each
primitive says here when it returns, and a sequence of computations is taken apart at its steps.

## Main definitions
- `outcome`: what becomes of a computation
- `Act.Returns`: a computation returns a value
- `Act.Settles`: a computation returns or fails
- `World.LogsTo`: nothing but records is made
- `Behaviour.idle`: functions that do nothing
-/

namespace ServerTree

/-! ## Outcomes -/

section

variable {ε σ α β : Type}

/-- What becomes of a computation in a state. -/
def outcome (x : ExceptT ε (StateM σ) α) (s : σ) : Except ε α × σ := x.run.run s

@[simp] theorem outcome_pure (a : α) (s : σ) :
    outcome (pure a : ExceptT ε (StateM σ) α) s = (.ok a, s) := rfl

/-- A sequence goes on from where its first computation returns. -/
theorem outcome_bind (x : ExceptT ε (StateM σ) α) (f : α → ExceptT ε (StateM σ) β) (s : σ) :
    outcome (x >>= f) s =
      match outcome x s with
      | (.ok a, s₁) => outcome (f a) s₁
      | (.error e, s₁) => (.error e, s₁) := by
  unfold outcome ExceptT.run StateT.run
  simp only [bind, ExceptT.bind, ExceptT.mk, StateT.bind, ExceptT.bindCont]
  cases x s with
  | mk r s₁ => cases r <;> rfl

/-- A sequence returns exactly when its first computation does and the rest returns from there. -/
theorem outcome_bind_eq_ok_iff {x : ExceptT ε (StateM σ) α} {f : α → ExceptT ε (StateM σ) β} {b : β} {s s' : σ} :
    outcome (x >>= f) s = (.ok b, s') ↔ ∃ a s₁, outcome x s = (.ok a, s₁) ∧ outcome (f a) s₁ = (.ok b, s') := by
  rw [outcome_bind]
  cases h : outcome x s with
  | mk r s₁ =>
    cases r with
    | error e => simp
    | ok a =>
      constructor
      · intro hf
        exact ⟨a, s₁, rfl, hf⟩
      · rintro ⟨a', s₁', heq, hf⟩
        obtain ⟨rfl, rfl⟩ : a = a' ∧ s₁ = s₁' := by simpa using heq
        exact hf

end

/-! ## Possible failures -/

section

variable {α β : Type}

theorem ok_bind (a : α) (f : α → Attempt β) : (Except.ok a >>= f) = f a := rfl

/-- What a sequence gives, its first part has given something for. -/
theorem exists_of_bind_eq_ok {x : Attempt α} {f : α → Attempt β} {c : β} (h : (x >>= f) = .ok c) :
    ∃ a, x = .ok a ∧ f a = .ok c := by
  cases x with
  | error e => cases h
  | ok a => exact ⟨a, rfl, h⟩

/-- What a result is made from was given. -/
theorem exists_of_map_eq_ok {x : Attempt α} {f : α → β} {b : β} (h : x.map f = .ok b) : ∃ a, x = .ok a ∧ b = f a := by
  cases x with
  | error e => cases h
  | ok a =>
    cases h
    exact ⟨a, rfl, rfl⟩

end

namespace Act

variable {U : Type} {α β : Type} {w w' : World U}

/-- A computation that starts in one world returns a value in another. -/
def Returns (x : Act U α) (w : World U) (a : α) (w' : World U) : Prop := outcome x w = (.ok a, w')

/-! ## Sequences -/

@[simp] theorem returns_pure {a b : α} : Returns (pure a : Act U α) w b w' ↔ a = b ∧ w = w' := by
  rw [Returns, outcome_pure, Prod.mk.injEq, Except.ok.injEq]

/-- A sequence returns exactly when its first computation does and the rest returns from there. -/
theorem returns_bind {x : Act U α} {f : α → Act U β} {b : β} :
    Returns (x >>= f) w b w' ↔ ∃ a w₁, Returns x w a w₁ ∧ Returns (f a) w₁ b w' :=
  outcome_bind_eq_ok_iff

/-- A sequence whose first computation returns is what follows it. -/
theorem Returns.bind_iff {x : Act U α} {f : α → Act U β} {a : α} {b : β} {w₁ : World U}
    (h : Returns x w a w₁) : Returns (x >>= f) w b w' ↔ Returns (f a) w₁ b w' := by
  rw [Returns, outcome_bind, h]
  rfl

/-- A sequence whose first computation stops does not return. -/
theorem not_returns_bind {x : Act U α} {f : α → Act U β} {e : Stop} {b : β} {w₁ : World U}
    (h : outcome x w = (.error e, w₁)) : ¬ Returns (x >>= f) w b w' := by
  rw [Returns, outcome_bind, h]
  simp

/-! ## Primitives -/

/-- An attempt goes on from where a computation returned or failed. -/
theorem outcome_attempt (x : Act U α) (w : World U) :
    outcome (attempt x) w =
      match outcome x w with
      | (.ok a, w') => (.ok (.ok a), w')
      | (.error (.failed f), w') => (.ok (.error f), w')
      | (.error .unsettled, w') => (.error .unsettled, w') := by
  unfold outcome attempt ExceptT.run StateT.run
  simp only [bind, ExceptT.mk, StateT.bind]
  cases x w with
  | mk r w' =>
    rcases r with (f | _) | a
    · rfl
    · rfl
    · rfl

/-- An attempt returns a failure when what it attempts fails with it. -/
theorem returns_attempt_error {x : Act U α} {w w' : World U} {f : Fault} :
    Returns (attempt x) w (.error f) w' ↔ outcome x w = (.error (.failed f), w') := by
  rw [Returns, outcome_attempt]
  cases outcome x w with
  | mk r v => rcases r with (f' | _) | a <;> simp

@[simp] theorem returns_throw {e : Stop} {a : α} : ¬ Returns (throw e : Act U α) w a w' := by
  intro h
  cases h

@[simp] theorem returns_fail {f : Fault} {a : α} : ¬ Returns (fail f : Act U α) w a w' :=
  returns_throw

@[simp] theorem returns_refuse {r : Refusal} {a : α} : ¬ Returns (refuse r : Act U α) w a w' :=
  returns_throw

@[simp] theorem returns_get {v : World U} : Returns (get : Act U (World U)) w v w' ↔ w = v ∧ w = w' := by
  constructor
  · intro h
    cases h
    exact ⟨rfl, rfl⟩
  · rintro ⟨rfl, rfl⟩
    rfl

@[simp] theorem returns_set {v : World U} {u : PUnit} : Returns (set v : Act U PUnit) w u w' ↔ v = w' := by
  constructor
  · intro h
    cases h
    rfl
  · rintro rfl
    rfl

@[simp] theorem returns_modify {f : World U → World U} {u : PUnit} :
    Returns (modify f : Act U PUnit) w u w' ↔ f w = w' := by
  constructor
  · intro h
    cases h
    rfl
  · rintro rfl
    rfl

/-- A possible failure returns exactly when it is none. -/
@[simp] theorem returns_ofAttempt {x : Attempt α} {a : α} :
    Returns (ofAttempt x : Act U α) w a w' ↔ x = .ok a ∧ w = w' := by
  cases x with
  | ok b => simp [ofAttempt]
  | error f => simp [ofAttempt]

/-- Making a record changes the log alone. -/
@[simp] theorem returns_log {logger : Logger} {severity : Severity} {message : String} {u : Unit} :
    Returns (log logger severity message : Act U Unit) w u w' ↔
      { w with env := w.env.emit logger severity message } = w' :=
  returns_modify

/-- A call of application code returns with what it answers. -/
theorem returns_withEnv {f : Env U → α × Env U} {a : α} :
    Returns (withEnv f) w a w' ↔ (f w.env).1 = a ∧ { w with env := (f w.env).2 } = w' := by
  simp only [withEnv, returns_bind, returns_get, returns_set, returns_pure]
  constructor
  · rintro ⟨_, _, ⟨rfl, rfl⟩, _, _, rfl, rfl, rfl⟩
    exact ⟨rfl, rfl⟩
  · rintro ⟨rfl, rfl⟩
    exact ⟨_, _, ⟨rfl, rfl⟩, (), _, rfl, rfl, rfl⟩

/-- An expansion of composites returns exactly when it does not fail. -/
theorem returns_expand {x : Expand U α} {a : α} :
    Returns (expand x) w a w' ↔ (outcome x w.env.user).1 = .ok a ∧
      { w with env := { w.env with user := (outcome x w.env.user).2 } } = w' := by
  simp only [expand, returns_bind, returns_get, returns_set, returns_ofAttempt]
  constructor
  · rintro ⟨_, _, ⟨rfl, rfl⟩, _, _, rfl, h, rfl⟩
    exact ⟨h, rfl⟩
  · rintro ⟨h, rfl⟩
    exact ⟨_, _, ⟨rfl, rfl⟩, (), _, rfl, h, rfl⟩

/-- A wrapped handler has the next number. -/
theorem returns_wrap {handler : Value} {config : RouteConfig Value} {route : String}
    {endpoint : Endpoint} :
    Returns (wrap handler config route) w endpoint w' ↔
      ∃ logger, RouteLogger.make route config.settings.logLevel = .ok logger ∧
        endpoint =
          .wrapped ⟨handler, config, w.app.config.middlewareTimeout, route, logger, w.app.wrapped⟩ ∧
        w' = { w with app := { w.app with wrapped := w.app.wrapped + 1 } } := by
  -- of all that is wrapped only the logger can be refused
  have hmade : ∀ r : Endpoint × App, w.app.wrap handler config route = .ok r ↔
      ∃ logger, RouteLogger.make route config.settings.logLevel = .ok logger ∧
        r = (.wrapped ⟨handler, config, w.app.config.middlewareTimeout, route, logger, w.app.wrapped⟩,
          { w.app with wrapped := w.app.wrapped + 1 }) := by
    intro r
    rw [App.wrap]
    cases RouteLogger.make route config.settings.logLevel with
    | error f => simp [bind, Except.bind]
    | ok logger => simp [bind, Except.bind, pure, Except.pure, eq_comm]
  simp only [wrap, returns_bind, returns_get, returns_ofAttempt]
  constructor
  · rintro ⟨_, _, ⟨rfl, rfl⟩, r, _, ⟨hr, rfl⟩, hset⟩
    obtain ⟨logger, hlogger, rfl⟩ := (hmade r).mp hr
    obtain ⟨_, _, rfl, rfl, rfl⟩ := by simpa only [returns_bind, returns_set, returns_pure] using hset
    exact ⟨logger, hlogger, rfl, rfl⟩
  · rintro ⟨logger, hlogger, rfl, rfl⟩
    refine ⟨_, _, ⟨rfl, rfl⟩, _, _, ⟨(hmade _).mpr ⟨logger, hlogger, rfl⟩, rfl⟩, ?_⟩
    exact ⟨(), _, returns_set.mpr rfl, returns_pure.mpr ⟨rfl, rfl⟩⟩

/-- A route is registered when the application accepts it. -/
theorem returns_addRoute {method path : String} {endpoint : Endpoint} {schema name : Value} {u : Unit} :
    Returns (addRoute method path endpoint schema name) w u w' ↔
      (w.app.route method path endpoint schema name).2 = none ∧
        w' = { w with app := (w.app.route method path endpoint schema name).1 } := by
  simp only [addRoute, returns_bind, returns_get, returns_set]
  cases h : (w.app.route method path endpoint schema name).2 with
  | none =>
    constructor
    · rintro ⟨_, _, ⟨rfl, rfl⟩, _, _, rfl, hreturn⟩
      rw [h] at hreturn
      exact ⟨rfl, (returns_pure.mp hreturn).2.symm⟩
    · rintro ⟨-, rfl⟩
      refine ⟨_, _, ⟨rfl, rfl⟩, (), _, rfl, ?_⟩
      rw [h]
      exact returns_pure.mpr ⟨rfl, rfl⟩
  | some refusal =>
    constructor
    · rintro ⟨_, _, ⟨rfl, rfl⟩, _, _, rfl, hreturn⟩
      rw [h] at hreturn
      exact absurd hreturn returns_refuse
    · rintro ⟨hnone, -⟩
      exact absurd hnone (by simp)

end Act

section

variable {U : Type} {α β : Type}

/-! ## What primitives come to -/

theorem outcome_ofAttempt (x : Attempt α) (w : World U) :
    outcome (Act.ofAttempt x : Act U α) w = (x.mapError .failed, w) := by
  cases x <;> rfl

/-- An expansion of composites in a world comes to what it comes to by itself. -/
theorem outcome_expand {x : Expand U α} {w : World U} {r : Attempt α} {user : U}
    (h : outcome x w.env.user = (r, user)) :
    outcome (Act.expand x) w = (r.mapError .failed, { w with env := { w.env with user := user } }) := by
  have hend : outcome (Act.expand x) w = outcome (Act.ofAttempt (outcome x w.env.user).1 : Act U α)
      { w with env := { w.env with user := (outcome x w.env.user).2 } } := rfl
  rw [hend, h, outcome_ofAttempt]

/-! ## Computations that never wait -/

/-- A computation returns or fails in every world. -/
def Act.Settles (x : Act U α) : Prop := ∀ w, (outcome x w).1 ≠ .error .unsettled

theorem Act.settles_ofAttempt (r : Attempt α) : Act.Settles (Act.ofAttempt r : Act U α) := by
  intro w h
  cases r <;> cases h

theorem Act.settles_withEnv (f : Env U → α × Env U) : Act.Settles (Act.withEnv f) := by
  intro w h
  cases h

theorem Act.Settles.bind {x : Act U α} {f : α → Act U β} (hx : x.Settles) (hf : ∀ a, (f a).Settles) :
    (x >>= f).Settles := by
  intro w
  rw [outcome_bind]
  have hfirst := hx w
  cases h : outcome x w with
  | mk r w₁ =>
    rw [h] at hfirst
    cases r with
    | ok a => exact hf a w₁
    | error stop =>
      intro hwaits
      exact hfirst (congrArg Except.error (Except.error.inj hwaits))

theorem Act.settles_expand (x : Expand U α) : Act.Settles (Act.expand x) := by
  intro w
  have hend := Act.settles_ofAttempt (U := U) (x.run w.env.user).1
  exact hend { w with env := { w.env with user := (x.run w.env.user).2 } }

/-- An attempt at a computation that never waits returns what becomes of it. -/
theorem Act.Settles.returns_attempt {x : Act U α} (h : x.Settles) (w : World U) :
    ∃ r w', Act.Returns (Act.attempt x) w r w' := by
  have hend := h w
  simp only [Act.Returns, Act.outcome_attempt]
  cases hx : outcome x w with
  | mk r w' =>
    rw [hx] at hend
    cases r with
    | ok a => exact ⟨.ok a, w', rfl⟩
    | error stop =>
      cases stop with
      | failed f => exact ⟨.error f, w', rfl⟩
      | unsettled => exact absurd rfl hend

/-! ## Loops -/

/-- In a loop that returns and is not left before its end every round returns. -/
theorem exists_returns_round {γ : Type} {f : γ → β → Act U (ForInStep β)}
    (hf : ∀ c s w step w', Act.Returns (f c s) w step w' → ∃ s', step = .yield s') {cs : List γ}
    {init last : β} {w w' : World U} (h : Act.Returns (forIn cs init f) w last w') :
    ∀ c ∈ cs, ∃ s v step v', Act.Returns (f c s) v step v' := by
  induction cs generalizing init w with
  | nil => simp
  | cons c cs ih =>
    rw [List.forIn_cons, Act.returns_bind] at h
    obtain ⟨step, v, hround, hrest⟩ := h
    obtain ⟨s', rfl⟩ := hf _ _ _ _ _ hround
    intro c' hc'
    rcases List.mem_cons.mp hc' with rfl | hmem
    · exact ⟨_, _, _, _, hround⟩
    · exact ih hrest c' hmem

/-! ## Records -/

/-- One world is another but for its log. -/
def World.LogsTo (w w' : World U) : Prop := ∃ log, w' = { w with env := { w.env with log := log } }

theorem World.LogsTo.refl (w : World U) : w.LogsTo w := ⟨w.env.log, rfl⟩

theorem World.LogsTo.trans {w₁ w₂ w₃ : World U} (h : w₁.LogsTo w₂) (h' : w₂.LogsTo w₃) :
    w₁.LogsTo w₃ := by
  obtain ⟨log, rfl⟩ := h
  obtain ⟨log', rfl⟩ := h'
  exact ⟨log', rfl⟩

theorem exists_returns_log {w : World U} {logger : Logger} {severity : Severity} {message : String} :
    ∃ w', w.LogsTo w' ∧ Act.Returns (Act.log logger severity message : Act U Unit) w () w' :=
  ⟨_, ⟨_, rfl⟩, Act.returns_log.mpr rfl⟩

theorem exists_returns_logText {w : World U} {logger : Logger} {severity : Severity} {message : Attempt String} :
    ∃ w', w.LogsTo w' ∧ Act.Returns (Act.logText logger severity message : Act U Unit) w () w' :=
  ⟨_, ⟨_, rfl⟩, Act.returns_modify.mpr rfl⟩

/-- A loop that makes records, one after the other. -/
theorem exists_returns_forIn_log {γ : Type} (logger : Logger) (severity : Severity) (notes : List γ)
    (text : γ → String) (w : World U) :
    ∃ w', w.LogsTo w' ∧ Act.Returns
      (forIn notes PUnit.unit fun note _ => do
        Act.log logger severity (text note)
        pure (ForInStep.yield PUnit.unit) : Act U PUnit) w PUnit.unit w' := by
  induction notes generalizing w with
  | nil => exact ⟨w, .refl w, Act.returns_pure.mpr ⟨rfl, rfl⟩⟩
  | cons note notes ih =>
    obtain ⟨w₁, hnoted, hlog⟩ := exists_returns_log (w := w)
    obtain ⟨w', hrest, hreturn⟩ := ih w₁
    refine ⟨w', hnoted.trans hrest, ?_⟩
    simp only [List.forIn_cons, bind_assoc, pure_bind]
    rw [hlog.bind_iff]
    exact hreturn

end

/-! ## Functions that do nothing -/

/-- Functions that do nothing. -/
def Behaviour.idle : Behaviour Unit where
  expand _ _ _ := pure .none
  handle _ argument reply env := ⟨.returned .none, argument, reply, env⟩
  call _ _ _ env := (.returned .none, env)
  resume _ env := (.returned .none, env)
  provide _ env := (.returned .none, env)
  plugin _ _ _ env := .finish env (.ok ())
  endpoint _ _ env := .finish env (.ok .none)
  around _ _ env := .finish env (.ok .none)
  hook _ _ _ _ env := (.ok (), env)
  load _ env := (.ok [], env)

end ServerTree
