import ServerTree.Proofs.Returns

/-!
# What holds all along

A statement about the world that every step of a computation keeps holds wherever the computation ends. Where it
holds, a step may be exchanged for another one that does the same there: the computation comes to the same.

## Main definitions
- `Act.Agree`: two computations do the same wherever a statement holds, and keep it
- `Act.Preserves`: a computation keeps a statement
- `World.noting`: one more record

## Main statements
- `agree_bind`, `agree_forIn`, `agree_attempt`: sequences, loops and attempts agree when their parts do
-/

namespace ServerTree

variable {U : Type} {α β : Type}

/-- A world in which one more record was made. -/
def World.noting (w : World U) (logger : Logger) (severity : Severity) (message : Option String) : World U :=
  { w with env := { w.env with log := w.env.log.append logger severity message } }

namespace Act

variable {P : World U → Prop}

/-- Wherever a statement about the world holds, two computations come to the same and keep it, however they
end. -/
def Agree (P : World U → Prop) (x y : Act U α) : Prop :=
  ∀ w, P w → outcome x w = outcome y w ∧ P (outcome x w).2

/-- A computation keeps a statement about the world, however it ends. -/
abbrev Preserves (P : World U → Prop) (x : Act U α) : Prop := Agree P x x

theorem preserves_of (x : Act U α) (h : ∀ w, P w → P (outcome x w).2) : Preserves P x :=
  fun w hw => ⟨rfl, h w hw⟩

/-- What holds where a computation starts holds where it ends. -/
theorem Agree.holds {x y : Act U α} (h : Agree P x y) {w : World U} (hw : P w) : P (outcome x w).2 := (h w hw).2

/-- What holds where a computation starts holds where it returns. -/
theorem Agree.returns {x y : Act U α} (h : Agree P x y) {w w' : World U} {a : α} (hw : P w)
    (hx : Returns x w a w') : P w' := by
  have hend := h.holds hw
  rwa [show outcome x w = _ from hx] at hend

/-! ## Sequences -/

theorem agree_pure (a : α) : Agree P (pure a : Act U α) (pure a) := fun _ h => ⟨rfl, h⟩

theorem agree_throw (stop : Stop) : Agree P (throw stop : Act U α) (throw stop) := fun _ h => ⟨rfl, h⟩

theorem agree_fail (f : Fault) : Agree P (fail f : Act U α) (fail f) := agree_throw _

theorem agree_refuse (r : Refusal) : Agree P (refuse r : Act U α) (refuse r) := agree_throw _

/-- A sequence that first looks at the world goes on from there. -/
theorem outcome_get_bind (f : World U → Act U α) (w : World U) : outcome (get >>= f) w = outcome (f w) w := rfl

/-- Sequences agree when their first computations do, and what follows each value that these return. -/
theorem agree_bind_of_returns {x y : Act U α} {f g : α → Act U β} (hx : Agree P x y)
    (hf : ∀ a w w', Returns x w a w' → Agree P (f a) (g a)) : Agree P (x >>= f) (y >>= g) := by
  intro w hw
  obtain ⟨hsame, hend⟩ := hx w hw
  rw [outcome_bind, outcome_bind, ← hsame]
  cases h : outcome x w with
  | mk r w₁ =>
    rw [h] at hend
    cases r with
    | ok a => exact hf a w w₁ h w₁ hend
    | error stop => exact ⟨rfl, hend⟩

/-- Sequences agree when their first computations do, and what follows each value. -/
theorem agree_bind {x y : Act U α} {f g : α → Act U β} (hx : Agree P x y) (hf : ∀ a, Agree P (f a) (g a)) :
    Agree P (x >>= f) (y >>= g) := agree_bind_of_returns hx fun a _ _ _ => hf a

/-- What holds where a first computation ends holds where a sequence does, when what follows each value that was
returned keeps it there. -/
theorem holds_bind {x : Act U α} {f : α → Act U β} {w : World U} (hx : P (outcome x w).2)
    (hf : ∀ a w', Returns x w a w' → P w' → P (outcome (f a) w').2) : P (outcome (x >>= f) w).2 := by
  rw [outcome_bind]
  cases h : outcome x w with
  | mk r w' =>
    rw [h] at hx
    cases r with
    | ok a => exact hf a w' h hx
    | error stop => exact hx

/-- After a refusal nothing follows. -/
theorem agree_refuse_bind (r : Refusal) (f g : α → Act U β) : Agree P (refuse r >>= f) (refuse r >>= g) :=
  agree_bind_of_returns (agree_refuse r) fun _ _ _ h => absurd h returns_refuse

/-- What looks at the world first sees one where the statement holds. -/
theorem agree_get_bind {f g : World U → Act U α} (hf : ∀ v, P v → Agree P (f v) (g v)) :
    Agree P (get >>= f) (get >>= g) := fun w hw => hf w hw w hw

theorem agree_modify {f : World U → World U} (hf : ∀ w, P w → P (f w)) :
    Agree P (modify f : Act U PUnit) (modify f) := fun w hw => ⟨rfl, hf w hw⟩

/-- Loops agree when their rounds do. -/
theorem agree_forIn {γ : Type} {f g : γ → β → Act U (ForInStep β)} {cs : List γ}
    (hf : ∀ c ∈ cs, ∀ s, Agree P (f c s) (g c s)) (init : β) : Agree P (forIn cs init f) (forIn cs init g) := by
  induction cs generalizing init with
  | nil => exact agree_pure init
  | cons c cs ih =>
    rw [List.forIn_cons, List.forIn_cons]
    refine agree_bind (hf c List.mem_cons_self init) fun step => ?_
    cases step with
    | done s => exact agree_pure s
    | yield s => exact ih (fun c' hc' => hf c' (List.mem_cons_of_mem _ hc')) s

theorem agree_ofAttempt (a : Attempt α) : Agree P (ofAttempt a : Act U α) (ofAttempt a) := by
  cases a with
  | ok a => exact agree_pure a
  | error f => exact agree_fail f

/-- What follows a possible failure only matters where there is none. -/
theorem agree_ofAttempt_bind {a : Attempt α} {f g : α → Act U β} (hf : ∀ x, a = .ok x → Agree P (f x) (g x)) :
    Agree P (ofAttempt a >>= f) (ofAttempt a >>= g) :=
  agree_bind_of_returns (agree_ofAttempt a) fun x _ _ h => hf x (returns_ofAttempt.mp h).1

/-! ## Failures -/

/-- Attempts agree when what is attempted does. -/
theorem agree_attempt {x y : Act U α} (h : Agree P x y) : Agree P (attempt x) (attempt y) := by
  intro w hw
  obtain ⟨hsame, hend⟩ := h w hw
  rw [outcome_attempt, outcome_attempt, ← hsame]
  cases hx : outcome x w with
  | mk r w' =>
    rw [hx] at hend
    rcases r with (f | _) | a
    · exact ⟨rfl, hend⟩
    · exact ⟨rfl, hend⟩
    · exact ⟨rfl, hend⟩

theorem agree_mapFailure {x y : Act U α} (f : Fault → Fault) (h : Agree P x y) :
    Agree P (mapFailure f x) (mapFailure f y) := by
  refine agree_bind (agree_attempt h) fun r => ?_
  cases r with
  | ok a => exact agree_pure a
  | error e => exact agree_fail _

/-! ## What changes the world -/

theorem agree_log {logger : Logger} {severity : Severity} {message : String}
    (h : ∀ w, P w → P (w.noting logger severity (some message))) :
    Agree P (log logger severity message : Act U Unit) (log logger severity message) := agree_modify h

theorem agree_logText {logger : Logger} {severity : Severity} {message : Attempt String}
    (h : ∀ w, P w → P (w.noting logger severity message.toOption)) :
    Agree P (logText logger severity message : Act U Unit) (logText logger severity message) := agree_modify h

/-- Calls of functions agree when both come to the same, and to a world where the statement holds. -/
theorem agree_withEnv {f g : Env U → α × Env U}
    (h : ∀ w, P w → f w.env = g w.env ∧ P { w with env := (f w.env).2 }) : Agree P (withEnv f) (withEnv g) := by
  intro w hw
  obtain ⟨hsame, hend⟩ := h w hw
  have hrun (k : Env U → α × Env U) :
      outcome (withEnv k) w = (.ok (k w.env).1, { w with env := (k w.env).2 }) := rfl
  rw [hrun, hrun, ← hsame]
  exact ⟨rfl, hend⟩

/-- Expansions of composites concern the state of application code alone. -/
theorem agree_expand (x : Expand U α) (h : ∀ w user, P w → P { w with env := { w.env with user := user } }) :
    Agree P (expand x) (expand x) := by
  intro w hw
  have hrun : outcome (expand x) w = outcome (ofAttempt (outcome x w.env.user).1)
      { w with env := { w.env with user := (outcome x w.env.user).2 } } := rfl
  rw [hrun]
  exact agree_ofAttempt _ _ (h w _ hw)

/-- A registration keeps what holds of every application that it may lead to. -/
theorem preserves_register {f : App → Except Refusal App}
    (h : ∀ w app, P w → f w.app = .ok app → P { w with app := app }) : Preserves P (register f : Act U Unit) := by
  refine preserves_of _ fun w hw => ?_
  rw [register, outcome_get_bind]
  cases happ : f w.app with
  | ok app => exact h w app hw happ
  | error r => exact hw

end Act

end ServerTree
