import ServerTree.Proofs.Invariance

/-!
# What computations leave alone

Most of what a running application does concerns its log, its clock, the state of application code and the
request in progress. A statement about the application itself and about its limiters that holds before such
a computation holds afterwards, whether it returns or stops.

## Main definitions
- `Act.Keeps`: a computation keeps a statement about the application and the limiters

## Main statements
- `keeps_bind`, `keeps_attempt`: sequences and attempts keep what their parts keep
-/

namespace ServerTree

variable {U : Type} {α β : Type}

/-- The limiters of the endpoints of an application, by their numbers, over times of some type. -/
abbrev Bank (τ : Type) : Type := List (Nat × Limiter Value τ)

namespace Act

variable {J : App → Bank Float → Prop}

/-- A computation keeps a statement about the application and the limiters, however it ends. -/
def Keeps (J : App → Bank Float → Prop) (x : Act U α) : Prop :=
  ∀ w, J w.app w.limiters → J (outcome x w).2.app (outcome x w).2.limiters

theorem Preserves.keeps {x : Act U α} (h : Preserves (fun w => J w.app w.limiters) x) : Keeps J x :=
  fun _ hw => h.holds hw

/-! ## Sequences -/

theorem keeps_pure (a : α) : Keeps J (pure a : Act U α) := fun _ h => h

theorem keeps_throw (stop : Stop) : Keeps J (throw stop : Act U α) := fun _ h => h

theorem keeps_fail (f : Fault) : Keeps J (fail f : Act U α) := fun _ h => h

theorem keeps_refuse (r : Refusal) : Keeps J (refuse r : Act U α) := fun _ h => h

theorem keeps_get : Keeps J (get : Act U (World U)) := fun _ h => h

/-- What holds where the first computation of a sequence ends, and is kept by all that may follow, holds
where the sequence ends. -/
theorem keeps_bind_from {x : Act U α} {f : α → Act U β} {w : World U}
    (hx : J (outcome x w).2.app (outcome x w).2.limiters) (hf : ∀ a, Keeps J (f a)) :
    J (outcome (x >>= f) w).2.app (outcome (x >>= f) w).2.limiters :=
  holds_bind (P := fun w => J w.app w.limiters) hx fun a w' _ hw' => hf a w' hw'

/-- A sequence keeps what its first computation keeps and what all that may follow keeps. -/
theorem keeps_bind {x : Act U α} {f : α → Act U β} (hx : Keeps J x) (hf : ∀ a, Keeps J (f a)) :
    Keeps J (x >>= f) :=
  fun w hw => keeps_bind_from (hx w hw) hf

theorem keeps_ofAttempt (a : Attempt α) : Keeps J (ofAttempt a : Act U α) :=
  Preserves.keeps (agree_ofAttempt a)

/-! ## Failures -/

/-- An attempt ends in the world in which the computation ended. -/
theorem keeps_attempt {x : Act U α} (hx : Keeps J x) : Keeps J (attempt x) :=
  Preserves.keeps (agree_attempt (preserves_of x hx))

/-! ## What does not concern the application -/

theorem keeps_log (logger : Logger) (severity : Severity) (message : String) :
    Keeps J (log logger severity message : Act U Unit) := fun _ h => h

theorem keeps_withEnv (f : Env U → α × Env U) : Keeps J (withEnv f) := fun _ h => h

theorem keeps_changeLog (f : Log → Attempt Log) : Keeps J (changeLog f : Act U Unit) := by
  intro w hw
  have hend : outcome (changeLog f : Act U Unit) w = outcome (do
      let log ← ofAttempt (f w.env.log)
      set { w with env := { w.env with log := log } } : Act U Unit) w := rfl
  rw [hend]
  cases f w.env.log with
  | ok log => exact hw
  | error e => exact hw

theorem keeps_expand (x : Expand U α) : Keeps J (expand x) :=
  Preserves.keeps (agree_expand x fun _ _ hw => hw)

/-! ## Registrations -/

/-- A registration keeps what holds of every application that it may lead to. -/
theorem keeps_register {f : App → Except Refusal App}
    (hf : ∀ app app' bank, f app = .ok app' → J app bank → J app' bank) :
    Keeps J (register f : Act U Unit) :=
  Preserves.keeps (preserves_register fun w app hw happ => hf w.app app w.limiters happ hw)

end Act

end ServerTree
