import ServerTree.Proofs.Returns

/-!
# Computations side by side

Two computations are alike when, from states that are alike, both return values that are alike, or both stop
for the same reason, and the states in which they end are alike again. What a computation does not look at can
then be exchanged without a difference to what it comes to.

## Main definitions
- `Alike`: two computations do the same as far as two relations tell
- `World.Like`: worlds that differ in what is still to be received, and in nothing else

## Main statements
- `Alike.bind`, `alike_forIn`, `Act.alike_attempt`: sequences, loops and attempts are alike when their parts
  are
-/

namespace ServerTree

section

variable {ε σ α α' β β' : Type} {R : σ → σ → Prop} {S : α → α' → Prop} {T : β → β' → Prop}

/-- Two ends of computations tell the same: values and states that are alike, or the same reason to stop. -/
inductive EndsAlike (R : σ → σ → Prop) (S : α → α' → Prop) : Except ε α × σ → Except ε α' × σ → Prop
  | returned {a : α} {a' : α'} {s s' : σ} : S a a' → R s s' → EndsAlike R S (.ok a, s) (.ok a', s')
  | stopped {s s' : σ} (e : ε) : R s s' → EndsAlike R S (.error e, s) (.error e, s')

/-- How two computations end alike. -/
theorem EndsAlike.ways {x : Except ε α × σ} {y : Except ε α' × σ} (h : EndsAlike R S x y) :
    (∃ a a' s s', x = (.ok a, s) ∧ y = (.ok a', s') ∧ S a a' ∧ R s s') ∨
      ∃ e s s', x = (.error e, s) ∧ y = (.error e, s') ∧ R s s' := by
  cases h with
  | returned ha hs => exact .inl ⟨_, _, _, _, rfl, rfl, ha, hs⟩
  | stopped e hs => exact .inr ⟨e, _, _, rfl, rfl, hs⟩

theorem EndsAlike.fst_eq {x y : Except ε α × σ} (h : EndsAlike R Eq x y) : x.1 = y.1 := by
  cases h with
  | returned ha hs => rw [ha]
  | stopped e hs => rfl

theorem EndsAlike.snd {x : Except ε α × σ} {y : Except ε α' × σ} (h : EndsAlike R S x y) :
    R x.2 y.2 := by
  cases h with
  | returned ha hs => exact hs
  | stopped e hs => exact hs

/-- From states that are alike, two computations end alike. -/
def Alike (R : σ → σ → Prop) (S : α → α' → Prop) (x : ExceptT ε (StateM σ) α)
    (y : ExceptT ε (StateM σ) α') : Prop :=
  ∀ s s', R s s' → EndsAlike R S (outcome x s) (outcome y s')

/-! ## Sequences -/

theorem alike_pure {a : α} {a' : α'} (h : S a a') :
    Alike R S (pure a : ExceptT ε (StateM σ) α) (pure a') := fun _ _ hs => .returned h hs

theorem alike_throw (e : ε) : Alike R S (throw e : ExceptT ε (StateM σ) α) (throw e) :=
  fun _ _ hs => .stopped e hs

theorem alike_get : Alike R R (get : ExceptT ε (StateM σ) σ) get := fun _ _ hs => .returned hs hs

theorem alike_set {s s' : σ} (h : R s s') :
    Alike R Eq (set s : ExceptT ε (StateM σ) PUnit) (set s') := fun _ _ _ => .returned rfl h

theorem alike_modify {f g : σ → σ} (h : ∀ s s', R s s' → R (f s) (g s')) :
    Alike R Eq (modify f : ExceptT ε (StateM σ) PUnit) (modify g) :=
  fun s s' hs => .returned rfl (h s s' hs)

/-- What follows ends alike goes on alike. -/
theorem EndsAlike.bind {x : ExceptT ε (StateM σ) α} {y : ExceptT ε (StateM σ) α'}
    {f : α → ExceptT ε (StateM σ) β} {g : α' → ExceptT ε (StateM σ) β'} {s s' : σ}
    (hx : EndsAlike R S (outcome x s) (outcome y s')) (hf : ∀ a a', S a a' → Alike R T (f a) (g a')) :
    EndsAlike R T (outcome (x >>= f) s) (outcome (y >>= g) s') := by
  rw [outcome_bind, outcome_bind]
  obtain ⟨a, a', t, t', hx, hy, ha, ht⟩ | ⟨e, t, t', hx, hy, ht⟩ := hx.ways
  · rw [hx, hy]
    exact hf a a' ha t t' ht
  · rw [hx, hy]
    exact .stopped e ht

/-- Sequences are alike when their first computations are, and what follows values that are alike. -/
theorem Alike.bind {x : ExceptT ε (StateM σ) α} {y : ExceptT ε (StateM σ) α'}
    {f : α → ExceptT ε (StateM σ) β} {g : α' → ExceptT ε (StateM σ) β'} (hx : Alike R S x y)
    (hf : ∀ a a', S a a' → Alike R T (f a) (g a')) : Alike R T (x >>= f) (y >>= g) :=
  fun s s' hs => (hx s s' hs).bind hf

/-- A first computation of one side alone makes no difference when it returns and leaves states alike. -/
theorem Alike.bind_left {P : α → Prop} {x : ExceptT ε (StateM σ) α} {f : α → ExceptT ε (StateM σ) β}
    {y : ExceptT ε (StateM σ) β'}
    (hx : ∀ s s', R s s' → ∃ a t, outcome x s = (.ok a, t) ∧ P a ∧ R t s')
    (hf : ∀ a, P a → Alike R T (f a) y) : Alike R T (x >>= f) y := by
  intro s s' hs
  obtain ⟨a, t, hreturn, ha, ht⟩ := hx s s' hs
  rw [outcome_bind, hreturn]
  exact hf a ha t s' ht

/-- What follows a value that both first computations give. -/
theorem Alike.bind_eq {x y : ExceptT ε (StateM σ) α} {f : α → ExceptT ε (StateM σ) β}
    {g : α → ExceptT ε (StateM σ) β'} (hx : Alike R Eq x y) (hf : ∀ a, Alike R T (f a) (g a)) :
    Alike R T (x >>= f) (y >>= g) := by
  refine hx.bind ?_
  rintro a _ rfl
  exact hf a

/-- Loops are alike when their rounds are. -/
theorem alike_forIn {γ : Type} {f g : γ → β → ExceptT ε (StateM σ) (ForInStep β)}
    (hf : ∀ c b, Alike R Eq (f c b) (g c b)) (cs : List γ) (init : β) :
    Alike R Eq (forIn cs init f) (forIn cs init g) := by
  induction cs generalizing init with
  | nil => exact alike_pure rfl
  | cons c cs ih =>
    rw [List.forIn_cons, List.forIn_cons]
    refine (hf c init).bind_eq fun step => ?_
    cases step with
    | done b => exact alike_pure rfl
    | yield b => exact ih b

end

namespace Act

variable {U : Type} {α : Type} {R : World U → World U → Prop}

theorem alike_fail {S : α → α → Prop} (f : Fault) : Alike R S (fail f : Act U α) (fail f) :=
  alike_throw _

theorem alike_refuse {S : α → α → Prop} (r : Refusal) : Alike R S (refuse r : Act U α) (refuse r) :=
  alike_throw _

theorem alike_ofAttempt (a : Attempt α) : Alike R Eq (ofAttempt a : Act U α) (ofAttempt a) := by
  cases a with
  | ok a => exact alike_pure rfl
  | error f => exact alike_fail f

/-- Attempts are alike when what is attempted is. -/
theorem alike_attempt {x y : Act U α} (h : Alike R Eq x y) : Alike R Eq (attempt x) (attempt y) := by
  intro w w' hw
  rw [outcome_attempt, outcome_attempt]
  obtain ⟨a, _, v, v', hx, hy, rfl, hv⟩ | ⟨e, v, v', hx, hy, hv⟩ := (h w w' hw).ways
  · rw [hx, hy]
    exact .returned rfl hv
  · rw [hx, hy]
    cases e with
    | failed f => exact .returned rfl hv
    | unsettled => exact .stopped _ hv

end Act

/-! ## Worlds that differ in what is still to be received -/

/-- Two worlds differ in their inboxes only, and these are in a relation, which may depend on the application
of both. -/
def World.Like {U : Type} (P : App → Inbox → Inbox → Prop) (w w' : World U) : Prop :=
  ∃ inbox, w' = { w with inbox := inbox } ∧ P w.app w.inbox inbox

namespace Act

variable {U : Type} {α : Type} {P : App → Inbox → Inbox → Prop}

/-- Application code does not look at what is still to be received. -/
theorem alike_withEnv (f : Env U → α × Env U) :
    Alike (World.Like P) Eq (withEnv f) (withEnv f) := by
  rintro w _ ⟨inbox, rfl, hP⟩
  exact .returned rfl ⟨inbox, rfl, hP⟩

theorem alike_expand (x : Expand U α) : Alike (World.Like P) Eq (expand x) (expand x) := by
  refine alike_get.bind ?_
  rintro w _ ⟨inbox, rfl, hP⟩
  exact (alike_set ⟨inbox, rfl, hP⟩).bind_eq fun _ => alike_ofAttempt _

theorem alike_log (logger : Logger) (severity : Severity) (message : String) :
    Alike (World.Like P) Eq (log logger severity message : Act U Unit) (log logger severity message) := by
  refine alike_modify ?_
  rintro w _ ⟨inbox, rfl, hP⟩
  exact ⟨inbox, rfl, hP⟩

theorem alike_logText (logger : Logger) (severity : Severity) (message : Attempt String) :
    Alike (World.Like P) Eq (logText logger severity message : Act U Unit)
      (logText logger severity message) := by
  refine alike_modify ?_
  rintro w _ ⟨inbox, rfl, hP⟩
  exact ⟨inbox, rfl, hP⟩

theorem alike_changeLog (f : Log → Attempt Log) :
    Alike (World.Like P) Eq (changeLog f : Act U Unit) (changeLog f) := by
  refine alike_get.bind ?_
  rintro w _ ⟨inbox, rfl, hP⟩
  exact (alike_ofAttempt _).bind_eq fun log => alike_set ⟨inbox, rfl, hP⟩

/-- What is alike as far as equal inboxes go comes to the same. -/
theorem outcome_eq_of_alike (hP : ∀ app i j, P app i j → i = j) {x y : Act U α}
    (h : Alike (World.Like P) Eq x y) {w : World U} (hw : P w.app w.inbox w.inbox) :
    outcome x w = outcome y w := by
  have hends := h w w ⟨w.inbox, rfl, hw⟩
  obtain ⟨inbox, hworld, hinbox⟩ := hends.snd
  refine Prod.ext hends.fst_eq ?_
  rw [hworld, ← hP _ _ _ hinbox]

end Act

end ServerTree
