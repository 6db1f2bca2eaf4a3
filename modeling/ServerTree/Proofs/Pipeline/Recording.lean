import ServerTree.Proofs.Returns

/-!
# Recording calls

Application code that keeps a record of the calls of its functions does otherwise just what it did before.
What a computation calls is what it adds to this record. The record is in the state of application code,
which the library never looks at; so a computation with it follows the one without it, step by step.

## Main definitions
- `Call`, `StageCall`: the calls of functions
- `Behaviour.recorded`: functions that record their calls
- `Records`, `RecordsOnly`: a computation that follows another one and records calls

## Main statements
- `Records.bind`: what a sequence records
- `recordsOnly_bind`: a sequence records calls of a kind when both parts do
-/

namespace ServerTree

variable {U : Type}

/-! ## Calls -/

/-- The call of a handler or of scoped middleware with its context: how it ended, and the state of
application code afterwards. -/
structure StageCall (U : Type) where
  fn : Func
  ended : Settled
  after : U

/-- A call of a function of the application, by its role. -/
inductive Call (U : Type) where
  | stage (s : StageCall U)
  | composite (fn : Func)
  /-- A function that was called in the place of a method. -/
  | inPlace (fn : Func)
  /-- Any other role. -/
  | other

namespace Call

/-- The function of a call whose role is known. -/
def fn? : Call U → Option Func
  | .stage s => some s.fn
  | .composite fn | .inPlace fn => some fn
  | .other => none

/-- The call of a stage. -/
def stage? : Call U → Option (StageCall U)
  | .stage s => some s
  | _ => none

/-- The call of a composite. -/
def IsComposite : Call U → Prop
  | .composite _ => True
  | _ => False

/-- A call between those of stages, the last of which ended in the given way: of a function in the place of
a method or, when that stage returned a value, of a composite. -/
def MayFollow (last : Option Settled) : Call U → Prop
  | .inPlace _ => True
  | .composite _ => ∃ v, last = some (.returned v)
  | _ => False

variable {c : Call U}

theorem IsComposite.mayFollow (h : c.IsComposite) (v : Value) : c.MayFollow (some (.returned v)) := by
  cases c with
  | composite fn => exact ⟨v, rfl⟩
  | _ => exact absurd h id

/-- What may follow no stage may follow any. -/
theorem MayFollow.of_none (h : c.MayFollow none) (last : Option Settled) : c.MayFollow last := by
  cases c with
  | inPlace fn => trivial
  | composite fn =>
    obtain ⟨v, hv⟩ := h
    cases hv
  | _ => exact absurd h id

/-- What may follow a stage that failed may follow no stage. -/
theorem MayFollow.none_of_raised {f : Fault} (h : c.MayFollow (some (.raised f))) : c.MayFollow none := by
  cases c with
  | inPlace fn => trivial
  | composite fn =>
    obtain ⟨v, hv⟩ := h
    cases hv
  | _ => exact absurd h id

end Call

/-- The calls of stages among calls. -/
def stageCalls (calls : List (Call U)) : List (StageCall U) := calls.filterMap Call.stage?

@[simp] theorem stageCalls_append (calls calls' : List (Call U)) :
    stageCalls (calls ++ calls') = stageCalls calls ++ stageCalls calls' :=
  List.filterMap_append ..

theorem stageCalls_eq_nil {calls : List (Call U)} {last : Option Settled}
    (h : ∀ c ∈ calls, c.MayFollow last) : stageCalls calls = [] := by
  apply List.filterMap_eq_nil_iff.mpr
  intro c hc
  cases c with
  | stage s => exact absurd (h _ hc) id
  | _ => rfl

/-! ## Functions that record -/

/-- A state with a record of calls. -/
abbrev Recorded (U : Type) : Type := U × List (Call U)

/-- What application code can reach, with a record. -/
def Env.withCalls (e : Env U) (calls : List (Call U)) : Env (Recorded U) :=
  ⟨(e.user, calls), e.clock, e.log⟩

/-- What application code can reach, without the record. -/
def Env.plain (e : Env (Recorded U)) : Env U := ⟨e.user.1, e.clock, e.log⟩

/-- A record with one more call. -/
def Env.callsAnd (e : Env (Recorded U)) (c : Call U) : List (Call U) := e.user.2 ++ [c]

/-- The course of an engine function, which passes a record on. -/
def Course.withCalls (calls : List (Call U)) : Course U → Course (Recorded U)
  | .finish e result => .finish (e.withCalls calls) result
  | .next e request resume =>
    .next (e.withCalls calls) request fun e r => (resume e.plain r).withCalls e.user.2
  | .readBody e request resume =>
    .readBody (e.withCalls calls) request fun e r => (resume e.plain r).withCalls e.user.2

/-- The course of a plugin, which passes a record on. -/
def PluginCourse.withCalls (calls : List (Call U)) : PluginCourse U → PluginCourse (Recorded U)
  | .finish e result => .finish (e.withCalls calls) result
  | .act e step resume => .act (e.withCalls calls) step fun e r => (resume e.plain r).withCalls e.user.2

/-- The same functions, which record their calls. -/
def Behaviour.recorded (b : Behaviour U) : Behaviour (Recorded U) where
  expand fn props children := ExceptT.mk fun s =>
    let r := outcome (b.expand fn props children) s.1
    (r.1, (r.2, s.2 ++ [.composite fn]))
  handle fn argument reply e :=
    let r := b.handle fn argument reply e.plain
    ⟨r.outcome, r.argument, r.reply, r.env.withCalls (e.callsAnd (.stage ⟨fn, r.outcome, r.env.user⟩))⟩
  call fn arguments named e :=
    let r := b.call fn arguments named e.plain
    (r.1, r.2.withCalls (e.callsAnd (.inPlace fn)))
  -- a call that goes on was recorded when it began
  resume rest e :=
    let r := b.resume rest e.plain
    (r.1, r.2.withCalls e.user.2)
  provide fn e :=
    let r := b.provide fn e.plain
    (r.1, r.2.withCalls (e.callsAnd .other))
  plugin fn options config e := (b.plugin fn options config e.plain).withCalls (e.callsAnd .other)
  endpoint fn request e := (b.endpoint fn request e.plain).withCalls (e.callsAnd .other)
  around fn request e := (b.around fn request e.plain).withCalls (e.callsAnd .other)
  hook fn request response elapsed e :=
    let r := b.hook fn request response elapsed e.plain
    (r.1, r.2.withCalls (e.callsAnd .other))
  load path e :=
    let r := b.load path e.plain
    (r.1, r.2.withCalls (e.callsAnd .other))

/-- A world with a record of calls. -/
def World.withCalls (w : World U) (calls : List (Call U)) : World (Recorded U) :=
  ⟨w.env.withCalls calls, w.app, w.files, w.limiters, w.inbox, w.abandoned⟩

/-! ## Computations that record -/

section

variable {ε σ τ α β : Type} {embed : σ → List (Call U) → τ}

/-- A computation follows another one: from a state with a record it gives the same result, and the same
state afterwards with new calls in the record. -/
def Records (embed : σ → List (Call U) → τ) (y : ExceptT ε (StateM τ) α) (x : ExceptT ε (StateM σ) α)
    (s : σ) (new : List (Call U)) : Prop :=
  ∀ calls, outcome y (embed s calls) = ((outcome x s).1, embed (outcome x s).2 (calls ++ new))

theorem records_pure (a : α) (s : σ) :
    Records embed (pure a : ExceptT ε (StateM τ) α) (pure a) s [] := by
  intro calls
  rw [List.append_nil]
  rfl

theorem records_throw (e : ε) (s : σ) :
    Records embed (throw e : ExceptT ε (StateM τ) α) (throw e) s [] := by
  intro calls
  rw [List.append_nil]
  rfl

section

variable {y : ExceptT ε (StateM τ) α} {x : ExceptT ε (StateM σ) α} {g : α → ExceptT ε (StateM τ) β}
  {f : α → ExceptT ε (StateM σ) β} {s s₁ : σ} {new : List (Call U)}

/-- A sequence whose first computation returns records what both parts do. -/
theorem Records.bind {a : α} {new' : List (Call U)} (hy : Records embed y x s new)
    (hx : outcome x s = (.ok a, s₁)) (hg : Records embed (g a) (f a) s₁ new') :
    Records embed (y >>= g) (x >>= f) s (new ++ new') := by
  intro calls
  have hfirst := hy calls
  rw [hx] at hfirst
  rw [outcome_bind, outcome_bind, hfirst, hx]
  simp only
  rw [hg, List.append_assoc]

/-- A sequence whose first computation stops records what this does. -/
theorem Records.bind_stop {e : ε} (hy : Records embed y x s new) (hx : outcome x s = (.error e, s₁)) :
    Records embed (y >>= g) (x >>= f) s new := by
  intro calls
  have hfirst := hy calls
  rw [hx] at hfirst
  rw [outcome_bind, outcome_bind, hfirst, hx]

/-- Changing what is returned records nothing more. -/
theorem Records.bind_pure (hy : Records embed y x s new) (f : α → β) :
    Records embed (do return f (← y)) (do return f (← x)) s new := by
  cases hx : outcome x s with
  | mk r s₁ =>
    cases r with
    | error e => exact hy.bind_stop hx
    | ok a =>
      rw [← List.append_nil new]
      exact hy.bind hx (records_pure (f a) s₁)

end

/-! ## Computations that record some calls only -/

variable {P Q : Call U → Prop}

/-- A computation follows another one from any state and records calls of a kind only. -/
def RecordsOnly (P : Call U → Prop) (embed : σ → List (Call U) → τ) (y : ExceptT ε (StateM τ) α)
    (x : ExceptT ε (StateM σ) α) : Prop :=
  ∀ s, ∃ new, (∀ c ∈ new, P c) ∧ Records embed y x s new

theorem RecordsOnly.mono {y : ExceptT ε (StateM τ) α} {x : ExceptT ε (StateM σ) α}
    (h : RecordsOnly P embed y x) (hPQ : ∀ c, P c → Q c) : RecordsOnly Q embed y x := by
  intro s
  obtain ⟨new, hnew, hrecords⟩ := h s
  exact ⟨new, fun c hc => hPQ c (hnew c hc), hrecords⟩

/-- A computation that records calls of no kind records none. -/
theorem RecordsOnly.records_nil {y : ExceptT ε (StateM τ) α} {x : ExceptT ε (StateM σ) α}
    (h : RecordsOnly (fun _ => False) embed y x) (s : σ) : Records embed y x s [] := by
  obtain ⟨new, hnew, hrecords⟩ := h s
  rwa [List.eq_nil_iff_forall_not_mem.mpr hnew] at hrecords

theorem recordsOnly_pure (a : α) : RecordsOnly P embed (pure a : ExceptT ε (StateM τ) α) (pure a) :=
  fun s => ⟨[], by simp, records_pure a s⟩

theorem recordsOnly_throw (e : ε) :
    RecordsOnly P embed (throw e : ExceptT ε (StateM τ) α) (throw e) :=
  fun s => ⟨[], by simp, records_throw e s⟩

/-- A sequence records calls of a kind when both parts do. -/
theorem recordsOnly_bind {y : ExceptT ε (StateM τ) α} {x : ExceptT ε (StateM σ) α}
    {g : α → ExceptT ε (StateM τ) β} {f : α → ExceptT ε (StateM σ) β} (hy : RecordsOnly P embed y x)
    (hg : ∀ a, RecordsOnly P embed (g a) (f a)) : RecordsOnly P embed (y >>= g) (x >>= f) := by
  intro s
  obtain ⟨new, hnew, hrecords⟩ := hy s
  cases hx : outcome x s with
  | mk r s₁ =>
    cases r with
    | error e => exact ⟨new, hnew, hrecords.bind_stop hx⟩
    | ok a =>
      obtain ⟨new', hnew', hrecords'⟩ := hg a s₁
      refine ⟨new ++ new', ?_, hrecords.bind hx hrecords'⟩
      intro c hc
      rcases List.mem_append.mp hc with hc | hc
      · exact hnew c hc
      · exact hnew' c hc

/-- A loop records calls of a kind when each of its rounds does. -/
theorem recordsOnly_forIn {γ : Type} {g : γ → ExceptT ε (StateM τ) PUnit}
    {f : γ → ExceptT ε (StateM σ) PUnit} (h : ∀ c, RecordsOnly P embed (g c) (f c)) (cs : List γ) :
    RecordsOnly P embed (do for c in cs do g c) (do for c in cs do f c) := by
  refine recordsOnly_bind ?_ fun _ => recordsOnly_pure _
  -- each round ends by going on, so the loop is its first round and the loop over the rest
  induction cs with
  | nil => exact recordsOnly_pure _
  | cons c cs ih =>
    rw [List.forIn_cons, List.forIn_cons]
    refine recordsOnly_bind ?_ fun r => ?_
    · exact recordsOnly_bind (h c) fun _ => recordsOnly_pure _
    · cases r with
      | done r => exact recordsOnly_pure _
      | yield r => exact ih

/-- A computation that looks at the state records what it goes on with, when the record does not tell. -/
theorem recordsOnly_of_outcome {y : ExceptT ε (StateM τ) α} {x : ExceptT ε (StateM σ) α}
    (h : ∀ s, ∃ y' x' s', RecordsOnly P embed y' x' ∧ outcome x s = outcome x' s' ∧
      ∀ calls, outcome y (embed s calls) = outcome y' (embed s' calls)) :
    RecordsOnly P embed y x := by
  intro s
  obtain ⟨y', x', s', hrecords, hx, hy⟩ := h s
  obtain ⟨new, hnew, hrecords⟩ := hrecords s'
  refine ⟨new, hnew, ?_⟩
  intro calls
  rw [hx, hy]
  exact hrecords calls

end

/-! ## Computations in a world -/

/-- A computation in a world that follows another one and records calls of a kind only. -/
abbrev Act.CallsOnly {α : Type} (P : Call U → Prop) (y : Act (Recorded U) α) (x : Act U α) : Prop :=
  RecordsOnly P World.withCalls y x

/-- An expansion of composites that follows another one and records calls of a kind only. -/
abbrev Expand.CallsOnly {α : Type} (P : Call U → Prop) (y : Expand (Recorded U) α) (x : Expand U α) :
    Prop :=
  RecordsOnly P Prod.mk y x

/-- What a computation in a world records is determined. -/
theorem Records.unique {ε α : Type} {y : ExceptT ε (StateM (World (Recorded U))) α}
    {x : ExceptT ε (StateM (World U)) α} {w : World U} {new new' : List (Call U)}
    (h : Records World.withCalls y x w new) (h' : Records World.withCalls y x w new') : new = new' := by
  have hsame : (outcome x w).2.withCalls ([] ++ new) = (outcome x w).2.withCalls ([] ++ new') :=
    congrArg Prod.snd ((h []).symm.trans (h' []))
  exact congrArg (fun w => w.env.user.2) hsame

namespace Act

variable {α : Type} {P : Call U → Prop}

theorem callsOnly_ofAttempt (a : Attempt α) :
    CallsOnly P (ofAttempt a : Act (Recorded U) α) (ofAttempt a) := by
  cases a with
  | ok x => exact recordsOnly_pure x
  | error f => exact recordsOnly_throw _

theorem callsOnly_refuse (r : Refusal) :
    CallsOnly P (refuse r : Act (Recorded U) α) (refuse r) :=
  recordsOnly_throw _

/-- Changes that leave a record alone. -/
theorem callsOnly_modify {g : World (Recorded U) → World (Recorded U)} {f : World U → World U}
    (h : ∀ w calls, g (w.withCalls calls) = (f w).withCalls calls) :
    CallsOnly P (modify g : Act (Recorded U) PUnit) (modify f) := by
  intro w
  refine ⟨[], by simp, ?_⟩
  intro calls
  rw [List.append_nil]
  exact congrArg (fun w => (Except.ok PUnit.unit, w)) (h w calls)

theorem callsOnly_log (logger : Logger) (severity : Severity) (message : String) :
    CallsOnly P (log logger severity message : Act (Recorded U) Unit) (log logger severity message) :=
  callsOnly_modify fun _ _ => rfl

theorem callsOnly_logText (logger : Logger) (severity : Severity) (message : Attempt String) :
    CallsOnly P (logText logger severity message : Act (Recorded U) Unit)
      (logText logger severity message) :=
  callsOnly_modify fun _ _ => rfl

/-- A call of application code records what the function does. -/
theorem records_withEnv {g : Env (Recorded U) → α × Env (Recorded U)} {f : Env U → α × Env U}
    {w : World U} {new : List (Call U)}
    (h : ∀ calls, g (w.env.withCalls calls) = ((f w.env).1, (f w.env).2.withCalls (calls ++ new))) :
    Records World.withCalls (withEnv g) (withEnv f) w new := by
  intro calls
  have hg : outcome (withEnv g) (w.withCalls calls) =
      (.ok (g (w.env.withCalls calls)).1,
        { w.withCalls calls with env := (g (w.env.withCalls calls)).2 }) := rfl
  rw [hg, h]
  rfl

/-- Calling a value in the place of a method calls no stage. -/
theorem callsOnly_callValue {last : Option Settled} (b : Behaviour U) (fn : Value)
    (arguments : List Value) (named : List (String × Value)) :
    CallsOnly (Call.MayFollow last) (withEnv (b.recorded.callValue fn arguments named))
      (withEnv (b.callValue fn arguments named)) := by
  intro w
  cases fn with
  | func f => exact ⟨[.inPlace f], by simp [Call.MayFollow], records_withEnv fun _ => rfl⟩
  | _ => exact ⟨[], by simp, records_withEnv fun _ => by rw [List.append_nil]; rfl⟩

/-- An expansion of composites records what it does in the state of application code. -/
theorem callsOnly_expand {y : Expand (Recorded U) α} {x : Expand U α} (h : Expand.CallsOnly P y x) :
    CallsOnly P (expand y) (expand x) := by
  intro w
  obtain ⟨new, hnew, hrecords⟩ := h w.env.user
  refine ⟨new, hnew, ?_⟩
  intro calls
  -- both run the expansion in the state of application code and put what it leaves back
  have hy : outcome (expand y) (w.withCalls calls) =
      outcome (ofAttempt (outcome y (w.env.user, calls)).1)
        { w.withCalls calls with
          env := { (w.withCalls calls).env with user := (outcome y (w.env.user, calls)).2 } } := rfl
  have hx : outcome (expand x) w =
      outcome (ofAttempt (outcome x w.env.user).1)
        { w with env := { w.env with user := (outcome x w.env.user).2 } } := rfl
  rw [hy, hx, hrecords]
  cases (outcome x w.env.user).1 <;> rfl

theorem callsOnly_expand_composites {y : Expand (Recorded U) α} {x : Expand U α}
    (h : Expand.CallsOnly Call.IsComposite y x) (v : Value) :
    CallsOnly (Call.MayFollow (some (.returned v))) (expand y) (expand x) :=
  callsOnly_expand (h.mono fun _ hc => hc.mayFollow v)

end Act

/-! ## Composites -/

namespace Expand

variable {α : Type} {P : Call U → Prop}

theorem callsOnly_ofAttempt (a : Attempt α) :
    CallsOnly P (Expand.ofAttempt a : Expand (Recorded U) α) (Expand.ofAttempt a) := by
  cases a with
  | ok x => exact recordsOnly_pure x
  | error f => exact recordsOnly_throw _

variable (b : Behaviour U)

/-- The function of a composite is called as a composite. -/
theorem callsOnly_callComposite (type : Value) (props : List (Value × Value)) (children : List Value) :
    CallsOnly Call.IsComposite (callComposite b.recorded.expand type props children)
      (callComposite b.expand type props children) := by
  cases type with
  | func f =>
    simp only [callComposite]
    split
    · exact fun s => ⟨[.composite f], by simp [Call.IsComposite], fun _ => rfl⟩
    · exact recordsOnly_throw _
  | _ => exact recordsOnly_throw _

theorem callsOnly_resolveWithin (n : Nat) (v : Value) :
    CallsOnly Call.IsComposite (resolveWithin b.recorded.expand n v) (resolveWithin b.expand n v) := by
  induction n generalizing v with
  | zero => cases v <;> first | exact recordsOnly_pure _ | exact recordsOnly_throw _
  | succ n ih =>
    cases v with
    | element type props children =>
      refine recordsOnly_bind (callsOnly_callComposite b type props children) fun v => ?_
      exact recordsOnly_bind (ih v) fun r => recordsOnly_pure _
    | _ => exact recordsOnly_pure _

/-- Resolving a value calls composites alone. -/
theorem callsOnly_resolve (v : Value) :
    CallsOnly Call.IsComposite (resolve b.recorded.expand v) (resolve b.expand v) :=
  callsOnly_resolveWithin b maxExpansions v

end Expand

end ServerTree
