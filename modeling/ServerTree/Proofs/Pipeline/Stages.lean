import ServerTree.Proofs.Pipeline.Recording
import ServerTree.Pipeline.Handler

/-!
# The stages of a request

Serving a request calls middleware in order and then the handler, and each of them only after all earlier
ones have settled with a result that lets the request go on.

## Main definitions
- `StageCall.Continues`: a call after which the next stage runs
- `Explained`: calls besides those of stages may follow the last stage before them
- `Staged`: the calls of stages that stop at the first one that does not let the request go on

## Main statements
- `runMiddleware_records`: what one middleware calls
- `runChain_records`: what a chain of middleware calls
- `serve_records`: what serving a request calls
-/

namespace ServerTree

variable {U : Type} (b : Behaviour U)

/-! ## What calls no stage -/

namespace Expand

/-- Interpreting a result calls composites alone. -/
theorem callsOnly_interpret (result : Value) :
    CallsOnly Call.IsComposite (interpret b.recorded.expand result) (interpret b.expand result) := by
  unfold interpret
  -- elements alone are expanded; any other result is interpreted as it is
  cases result with
  | element type props children =>
    refine recordsOnly_bind (callsOnly_resolve b _) fun r => ?_
    cases r with
    | node p cs => exact callsOnly_ofAttempt _
    | _ => exact recordsOnly_pure _
  | node p cs => exact callsOnly_ofAttempt _
  | bool x => cases x <;> exact recordsOnly_pure _
  | _ => exact recordsOnly_pure _

mutual

/-- Folding a response tree calls composites alone. -/
theorem callsOnly_applyTree (fuel : Nat) (v : Value) (d : Descriptor) :
    CallsOnly Call.IsComposite (applyTree b.recorded.expand fuel v d) (applyTree b.expand fuel v d) := by
  cases fuel with
  | zero =>
    rw [applyTree, applyTree]
    exact recordsOnly_throw _
  | succ fuel =>
    rw [applyTree, applyTree]
    refine recordsOnly_bind (callsOnly_resolve b v) fun r => ?_
    cases r with
    | nothing => exact recordsOnly_pure _
    | items xs => exact callsOnly_applyTrees fuel xs d
    | node p cs =>
      cases p with
      | response => exact callsOnly_applyTrees fuel cs d
      | _ => exact callsOnly_ofAttempt _
termination_by (fuel, 0)

theorem callsOnly_applyTrees (fuel : Nat) (vs : List Value) (d : Descriptor) :
    CallsOnly Call.IsComposite (applyTrees b.recorded.expand fuel vs d)
      (applyTrees b.expand fuel vs d) := by
  cases vs with
  | nil =>
    rw [applyTrees, applyTrees]
    exact recordsOnly_pure _
  | cons v vs =>
    rw [applyTrees, applyTrees]
    exact recordsOnly_bind (callsOnly_applyTree fuel v d) fun d => callsOnly_applyTrees fuel vs d
termination_by (fuel, vs.length + 1)

end

/-- Rendering the result of a handler calls composites alone. -/
theorem callsOnly_renderResult (result : Value) (reply : Reply) :
    CallsOnly Call.IsComposite (renderResult b.recorded.expand result reply)
      (renderResult b.expand result reply) := by
  unfold renderResult
  -- a reply that was sent is the response, and nothing of the result is expanded
  split
  · exact callsOnly_ofAttempt _
  · cases result with
    | none => exact recordsOnly_pure _
    | response r => exact recordsOnly_pure _
    | str s => exact recordsOnly_pure _
    | bytes s => exact recordsOnly_pure _
    | _ =>
      simp only
      split
      · exact recordsOnly_bind (callsOnly_applyTree b _ _ _) fun d => callsOnly_ofAttempt _
      · exact callsOnly_ofAttempt _

end Expand

namespace Act

variable {P : Call U → Prop} {last : Option Settled}

/-- Calling what stands in the place of a method calls no stage. -/
theorem callsOnly_callInPlace (fn : Value) (arguments : List Value) (named : List (String × Value)) :
    CallsOnly (Call.MayFollow last) (callInPlace b.recorded fn arguments named)
      (callInPlace b fn arguments named) := by
  refine recordsOnly_bind (callsOnly_callValue b fn arguments named) fun r => ?_
  cases r with
  | returned v => exact recordsOnly_pure v
  | raised f => exact recordsOnly_throw _
  | suspended rest => exact recordsOnly_throw _

/-- Warning of reserved keys calls nothing. -/
theorem callsOnly_warnReserved (source : Value) :
    CallsOnly P (warnReserved source : Act (Recorded U) Unit) (warnReserved source) :=
  recordsOnly_forIn (fun _ => callsOnly_log _ _ _) (reservedKeys source)

/-- Answering a halted request calls no stage. -/
theorem callsOnly_haltedAnswer (v : Visit) :
    CallsOnly (Call.MayFollow last) (haltedAnswer b.recorded v) (haltedAnswer b v) := by
  unfold haltedAnswer
  cases Assoc.get? (.str "reply") v.fields with
  | none => exact callsOnly_refuse _
  | some other =>
    -- what stands in the place of the reply is asked whether it was sent, and then for its response
    have hother : CallsOnly (Call.MayFollow last)
        (do
          let sent ← ofAttempt (other.part "sent")
          if sent.truthy then
            let fn ← ofAttempt (other.part "to_response")
            callInPlace b.recorded fn [] []
          else return Value.response .empty)
        (do
          let sent ← ofAttempt (other.part "sent")
          if sent.truthy then
            let fn ← ofAttempt (other.part "to_response")
            callInPlace b fn [] []
          else return Value.response .empty) := by
      refine recordsOnly_bind (callsOnly_ofAttempt _) fun sent => ?_
      split
      · exact recordsOnly_bind (callsOnly_ofAttempt _) fun fn => callsOnly_callInPlace b fn [] []
      · exact recordsOnly_pure _
    cases other with
    | reply => exact recordsOnly_bind (callsOnly_ofAttempt _) fun r => recordsOnly_pure _
    | _ => exact hother

/-- What a signal does to a request calls no stage. -/
theorem callsOnly_applySignal (v : Visit) (signal : Signal Value) :
    CallsOnly (Call.MayFollow last) (applySignal b.recorded v signal) (applySignal b v signal) := by
  cases signal with
  | proceed => exact recordsOnly_pure _
  | halt => exact recordsOnly_bind (callsOnly_haltedAnswer b v) fun r => recordsOnly_pure _
  | augment source =>
    unfold applySignal
    cases methodField? "augment" v.fields with
    | some fn => exact recordsOnly_bind (callsOnly_callInPlace b fn _ _) fun _ => recordsOnly_pure _
    | none => exact recordsOnly_bind (callsOnly_warnReserved source) fun _ => recordsOnly_pure _
  | fail status message => exact recordsOnly_bind (callsOnly_ofAttempt _) fun shown => recordsOnly_pure _

/-- Answering a request whose middleware failed calls nothing. -/
theorem callsOnly_middlewareFailed (name : String) (timeout : Value) (f : Fault) :
    CallsOnly P (middlewareFailed name timeout f : Act (Recorded U) Progress)
      (middlewareFailed name timeout f) := by
  unfold middlewareFailed
  split
  · refine recordsOnly_bind (callsOnly_logText _ _ _) fun _ => ?_
    refine recordsOnly_bind (callsOnly_ofAttempt _) fun status => ?_
    exact recordsOnly_bind (callsOnly_ofAttempt _) fun message => recordsOnly_pure _
  · refine recordsOnly_bind (callsOnly_ofAttempt _) fun logged => ?_
    refine recordsOnly_bind (callsOnly_log _ _ _) fun _ => ?_
    exact recordsOnly_bind (callsOnly_ofAttempt _) fun shown => recordsOnly_pure _

/-- Making the view of a middleware calls no stage. -/
theorem callsOnly_viewOf (m : ScopedMiddleware Value) (v : Visit) :
    CallsOnly (Call.MayFollow last) (viewOf b.recorded m v) (viewOf b m v) := by
  unfold viewOf
  cases methodField? "fork" v.fields with
  | none => exact recordsOnly_pure _
  | some fn => exact recordsOnly_bind (callsOnly_callInPlace b fn _ _) fun view => recordsOnly_pure _

/-- Answering a request whose handler failed calls nothing. -/
theorem callsOnly_handlerFailed (route : String) (reply : Reply) (f : Fault) :
    CallsOnly P (handlerFailed route reply f : Act (Recorded U) (Response Value))
      (handlerFailed route reply f) := by
  unfold handlerFailed
  simp only
  split
  · refine recordsOnly_bind (callsOnly_log _ _ _) fun _ => ?_
    split
    · exact callsOnly_ofAttempt _
    · exact recordsOnly_bind (callsOnly_ofAttempt _) fun shown => recordsOnly_pure _
  · refine recordsOnly_bind (callsOnly_log _ _ _) fun _ => ?_
    split
    · exact callsOnly_ofAttempt _
    · exact recordsOnly_bind (callsOnly_ofAttempt _) fun shown => recordsOnly_pure _

end Act

/-! ## Stages in order -/

/-- The next stage runs after a call that settled with a result whose signal is to go on. -/
def StageCall.Continues (s : StageCall U) : Prop :=
  ∃ v signal, s.ended = .returned v ∧ (outcome (interpret b.expand v) s.after).1 = .ok signal ∧
    (signal = .proceed ∨ ∃ source, signal = .augment source)

/-- Calls among which those that are no stages may follow the last stage before them. -/
def Explained : Option Settled → List (Call U) → Prop
  | _, [] => True
  | _, .stage s :: calls => Explained (some s.ended) calls
  | last, c :: calls => c.MayFollow last ∧ Explained last calls

/-- Calls of the functions of stages from the first one on, each of them once and in order, as long as the
request goes on. -/
structure Staged (fns : List Value) (calls : List (Call U)) : Prop where
  inOrder : (stageCalls calls).map (fun s => Value.func s.fn) <+: fns
  continues : ∀ s ∈ (stageCalls calls).dropLast, s.Continues b
  explained : Explained none calls

/-- Calls of the functions of all stages, after each of which the request goes on. -/
structure Passed (fns : List Value) (calls : List (Call U)) : Prop where
  inOrder : (stageCalls calls).map (fun s => Value.func s.fn) = fns
  continues : ∀ s ∈ stageCalls calls, s.Continues b
  explained : Explained none calls

variable {b} {fns fns' : List Value} {calls calls' : List (Call U)} {last : Option Settled}

theorem explained_of_mayFollow (h : ∀ c ∈ calls, c.MayFollow last) : Explained last calls := by
  induction calls with
  | nil => trivial
  | cons c calls ih =>
    have hc := h c (List.mem_cons_self ..)
    have hrest := ih fun c' hc' => h c' (List.mem_cons_of_mem _ hc')
    cases c with
    | stage s => exact absurd hc id
    | _ => exact ⟨hc, hrest⟩

/-- Calls that need no stage before them may follow any. -/
theorem Explained.of_none (h : Explained none calls) (last : Option Settled) : Explained last calls := by
  induction calls with
  | nil => trivial
  | cons c calls ih =>
    cases c with
    | stage s => exact h
    | _ => exact ⟨h.1.of_none last, ih h.2⟩

theorem Explained.append (h : Explained last calls) (h' : Explained none calls') :
    Explained last (calls ++ calls') := by
  induction calls generalizing last with
  | nil => exact h'.of_none last
  | cons c calls ih =>
    cases c with
    | stage s =>
      have hrest : Explained (some s.ended) calls := h
      exact ih hrest
    | _ => exact ⟨h.1, ih h.2⟩

/-- Calls of no stage have not come to the first one. -/
theorem staged_of_mayFollow (h : ∀ c ∈ calls, c.MayFollow none) : Staged b fns calls := by
  have hnone := stageCalls_eq_nil h
  refine ⟨?_, ?_, explained_of_mayFollow h⟩
  · rw [hnone]
    exact List.nil_prefix
  · rw [hnone]
    simp

theorem passed_nil : Passed b [] ([] : List (Call U)) := ⟨rfl, by simp [stageCalls], trivial⟩

theorem Passed.staged (h : Passed b fns calls) : Staged b fns calls where
  inOrder := h.inOrder ▸ List.prefix_rfl
  continues := fun s hs => h.continues s (List.dropLast_subset _ hs)
  explained := h.explained

/-- The stages of a first part are followed by those of a second part when all of them were passed. -/
theorem Passed.append_staged (h : Passed b fns calls) (h' : Staged b fns' calls') :
    Staged b (fns ++ fns') (calls ++ calls') where
  inOrder := by
    rw [stageCalls_append, List.map_append, h.inOrder]
    exact (List.prefix_append_right_inj fns).mpr h'.inOrder
  continues := by
    intro s hs
    rw [stageCalls_append] at hs
    -- the last stage of the first part is no longer the last one, unless nothing follows
    by_cases hnone : stageCalls calls' = []
    · rw [hnone, List.append_nil] at hs
      exact h.continues s (List.dropLast_subset _ hs)
    · rw [List.dropLast_append_of_ne_nil hnone] at hs
      rcases List.mem_append.mp hs with hs | hs
      · exact h.continues s hs
      · exact h'.continues s hs
  explained := h.explained.append h'.explained

theorem Passed.append (h : Passed b fns calls) (h' : Passed b fns' calls') :
    Passed b (fns ++ fns') (calls ++ calls') where
  inOrder := by rw [stageCalls_append, List.map_append, h.inOrder, h'.inOrder]
  continues := by
    intro s hs
    rw [stageCalls_append] at hs
    rcases List.mem_append.mp hs with hs | hs
    · exact h.continues s hs
    · exact h'.continues s hs
  explained := h.explained.append h'.explained

/-- Stages that stop early are also the first ones of more stages. -/
theorem Staged.append_right (h : Staged b fns calls) (fns' : List Value) :
    Staged b (fns ++ fns') calls where
  inOrder := h.inOrder.trans (List.prefix_append fns fns')
  continues := h.continues
  explained := h.explained

/-! ## One stage -/

/-- The calls of one stage with its end: none when the stage is nothing that can be called. -/
inductive Invoked (fn : Value) (ended : Settled) (after : U) : List (Call U) → Prop
  | refused (f : Fault) : ended = .raised f → Invoked fn ended after []
  | called (f : Func) : fn = .func f → Invoked fn ended after [.stage ⟨f, ended, after⟩]

variable {fn : Value} {ended : Settled} {after : U} {before : List (Call U)}

/-- The stage that is called between calls of no stage. -/
theorem stageCalls_around (hbefore : ∀ c ∈ before, c.MayFollow none)
    (hcalls' : ∀ c ∈ calls', c.MayFollow last) (s : StageCall U) :
    stageCalls (before ++ ([.stage s] ++ calls')) = [s] := by
  rw [stageCalls_append, stageCalls_append, stageCalls_eq_nil hbefore, stageCalls_eq_nil hcalls']
  rfl

/-- The call of a stage is the first one of its chain. -/
theorem Invoked.staged (h : Invoked fn ended after calls) (hbefore : ∀ c ∈ before, c.MayFollow none)
    (hcalls' : ∀ c ∈ calls', c.MayFollow (some ended)) :
    Staged b [fn] (before ++ (calls ++ calls')) := by
  cases h with
  | refused f hf =>
    subst hf
    refine staged_of_mayFollow fun c hc => ?_
    rcases List.mem_append.mp hc with hc | hc
    · exact hbefore c hc
    · exact (hcalls' c hc).none_of_raised
  | called f hf =>
    have hstages := stageCalls_around hbefore hcalls' ⟨f, ended, after⟩
    have hbehind : Explained (some ended) calls' := explained_of_mayFollow hcalls'
    refine ⟨?_, ?_, (explained_of_mayFollow hbefore).append hbehind⟩
    · rw [hstages, hf]
      exact List.prefix_rfl
    · -- no stage comes before the last one
      rw [hstages]
      simp

/-- A stage after whose call the request goes on is passed. -/
theorem Invoked.passed {v : Value} {signal : Signal Value} (h : Invoked fn (.returned v) after calls)
    (hbefore : ∀ c ∈ before, c.MayFollow none)
    (hcalls' : ∀ c ∈ calls', c.MayFollow (some (.returned v)))
    (hsignal : (outcome (interpret b.expand v) after).1 = .ok signal)
    (hgoes : signal = .proceed ∨ ∃ source, signal = .augment source) :
    Passed b [fn] (before ++ (calls ++ calls')) := by
  have hstaged := h.staged (b := b) hbefore hcalls'
  cases h with
  | refused f hf => cases hf
  | called f hf =>
    have hstages := stageCalls_around hbefore hcalls' ⟨f, .returned v, after⟩
    refine ⟨?_, ?_, hstaged.explained⟩
    · rw [hstages, hf]
      rfl
    · intro s hs
      rw [hstages, List.mem_singleton] at hs
      subst hs
      exact ⟨v, signal, rfl, hsignal, hgoes⟩

namespace Act

variable (b)

/-- Calling a stage calls its function and nothing else. -/
theorem callStage_records (fn : Value) (argument : Argument) (reply : Reply) (w : World U) :
    ∃ calls ended reply' w', Returns (callStage b fn argument reply) w (ended, reply') w' ∧
      Records World.withCalls (callStage b.recorded fn argument reply) (callStage b fn argument reply)
        w calls ∧
      Invoked fn ended w'.env.user calls := by
  cases fn with
  | func f =>
    refine ⟨_, _, _, _, returns_withEnv.mpr ⟨rfl, rfl⟩, records_withEnv fun calls => ?_, .called f rfl⟩
    rfl
  | _ =>
    refine ⟨[], _, _, _, returns_withEnv.mpr ⟨rfl, rfl⟩, records_withEnv fun calls => ?_,
      .refused _ rfl⟩
    rw [List.append_nil]
    rfl

/-- Calling a middleware calls its function or, when it is given no sense to, nothing. -/
theorem callMiddleware_records (timeout : Value) (m : ScopedMiddleware Value) (view : Argument)
    (reply : Reply) (w : World U) :
    ∃ calls ended reply' w', Returns (callMiddleware b timeout m view reply) w (ended, reply') w' ∧
      Records World.withCalls (callMiddleware b.recorded timeout m view reply)
        (callMiddleware b timeout m view reply) w calls ∧
      Invoked m.fn ended w'.env.user calls := by
  unfold callMiddleware callWithin
  -- what cannot be called, and a time limit that makes no sense, fail before the call
  split
  · cases checkTimeout timeout with
    | ok _ => exact callStage_records b m.fn view reply w
    | error f =>
      exact ⟨[], _, _, _, returns_pure.mpr ⟨rfl, rfl⟩, records_pure _ w, .refused f rfl⟩
  · exact ⟨[], _, _, _, returns_pure.mpr ⟨rfl, rfl⟩, records_pure _ w, .refused _ rfl⟩

/-! ## The middleware stage -/

/-- What becomes of a request after the call of a middleware. -/
def conclude (timeout : Value) (m : ScopedMiddleware Value) (v : Visit) : Settled → Act U Progress
  | .returned result => do
    let signal ← expand (interpret b.expand result)
    applySignal b v signal
  | .raised f => middlewareFailed m.fn.functionName timeout f
  | .suspended rest =>
    match timeout with
    | .none => throw .unsettled
    | _ => do
      abandon rest
      middlewareFailed m.fn.functionName timeout middlewareTimedOut

/-- A middleware is run by making its view, calling it and concluding. -/
theorem runMiddleware_eq (timeout : Value) (m : ScopedMiddleware Value) (v : Visit) :
    runMiddleware b timeout m v = (do
      let view ← viewOf b m v
      let r ← callMiddleware b timeout m view v.reply
      conclude b timeout m { v with reply := r.2 } r.1) := by
  unfold runMiddleware
  refine congrArg _ (funext fun view => congrArg _ (funext fun r => ?_))
  obtain ⟨ended, reply⟩ := r
  cases ended with
  | returned result => rfl
  | raised f => rfl
  | suspended rest => cases timeout <;> rfl

/-- Concluding calls no stage. -/
theorem callsOnly_conclude (timeout : Value) (m : ScopedMiddleware Value) (v : Visit) (ended : Settled) :
    CallsOnly (Call.MayFollow (some ended)) (conclude b.recorded timeout m v ended)
      (conclude b timeout m v ended) := by
  cases ended with
  | returned result =>
    refine recordsOnly_bind ?_ fun signal => callsOnly_applySignal b v signal
    exact callsOnly_expand_composites (Expand.callsOnly_interpret b result) result
  | raised f => exact callsOnly_middlewareFailed _ _ f
  | suspended rest =>
    cases timeout with
    | none => exact recordsOnly_throw _
    | _ =>
      exact recordsOnly_bind (callsOnly_modify fun _ _ => rfl) fun _ => callsOnly_middlewareFailed _ _ _

variable {b} {w w' : World U}

/-- A failed middleware answers the request. -/
theorem not_returns_middlewareFailed_proceed {name : String} {timeout : Value} {f : Fault} {v : Visit} :
    ¬ Returns (middlewareFailed name timeout f : Act U Progress) w (.proceed v) w' := by
  intro h
  unfold middlewareFailed at h
  split at h
  · obtain ⟨_, _, -, h⟩ := returns_bind.mp h
    obtain ⟨_, _, -, h⟩ := returns_bind.mp h
    obtain ⟨_, _, -, h⟩ := returns_bind.mp h
    cases (returns_pure.mp h).1
  · obtain ⟨_, _, -, h⟩ := returns_bind.mp h
    obtain ⟨_, _, -, h⟩ := returns_bind.mp h
    obtain ⟨_, _, -, h⟩ := returns_bind.mp h
    cases (returns_pure.mp h).1

/-- A request goes on from a signal that says so. -/
theorem goes_on_of_returns_applySignal {v v' : Visit} {signal : Signal Value}
    (h : Returns (applySignal b v signal) w (.proceed v') w') :
    signal = .proceed ∨ ∃ source, signal = .augment source := by
  cases signal with
  | proceed => exact .inl rfl
  | augment source => exact .inr ⟨source, rfl⟩
  | halt =>
    obtain ⟨_, _, -, h⟩ := returns_bind.mp h
    cases (returns_pure.mp h).1
  | fail status message =>
    obtain ⟨_, _, -, h⟩ := returns_bind.mp h
    cases (returns_pure.mp h).1

/-- A request goes on from a middleware that returned a result whose signal says so. -/
theorem returned_of_returns_conclude {timeout : Value} {m : ScopedMiddleware Value} {v v' : Visit}
    {ended : Settled} (h : Returns (conclude b timeout m v ended) w (.proceed v') w') :
    ∃ result signal, ended = .returned result ∧
      (outcome (interpret b.expand result) w.env.user).1 = .ok signal ∧
      (signal = .proceed ∨ ∃ source, signal = .augment source) := by
  cases ended with
  | returned result =>
    obtain ⟨signal, w₁, hsignal, happly⟩ := returns_bind.mp h
    exact ⟨result, signal, rfl, (returns_expand.mp hsignal).1, goes_on_of_returns_applySignal happly⟩
  | raised f => exact absurd h not_returns_middlewareFailed_proceed
  | suspended rest =>
    cases timeout with
    | none => exact absurd h returns_throw
    | _ =>
      obtain ⟨_, _, -, hfailed⟩ := returns_bind.mp h
      exact absurd hfailed not_returns_middlewareFailed_proceed

variable (b)

/-- **One middleware.** Running it calls its function at most once, and the request goes on only if that
settled with a result whose signal says so. -/
theorem runMiddleware_records (timeout : Value) (m : ScopedMiddleware Value) (v : Visit) (w : World U) :
    ∃ calls, Records World.withCalls (runMiddleware b.recorded timeout m v)
        (runMiddleware b timeout m v) w calls ∧
      Staged b [m.fn] calls ∧
      ∀ v' w', Returns (runMiddleware b timeout m v) w (.proceed v') w' → Passed b [m.fn] calls := by
  rw [runMiddleware_eq, runMiddleware_eq]
  -- making the view may call a function in its place, but no stage
  obtain ⟨before, hbefore, hrecords⟩ := callsOnly_viewOf b m v w
  cases hview : outcome (viewOf b m v) w with
  | mk r w₁ =>
    cases r with
    | error e =>
      refine ⟨before, hrecords.bind_stop hview, staged_of_mayFollow hbefore, ?_⟩
      intro v' w' hreturns
      exact absurd hreturns (not_returns_bind hview)
    | ok view =>
      obtain ⟨called, ended, reply', w₂, hcall, hcalled, hinvoked⟩ :=
        callMiddleware_records b timeout m view v.reply w₁
      obtain ⟨rest, hrest, hconcluded⟩ := callsOnly_conclude b timeout m { v with reply := reply' } ended w₂
      refine ⟨before ++ (called ++ rest), hrecords.bind hview (hcalled.bind hcall hconcluded),
        hinvoked.staged hbefore hrest, ?_⟩
      intro v' w' hreturns
      rw [Returns.bind_iff hview, hcall.bind_iff] at hreturns
      obtain ⟨result, signal, rfl, hsignal, hgoes⟩ := returned_of_returns_conclude hreturns
      exact hinvoked.passed hbefore hrest hsignal hgoes

/-- **A chain of middleware.** Running it calls the middleware in order, up to the first after which the
request does not go on; the request comes through only if it goes on after all of them. -/
theorem runChain_records (timeout : Value) (ms : List (ScopedMiddleware Value)) (v : Visit)
    (w : World U) :
    ∃ calls, Records World.withCalls (runChain b.recorded timeout ms v) (runChain b timeout ms v)
        w calls ∧
      Staged b (ms.map fun m => m.fn) calls ∧
      ∀ v' w', Returns (runChain b timeout ms v) w (.proceed v') w' →
        Passed b (ms.map fun m => m.fn) calls := by
  -- the calls of the first middleware come before those of the rest, which runs only if it was passed
  induction ms generalizing v w with
  | nil => exact ⟨[], records_pure _ w, passed_nil.staged, fun _ _ _ => passed_nil⟩
  | cons m ms ih =>
    rw [runChain, runChain]
    -- a chain that fails or answers here has stopped early
    obtain ⟨called, hrecords, hstaged, hpassed⟩ := runMiddleware_records b timeout m v w
    cases hrun : outcome (runMiddleware b timeout m v) w with
    | mk r w₁ =>
      cases r with
      | error e =>
        refine ⟨called, hrecords.bind_stop hrun, hstaged.append_right _, ?_⟩
        intro v' w' hreturns
        exact absurd hreturns (not_returns_bind hrun)
      | ok p =>
        cases p with
        | answered answer =>
          refine ⟨called ++ [], hrecords.bind hrun (records_pure _ w₁), ?_, ?_⟩
          · rw [List.append_nil]
            exact hstaged.append_right _
          · intro v' w' hreturns
            rw [Returns.bind_iff hrun] at hreturns
            cases (returns_pure.mp hreturns).1
        | proceed v₁ =>
          obtain ⟨rest, hrest, hstaged', hpassed'⟩ := ih v₁ w₁
          refine ⟨called ++ rest, hrecords.bind hrun hrest,
            (hpassed v₁ w₁ hrun).append_staged hstaged', ?_⟩
          intro v' w' hreturns
          rw [Returns.bind_iff hrun] at hreturns
          exact (hpassed v₁ w₁ hrun).append (hpassed' v' w' hreturns)

/-! ## The handler -/

/-- What becomes of a request after the call of its handler. -/
def concludeHandler (h : WrappedHandler) (reply : Reply) : Settled → Act U (Response Value)
  | .returned result => expand (renderResult b.expand result reply)
  | .raised f => handlerFailed h.route reply f
  | .suspended _ => throw .unsettled

/-- A handler is run by calling it and concluding. -/
theorem runHandler_eq (h : WrappedHandler) (v : Visit) :
    runHandler b h v = (do
      let r ← callStage b h.handler (.context v.fields) v.reply
      concludeHandler b h r.2 r.1) := by
  unfold runHandler
  refine congrArg _ (funext fun r => ?_)
  obtain ⟨ended, reply⟩ := r
  cases ended <;> rfl

/-- Concluding a handler calls no stage. -/
theorem callsOnly_concludeHandler (h : WrappedHandler) (reply : Reply) (ended : Settled) :
    CallsOnly (Call.MayFollow (some ended)) (concludeHandler b.recorded h reply ended)
      (concludeHandler b h reply ended) := by
  cases ended with
  | returned result => exact callsOnly_expand_composites (Expand.callsOnly_renderResult b result reply) result
  | raised f => exact callsOnly_handlerFailed h.route reply f
  | suspended rest => exact recordsOnly_throw _

/-- Running the handler calls its function at most once. -/
theorem runHandler_records (h : WrappedHandler) (v : Visit) (w : World U) :
    ∃ calls, Records World.withCalls (runHandler b.recorded h v) (runHandler b h v) w calls ∧
      Staged b [h.handler] calls := by
  rw [runHandler_eq, runHandler_eq]
  obtain ⟨called, ended, reply', w₁, hcall, hcalled, hinvoked⟩ :=
    callStage_records b h.handler (.context v.fields) v.reply w
  obtain ⟨rest, hasides, hrecords⟩ := callsOnly_concludeHandler b h reply' ended w₁
  have hnone : ∀ c ∈ ([] : List (Call U)), c.MayFollow none := by simp
  exact ⟨called ++ rest, hcalled.bind hcall hrecords, hinvoked.staged hnone hasides⟩

/-! ## Before the first stage -/

/-- Counting a request calls nothing. -/
theorem callsOnly_checkLimit (h : WrappedHandler) (request : Request) :
    CallsOnly P (checkLimit h request : Act (Recorded U) (Option Int)) (checkLimit h request) := by
  unfold checkLimit
  cases h.config.settings.rateLimit with
  | none => exact recordsOnly_pure _
  | rateLimitSpec spec =>
    refine recordsOnly_of_outcome fun w => ?_
    let r := spec.check w.env.clock (.str (identityKey request spec.keyHeader))
      ((Assoc.get? h.number w.limiters).getD {})
    exact ⟨_, _, { w with limiters := Assoc.set h.number r.2 w.limiters },
      recordsOnly_bind (callsOnly_ofAttempt r.1) fun verdict => recordsOnly_pure _, rfl, fun _ => rfl⟩
  | _ => exact recordsOnly_throw _

/-- Reading and decoding the body of a request calls nothing. -/
theorem callsOnly_receiveValue (request : Request) :
    CallsOnly P (receiveValue request : Act (Recorded U) Value) (receiveValue request) := by
  refine recordsOnly_bind ?_ fun raw => ?_
  · exact recordsOnly_of_outcome fun w => ⟨_, _, _, recordsOnly_pure _, rfl, fun _ => rfl⟩
  · exact recordsOnly_bind (callsOnly_ofAttempt raw) fun raw => callsOnly_ofAttempt _

/-- Counting a request reads nothing of its body. -/
theorem inbox_of_returns_checkLimit {h : WrappedHandler} {request : Request} {w w' : World U}
    {denied : Option Int} (hreturns : Returns (checkLimit h request) w denied w') :
    w'.inbox = w.inbox := by
  unfold checkLimit at hreturns
  cases hlimit : h.config.settings.rateLimit <;> rw [hlimit] at hreturns
  case none =>
    rw [← (returns_pure.mp hreturns).2]
  case rateLimitSpec spec =>
    simp only [returns_bind, returns_get, returns_set, returns_ofAttempt, returns_pure] at hreturns
    obtain ⟨_, _, ⟨rfl, rfl⟩, _, _, rfl, _, _, ⟨-, rfl⟩, -, rfl⟩ := hreturns
    rfl
  all_goals exact absurd hreturns returns_refuse

end Act

/-! ## All stages -/

variable (b)

/-- The stages of a request whose body was decoded. -/
def WrappedHandler.runStages (h : WrappedHandler) (request : Request) (body : Value) (level : Int) :
    Act U Value := do
  match ← runChain b h.timeout h.config.middleware ⟨coreFields h request body level, {}⟩ with
  | .answered r => return r
  | .proceed v => return .response (← runHandler b h v)

/-- A request is counted, its body is decoded, and its stages are run. -/
theorem WrappedHandler.serve_eq (h : WrappedHandler) (request : Request) :
    h.serve b request = (do
      match ← checkLimit h request with
      | some seconds => return .response (deniedResponse seconds)
      | none => do
        let body ← receiveValue request
        let w ← get
        h.runStages b request body w.env.log.effective) := rfl

/-- The functions of the stages of a request: those of its middleware and its handler. -/
def WrappedHandler.stages (h : WrappedHandler) : List Value :=
  (h.config.middleware.map fun m => m.fn) ++ [h.handler]

open Act

section

variable {b} {h : WrappedHandler} {request : Request} {body : Value} {level : Int} {w : World U}
  {called : List (Call U)}

/-- When the chain does not let a request through, its stages record what the chain does. -/
theorem Records.runStages_of_stop
    (hrecords : Records World.withCalls
      (runChain b.recorded h.timeout h.config.middleware ⟨coreFields h request body level, {}⟩)
      (runChain b h.timeout h.config.middleware ⟨coreFields h request body level, {}⟩) w called)
    (hstop : ∀ v w₁, ¬ Returns
      (runChain b h.timeout h.config.middleware ⟨coreFields h request body level, {}⟩) w (.proceed v) w₁) :
    Records World.withCalls (h.runStages b.recorded request body level) (h.runStages b request body level)
      w called := by
  cases hrun : outcome (runChain b h.timeout h.config.middleware
      ⟨coreFields h request body level, {}⟩) w with
  | mk r w₁ =>
    cases r with
    | error e => exact hrecords.bind_stop hrun
    | ok p =>
      cases p with
      | answered answer =>
        rw [← List.append_nil called]
        exact hrecords.bind hrun (records_pure _ w₁)
      | proceed v => exact absurd hrun (hstop v w₁)

/-- When the chain lets a request through, its stages record what the chain does and then the handler. -/
theorem Records.runStages_of_proceed {v : Visit} {w₁ : World U} {rest : List (Call U)}
    (hrecords : Records World.withCalls
      (runChain b.recorded h.timeout h.config.middleware ⟨coreFields h request body level, {}⟩)
      (runChain b h.timeout h.config.middleware ⟨coreFields h request body level, {}⟩) w called)
    (hrun : Returns (runChain b h.timeout h.config.middleware ⟨coreFields h request body level, {}⟩) w
      (.proceed v) w₁)
    (hrest : Records World.withCalls (runHandler b.recorded h v) (runHandler b h v) w₁ rest) :
    Records World.withCalls (h.runStages b.recorded request body level) (h.runStages b request body level)
      w (called ++ rest) :=
  hrecords.bind hrun (hrest.bind_pure Value.response)

end

/-- The stages of a request call their functions in order. -/
theorem runStages_records (h : WrappedHandler) (request : Request) (body : Value) (level : Int)
    (w : World U) :
    ∃ calls, Records World.withCalls (h.runStages b.recorded request body level)
        (h.runStages b request body level) w calls ∧
      Staged b h.stages calls := by
  obtain ⟨called, hrecords, hstaged, hpassed⟩ := runChain_records b h.timeout h.config.middleware
    ⟨coreFields h request body level, {}⟩ w
  by_cases hproceeds : ∃ v w₁, Returns (runChain b h.timeout h.config.middleware
      ⟨coreFields h request body level, {}⟩) w (.proceed v) w₁
  · -- the handler runs only here, where all middleware was passed
    obtain ⟨v, w₁, hrun⟩ := hproceeds
    obtain ⟨rest, hrest, hstaged'⟩ := runHandler_records b h v w₁
    exact ⟨called ++ rest, hrecords.runStages_of_proceed hrun hrest,
      (hpassed v w₁ hrun).append_staged hstaged'⟩
  · have hstop := fun v w₁ hrun => hproceeds ⟨v, w₁, hrun⟩
    exact ⟨called, hrecords.runStages_of_stop hstop, hstaged.append_right _⟩

/-- Counting a request and decoding its body come before its stages and call nothing. When they do not let it
through, nothing is called at all. -/
theorem serve_cases (h : WrappedHandler) (request : Request) (w : World U) :
    Records World.withCalls (h.serve b.recorded request) (h.serve b request) w [] ∨
      ∃ w₁ body w₂, Returns (checkLimit h request) w none w₁ ∧ Returns (receiveValue request) w₁ body w₂ ∧
        ∀ calls, Records World.withCalls (h.runStages b.recorded request body w₂.env.log.effective)
            (h.runStages b request body w₂.env.log.effective) w₂ calls →
          Records World.withCalls (h.serve b.recorded request) (h.serve b request) w calls := by
  rw [WrappedHandler.serve_eq, WrappedHandler.serve_eq]
  have hlimit : Records World.withCalls (checkLimit h request) (checkLimit h request) w [] :=
    (callsOnly_checkLimit h request).records_nil w
  cases hcount : outcome (checkLimit h request) w with
  | mk r w₁ =>
    cases r with
    | error e => exact .inl (hlimit.bind_stop hcount)
    | ok denied =>
      cases denied with
      | some seconds => exact .inl (hlimit.bind hcount (records_pure _ w₁))
      | none =>
        have hbody : Records World.withCalls (receiveValue request) (receiveValue request) w₁ [] :=
          (callsOnly_receiveValue request).records_nil w₁
        cases hreceive : outcome (receiveValue request) w₁ with
        | mk r w₂ =>
          cases r with
          | error e => exact .inl (hlimit.bind hcount (hbody.bind_stop hreceive))
          | ok body =>
            -- the stages are told what the log lets through, which the record does not change
            exact .inr ⟨w₁, body, w₂, hcount, hreceive, fun calls hcalls =>
              hlimit.bind hcount (hbody.bind hreceive fun c => hcalls c)⟩

/-- The calls of a request are those of its stages, in order. -/
theorem serve_staged (h : WrappedHandler) (request : Request) (w : World U) :
    ∃ calls, Records World.withCalls (h.serve b.recorded request) (h.serve b request) w calls ∧
      Staged b h.stages calls := by
  rcases serve_cases b h request w with hnothing | ⟨w₁, body, w₂, -, -, hserve⟩
  · exact ⟨[], hnothing, staged_of_mayFollow (by simp)⟩
  · obtain ⟨calls, hcalls, hstaged⟩ := runStages_records b h request body w₂.env.log.effective w₂
    exact ⟨calls, hserve calls hcalls, hstaged⟩

/-- **Serving a request.** The functions of its middleware and then its handler are called once and in
order, each of them only after all earlier ones settled with results whose signals let the request go on;
besides them, only functions in the place of methods are called and, where the last of the stages returned
a value, composites. When the request is denied, or its body cannot be decoded, nothing is called, and a
request that is denied is not read. -/
theorem serve_records (h : WrappedHandler) (request : Request) (w : World U) :
    ∃ calls, Records World.withCalls (h.serve b.recorded request) (h.serve b request) w calls ∧
      Staged b h.stages calls ∧
      (∀ seconds w₁, Returns (checkLimit h request) w (some seconds) w₁ →
        calls = [] ∧ w₁.inbox = w.inbox ∧
          outcome (h.serve b request) w = (.ok (.response (deniedResponse seconds)), w₁)) ∧
      (∀ w₁ e w₂, Returns (checkLimit h request) w none w₁ →
        outcome (receiveValue request) w₁ = (.error e, w₂) →
        calls = [] ∧ outcome (h.serve b request) w = (.error e, w₂)) := by
  obtain ⟨calls, hrecords, hstaged⟩ := serve_staged b h request w
  have hlimit : Records World.withCalls (checkLimit h request) (checkLimit h request) w [] :=
    (callsOnly_checkLimit h request).records_nil w
  refine ⟨calls, hrecords, hstaged, ?_, ?_⟩
  · -- what is recorded is determined, so it is enough that a denied request records nothing
    intro seconds w₁ hdenied
    have hnothing : Records World.withCalls (h.serve b.recorded request) (h.serve b request) w [] := by
      rw [WrappedHandler.serve_eq, WrappedHandler.serve_eq]
      exact hlimit.bind hdenied (records_pure _ w₁)
    refine ⟨hrecords.unique hnothing, inbox_of_returns_checkLimit hdenied, ?_⟩
    rw [WrappedHandler.serve_eq, outcome_bind, hdenied]
    rfl
  · intro w₁ e w₂ hallowed hfailed
    have hbody : Records World.withCalls (receiveValue request) (receiveValue request) w₁ [] :=
      (callsOnly_receiveValue request).records_nil w₁
    have hnothing : Records World.withCalls (h.serve b.recorded request) (h.serve b request) w [] := by
      rw [WrappedHandler.serve_eq, WrappedHandler.serve_eq]
      exact hlimit.bind hallowed (hbody.bind_stop hfailed)
    refine ⟨hrecords.unique hnothing, ?_⟩
    rw [WrappedHandler.serve_eq, outcome_bind, hallowed]
    simp only
    rw [outcome_bind, hfailed]

/-- A middleware returns a composite, which expands to a node that augments the context. -/
def granting : Behaviour Unit :=
  { Behaviour.idle with
    expand := fun _ _ _ => pure (.node (.augment (.mapping [(.str "user", .str "ada")])) [])
    handle := fun fn argument reply env =>
      ⟨.returned (if fn.name = "guard" then .element (.func ⟨"Grant", 0, false⟩) [] [] else .str "ok"),
        argument, reply, env⟩ }

/-- A handler behind this middleware. -/
def granted : WrappedHandler where
  handler := .func ⟨"handler", 1, false⟩
  config := RouteConfig.empty.withMiddleware (.func ⟨"guard", 2, false⟩)
  timeout := .int 30
  route := "GET /x"
  logger := ⟨"GET /x", none⟩
  number := 0

/-- The function of the composite is called between those of the middleware and the handler, and so the
functions that are called are not those of the stages from the first one on. -/
theorem serve_calls_composite :
    ¬ ((outcome (granted.serve granting.recorded {})
      (World.withCalls { env := { user := () } } [])).2.env.user.2.filterMap Call.fn?).map Value.func <+:
        granted.stages := by
  have hcalls : (outcome (granted.serve granting.recorded {})
      (World.withCalls { env := { user := () } } [])).2.env.user.2.filterMap Call.fn? =
        [⟨"guard", 2, false⟩, ⟨"Grant", 0, false⟩, ⟨"handler", 1, false⟩] := rfl
  have hstages : granted.stages = [.func ⟨"guard", 2, false⟩, .func ⟨"handler", 1, false⟩] := rfl
  rw [hcalls, hstages]
  simp [List.cons_prefix_cons]

end ServerTree
