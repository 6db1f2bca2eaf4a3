import ServerTree.Proofs.Pipeline.Stages

/-!
# How a request ends

The stage that was called last decides how its request ends, unless it let the request go on. How it ends is
then what concluding this stage comes to, whatever came before.

## Main definitions
- `StageCall.EndsChain`, `StageCall.EndsHandler`: a call that decided how a chain or a handler ends
- `finish`: what follows the middleware of a request
- `StageCall.Ends`: a call that decided how a request ends

## Main statements
- `runMiddleware_ends`, `runChain_ends`: the last call of a chain of middleware
- `serve_ends`: the last call of a request
-/

namespace ServerTree

variable {U : Type} (b : Behaviour U)

open Act

/-! ## Middleware -/

/-- The call of a middleware of a chain decides how its run ends: as concluding it does. -/
def StageCall.EndsChain (s : StageCall U) (timeout : Value) (ms : List (ScopedMiddleware Value))
    (result : Except Stop Progress × World U) : Prop :=
  ∃ m ∈ ms, m.fn = .func s.fn ∧ ∃ v w, w.env.user = s.after ∧
    result = outcome (conclude b timeout m v s.ended) w

/-- **One middleware** ends as concluding its call does. -/
theorem runMiddleware_ends (timeout : Value) (m : ScopedMiddleware Value) (v : Visit) (w : World U) :
    ∃ calls, Records World.withCalls (runMiddleware b.recorded timeout m v) (runMiddleware b timeout m v)
        w calls ∧
      (stageCalls calls).length ≤ 1 ∧
      ∀ s, (stageCalls calls).getLast? = some s →
        s.EndsChain b timeout [m] (outcome (runMiddleware b timeout m v) w) := by
  rw [runMiddleware_eq, runMiddleware_eq]
  obtain ⟨before, hbefore, hrecords⟩ : ∃ before, (∀ c ∈ before, c.MayFollow none) ∧
      Records World.withCalls (viewOf b.recorded m v) (viewOf b m v) w before := callsOnly_viewOf b m v w
  have hnone : stageCalls before = [] := stageCalls_eq_nil hbefore
  cases hview : outcome (viewOf b m v) w with
  | mk r w₁ =>
    cases r with
    | error e =>
      refine ⟨before, hrecords.bind_stop hview, by simp [hnone], ?_⟩
      intro s hs
      simp [hnone] at hs
    | ok view =>
      obtain ⟨called, ended, reply', w₂, hcall, hcalled, hinvoked⟩ :=
        callMiddleware_records b timeout m view v.reply w₁
      -- what concludes the call may call composites, and no further stage
      obtain ⟨rest, hrest, hconcluded⟩ := callsOnly_conclude b timeout m { v with reply := reply' } ended w₂
      have hstages : stageCalls (before ++ (called ++ rest)) = stageCalls called := by
        rw [stageCalls_append, stageCalls_append, hnone, stageCalls_eq_nil hrest]
        simp
      refine ⟨before ++ (called ++ rest), hrecords.bind hview (hcalled.bind hcall hconcluded), ?_, ?_⟩
      · rw [hstages]
        cases hinvoked <;> simp [stageCalls, Call.stage?]
      · intro s hs
        rw [hstages] at hs
        cases hinvoked with
        | refused f hf => cases hs
        | called f hf =>
          obtain rfl : ⟨f, ended, w₂.env.user⟩ = s := by simpa [stageCalls, Call.stage?] using hs
          refine ⟨m, List.mem_singleton_self m, hf, { v with reply := reply' }, w₂, rfl, ?_⟩
          rw [outcome_bind, hview]
          simp only
          rw [outcome_bind, hcall]

variable {b}

/-- A call that gave no result does not let the request go on. -/
theorem StageCall.not_continues {s : StageCall U} (h : ∀ v, s.ended ≠ .returned v) : ¬ s.Continues b := by
  rintro ⟨v, signal, hv, -⟩
  exact h v hv

theorem StageCall.EndsChain.mono {s : StageCall U} {timeout : Value} {ms ms' : List (ScopedMiddleware Value)}
    {result : Except Stop Progress × World U} (h : s.EndsChain b timeout ms result) (hms : ms ⊆ ms') :
    s.EndsChain b timeout ms' result := by
  obtain ⟨m, hm, hfn, v, w, hafter, hresult⟩ := h
  exact ⟨m, hms hm, hfn, v, w, hafter, hresult⟩

/-- A middleware that does not answer has let the request go on. -/
theorem StageCall.EndsChain.continues {s : StageCall U} {timeout : Value}
    {ms : List (ScopedMiddleware Value)} {v : Visit} {w : World U}
    (h : s.EndsChain b timeout ms (.ok (.proceed v), w)) : s.Continues b := by
  obtain ⟨m, -, -, v', w', hafter, hresult⟩ := h
  obtain ⟨value, signal, hended, hsignal, hgoes⟩ := returned_of_returns_conclude hresult.symm
  exact ⟨value, signal, hended, hafter ▸ hsignal, hgoes⟩

variable (b)

/-- **A chain of middleware** ends as concluding its last call does, unless that let the request go on. -/
theorem runChain_ends (timeout : Value) (ms : List (ScopedMiddleware Value)) (v : Visit) (w : World U) :
    ∃ calls, Records World.withCalls (runChain b.recorded timeout ms v) (runChain b timeout ms v) w calls ∧
      (stageCalls calls).length ≤ ms.length ∧
      ∀ s, (stageCalls calls).getLast? = some s →
        s.Continues b ∨ s.EndsChain b timeout ms (outcome (runChain b timeout ms v) w) := by
  -- a call behind the first middleware is one of the rest of the chain
  induction ms generalizing v w with
  | nil => exact ⟨[], records_pure _ w, Nat.zero_le _, fun s hs => by cases hs⟩
  | cons m ms ih =>
    rw [runChain, runChain]
    obtain ⟨called, hrecords, hone, hends⟩ := runMiddleware_ends b timeout m v w
    have hfirst : [m] ⊆ m :: ms := by simp
    cases hrun : outcome (runMiddleware b timeout m v) w with
    | mk r w₁ =>
      rw [hrun] at hends
      cases r with
      | error e =>
        refine ⟨called, hrecords.bind_stop hrun, by simp; omega, fun s hs => .inr ?_⟩
        rw [outcome_bind, hrun]
        exact (hends s hs).mono hfirst
      | ok p =>
        cases p with
        | answered answer =>
          refine ⟨called ++ [], hrecords.bind hrun (records_pure _ w₁), by simp; omega, fun s hs => .inr ?_⟩
          rw [List.append_nil] at hs
          rw [outcome_bind, hrun]
          exact (hends s hs).mono hfirst
        | proceed v₁ =>
          obtain ⟨rest, hrest, hlength, hlast⟩ := ih v₁ w₁
          refine ⟨called ++ rest, hrecords.bind hrun hrest, ?_, ?_⟩
          · rw [stageCalls_append, List.length_append, List.length_cons]
            omega
          · intro s hs
            -- the last call is one of the rest, or the first middleware was the last to be called
            rw [stageCalls_append, List.getLast?_append] at hs
            rw [outcome_bind, hrun]
            cases hrestlast : (stageCalls rest).getLast? with
            | some s' =>
              obtain rfl : s' = s := by simpa [hrestlast] using hs
              exact (hlast s' hrestlast).imp_right fun h => h.mono (List.subset_cons_self m ms)
            | none =>
              have hcalled : (stageCalls called).getLast? = some s := by simpa [hrestlast] using hs
              exact .inl (hends s hcalled).continues

/-! ## The handler -/

/-- The call of a handler decides how its run ends: as concluding it does, with the reply that the call
left. -/
def StageCall.EndsHandler (s : StageCall U) (h : WrappedHandler)
    (result : Except Stop (Response Value) × World U) : Prop :=
  h.handler = .func s.fn ∧ ∃ fields reply env w,
    let called := b.handle s.fn (.context fields) reply env
    called.outcome = s.ended ∧ w.env = called.env ∧
      result = outcome (concludeHandler b h called.reply s.ended) w

/-- **The handler** ends as concluding its call does. -/
theorem runHandler_ends (h : WrappedHandler) (v : Visit) (w : World U) :
    ∃ calls, Records World.withCalls (runHandler b.recorded h v) (runHandler b h v) w calls ∧
      ∀ s, (stageCalls calls).getLast? = some s →
        (stageCalls calls).length = 1 ∧ s.EndsHandler b h (outcome (runHandler b h v) w) := by
  rw [runHandler_eq, runHandler_eq]
  let r := b.callScoped h.handler (.context v.fields) v.reply w.env
  have hcall : Returns (callStage b h.handler (.context v.fields) v.reply) w (r.outcome, r.reply)
      { w with env := r.env } := returns_withEnv.mpr ⟨rfl, rfl⟩
  obtain ⟨called, ended, reply', w₁, hcall', hcalled, hinvoked⟩ :=
    callStage_records b h.handler (.context v.fields) v.reply w
  obtain ⟨heq, rfl⟩ : (ended, reply') = (r.outcome, r.reply) ∧ w₁ = { w with env := r.env } := by
    have hsame := hcall'.symm.trans hcall
    exact ⟨Except.ok.inj (congrArg Prod.fst hsame), congrArg Prod.snd hsame⟩
  obtain ⟨rfl, rfl⟩ := Prod.mk.inj heq
  obtain ⟨rest, hrest, hconcluded⟩ := callsOnly_concludeHandler b h r.reply r.outcome { w with env := r.env }
  have hstages : stageCalls (called ++ rest) = stageCalls called := by
    rw [stageCalls_append, stageCalls_eq_nil hrest, List.append_nil]
  refine ⟨called ++ rest, hcalled.bind hcall hconcluded, fun s hs => ?_⟩
  rw [hstages] at hs ⊢
  cases hinvoked with
  | refused f hf => cases hs
  | called f hf =>
    obtain rfl : ⟨f, r.outcome, r.env.user⟩ = s := by simpa [stageCalls, Call.stage?] using hs
    have hhandled : r = b.handle f (.context v.fields) v.reply w.env := by
      simp only [r, hf, Behaviour.callScoped]
    refine ⟨rfl, hf, v.fields, v.reply, w.env, { w with env := r.env }, ?_⟩
    rw [← hhandled]
    refine ⟨rfl, rfl, ?_⟩
    rw [outcome_bind, hcall]

/-! ## Requests -/

/-- What follows the middleware of a request. -/
def finish (h : WrappedHandler) : Progress → Act U Value
  | .answered answer => return answer
  | .proceed v => return .response (← runHandler b h v)

theorem runStages_eq (h : WrappedHandler) (request : Request) (body : Value) (level : Int) :
    h.runStages b request body level =
      runChain b h.timeout h.config.middleware ⟨coreFields h request body level, {}⟩ >>= finish b h := by
  unfold WrappedHandler.runStages
  refine congrArg _ (funext fun p => ?_)
  cases p <;> rfl

/-- The call that was the last one of a request decides how this ends: a middleware that does not let it go on
as concluding it does, and the handler likewise. -/
structure StageCall.Ends (s : StageCall U) (h : WrappedHandler) (calls : List (Call U))
    (result : Except Stop Value × World U) : Prop where
  middleware : (stageCalls calls).length ≤ h.config.middleware.length → ¬ s.Continues b →
    ∃ m ∈ h.config.middleware, m.fn = .func s.fn ∧ ∃ v w, w.env.user = s.after ∧
      result = outcome (conclude b h.timeout m v s.ended >>= finish b h) w
  handler : h.config.middleware.length < (stageCalls calls).length →
    h.handler = .func s.fn ∧ ∃ fields reply env w,
      let called := b.handle s.fn (.context fields) reply env
      called.outcome = s.ended ∧ w.env = called.env ∧
        result = outcome (do return .response (← concludeHandler b h called.reply s.ended)) w

/-- The stages of a request end as the last one that was called does. -/
theorem runStages_ends (h : WrappedHandler) (request : Request) (body : Value) (level : Int) (w : World U) :
    ∃ calls, Records World.withCalls (h.runStages b.recorded request body level)
        (h.runStages b request body level) w calls ∧
      ∀ s, (stageCalls calls).getLast? = some s →
        s.Ends b h calls (outcome (h.runStages b request body level) w) := by
  let start : Visit := ⟨coreFields h request body level, {}⟩
  obtain ⟨called, hrecords, hlength, hends⟩ := runChain_ends b h.timeout h.config.middleware start w
  by_cases hproceeds : ∃ v w₁,
      Returns (runChain b h.timeout h.config.middleware start) w (.proceed v) w₁
  · obtain ⟨v, w₁, hrun⟩ := hproceeds
    obtain ⟨rest, hrest, hlast⟩ := runHandler_ends b h v w₁
    -- all of the middleware was called, and let the request go on
    have hpassed : Passed b (h.config.middleware.map fun m => m.fn) called := by
      obtain ⟨called', hrecords', -, hpassed⟩ := runChain_records b h.timeout h.config.middleware start w
      exact hrecords.unique hrecords' ▸ hpassed v w₁ hrun
    have hcount : (stageCalls called).length = h.config.middleware.length := by
      simpa using congrArg List.length hpassed.inOrder
    refine ⟨called ++ rest, hrecords.runStages_of_proceed hrun hrest, fun s hs => ?_⟩
    rw [stageCalls_append, List.getLast?_append] at hs
    have hcounts : (stageCalls (called ++ rest)).length =
        h.config.middleware.length + (stageCalls rest).length := by
      rw [stageCalls_append, List.length_append, hcount]
    cases hrestlast : (stageCalls rest).getLast? with
    | some s' =>
      obtain rfl : s' = s := by simpa [hrestlast] using hs
      obtain ⟨hone, hfn, fields, reply, env, w₂, hended, henv, hresult⟩ := hlast s' hrestlast
      refine ⟨fun hle => absurd hle (by omega), fun _ => ⟨hfn, fields, reply, env, w₂, hended, henv, ?_⟩⟩
      rw [runStages_eq, outcome_bind, hrun]
      simp only [finish]
      rw [outcome_bind, outcome_bind, hresult]
    | none =>
      have hcalled : (stageCalls called).getLast? = some s := by simpa [hrestlast] using hs
      have hcontinues : s.Continues b := hpassed.continues s (List.mem_of_getLast? hcalled)
      have hnone : stageCalls rest = [] := List.getLast?_eq_none_iff.mp hrestlast
      refine ⟨fun _ hstops => absurd hcontinues hstops, fun hlt => absurd hlt ?_⟩
      rw [hcounts, hnone]
      exact Nat.lt_irrefl _
  · -- the chain stopped early, as its last call made it
    have hstop := fun v w₁ hrun => hproceeds ⟨v, w₁, hrun⟩
    refine ⟨called, hrecords.runStages_of_stop hstop, fun s hs => ⟨fun _ hstops => ?_, fun hlt => ?_⟩⟩
    · obtain ⟨m, hm, hfn, v, w₁, hafter, hresult⟩ := (hends s hs).resolve_left hstops
      refine ⟨m, hm, hfn, v, w₁, hafter, ?_⟩
      rw [runStages_eq, outcome_bind, outcome_bind, hresult]
    · exact absurd hlt (by omega)

/-- **A request ends** as the last stage does that was called for it. -/
theorem serve_ends (h : WrappedHandler) (request : Request) (w : World U) :
    ∃ calls, Records World.withCalls (h.serve b.recorded request) (h.serve b request) w calls ∧
      ∀ s, (stageCalls calls).getLast? = some s →
        s.Ends b h calls (outcome (h.serve b request) w) := by
  rcases serve_cases b h request w with hnothing | ⟨w₁, body, w₂, hcount, hreceive, hserve⟩
  · exact ⟨[], hnothing, fun s hs => by cases hs⟩
  · obtain ⟨calls, hcalls, hends⟩ := runStages_ends b h request body w₂.env.log.effective w₂
    refine ⟨calls, hserve calls hcalls, fun s hs => ?_⟩
    have hsame : outcome (h.serve b request) w =
        outcome (h.runStages b request body w₂.env.log.effective) w₂ := by
      rw [WrappedHandler.serve_eq, outcome_bind, hcount]
      simp only
      rw [outcome_bind, hreceive]
      rfl
    rw [hsame]
    exact hends s hs

end ServerTree
