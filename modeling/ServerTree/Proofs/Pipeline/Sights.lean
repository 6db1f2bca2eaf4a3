import ServerTree.Proofs.Pipeline.Merging
import ServerTree.Proofs.Pipeline.Stages

/-!
# What stages see

Stages are told apart by what they are called with, so they are made to note it: functions that note what
they are called with do otherwise just what they did before. With their calls recorded, the notes say what
every stage of a request has seen.

## Main definitions
- `Behaviour.noting`: functions of stages that note what they are called with
- `augmentations`: what the calls of stages add to the fields
- `Visit.after`: what is left of a visit by the calls of stages

## Main statements
- `runMiddleware_sees`: what one middleware sees, and what it leaves
- `runChain_sees`: what every middleware of a chain sees
- `serve_sees`: what every stage of a request sees
-/

namespace ServerTree

variable {U : Type}

/-! ## Functions that note what they are called with -/

/-- What a stage was called with: its argument and the reply, and the reply as the stage left it. -/
structure Note where
  argument : Argument
  given : Reply
  left : Reply

/-- A state with the note of the last stage. -/
abbrev Noted (U : Type) : Type := U × Note

/-- What application code can reach, with a note. -/
def Env.withNote (e : Env U) (note : Note) : Env (Noted U) := ⟨(e.user, note), e.clock, e.log⟩

/-- What application code can reach, without the note. -/
def Env.withoutNote (e : Env (Noted U)) : Env U := ⟨e.user.1, e.clock, e.log⟩

/-- The course of an engine function, which passes a note on. -/
def Course.withNote (note : Note) : Course U → Course (Noted U)
  | .finish e result => .finish (e.withNote note) result
  | .next e request resume =>
    .next (e.withNote note) request fun e r => (resume e.withoutNote r).withNote e.user.2
  | .readBody e request resume =>
    .readBody (e.withNote note) request fun e r => (resume e.withoutNote r).withNote e.user.2

/-- The course of a plugin, which passes a note on. -/
def PluginCourse.withNote (note : Note) : PluginCourse U → PluginCourse (Noted U)
  | .finish e result => .finish (e.withNote note) result
  | .act e step resume => .act (e.withNote note) step fun e r => (resume e.withoutNote r).withNote e.user.2

/-- The same functions, of which those of stages note what they are called with. -/
def Behaviour.noting (b : Behaviour U) : Behaviour (Noted U) where
  expand fn props children := ExceptT.mk fun s =>
    let r := outcome (b.expand fn props children) s.1
    (r.1, (r.2, s.2))
  handle fn argument reply e :=
    let r := b.handle fn argument reply e.withoutNote
    ⟨r.outcome, r.argument, r.reply, r.env.withNote ⟨argument, reply, r.reply⟩⟩
  call fn arguments named e :=
    let r := b.call fn arguments named e.withoutNote
    (r.1, r.2.withNote e.user.2)
  resume rest e :=
    let r := b.resume rest e.withoutNote
    (r.1, r.2.withNote e.user.2)
  provide fn e :=
    let r := b.provide fn e.withoutNote
    (r.1, r.2.withNote e.user.2)
  plugin fn options config e := (b.plugin fn options config e.withoutNote).withNote e.user.2
  endpoint fn request e := (b.endpoint fn request e.withoutNote).withNote e.user.2
  around fn request e := (b.around fn request e.withoutNote).withNote e.user.2
  hook fn request response elapsed e :=
    let r := b.hook fn request response elapsed e.withoutNote
    (r.1, r.2.withNote e.user.2)
  load path e :=
    let r := b.load path e.withoutNote
    (r.1, r.2.withNote e.user.2)

/-- What the call of a stage has noted. -/
def StageCall.note (s : StageCall (Noted U)) : Note := s.after.2

/-! ## What calls leave of a visit -/

/-- What the result of a stage augments the fields with, when its signal is to augment. -/
def StageCall.augmentations (b : Behaviour U) (s : StageCall U) : List Value :=
  match s.ended with
  | .returned v =>
    match (outcome (interpret b.expand v) s.after).1 with
    | .ok (.augment source) => [source]
    | _ => []
  | _ => []

/-- What the results of stages augment the fields with, in order. -/
def augmentations (b : Behaviour U) (calls : List (StageCall U)) : List Value :=
  calls.flatMap (StageCall.augmentations b)

/-- The reply as the last of calls left it. -/
def replyAfter (reply : Reply) (calls : List (StageCall (Noted U))) : Reply :=
  calls.foldl (fun _ s => s.note.left) reply

/-- What is left of a visit by calls of stages: the augmented fields, and the reply. -/
def Visit.after (b : Behaviour U) (v : Visit) (calls : List (StageCall (Noted U))) : Visit :=
  ⟨augmented v.fields (ServerTree.augmentations b.noting calls), replyAfter v.reply calls⟩

variable (b : Behaviour U)

theorem Visit.after_cons (v : Visit) (s : StageCall (Noted U)) (calls : List (StageCall (Noted U))) :
    v.after b (s :: calls) = (v.after b [s]).after b calls := by
  simp [Visit.after, ServerTree.augmentations, replyAfter, augmented_append]

/-- What a middleware is to see of a visit: the reply, and its view of the fields unless a field stands in
the place of the method that makes it. -/
structure ScopedMiddleware.Sees (m : ScopedMiddleware Value) (v : Visit) (s : StageCall (Noted U)) : Prop where
  fn : m.fn = .func s.fn
  reply : s.note.given = v.reply
  fields : methodField? "fork" v.fields = none → s.note.argument = .context (m.view v.fields)

/-- What a handler is to see of a visit: the reply and the fields. -/
structure WrappedHandler.Sees (h : WrappedHandler) (v : Visit) (s : StageCall (Noted U)) : Prop where
  fn : h.handler = .func s.fn
  reply : s.note.given = v.reply
  fields : s.note.argument = .context v.fields

/-- Each of a row of calls is in a relation to the calls before it. -/
def EachAfter {α : Type} (P : List α → α → Prop) (calls : List α) : Prop :=
  ∀ before s after, calls = before ++ s :: after → P before s

theorem eachAfter_of_single {α : Type} {P : List α → α → Prop} {calls : List α}
    (h : calls = [] ∨ ∃ s, calls = [s] ∧ P [] s) : EachAfter P calls := by
  intro before s after hsplit
  rcases h with rfl | ⟨s', rfl, hs'⟩
  · simp at hsplit
  · cases before with
    | nil =>
      obtain ⟨rfl, -⟩ := List.cons.inj hsplit
      exact hs'
    | cons _ before => simp at hsplit

/-- The calls of a second row come after all those of the first one. -/
theorem EachAfter.append {α : Type} {P : List α → α → Prop} {calls calls' : List α} (h : EachAfter P calls)
    (h' : EachAfter (fun before s => P (calls ++ before) s) calls') : EachAfter P (calls ++ calls') := by
  intro before s after hsplit
  rcases List.append_eq_append_iff.mp hsplit with ⟨more, rfl, hsecond⟩ | ⟨more, hfirst, hsecond⟩
  · exact h' more s after hsecond
  · cases more with
    | nil =>
      -- the call is the first one of the second row
      rw [List.append_nil] at hfirst
      rw [← hfirst, ← List.append_nil calls]
      exact h' [] s after hsecond.symm
    | cons s' more =>
      obtain ⟨rfl, -⟩ := List.cons.inj hsecond
      exact h before s more hfirst

/-! ## One stage -/

/-- The calls of one stage with what it notes: none when the stage is nothing that can be called. -/
inductive Notes (fn : Value) (note : Note) (ended : Settled) (after : Noted U) : List (Call (Noted U)) → Prop
  | refused (f : Fault) : ended = .raised f → Notes fn note ended after []
  | called (f : Func) : fn = .func f → after.2 = note → Notes fn note ended after [.stage ⟨f, ended, after⟩]

namespace Act

/-- Calling a stage notes what it is called with. -/
theorem callStage_notes (fn : Value) (argument : Argument) (reply : Reply) (w : World (Noted U)) :
    ∃ calls ended left w', Returns (callStage b.noting fn argument reply) w (ended, left) w' ∧
      Records World.withCalls (callStage b.noting.recorded fn argument reply)
        (callStage b.noting fn argument reply) w calls ∧
      Notes fn ⟨argument, reply, left⟩ ended w'.env.user calls := by
  cases fn with
  | func f =>
    refine ⟨_, _, _, _, returns_withEnv.mpr ⟨rfl, rfl⟩, records_withEnv fun calls => ?_, .called f rfl rfl⟩
    rfl
  | _ =>
    refine ⟨[], _, _, _, returns_withEnv.mpr ⟨rfl, rfl⟩, records_withEnv fun calls => ?_, .refused _ rfl⟩
    rw [List.append_nil]
    rfl

/-- Calling a middleware notes what it is called with, unless it is given no sense to call it. -/
theorem callMiddleware_notes (timeout : Value) (m : ScopedMiddleware Value) (view : Argument)
    (reply : Reply) (w : World (Noted U)) :
    ∃ calls ended left w', Returns (callMiddleware b.noting timeout m view reply) w (ended, left) w' ∧
      Records World.withCalls (callMiddleware b.noting.recorded timeout m view reply)
        (callMiddleware b.noting timeout m view reply) w calls ∧
      Notes m.fn ⟨view, reply, left⟩ ended w'.env.user calls := by
  unfold callMiddleware callWithin
  split
  · cases checkTimeout timeout with
    | ok _ => exact callStage_notes b m.fn view reply w
    | error f => exact ⟨[], _, _, _, returns_pure.mpr ⟨rfl, rfl⟩, records_pure _ w, .refused f rfl⟩
  · exact ⟨[], _, _, _, returns_pure.mpr ⟨rfl, rfl⟩, records_pure _ w, .refused _ rfl⟩

/-- The view of a middleware is made of the fields, unless a field stands in the place of the method. -/
theorem view_of_returns_viewOf {m : ScopedMiddleware Value} {v : Visit} {view : Argument}
    {b : Behaviour (Noted U)} {w w' : World (Noted U)} (h : Returns (viewOf b m v) w view w')
    (hfork : methodField? "fork" v.fields = none) : view = .context (m.view v.fields) := by
  unfold viewOf at h
  rw [hfork] at h
  exact (returns_pure.mp h).1.symm

/-- A signal leaves the reply alone, and of the fields it leaves what its augmentation says. -/
theorem visit_of_returns_applySignal {b : Behaviour U} {v v' : Visit} {signal : Signal Value} {w w' : World U}
    (h : Returns (applySignal b v signal) w (.proceed v') w') :
    signal = .proceed ∧ v' = v ∨
      ∃ source, signal = .augment source ∧ v' = ⟨augmented v.fields [source], v.reply⟩ := by
  cases signal with
  | proceed =>
    have hv := (returns_pure.mp h).1
    exact .inl ⟨rfl, (Progress.proceed.inj hv).symm⟩
  | halt =>
    obtain ⟨_, _, -, h⟩ := returns_bind.mp h
    cases (returns_pure.mp h).1
  | fail status message =>
    obtain ⟨_, _, -, h⟩ := returns_bind.mp h
    cases (returns_pure.mp h).1
  | augment source =>
    refine .inr ⟨source, rfl, ?_⟩
    unfold applySignal at h
    rw [augmented, List.foldl_cons, List.foldl_nil]
    cases hmethod : methodField? "augment" v.fields with
    | some fn =>
      rw [hmethod] at h
      obtain ⟨_, _, -, h⟩ := returns_bind.mp h
      exact (Progress.proceed.inj (returns_pure.mp h).1).symm
    | none =>
      rw [hmethod] at h
      obtain ⟨_, _, -, h⟩ := returns_bind.mp h
      exact (Progress.proceed.inj (returns_pure.mp h).1).symm

/-- A middleware after which the request goes on leaves the reply as it was, and of the fields what the
augmentation of its call says. -/
theorem visit_of_returns_conclude {b : Behaviour U} {timeout : Value} {m : ScopedMiddleware Value}
    {v v' : Visit} {ended : Settled} {w w' : World U} (fn : Func)
    (h : Returns (conclude b timeout m v ended) w (.proceed v') w') :
    v' = ⟨augmented v.fields (StageCall.augmentations b ⟨fn, ended, w.env.user⟩), v.reply⟩ := by
  cases ended with
  | returned result =>
    obtain ⟨signal, w₁, hsignal, happly⟩ := returns_bind.mp h
    obtain ⟨hinterpreted, -⟩ := returns_expand.mp hsignal
    simp only [StageCall.augmentations, hinterpreted]
    rcases visit_of_returns_applySignal happly with ⟨rfl, rfl⟩ | ⟨source, rfl, rfl⟩
    · rfl
    · rfl
  | raised f => exact absurd h not_returns_middlewareFailed_proceed
  | suspended rest =>
    cases timeout with
    | none => exact absurd h returns_throw
    | _ =>
      obtain ⟨_, _, -, hfailed⟩ := returns_bind.mp h
      exact absurd hfailed not_returns_middlewareFailed_proceed

/-- **Step lemma**: a middleware sees its view of the visit as it is, and the visit that goes on from it is
what its call leaves. What it sets on its view is left nowhere. -/
theorem runMiddleware_sees (timeout : Value) (m : ScopedMiddleware Value) (v : Visit)
    (w : World (Noted U)) :
    ∃ calls, Records World.withCalls (runMiddleware b.noting.recorded timeout m v)
        (runMiddleware b.noting timeout m v) w calls ∧
      (stageCalls calls = [] ∨ ∃ s, stageCalls calls = [s] ∧ m.Sees v s) ∧
      ∀ v' w', Returns (runMiddleware b.noting timeout m v) w (.proceed v') w' →
        ∃ s, stageCalls calls = [s] ∧ m.Sees v s ∧ v' = v.after b [s] := by
  rw [runMiddleware_eq, runMiddleware_eq]
  -- making the view and concluding call no stage
  obtain ⟨before, hbefore, hrecords⟩ : ∃ before, (∀ c ∈ before, c.MayFollow none) ∧ Records World.withCalls
      (viewOf b.noting.recorded m v) (viewOf b.noting m v) w before := callsOnly_viewOf b.noting m v w
  cases hview : outcome (viewOf b.noting m v) w with
  | mk r w₁ =>
    cases r with
    | error e =>
      refine ⟨before, hrecords.bind_stop hview, .inl (stageCalls_eq_nil hbefore), ?_⟩
      intro v' w' hreturns
      exact absurd hreturns (not_returns_bind hview)
    | ok view =>
      obtain ⟨called, ended, left, w₂, hcall, hcalled, hnotes⟩ :=
        callMiddleware_notes b timeout m view v.reply w₁
      obtain ⟨rest, hrest, hconcluded⟩ :=
        callsOnly_conclude b.noting timeout m { v with reply := left } ended w₂
      refine ⟨before ++ (called ++ rest), hrecords.bind hview (hcalled.bind hcall hconcluded), ?_⟩
      -- so the call of the middleware is the only call of a stage, if there is one
      have hstages : stageCalls (before ++ (called ++ rest)) = stageCalls called := by
        simp [stageCalls_eq_nil hbefore, stageCalls_eq_nil hrest]
      rw [hstages]
      cases hnotes with
      | refused f hraised =>
        subst hraised
        refine ⟨.inl rfl, fun v' w' hreturns => ?_⟩
        rw [Returns.bind_iff hview, hcall.bind_iff] at hreturns
        exact absurd hreturns not_returns_middlewareFailed_proceed
      | called f hf hnote =>
        have hsees : m.Sees v ⟨f, ended, w₂.env.user⟩ := by
          refine ⟨hf, congrArg Note.given hnote, fun hfork => ?_⟩
          rw [← view_of_returns_viewOf hview hfork]
          exact congrArg Note.argument hnote
        refine ⟨.inr ⟨_, rfl, hsees⟩, fun v' w' hreturns => ⟨_, rfl, hsees, ?_⟩⟩
        rw [Returns.bind_iff hview, hcall.bind_iff] at hreturns
        rw [visit_of_returns_conclude f hreturns]
        have hleft : w₂.env.user.2.left = left := congrArg Note.left hnote
        simp [Visit.after, ServerTree.augmentations, replyAfter, StageCall.note, hleft]

/-! ## All stages -/

/-- **Run lemma**: every middleware of a chain that is called sees what the calls before it have left of the
visit, and so does what comes after the chain. The induction is on the chain. -/
theorem runChain_sees (timeout : Value) (ms : List (ScopedMiddleware Value)) (v : Visit)
    (w : World (Noted U)) :
    ∃ calls, Records World.withCalls (runChain b.noting.recorded timeout ms v)
        (runChain b.noting timeout ms v) w calls ∧
      EachAfter (fun before s => ∃ m, ms[before.length]? = some m ∧ m.Sees (v.after b before) s)
        (stageCalls calls) ∧
      ∀ v' w', Returns (runChain b.noting timeout ms v) w (.proceed v') w' →
        (stageCalls calls).length = ms.length ∧ v' = v.after b (stageCalls calls) := by
  induction ms generalizing v w with
  | nil =>
    refine ⟨[], records_pure _ w, eachAfter_of_single (.inl rfl), ?_⟩
    intro v' w' hreturns
    exact ⟨rfl, (Progress.proceed.inj (returns_pure.mp hreturns).1).symm⟩
  | cons m ms ih =>
    rw [runChain, runChain]
    obtain ⟨called, hrecords, hsees, hproceeds⟩ := runMiddleware_sees b timeout m v w
    -- when the chain stops at its first middleware, that is the only one that can have been called
    have hfirst : EachAfter (fun before s => ∃ m', (m :: ms)[before.length]? = some m' ∧
        m'.Sees (v.after b before) s) (stageCalls called) := by
      apply eachAfter_of_single
      rcases hsees with hnone | ⟨s, hone, hseen⟩
      · exact .inl hnone
      · exact .inr ⟨s, hone, m, rfl, hseen⟩
    cases hrun : outcome (runMiddleware b.noting timeout m v) w with
    | mk r w₁ =>
      cases r with
      | error e =>
        refine ⟨called, hrecords.bind_stop hrun, hfirst, ?_⟩
        intro v' w' hreturns
        exact absurd hreturns (not_returns_bind hrun)
      | ok p =>
        cases p with
        | answered answer =>
          refine ⟨called ++ [], hrecords.bind hrun (records_pure _ w₁), ?_, ?_⟩
          · rw [List.append_nil]
            exact hfirst
          · intro v' w' hreturns
            rw [Returns.bind_iff hrun] at hreturns
            cases (returns_pure.mp hreturns).1
        | proceed v₁ =>
          -- the rest of the chain goes on from what this call has left
          obtain ⟨s₁, hone, hseen, rfl⟩ := hproceeds v₁ w₁ hrun
          obtain ⟨rest, hrest, hsees', hproceeds'⟩ := ih (v.after b [s₁]) w₁
          refine ⟨called ++ rest, hrecords.bind hrun hrest, ?_, ?_⟩
          · rw [stageCalls_append]
            refine hfirst.append fun before s after hsplit => ?_
            obtain ⟨m', hm', hseen'⟩ := hsees' before s after hsplit
            rw [hone]
            refine ⟨m', hm', ?_⟩
            show m'.Sees (v.after b (s₁ :: before)) s
            rw [Visit.after_cons]
            exact hseen'
          · intro v' w' hreturns
            rw [Returns.bind_iff hrun] at hreturns
            obtain ⟨hlength, rfl⟩ := hproceeds' v' w' hreturns
            rw [stageCalls_append, hone]
            exact ⟨congrArg (· + 1) hlength, (Visit.after_cons b v s₁ _).symm⟩

/-- Running the handler calls its function at most once, and it sees the visit as it is. -/
theorem runHandler_sees (h : WrappedHandler) (v : Visit) (w : World (Noted U)) :
    ∃ calls, Records World.withCalls (runHandler b.noting.recorded h v) (runHandler b.noting h v) w calls ∧
      (stageCalls calls = [] ∨ ∃ s, stageCalls calls = [s] ∧ h.Sees v s) := by
  rw [runHandler_eq, runHandler_eq]
  obtain ⟨called, ended, left, w₁, hcall, hcalled, hnotes⟩ :=
    callStage_notes b h.handler (.context v.fields) v.reply w
  obtain ⟨rest, hrest, hconcluded⟩ := callsOnly_concludeHandler b.noting h left ended w₁
  refine ⟨called ++ rest, hcalled.bind hcall hconcluded, ?_⟩
  have hstages : stageCalls (called ++ rest) = stageCalls called := by simp [stageCalls_eq_nil hrest]
  rw [hstages]
  cases hnotes with
  | refused f _ => exact .inl rfl
  | called f hf hnote =>
    exact .inr ⟨_, rfl, hf, congrArg Note.given hnote, congrArg Note.argument hnote⟩

end Act

/-- A stage that is called, a middleware or the handler, sees what the calls before it have left of the visit
with which the stages began. -/
def WrappedHandler.StageSees (h : WrappedHandler) (v : Visit) (position : Nat)
    (s : StageCall (Noted U)) : Prop :=
  (∃ m, h.config.middleware[position]? = some m ∧ m.Sees v s) ∨
    position = h.config.middleware.length ∧ h.Sees v s

open Act

/-- The stages of a request see what the calls before them have left of its visit. -/
theorem runStages_sees (h : WrappedHandler) (request : Request) (body : Value) (level : Int)
    (w : World (Noted U)) :
    ∃ calls, Records World.withCalls (h.runStages b.noting.recorded request body level)
        (h.runStages b.noting request body level) w calls ∧
      EachAfter (fun before s =>
        h.StageSees ((Visit.mk (coreFields h request body level) {}).after b before) before.length s)
        (stageCalls calls) := by
  let start : Visit := ⟨coreFields h request body level, {}⟩
  obtain ⟨called, hrecords, hsees, hproceeds⟩ := runChain_sees b h.timeout h.config.middleware start w
  have hchain : EachAfter (fun before s => h.StageSees (start.after b before) before.length s)
      (stageCalls called) :=
    fun before s after hsplit => .inl (hsees before s after hsplit)
  by_cases hthrough : ∃ v w₁, Returns (runChain b.noting h.timeout h.config.middleware start) w (.proceed v) w₁
  · obtain ⟨v, w₁, hrun⟩ := hthrough
    obtain ⟨hlength, rfl⟩ := hproceeds v w₁ hrun
    obtain ⟨rest, hrest, hhandler⟩ := runHandler_sees b h (start.after b (stageCalls called)) w₁
    refine ⟨called ++ rest, hrecords.runStages_of_proceed hrun hrest, ?_⟩
    rw [stageCalls_append]
    apply hchain.append
    apply eachAfter_of_single
    rcases hhandler with hnone | ⟨s, hone, hseen⟩
    · exact .inl hnone
    · refine .inr ⟨s, hone, ?_⟩
      rw [List.append_nil]
      exact .inr ⟨hlength, hseen⟩
  · have hstop := fun v w₁ hrun => hthrough ⟨v, w₁, hrun⟩
    exact ⟨called, hrecords.runStages_of_stop hstop, hchain⟩

/-- The stages of a request that are called see what the calls before them have left of the visit with which
the stages begin: the fields of the decoded request, and a new reply. -/
theorem serve_stageSees (h : WrappedHandler) (request : Request) (w : World (Noted U)) :
    ∃ calls, Records World.withCalls (h.serve b.noting.recorded request) (h.serve b.noting request) w calls ∧
      EachAfter (fun before s => ∃ w₁ body w₂, Returns (checkLimit h request) w none w₁ ∧
        Returns (receiveValue request) w₁ body w₂ ∧
          h.StageSees ((Visit.mk (coreFields h request body w₂.env.log.effective) {}).after b before)
            before.length s) (stageCalls calls) := by
  rcases serve_cases b.noting h request w with hnothing | ⟨w₁, body, w₂, hlimit, hbody, hserve⟩
  · -- without a call there is nothing to see
    exact ⟨[], hnothing, eachAfter_of_single (.inl rfl)⟩
  · obtain ⟨calls, hcalls, hsees⟩ := runStages_sees b h request body w₂.env.log.effective w₂
    exact ⟨calls, hserve calls hcalls, fun before s after hsplit =>
      ⟨w₁, body, w₂, hlimit, hbody, hsees before s after hsplit⟩⟩

/-- **What every stage of a request sees.** The fields of its context are those of the request, overlaid in
order with what was accepted of the augmentations of all earlier stages; a middleware sees its own service
and configuration in them. This is so as long as no field was accepted that has the name of a method which
the pipeline calls: from then on augmentations are lost. What an earlier stage has set on its context is not
seen, what it has done to the reply is. -/
theorem serve_sees (h : WrappedHandler) (request : Request) (w : World (Noted U)) :
    (∃ calls, Records World.withCalls (h.serve b.noting.recorded request) (h.serve b.noting request) w calls ∧
      ∀ before s after, stageCalls calls = before ++ s :: after →
        ∃ w₁ body w₂, Returns (checkLimit h request) w none w₁ ∧ Returns (receiveValue request) w₁ body w₂ ∧
          let core := coreFields h request body w₂.env.log.effective
          let sources := augmentations b.noting before
          s.note.given = replyAfter {} before ∧
          h.StageSees ⟨augmented core sources, replyAfter {} before⟩ before.length s ∧
          (Unreplaced sources →
            (∃ m, h.config.middleware[before.length]? = some m ∧ m.fn = .func s.fn ∧
              s.note.argument = .context (m.view (sources.foldl mergeFields core))) ∨
            before.length = h.config.middleware.length ∧ h.handler = .func s.fn ∧
              s.note.argument = .context (sources.foldl mergeFields core))) ∧
    ∀ source key v, (key, v) ∈ acceptedFields source ↔ (.str key, v) ∈ source.entries?.getD [] ∧
      key ∉ ["__proto__", "constructor", "prototype"] ∧
      ¬ (Text.startsWith "__" key = true ∧ Text.endsWith "__" key = true) := by
  refine ⟨?_, fun _ _ _ => mem_acceptedFields⟩
  obtain ⟨calls, hrecords, hcalls⟩ := serve_stageSees b h request w
  refine ⟨calls, hrecords, fun before s after hsplit => ?_⟩
  obtain ⟨w₁, body, w₂, hlimit, hbody, hsees⟩ := hcalls before s after hsplit
  refine ⟨w₁, body, w₂, hlimit, hbody, ?_⟩
  intro core sources
  obtain ⟨haugment, hfork⟩ := methodField?_coreFields h request body w₂.env.log.effective
  refine ⟨?_, hsees, fun hunreplaced => ?_⟩
  · rcases hsees with ⟨m, -, hseen⟩ | ⟨-, hseen⟩
    · exact hseen.reply
    · exact hseen.reply
  · have hfields : augmented core sources = sources.foldl mergeFields core :=
      augmented_eq_foldl haugment hunreplaced
    have hnofork : methodField? "fork" (augmented core sources) = none :=
      (methodField?_augmented fun source hsource e he => (hunreplaced source hsource e he).2).trans hfork
    rw [← hfields]
    rcases hsees with ⟨m, hm, hseen⟩ | ⟨hlength, hseen⟩
    · exact .inl ⟨m, hm, hseen.fn, hseen.fields hnofork⟩
    · exact .inr ⟨hlength, hseen.fn, hseen.fields⟩

/-- The first middleware augments the context with a function that has the name of the method which merges,
the second one with a user. -/
def replacing : Behaviour Unit :=
  { Behaviour.idle with
    handle := fun fn argument reply env =>
      let result : Value :=
        if fn.name = "first" then .mapping [(.str "augment", .func ⟨"ignore", 0, false⟩)]
        else if fn.name = "second" then .mapping [(.str "user", .str "ada")]
        else .str "ok"
      ⟨.returned result, argument, reply, env⟩ }

/-- A handler behind both. -/
def replaced : WrappedHandler where
  handler := .func ⟨"handler", 1, false⟩
  config := (RouteConfig.empty.withMiddleware (.func ⟨"first", 2, false⟩)).withMiddleware
    (.func ⟨"second", 3, false⟩)
  timeout := .int 30
  route := "GET /x"
  logger := ⟨"GET /x", none⟩
  number := 0

/-- The calls of its stages for an empty request. -/
def replacedCalls : List (StageCall (Noted Unit)) :=
  stageCalls (outcome (replaced.serve replacing.noting.recorded {})
    (World.withCalls { env := { user := ((), ⟨.value .none, {}, {}⟩) } } [])).2.env.user.2

/-- The handler is called behind both, and does not see the user. -/
theorem serve_loses_augmentation :
    ∃ s, replacedCalls.getLast? = some s ∧ replaced.handler = .func s.fn ∧
      augmentations replacing.noting replacedCalls.dropLast =
        [.mapping [(.str "augment", .func ⟨"ignore", 0, false⟩)], .mapping [(.str "user", .str "ada")]] ∧
      ∀ body level, s.note.argument ≠ .context
        ((augmentations replacing.noting replacedCalls.dropLast).foldl mergeFields
          (coreFields replaced {} body level)) := by
  refine ⟨_, rfl, rfl, rfl, ?_⟩
  intro body level hsame
  have husers : (none : Option Value) = some (.str "ada") :=
    congrArg (fun argument => match argument with
      | .context fields => methodField? "user" fields
      | .value _ => none) hsame
  cases husers

end ServerTree
