import ServerTree.Pipeline.Handler
import ServerTree.Proofs.Alike

/-!
# The stages of a request side by side

A request is served alike in worlds that differ in what is still to be received, when its body reads alike
there. It is served alike from contexts that differ, as well, when neither the pipeline nor the functions of the
stages can tell them apart.

## Main definitions
- `Indistinct`: fields that neither the pipeline nor the functions of stages tell apart
- `ReadsAlike`: inboxes from which the body of a request reads alike

## Main statements
- `alike_runMiddleware`, `alike_runChain`: the middleware of a request
- `alike_serve`: a request that arrives at a handler
-/

namespace ServerTree

variable {U : Type} {P : App → Inbox → Inbox → Prop} {V : Fields → Fields → Prop}

/-! ## Fields that are not told apart -/

/-- Fields in a relation are not told apart: the pipeline finds the same in them, what it makes of them is in
the relation again, and functions of stages do the same on contexts of them. -/
structure Indistinct (b : Behaviour U) (V : Fields → Fields → Prop) : Prop where
  augment : ∀ {f f'}, V f f' → methodField? "augment" f = methodField? "augment" f'
  fork : ∀ {f f'}, V f f' → methodField? "fork" f = methodField? "fork" f'
  reply : ∀ {f f'}, V f f' → Assoc.get? (.str "reply") f = Assoc.get? (.str "reply") f'
  merge : ∀ {f f'} (source : Value), V f f' → V (mergeFields f source) (mergeFields f' source)
  view : ∀ {f f'} (m : ScopedMiddleware Value), V f f' → V (m.view f) (m.view f')
  handle : ∀ {f f'} (fn : Func) (reply : Reply) (env : Env U), V f f' →
    let r := b.handle fn (.context f) reply env
    let r' := b.handle fn (.context f') reply env
    r.outcome = r'.outcome ∧ r.reply = r'.reply ∧ r.env = r'.env

/-- Fields are not told apart from themselves. -/
theorem indistinct_eq (b : Behaviour U) : Indistinct b Eq where
  augment h := by rw [h]
  fork h := by rw [h]
  reply h := by rw [h]
  merge _ h := by rw [h]
  view _ h := by rw [h]
  handle _ _ _ h := by simp only [h, and_self]

/-- What a stage is called with, up to fields in a relation. -/
inductive Argument.Like (V : Fields → Fields → Prop) : Argument → Argument → Prop
  | context {f f' : Fields} : V f f' → Argument.Like V (.context f) (.context f')
  | value (v : Value) : Argument.Like V (.value v) (.value v)

/-- How a stage ends, up to fields in a relation. -/
inductive Progress.Like (V : Fields → Fields → Prop) : Progress → Progress → Prop
  | proceed {f f' : Fields} (reply : Reply) : V f f' → Progress.Like V (.proceed ⟨f, reply⟩) (.proceed ⟨f', reply⟩)
  | answered (answer : Value) : Progress.Like V (.answered answer) (.answered answer)

/-- From inboxes in a relation the body of a request reads alike, and what is left of them is in the relation
again. -/
def ReadsAlike (P : App → Inbox → Inbox → Prop) (request : Request) : Prop :=
  ∀ app i j, P app i j → (request.body i).1 = (request.body j).1 ∧ P app (request.body i).2 (request.body j).2

namespace Act

variable (b : Behaviour U)

/-! ## Middleware -/

theorem alike_callInPlace (fn : Value) (arguments : List Value) (named : List (String × Value)) :
    Alike (World.Like P) Eq (callInPlace b fn arguments named) (callInPlace b fn arguments named) := by
  refine (alike_withEnv _).bind_eq fun r => ?_
  cases r with
  | returned v => exact alike_pure rfl
  | raised f => exact alike_fail f
  | suspended rest => exact alike_throw _

theorem alike_haltedAnswer (v : Visit) :
    Alike (World.Like P) Eq (haltedAnswer b v) (haltedAnswer b v) := by
  unfold haltedAnswer
  cases Assoc.get? (.str "reply") v.fields with
  | none => exact alike_refuse _
  | some other =>
    have hother : Alike (World.Like P) Eq (do
        let sent ← ofAttempt (other.part "sent")
        if sent.truthy then
          let fn ← ofAttempt (other.part "to_response")
          callInPlace b fn [] []
        else return Value.response .empty) (do
        let sent ← ofAttempt (other.part "sent")
        if sent.truthy then
          let fn ← ofAttempt (other.part "to_response")
          callInPlace b fn [] []
        else return Value.response .empty) := by
      refine (alike_ofAttempt _).bind_eq fun sent => ?_
      split
      · exact (alike_ofAttempt _).bind_eq fun fn => alike_callInPlace b fn [] []
      · exact alike_pure rfl
    cases other with
    | reply => exact (alike_ofAttempt _).bind_eq fun r => alike_pure rfl
    | _ => exact hother

theorem alike_warnReserved (source : Value) :
    Alike (World.Like P) Eq (warnReserved source : Act U Unit) (warnReserved source) := by
  refine (alike_forIn (fun _ _ => ?_) _ _).bind_eq fun _ => alike_pure rfl
  exact (alike_log _ _ _).bind_eq fun _ => alike_pure rfl

theorem alike_middlewareFailed (name : String) (timeout : Value) (f : Fault) :
    Alike (World.Like P) (Progress.Like V) (middlewareFailed name timeout f : Act U Progress)
      (middlewareFailed name timeout f) := by
  unfold middlewareFailed
  split
  · refine (alike_logText _ _ _).bind_eq fun _ => ?_
    refine (alike_ofAttempt _).bind_eq fun status => ?_
    exact (alike_ofAttempt _).bind_eq fun message => alike_pure (.answered _)
  · refine (alike_ofAttempt _).bind_eq fun logged => ?_
    refine (alike_log _ _ _).bind_eq fun _ => ?_
    exact (alike_ofAttempt _).bind_eq fun shown => alike_pure (.answered _)

theorem alike_abandon (rest : Nat) :
    Alike (World.Like P) Eq (abandon rest : Act U Unit) (abandon rest) := by
  refine alike_modify ?_
  rintro w _ ⟨inbox, rfl, hP⟩
  exact ⟨inbox, rfl, hP⟩

variable {b} {f f' : Fields}

theorem alike_applySignal (hV : Indistinct b V) (hf : V f f') (reply : Reply) (signal : Signal Value) :
    Alike (World.Like P) (Progress.Like V) (applySignal b ⟨f, reply⟩ signal)
      (applySignal b ⟨f', reply⟩ signal) := by
  cases signal with
  | proceed => exact alike_pure (.proceed reply hf)
  | halt =>
    have hsame : haltedAnswer b ⟨f, reply⟩ = haltedAnswer b ⟨f', reply⟩ := by
      unfold haltedAnswer
      simp only [hV.reply hf]
    rw [applySignal, applySignal, hsame]
    exact (alike_haltedAnswer b _).bind_eq fun r => alike_pure (.answered _)
  | augment source =>
    simp only [applySignal, hV.augment hf]
    cases methodField? "augment" f' with
    | some fn => exact (alike_callInPlace b fn _ _).bind_eq fun _ => alike_pure (.proceed reply hf)
    | none =>
      refine (alike_warnReserved source).bind_eq fun _ => ?_
      exact alike_pure (.proceed reply (hV.merge source hf))
  | fail status message => exact (alike_ofAttempt _).bind_eq fun shown => alike_pure (.answered _)

theorem alike_viewOf (hV : Indistinct b V) (hf : V f f') (m : ScopedMiddleware Value) (reply : Reply) :
    Alike (World.Like P) (Argument.Like V) (viewOf b m ⟨f, reply⟩) (viewOf b m ⟨f', reply⟩) := by
  simp only [viewOf, hV.fork hf]
  cases methodField? "fork" f' with
  | none => exact alike_pure (.context (hV.view m hf))
  | some fn => exact (alike_callInPlace b fn _ _).bind_eq fun view => alike_pure (.value view)

/-- Calling a stage comes to the same on arguments that are not told apart. -/
theorem alike_callStage (hV : Indistinct b V) {argument argument' : Argument}
    (h : Argument.Like V argument argument') (fn : Value) (reply : Reply) :
    Alike (World.Like P) Eq (callStage b fn argument reply) (callStage b fn argument' reply) := by
  cases h with
  | value v => exact alike_withEnv _
  | @context f f' hf =>
    cases fn with
    | func fn =>
      have hsame : callStage b (.func fn) (.context f) reply = callStage b (.func fn) (.context f') reply := by
        refine congrArg withEnv (funext fun env => ?_)
        obtain ⟨houtcome, hreply, henv⟩ := hV.handle fn reply env hf
        simp only [Behaviour.callScoped, houtcome, hreply, henv]
      rw [hsame]
      exact alike_withEnv _
    | _ => exact alike_withEnv _

theorem alike_callMiddleware (hV : Indistinct b V) {argument argument' : Argument}
    (h : Argument.Like V argument argument') (timeout : Value) (m : ScopedMiddleware Value)
    (reply : Reply) :
    Alike (World.Like P) Eq (callMiddleware b timeout m argument reply)
      (callMiddleware b timeout m argument' reply) := by
  unfold callMiddleware callWithin
  split
  · cases checkTimeout timeout with
    | ok _ => exact alike_callStage hV h m.fn reply
    | error f => exact alike_pure rfl
  · exact alike_pure rfl

/-- **Step lemma**: one middleware. -/
theorem alike_runMiddleware (hV : Indistinct b V) (hf : V f f') (timeout : Value)
    (m : ScopedMiddleware Value) (reply : Reply) :
    Alike (World.Like P) (Progress.Like V) (runMiddleware b timeout m ⟨f, reply⟩)
      (runMiddleware b timeout m ⟨f', reply⟩) := by
  refine (alike_viewOf hV hf m reply).bind fun view view' hview => ?_
  refine (alike_callMiddleware hV hview timeout m reply).bind_eq fun r => ?_
  obtain ⟨ended, reply'⟩ := r
  cases ended with
  | returned result =>
    exact (alike_expand _).bind_eq fun signal => alike_applySignal hV hf reply' signal
  | raised fault => exact alike_middlewareFailed _ _ _
  | suspended rest =>
    have hgiven : Alike (World.Like P) (Progress.Like V) (do
        abandon rest
        middlewareFailed m.fn.functionName timeout middlewareTimedOut : Act U Progress) (do
        abandon rest
        middlewareFailed m.fn.functionName timeout middlewareTimedOut) :=
      (alike_abandon rest).bind_eq fun _ => alike_middlewareFailed _ _ _
    cases timeout with
    | none => exact alike_throw _
    | _ => exact hgiven

/-- **Run lemma**: a chain of middleware. -/
theorem alike_runChain (hV : Indistinct b V) (hf : V f f') (timeout : Value)
    (ms : List (ScopedMiddleware Value)) (reply : Reply) :
    Alike (World.Like P) (Progress.Like V) (runChain b timeout ms ⟨f, reply⟩)
      (runChain b timeout ms ⟨f', reply⟩) := by
  induction ms generalizing f f' reply with
  | nil => exact alike_pure (.proceed reply hf)
  | cons m ms ih =>
    refine (alike_runMiddleware hV hf timeout m reply).bind fun p p' hp => ?_
    cases hp with
    | proceed reply' hf' => exact ih hf' reply'
    | answered answer => exact alike_pure (.answered answer)

/-! ## The handler -/

theorem alike_handlerFailed (route : String) (reply : Reply) (f : Fault) :
    Alike (World.Like P) Eq (handlerFailed route reply f : Act U (Response Value))
      (handlerFailed route reply f) := by
  have hanswer : Alike (World.Like P) Eq (if reply.sent then ofAttempt reply.response
      else do
        let shown ← ofAttempt (sanitizeFailure f "Internal server error")
        return errorResponse (.int (f.status 500)) shown [] : Act U (Response Value))
      (if reply.sent then ofAttempt reply.response
      else do
        let shown ← ofAttempt (sanitizeFailure f "Internal server error")
        return errorResponse (.int (f.status 500)) shown []) := by
    split
    · exact alike_ofAttempt _
    · exact (alike_ofAttempt _).bind_eq fun shown => alike_pure rfl
  unfold handlerFailed
  dsimp only
  split
  · exact (alike_log _ _ _).bind_eq fun _ => hanswer
  · exact (alike_log _ _ _).bind_eq fun _ => hanswer

theorem alike_runHandler (hV : Indistinct b V) (hf : V f f') (h : WrappedHandler) (reply : Reply) :
    Alike (World.Like P) Eq (runHandler b h ⟨f, reply⟩) (runHandler b h ⟨f', reply⟩) := by
  refine (alike_callStage hV (.context hf) h.handler reply).bind_eq fun r => ?_
  obtain ⟨ended, reply'⟩ := r
  cases ended with
  | returned result => exact alike_expand _
  | raised fault => exact alike_handlerFailed _ _ _
  | suspended rest => exact alike_throw _

/-! ## All stages -/

variable {request : Request}

theorem alike_receiveBody (hread : ReadsAlike P request) :
    Alike (World.Like P) Eq (receiveBody request : Act U (Attempt Bytes)) (receiveBody request) := by
  rintro w _ ⟨inbox, rfl, hP⟩
  obtain ⟨hbody, hleft⟩ := hread w.app w.inbox inbox hP
  exact .returned hbody ⟨_, rfl, hleft⟩

theorem alike_receiveValue (hread : ReadsAlike P request) :
    Alike (World.Like P) Eq (receiveValue request : Act U Value) (receiveValue request) := by
  refine (alike_receiveBody hread).bind_eq fun received => ?_
  exact (alike_ofAttempt _).bind_eq fun raw => alike_ofAttempt _

theorem alike_checkLimit (h : WrappedHandler) (request : Request) :
    Alike (World.Like P) Eq (checkLimit h request : Act U (Option Int)) (checkLimit h request) := by
  unfold checkLimit
  cases h.config.settings.rateLimit with
  | none => exact alike_pure rfl
  | rateLimitSpec spec =>
    refine alike_get.bind ?_
    rintro w _ ⟨inbox, rfl, hP⟩
    refine (alike_set ⟨inbox, rfl, hP⟩).bind_eq fun _ => ?_
    exact (alike_ofAttempt _).bind_eq fun verdict => alike_pure rfl
  | _ => exact alike_refuse _

variable (b)

/-- **A request that arrives at a handler** is served alike where its body reads alike. -/
theorem alike_serve (hread : ReadsAlike P request) (h : WrappedHandler) :
    Alike (World.Like P) Eq (h.serve b request) (h.serve b request) := by
  refine (alike_checkLimit h request).bind_eq fun denied => ?_
  cases denied with
  | some seconds => exact alike_pure rfl
  | none =>
    refine (alike_receiveValue hread).bind_eq fun body => ?_
    refine alike_get.bind ?_
    rintro w _ ⟨inbox, rfl, hP⟩
    refine (alike_runChain (indistinct_eq b) rfl _ _ _).bind fun p p' hp => ?_
    cases hp with
    | answered answer => exact alike_pure rfl
    | proceed reply hf =>
      exact (alike_runHandler (indistinct_eq b) hf h reply).bind_eq fun r => alike_pure rfl

end Act

end ServerTree
