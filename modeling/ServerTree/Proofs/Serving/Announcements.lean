import ServerTree.App.Lifespan
import ServerTree.Proofs.Keeping

/-!
# Answers to announcements

A server announces its start and its end, and waits each time for an answer. The hooks of the phase run in the
order of their registration up to the first that fails. A startup that fails is answered too, and ends the
conversation. A shutdown that fails is not: its failure leaves the application, and the server gets no answer.

## Main definitions
- `HooksRun`: which hooks are called, and what comes of them
- `Behaviour.dialogue`: what is done about each announcement
- `Dialogue.Heeds`: which announcements are heeded
- `Exchange.Answered`: an announcement has its answer

## Main statements
- `outcome_acknowledge`: the dialogue is what the application does
- `announcements_are_answered_iff`: every announcement has its answer exactly when no hook fails at a shutdown,
  and what a hook fails with at a startup can be told
-/

namespace ServerTree

variable {U : Type}

/-! ## Hooks -/

/-- Why a computation stops that waits for a call, unless the call returns. -/
def Settled.stop? : Settled → Option Stop
  | .returned _ => none
  | .raised f => some (.failed f)
  | .suspended _ => some .unsettled

/-- Hooks run in order, up to the first that does not return: the calls with their ends, and what comes of the
whole. -/
inductive HooksRun : List Value → List (Value × Settled) → Except Stop Unit → Prop
  | done : HooksRun [] [] (.ok ())
  | returned {hook v : Value} {hooks : List Value} {calls : List (Value × Settled)} {result : Except Stop Unit}
      (rest : HooksRun hooks calls result) : HooksRun (hook :: hooks) ((hook, .returned v) :: calls) result
  | stopped {hook : Value} {hooks : List Value} {ended : Settled} {stop : Stop} (h : ended.stop? = some stop) :
      HooksRun (hook :: hooks) [(hook, ended)] (.error stop)

namespace HooksRun

variable {hooks : List Value} {calls : List (Value × Settled)}

/-- When nothing stops, all hooks were called and returned. -/
theorem of_ok (h : HooksRun hooks calls (.ok ())) :
    calls.map Prod.fst = hooks ∧ ∀ call ∈ calls, call.2.stop? = none := by
  generalize hresult : Except.ok () = result at h
  induction h with
  | done => simp
  | returned _ ih =>
    obtain ⟨hcalls, hall⟩ := ih hresult
    exact ⟨by rw [List.map_cons, hcalls], List.forall_mem_cons.mpr ⟨rfl, hall⟩⟩
  | stopped => cases hresult

/-- Otherwise one call did not return, and this is why. -/
theorem of_error {stop : Stop} (h : HooksRun hooks calls (.error stop)) :
    (∃ call ∈ calls, call.2.stop? = some stop) ∧
      ∀ call ∈ calls, call.2.stop? = none ∨ call.2.stop? = some stop := by
  generalize hresult : Except.error stop = result at h
  induction h with
  | done => cases hresult
  | returned _ ih =>
    obtain ⟨⟨call, hcall, hstop⟩, hall⟩ := ih hresult
    exact ⟨⟨call, List.mem_cons_of_mem _ hcall, hstop⟩, List.forall_mem_cons.mpr ⟨.inl rfl, hall⟩⟩
  | @stopped hook _ ended stop' hended =>
    obtain rfl := Except.error.inj hresult
    exact ⟨⟨(hook, ended), List.mem_singleton_self _, hended⟩,
      List.forall_mem_singleton.mpr (.inr hended)⟩

end HooksRun

/-- The calls of hooks, up to the first that does not return. -/
def Behaviour.hookCalls (b : Behaviour U) : List Value → Env U → List (Value × Settled)
  | [], _ => []
  | hook :: hooks, env =>
    let call := b.callProvide hook env
    (hook, call.1) :: if call.1.stop?.isNone then b.hookCalls hooks call.2 else []

/-- A phase calls its hooks in order and comes to what they come to. Nothing but what they can reach
changes. -/
theorem outcome_runPhase (b : Behaviour U) (hooks : List Value) (w : World U) :
    HooksRun hooks (b.hookCalls hooks w.env) (outcome (runPhase b hooks) w).1 ∧
      (outcome (runPhase b hooks) w).2.app = w.app := by
  induction hooks generalizing w with
  | nil => exact ⟨.done, rfl⟩
  | cons hook hooks ih =>
    have hcall : outcome (Act.withEnv (b.callProvide hook)) w =
        (.ok (b.callProvide hook w.env).1, { w with env := (b.callProvide hook w.env).2 }) := rfl
    rw [runPhase, outcome_bind, hcall, Behaviour.hookCalls]
    cases hended : (b.callProvide hook w.env).1 with
    | returned v =>
      obtain ⟨hrun, happ⟩ := ih { w with env := (b.callProvide hook w.env).2 }
      exact ⟨.returned hrun, happ⟩
    | raised f => exact ⟨.stopped rfl, rfl⟩
    | suspended rest => exact ⟨.stopped rfl, rfl⟩

/-! ## Dialogues -/

/-- What is done about an announcement: the hooks that are called, with the ends of the calls, and what is
answered. -/
structure Exchange where
  announcement : Announcement
  calls : List (Value × Settled)
  answers : List Acknowledgement

/-- What is done about announcements, and how it ends. -/
structure Dialogue (U : Type) where
  exchanges : List Exchange
  ended : Except Stop Unit
  world : World U

/-- An exchange, and what follows it. -/
def Dialogue.after (e : Exchange) (d : Dialogue U) : Dialogue U := { d with exchanges := e :: d.exchanges }

/-- A startup that failed is logged, and answered with the text of the failure if it has one. -/
def Dialogue.failed (calls : List (Value × Settled)) (f : Fault) (w : World U) : Dialogue U :=
  let logged := { w with env := w.env.emit .server .error "Startup hook failed" }
  match f.text with
  | .ok message => ⟨[⟨.startup, calls, [.startupFailed message]⟩], .ok (), logged⟩
  | .error untold => ⟨[⟨.startup, calls, []⟩], .error (.failed untold), logged⟩

/-- What is done about announcements that arrive one after the other. -/
def Behaviour.dialogue (b : Behaviour U) : List Announcement → World U → Dialogue U
  | [], w => ⟨[], .ok (), w⟩
  | .other :: messages, w => (b.dialogue messages w).after ⟨.other, [], []⟩
  | .startup :: messages, w =>
    let calls := b.hookCalls w.app.startupHooks w.env
    match outcome (startUp b) w with
    | (.ok (), next) => (b.dialogue messages next).after ⟨.startup, calls, [.startupComplete]⟩
    | (.error (.failed f), next) => .failed calls f next
    | (.error .unsettled, next) => ⟨[⟨.startup, calls, []⟩], .error .unsettled, next⟩
  | .shutdown :: _, w =>
    let calls := b.hookCalls w.app.shutdownHooks w.env
    match outcome (shutDown b) w with
    | (.ok (), next) => ⟨[⟨.shutdown, calls, [.shutdownComplete]⟩], .ok (), next⟩
    | (.error stop, next) => ⟨[⟨.shutdown, calls, []⟩], .error stop, next⟩

/-- What an application comes to when announcements arrive is its dialogue. -/
theorem outcome_acknowledge (b : Behaviour U) (messages : List Announcement) (w : World U) :
    outcome (acknowledge b messages) w =
      ((b.dialogue messages w).ended.map fun _ => (b.dialogue messages w).exchanges.flatMap Exchange.answers,
        (b.dialogue messages w).world) := by
  induction messages generalizing w with
  | nil => rfl
  | cons message messages ih =>
    cases message with
    | other => 
      rw [acknowledge, ih]
      rfl
    | startup =>
      rw [acknowledge, outcome_bind, Act.outcome_attempt, Behaviour.dialogue]
      cases hstart : outcome (startUp b) w with
      | mk result next =>
        rcases result with (f | _) | _
        · simp only [Dialogue.failed]
          cases f.text <;> rfl
        · rfl
        · change outcome (acknowledge b messages >>= fun rest => pure (.startupComplete :: rest)) next = _
          rw [outcome_bind, ih]
          simp only [Dialogue.after]
          cases (b.dialogue messages next).ended <;> rfl
    | shutdown =>
      rw [acknowledge, outcome_bind, Behaviour.dialogue]
      cases hstop : outcome (shutDown b) w with
      | mk result next => cases result <;> rfl

/-! ## What a server may expect -/

/-- The hooks of the phase that an announcement begins. -/
def App.hooksOf (app : App) : Announcement → List Value
  | .startup => app.startupHooks
  | .shutdown => app.shutdownHooks
  | .other => []

/-- What an acknowledgement answers. -/
def Acknowledgement.announcement : Acknowledgement → Announcement
  | startupComplete | startupFailed _ => .startup
  | shutdownComplete => .shutdown

/-- Whether an acknowledgement tells of success. -/
def Acknowledgement.isComplete : Acknowledgement → Bool
  | startupComplete | shutdownComplete => true
  | startupFailed _ => false

namespace Exchange

/-- All hooks of the phase were called and returned. -/
def Completed (hooks : Announcement → List Value) (e : Exchange) : Prop :=
  e.calls.map Prod.fst = hooks e.announcement ∧ ∀ call ∈ e.calls, call.2.stop? = none

/-- Nothing is received after a shutdown, or after a startup that did not succeed. -/
def Closes (hooks : Announcement → List Value) (e : Exchange) : Prop :=
  e.announcement = .shutdown ∨ e.announcement = .startup ∧ ¬ e.Completed hooks

/-- A startup and a shutdown have one answer, which tells of success exactly when all hooks returned. Anything
else has none. -/
def Answered (hooks : Announcement → List Value) (e : Exchange) : Prop :=
  (e.announcement = .other → e.answers = []) ∧
  (e.announcement ≠ .other → ∃ answer, e.answers = [answer] ∧ answer.announcement = e.announcement ∧
    (answer.isComplete = true ↔ e.Completed hooks))

/-- Hooks return, unless the server can be told of their failure: at a startup, and with a text. -/
def Tells (e : Exchange) : Prop :=
  ∀ call ∈ e.calls, call.2.stop? = none ∨
    e.announcement = .startup ∧ ∃ f message, call.2 = .raised f ∧ f.text = .ok message

variable {hooks : Announcement → List Value} {e : Exchange}

theorem not_completed {stop : Stop} (h : HooksRun (hooks e.announcement) e.calls (.error stop)) :
    ¬ e.Completed hooks := by
  rintro ⟨-, hall⟩
  obtain ⟨⟨call, hcall, hstop⟩, -⟩ := h.of_error
  rw [hall call hcall] at hstop
  cases hstop

/-- A call that stops an exchange can be told of when it is the one that stops a startup with a text. -/
theorem tells_iff {stop : Stop} (h : HooksRun (hooks e.announcement) e.calls (.error stop)) :
    e.Tells ↔ e.announcement = .startup ∧ ∃ f message, stop = .failed f ∧ f.text = .ok message := by
  obtain ⟨⟨call, hcall, hstop⟩, hall⟩ := h.of_error
  constructor
  · intro htells
    rcases htells call hcall with hnone | ⟨hstartup, f, message, hraised, htext⟩
    · rw [hnone] at hstop
      cases hstop
    · rw [hraised] at hstop
      exact ⟨hstartup, f, message, (Option.some.inj hstop).symm, htext⟩
  · rintro ⟨hstartup, f, message, rfl, htext⟩ other hother
    refine (hall other hother).imp_right fun hfailed => ⟨hstartup, f, message, ?_, htext⟩
    generalize other.2 = ended at hfailed
    cases ended with
    | raised f' =>
      obtain rfl : f' = f := by simpa [Settled.stop?] using hfailed
      rfl
    | returned | suspended => cases hfailed

end Exchange

/-- Announcements are received one after the other, up to the first exchange that closes. -/
inductive Heeds (hooks : Announcement → List Value) : List Announcement → List Exchange → Prop
  | silence : Heeds hooks [] []
  | closes {e : Exchange} (h : e.Closes hooks) (messages : List Announcement) :
      Heeds hooks (e.announcement :: messages) [e]
  | goesOn {e : Exchange} {messages : List Announcement} {exchanges : List Exchange} (h : ¬ e.Closes hooks)
      (rest : Heeds hooks messages exchanges) : Heeds hooks (e.announcement :: messages) (e :: exchanges)

/-- What is known of a dialogue of an application: hooks run in order, announcements are heeded, and when all
of them have their answer. -/
structure Dialogue.Sound (hooks : Announcement → List Value) (messages : List Announcement) (d : Dialogue U) : Prop where
  ran : ∀ e ∈ d.exchanges, ∃ result, HooksRun (hooks e.announcement) e.calls result
  heeds : Heeds hooks messages d.exchanges
  answered : (d.ended = .ok () ∧ ∀ e ∈ d.exchanges, e.Answered hooks) ↔ ∀ e ∈ d.exchanges, e.Tells

namespace Dialogue.Sound

variable {hooks : Announcement → List Value} {messages : List Announcement}

/-- A dialogue may go on after an exchange whose hooks all returned, when it does not close and is answered. -/
theorem after {d : Dialogue U} (sound : d.Sound hooks messages) {e : Exchange}
    (hrun : HooksRun (hooks e.announcement) e.calls (.ok ())) (hclose : e.announcement ≠ .shutdown)
    (hanswered : e.Completed hooks → e.Answered hooks) : (d.after e).Sound hooks (e.announcement :: messages) := by
  have hcompleted : e.Completed hooks := hrun.of_ok
  have htells : e.Tells := fun call hcall => .inl (hrun.of_ok.2 call hcall)
  refine ⟨List.forall_mem_cons.mpr ⟨⟨_, hrun⟩, sound.ran⟩, .goesOn ?_ sound.heeds, ?_⟩
  · rintro (hshutdown | ⟨-, hnot⟩)
    · exact hclose hshutdown
    · exact hnot hcompleted
  · have hsound := sound.answered
    simp only [Dialogue.after, List.forall_mem_cons, hanswered hcompleted, htells, true_and]
    exact hsound

/-- An exchange that closes is the last one. -/
theorem last {e : Exchange} {result ended : Except Stop Unit}
    (hrun : HooksRun (hooks e.announcement) e.calls result) (hclose : e.Closes hooks)
    (hanswered : (ended = .ok () ∧ e.Answered hooks) ↔ e.Tells) (w : World U) :
    (Dialogue.mk [e] ended w).Sound hooks (e.announcement :: messages) where
  ran := List.forall_mem_singleton.mpr ⟨_, hrun⟩
  heeds := .closes hclose messages
  answered := by simpa only [List.forall_mem_singleton] using hanswered

/-- An exchange without an answer is the last one when it stops for what the server cannot be told of. -/
theorem unanswered {e : Exchange} {stop ended : Stop}
    (hrun : HooksRun (hooks e.announcement) e.calls (.error stop)) (hclose : e.Closes hooks)
    (huntold : ¬ (e.announcement = .startup ∧ ∃ f message, stop = .failed f ∧ f.text = .ok message))
    (w : World U) : (Dialogue.mk [e] (.error ended) w).Sound hooks (e.announcement :: messages) := by
  refine last hrun hclose ?_ w
  rw [Exchange.tells_iff hrun]
  exact ⟨(fun h => nomatch h.1), fun h => absurd h huntold⟩

end Dialogue.Sound

/-- **Step lemma**: the exchange about a startup whose hooks did not all return. -/
theorem sound_failed {hooks : Announcement → List Value} {calls : List (Value × Settled)} {f : Fault}
    (hrun : HooksRun (hooks .startup) calls (.error (.failed f))) (messages : List Announcement)
    (w : World U) : (Dialogue.failed calls f w).Sound hooks (.startup :: messages) := by
  have hnot (answers : List Acknowledgement) : ¬ (Exchange.mk .startup calls answers).Completed hooks :=
    Exchange.not_completed hrun
  simp only [Dialogue.failed]
  cases htext : f.text with
  | ok message =>
    let e : Exchange := ⟨.startup, calls, [.startupFailed message]⟩
    have hanswered : e.Answered hooks :=
      ⟨(fun h => nomatch h), fun _ => ⟨_, rfl, rfl, (fun h => nomatch h), fun h => absurd h (hnot _)⟩⟩
    have htells : e.Tells := (Exchange.tells_iff (e := e) hrun).mpr ⟨rfl, f, message, rfl, htext⟩
    exact .last (e := e) hrun (.inr ⟨rfl, hnot _⟩) ⟨fun _ => htells, fun _ => ⟨rfl, hanswered⟩⟩ _
  | error untold =>
    refine .unanswered (e := ⟨.startup, calls, []⟩) hrun (.inr ⟨rfl, hnot _⟩) ?_ _
    rintro ⟨-, f', message, hf, htext'⟩
    obtain rfl : f = f' := by simpa using hf
    rw [htext] at htext'
    cases htext'

/-- **Run lemma**: whatever announcements arrive, hooks run in order, and all of them are answered exactly when
no hook fails in a way that the server cannot be told of. -/
theorem sound_dialogue (b : Behaviour U) (messages : List Announcement) {hooks : Announcement → List Value} {w : World U}
    (happ : w.app.hooksOf = hooks) : (b.dialogue messages w).Sound hooks messages := by
  induction messages generalizing w with
  | nil =>
    have hnone : (Behaviour.dialogue b [] w).exchanges = [] := rfl
    refine ⟨by simp [hnone], hnone ▸ .silence, ?_⟩
    simp [Behaviour.dialogue]
  | cons message messages ih =>
    cases message with
    | other =>
      have hrun : HooksRun (hooks .other) [] (.ok ()) := by
        rw [← happ]
        exact .done
      refine (ih happ).after (e := ⟨.other, [], []⟩) hrun (fun h => nomatch h) fun _ => ?_
      exact ⟨fun _ => rfl, fun h => absurd rfl h⟩
    | startup =>
      obtain ⟨hrun, hsame⟩ := outcome_runPhase b w.app.startupHooks w
      have hstartUp : outcome (startUp b) w = outcome (runPhase b w.app.startupHooks) w := rfl
      rw [Behaviour.dialogue, hstartUp]
      cases hphase : outcome (runPhase b w.app.startupHooks) w with
      | mk result next =>
        rw [hphase] at hrun hsame
        subst happ
        rcases result with (f | _) | _
        · exact sound_failed hrun messages next
        · -- a hook that never settles leaves the server without an answer
          refine .unanswered (e := ⟨.startup, _, []⟩) hrun (.inr ⟨rfl, Exchange.not_completed hrun⟩) ?_ _
          rintro ⟨-, f, message, hf, -⟩
          cases hf
        · refine (ih (by rw [hsame])).after (e := ⟨.startup, _, [.startupComplete]⟩) hrun (fun h => nomatch h) fun h => ?_
          exact ⟨(fun h => nomatch h), fun _ => ⟨_, rfl, rfl, fun _ => h, fun _ => rfl⟩⟩
    | shutdown =>
      obtain ⟨hrun, -⟩ := outcome_runPhase b w.app.shutdownHooks w
      have hshutDown : outcome (shutDown b) w = outcome (runPhase b w.app.shutdownHooks) w := rfl
      rw [Behaviour.dialogue, hshutDown]
      cases hphase : outcome (runPhase b w.app.shutdownHooks) w with
      | mk result next =>
        rw [hphase] at hrun
        subst happ
        cases result with
        | ok =>
          let e : Exchange := ⟨.shutdown, b.hookCalls w.app.shutdownHooks w.env, [.shutdownComplete]⟩
          have hanswered : e.Answered w.app.hooksOf :=
            ⟨(fun h => nomatch h), fun _ => ⟨_, rfl, rfl, fun _ => hrun.of_ok, fun _ => rfl⟩⟩
          have htells : e.Tells := fun call hcall => .inl (hrun.of_ok.2 call hcall)
          exact .last (e := e) hrun (.inl rfl) ⟨fun _ => htells, fun _ => ⟨rfl, hanswered⟩⟩ _
        | error stop =>
          exact .unanswered (e := ⟨.shutdown, _, []⟩) hrun (.inl rfl) (fun h => nomatch h.1) _

/-! ## Answers -/

/-- **Answers to announcements.** Whatever the hooks of an application do and whatever a server announces: what
the application does is its dialogue. In it hooks run in the order of their registration up to the first that
does not return, and announcements are received up to a shutdown or a startup that does not succeed. Nothing
fails and every startup and shutdown has the one answer that it should have, exactly when no hook fails at a
shutdown and what a hook fails with at a startup has a text. -/
theorem announcements_are_answered_iff (b : Behaviour U) (messages : List Announcement) (w : World U) :
    let d := b.dialogue messages { w with app := w.app.freeze }
    outcome (lifespan b messages) w = (d.ended.map fun _ => d.exchanges.flatMap Exchange.answers, d.world) ∧
    (∀ e ∈ d.exchanges, ∃ result, HooksRun (w.app.hooksOf e.announcement) e.calls result) ∧
    Heeds w.app.hooksOf messages d.exchanges ∧
    ((d.ended = .ok () ∧ ∀ e ∈ d.exchanges, e.Answered w.app.hooksOf) ↔ ∀ e ∈ d.exchanges, e.Tells) := by
  intro d
  have hfrozen : outcome (lifespan b messages) w =
      outcome (acknowledge b messages) { w with app := w.app.freeze } := rfl
  have hhooks : w.app.freeze.hooksOf = w.app.hooksOf := by
    funext announcement
    rw [App.freeze]
    split <;> rfl
  have sound : d.Sound w.app.hooksOf messages := sound_dialogue b messages hhooks
  refine ⟨?_, sound.ran, sound.heeds, sound.answered⟩
  rw [hfrozen, outcome_acknowledge]

/-- What a hook fails with. -/
def brokenHook : Fault := .raised .runtime [.str "boom"] [] 0

/-- Hooks that fail. -/
def breaking : Behaviour Unit := { Behaviour.idle with provide := fun _ env => (.raised brokenHook, env) }

/-- A hook of the shutdown. -/
def stopHook : Value := .func ⟨"stop", 0, false⟩

/-- An application with this hook alone. -/
def stopping : World Unit := { env := { user := () }, app := { shutdownHooks := [stopHook] } }

/-- Its startup is answered. Its shutdown is not, and the failure of the hook leaves the application. -/
theorem shutdown_without_answer :
    (outcome (lifespan breaking [.startup, .shutdown]) stopping).1 = .error (.failed brokenHook) ∧
    ∃ startup shutdown,
      (breaking.dialogue [.startup, .shutdown] { stopping with app := stopping.app.freeze }).exchanges =
        [startup, shutdown] ∧
      startup.Answered stopping.app.hooksOf ∧ shutdown.announcement = .shutdown ∧ shutdown.answers = [] ∧
      ¬ shutdown.Answered stopping.app.hooksOf := by
  refine ⟨rfl, ⟨.startup, [], [.startupComplete]⟩,
    ⟨.shutdown, [(stopHook, .raised brokenHook)], []⟩, rfl, ?_, rfl, rfl, ?_⟩
  · exact ⟨(fun h => nomatch h), fun _ => ⟨_, rfl, rfl, fun _ => ⟨rfl, fun _ h => nomatch h⟩, fun _ => rfl⟩⟩
  · intro h
    obtain ⟨answer, hanswers, -⟩ := h.2 (fun h => nomatch h)
    cases hanswers

end ServerTree
