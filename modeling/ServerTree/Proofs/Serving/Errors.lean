import ServerTree.Proofs.Pipeline.Endings
import ServerTree.Proofs.Serving.Delivery
import ServerTree.Proofs.Serving.Sanitizing

/-!
# Errors that reach a client

A request that fails is answered with an error envelope, whose text is one of the library's own or what is
left of the message of the error. This is so for what a middleware or a handler raises, for a middleware that
is not done in time or halts the request with an error, and for whatever comes out of the engine.

## Main definitions
- `IsEnvelopeOf`: the envelope around what is shown of an error value
- `StageCall.Sanitized`: a stage whose errors are answered with such envelopes
- `IsErrorOf`: the response of a failure that came out of the engine

## Main statements
- `serve_sanitizes`: the errors of stages
- `failureAnswer_sanitizes`, `delivery_sanitizes`: the failures of the engine
- `errors_are_sanitized`: no error shows anything sensitive
-/

namespace ServerTree

variable {U : Type} {b : Behaviour U} {w w' : World U}

open Act

/-! ## The errors of stages -/

/-- The envelope around what is shown of an error value. -/
def IsEnvelopeOf (error : Value) (fallback : String) (status answer : Value) : Prop :=
  ∃ text, sanitizeMessage error fallback = .ok text ∧ answer = .response (errorResponse status text [])

/-- A middleware that raises a failure answers with it, unless it claims to have run out of time. -/
theorem answered_of_returns_middlewareFailed {name : String} {timeout : Value} {f : Fault} {p : Progress}
    (hclass : f.errorClass ≠ .middlewareTimeout)
    (h : Returns (middlewareFailed name timeout f) w p w') :
    ∃ answer, p = .answered answer ∧
      IsEnvelopeOf (.failure f) "Middleware error" (.int (f.status 500)) answer := by
  rw [middlewareFailed, if_neg hclass] at h
  obtain ⟨logged, w₁, -, h⟩ := returns_bind.mp h
  obtain ⟨_, w₂, -, h⟩ := returns_bind.mp h
  obtain ⟨text, w₃, htext, h⟩ := returns_bind.mp h
  exact ⟨_, (returns_pure.mp h).1.symm, text, (returns_ofAttempt.mp htext).1, rfl⟩

/-- A middleware that did not settle in time is answered with a fixed text. -/
theorem answered_of_returns_timedOut {name : String} {timeout : Value} {p : Progress}
    (h : Returns (middlewareFailed name timeout middlewareTimedOut) w p w') :
    p = .answered (.response (errorResponse (.int 500) "Middleware timeout" [])) := by
  have hclass : middlewareTimedOut.errorClass = .middlewareTimeout := rfl
  rw [middlewareFailed, if_pos hclass] at h
  obtain ⟨_, w₁, -, h⟩ := returns_bind.mp h
  obtain ⟨status, w₂, hstatus, h⟩ := returns_bind.mp h
  obtain ⟨text, w₃, htext, h⟩ := returns_bind.mp h
  obtain rfl : .int 500 = status := Except.ok.inj (returns_ofAttempt.mp hstatus).1
  obtain rfl : "Middleware timeout" = text := Except.ok.inj (returns_ofAttempt.mp htext).1
  exact (returns_pure.mp h).1.symm

/-- A request that is halted with an error is answered with its message. -/
theorem answered_of_returns_fail {v : Visit} {status message : Value} {p : Progress}
    (h : Returns (applySignal b v (.fail status message)) w p w') :
    ∃ answer, p = .answered answer ∧ IsEnvelopeOf message "Request failed" status answer := by
  obtain ⟨text, w₁, htext, h⟩ := returns_bind.mp h
  exact ⟨_, (returns_pure.mp h).1.symm, text, (returns_ofAttempt.mp htext).1, rfl⟩

/-- A handler that raises a failure answers with what it had sent, or else with the failure. -/
theorem answered_of_returns_handlerFailed {route : String} {reply : Reply} {f : Fault}
    {r : Response Value} (h : Returns (handlerFailed route reply f) w r w') :
    reply.sent = true ∧ reply.response = .ok r ∨
      IsEnvelopeOf (.failure f) "Internal server error" (.int (f.status 500)) (.response r) := by
  -- what is logged depends on the status, and what is answered does not
  have hanswer : ∃ w₁, Returns (if reply.sent then Act.ofAttempt reply.response
      else do
        let shown ← Act.ofAttempt (sanitizeFailure f "Internal server error")
        return errorResponse (.int (f.status 500)) shown [] : Act U (Response Value)) w₁ r w' := by
    rw [handlerFailed] at h
    simp only at h
    split at h
    · obtain ⟨_, w₁, -, h⟩ := returns_bind.mp h
      exact ⟨w₁, h⟩
    · obtain ⟨_, w₁, -, h⟩ := returns_bind.mp h
      exact ⟨w₁, h⟩
  obtain ⟨w₁, hanswer⟩ := hanswer
  split at hanswer
  · rename_i hsent
    exact .inl ⟨hsent, (returns_ofAttempt.mp hanswer).1⟩
  · obtain ⟨text, w₂, htext, hanswer⟩ := returns_bind.mp hanswer
    exact .inr ⟨text, (returns_ofAttempt.mp htext).1, by rw [(returns_pure.mp hanswer).1]⟩

variable (b)

/-- The errors of the stage that was called last are answered with what may be shown of them: what a
middleware raises, if it does not claim to have run out of time, a middleware that does run out of time, the
error that a middleware halts the request with, and what a handler raises, unless it has sent a reply. -/
structure StageCall.Sanitized (s : StageCall U) (h : WrappedHandler) (calls : List (Call U))
    (answer : Value) : Prop where
  raised : (stageCalls calls).length ≤ h.config.middleware.length →
    ∀ f, s.ended = .raised f → f.errorClass ≠ .middlewareTimeout →
      IsEnvelopeOf (.failure f) "Middleware error" (.int (f.status 500)) answer
  timedOut : (stageCalls calls).length ≤ h.config.middleware.length →
    ∀ rest, s.ended = .suspended rest →
      answer = .response (errorResponse (.int 500) "Middleware timeout" [])
  halted : (stageCalls calls).length ≤ h.config.middleware.length →
    ∀ v status message, s.ended = .returned v →
      (outcome (interpret b.expand v) s.after).1 = .ok (.fail status message) →
        IsEnvelopeOf message "Request failed" status answer
  handler : h.config.middleware.length < (stageCalls calls).length →
    ∀ f, s.ended = .raised f →
      (∃ fields reply env r, (b.handle s.fn (.context fields) reply env).outcome = .raised f ∧
        (b.handle s.fn (.context fields) reply env).reply.sent = true ∧
          (b.handle s.fn (.context fields) reply env).reply.response = .ok r ∧ answer = .response r) ∨
      IsEnvelopeOf (.failure f) "Internal server error" (.int (f.status 500)) answer

variable {b}

variable {s : StageCall U} {h : WrappedHandler} {request : Request} {calls : List (Call U)} {answer : Value}

/-- A request that its last middleware does not let go on is answered as concluding this one answers it. -/
theorem StageCall.Ends.answered {Q : Value → Prop}
    (hends : s.Ends b h calls (outcome (h.serve b request) w))
    (hreturns : Returns (h.serve b request) w answer w')
    (hcount : (stageCalls calls).length ≤ h.config.middleware.length) (hstops : ¬ s.Continues b)
    (hanswers : ∀ (m : ScopedMiddleware Value) v w₁ p w₂, w₁.env.user = s.after →
      Returns (conclude b h.timeout m v s.ended) w₁ p w₂ → ∃ a, p = .answered a ∧ Q a) : Q answer := by
  -- the handler is not run after an answer, so this is the answer of the request
  obtain ⟨m, -, -, v, w₁, hafter, hresult⟩ := hends.middleware hcount hstops
  have hfinished : Returns (conclude b h.timeout m v s.ended >>= finish b h) w₁ answer w' :=
    hresult.symm.trans hreturns
  obtain ⟨p, w₂, hconcluded, hfinish⟩ := returns_bind.mp hfinished
  obtain ⟨a, rfl, hq⟩ := hanswers m v w₁ p w₂ hafter hconcluded
  obtain ⟨rfl, -⟩ := returns_pure.mp hfinish
  exact hq

/-- A call that decided how its request ends has its errors answered. -/
theorem StageCall.Ends.sanitized (hends : s.Ends b h calls (outcome (h.serve b request) w))
    (hreturns : Returns (h.serve b request) w answer w') : s.Sanitized b h calls answer where
  raised := by
    intro hcount f hf hclass
    have hstops : ¬ s.Continues b := StageCall.not_continues (by simp [hf])
    refine hends.answered hreturns hcount hstops fun m v w₁ p w₂ _ hconcluded => ?_
    rw [hf] at hconcluded
    exact answered_of_returns_middlewareFailed hclass hconcluded
  timedOut := by
    intro hcount rest hrest
    have hstops : ¬ s.Continues b := StageCall.not_continues (by simp [hrest])
    refine hends.answered (Q := fun a => a = .response (errorResponse (.int 500) "Middleware timeout" []))
      hreturns hcount hstops fun m v w₁ p w₂ _ hconcluded => ?_
    rw [hrest] at hconcluded
    -- without a time limit the call would have been waited for
    cases htimeout : h.timeout with
    | none =>
      rw [htimeout] at hconcluded
      exact absurd hconcluded returns_throw
    | _ =>
      rw [htimeout] at hconcluded
      obtain ⟨_, w₃, -, hfailed⟩ := returns_bind.mp hconcluded
      exact ⟨_, answered_of_returns_timedOut hfailed, rfl⟩
  halted := by
    intro hcount v status message hv hsignal
    have hstops : ¬ s.Continues b := by
      rintro ⟨v', signal, hv', hsignal', hgoes⟩
      obtain rfl : v' = v := by
        rw [hv] at hv'
        exact (Settled.returned.inj hv').symm
      obtain rfl : signal = .fail status message := Except.ok.inj (hsignal'.symm.trans hsignal)
      -- an error is neither of the signals that let a request go on
      rcases hgoes with hgoes | ⟨source, hgoes⟩
      · cases hgoes
      · cases hgoes
    refine hends.answered hreturns hcount hstops fun m visit w₁ p w₂ hafter hconcluded => ?_
    rw [hv] at hconcluded
    obtain ⟨signal, w₃, hinterpreted, happlied⟩ := returns_bind.mp hconcluded
    obtain rfl : signal = .fail status message := by
      have hsame := (returns_expand.mp hinterpreted).1
      rw [hafter] at hsame
      exact Except.ok.inj (hsame.symm.trans hsignal)
    exact answered_of_returns_fail happlied
  handler := by
    intro hcount f hf
    obtain ⟨-, fields, reply, env, w₁, hended, -, hresult⟩ := hends.handler hcount
    have hfinished : Returns (do return Value.response (← concludeHandler b h
        (b.handle s.fn (.context fields) reply env).reply s.ended)) w₁ answer w' :=
      hresult.symm.trans hreturns
    rw [hf] at hended hfinished
    obtain ⟨r, w₂, hfailed, hpure⟩ := returns_bind.mp hfinished
    obtain ⟨rfl, -⟩ := returns_pure.mp hpure
    rcases answered_of_returns_handlerFailed hfailed with ⟨hsent, hresponse⟩ | henvelope
    · exact .inl ⟨fields, reply, env, r, hended, hsent, hresponse, rfl⟩
    · exact .inr henvelope

/-- **The errors of stages** are answered with what may be shown of them. -/
theorem serve_sanitizes (b : Behaviour U) (h : WrappedHandler) (request : Request) (w : World U) :
    ∃ calls, Records World.withCalls (h.serve b.recorded request) (h.serve b request) w calls ∧
      ∀ s answer w', (stageCalls calls).getLast? = some s → Returns (h.serve b request) w answer w' →
        s.Sanitized b h calls answer := by
  obtain ⟨calls, hrecords, hends⟩ := serve_ends b h request w
  exact ⟨calls, hrecords, fun s answer w' hs hreturns => (hends s hs).sanitized hreturns⟩

/-! ## The failures of the engine -/

/-- The response of a failure that came out of the engine: a fixed text, or for an HTTP error what is shown of
it. -/
def IsErrorOf (f : Fault) (r : Response Value) : Prop :=
  r = errorResponse (.int 500) "Internal server error" [] ∨
    ∃ e status text headers, f = .http e ∧ e.status.text = .ok status ∧
      sanitizeMessage (.failure f) ("Error " ++ status) = .ok text ∧
        r = { errorResponse e.status text [] with headers := headers }

/-- Without debugging a failure is answered so. -/
theorem failureAnswer_sanitizes {f : Fault} {r : Response Value} (hr : failureAnswer false f = .ok r) :
    IsErrorOf f r := by
  cases f with
  | http e =>
    obtain ⟨status, text, headers, hstatus, htext, rfl⟩ := shown_of_envelope hr
    exact .inr ⟨e, status, text, headers, rfl, hstatus, htext, rfl⟩
  | raised form arguments attributes id => exact .inl (Except.ok.inj hr).symm
  | refused refusal => exact .inl (Except.ok.inj hr).symm

/-- So is what is sent for it, or an internal error when it cannot be encoded. -/
theorem delivery_sanitizes {head : Bool} {f : Fault} {sent : Sent}
    (hsent : delivery false head (.error f) = .ok sent) :
    ∃ r, sent.answer = .response r ∧ IsErrorOf f r := by
  obtain ⟨answer, hanswer, hsent⟩ := exists_of_bind_eq_ok hsent
  cases hr : failureAnswer false f with
  | error f' =>
    rw [answerOf, hr] at hanswer
    cases hanswer
  | ok r =>
    rw [answerOf, hr] at hanswer
    obtain rfl : .response r = answer := Except.ok.inj hanswer
    rw [sentOf] at hsent
    split at hsent
    · obtain rfl := Except.ok.inj hsent
      exact ⟨r, rfl, failureAnswer_sanitizes hr⟩
    · split at hsent
      · obtain ⟨r', hr', hsent⟩ := exists_of_bind_eq_ok hsent
        obtain ⟨messages, -, hsent⟩ := exists_of_bind_eq_ok hsent
        obtain rfl := Except.ok.inj hsent
        exact ⟨r', rfl, .inl (Except.ok.inj hr').symm⟩
      · cases hsent

/-! ## All together -/

/-- **Every error that reaches a client is sanitized.** The errors of the stages of a request are answered
with what may be shown of them. Without debugging, a failure that comes out of the engine is answered with an
error that shows a fixed text or what may be shown of it. And nothing of this matches a sensitive pattern or
has the path of a source file in it. -/
theorem errors_are_sanitized (b : Behaviour U) :
    (∀ (h : WrappedHandler) (request : Request) (w : World U), ∃ calls,
      Records World.withCalls (h.serve b.recorded request) (h.serve b request) w calls ∧
        ∀ s answer w', (stageCalls calls).getLast? = some s → Returns (h.serve b request) w answer w' →
          s.Sanitized b h calls answer) ∧
    (∀ (request : Request) (inbox : Inbox) (w : World U),
      let opened : World U := { w with app := w.app.freeze, inbox := inbox }
      let arrived : Request := { request with maxBodySize := opened.app.config.bodyLimit }
      opened.app.config.debug.truthy = false → ∀ f w₁,
        Returns (attempt (serveThrough b opened.app.middleware (dispatch b) arrived)) opened (.error f) w₁ →
          ∀ messages w₂, Returns (serveRequest b request inbox) w messages w₂ →
            ∃ r, encodeResponse r (request.method == "HEAD") = .ok messages ∧ IsErrorOf f r) ∧
    (∀ text ∈ ownTexts, IsHarmless text.toList) ∧
    (∀ status : Int, IsHarmless ("Error " ++ toString status).toList) ∧
    ∀ error fallback text, sanitizeMessage error fallback = .ok text → IsHarmless fallback.toList →
      IsHarmless text.toList := by
  refine ⟨serve_sanitizes b, ?_, fun text => isHarmless_of_mem_ownTexts, isHarmless_errorStatus, ?_⟩
  · intro request inbox w opened arrived hdebug f w₁ hfailed messages w₂ hreturns
    obtain ⟨w₃, elapsed, -, hserved⟩ := outcome_serveRequest hfailed
    rw [hdebug] at hserved
    cases hsent : delivery false (request.method == "HEAD") (.error f) with
    | error f' =>
      rw [hsent] at hserved
      cases hserved.symm.trans hreturns
    | ok sent =>
      rw [hsent] at hserved
      obtain ⟨r, hr, herror⟩ := delivery_sanitizes hsent
      have hmessages : sent.messages = messages :=
        Except.ok.inj (congrArg Prod.fst (hserved.symm.trans hreturns))
      have hencoded := encodeAnswer_of_delivery hsent
      rw [hr, hmessages] at hencoded
      exact ⟨r, hencoded, herror⟩
  · intro error fallback text htext hfallback
    rcases isHarmless_of_sanitizeMessage htext with rfl | hharmless
    · exact hfallback
    · exact hharmless

/-- Every middleware and every handler raises a failure. -/
def raising (f : Fault) : Behaviour Unit :=
  { Behaviour.idle with handle := fun _ argument reply env => ⟨.raised f, argument, reply, env⟩ }

/-- A handler behind a middleware. -/
def guardedHandler : WrappedHandler where
  handler := .func ⟨"handler", 0, false⟩
  config := RouteConfig.empty.withMiddleware (.func ⟨"m1", 1, false⟩)
  timeout := .int 30
  route := "GET /x"
  logger := ⟨"GET /x", none⟩
  number := 0

/-- An application with its route. -/
def guarded : World Unit where
  env := { user := () }
  app := (App.route {} "GET" "/x" (.wrapped guardedHandler) .none .none).1

/-- A middleware raises what stands for running out of time, with a text of its own. This is sent as it
is. -/
theorem serveRequest_leaks :
    (outcome (serveRequest (raising (.raised .middlewareTimeout [.str "db password is hunter2"] [] 0))
        { path := "/x" } {}) guarded).1 =
        (encodeResponse (errorResponse (.int 500) "db password is hunter2" []) false).mapError .failed ∧
      ¬ IsHarmless "db password is hunter2".toList := by
  refine ⟨rfl, fun h => ?_⟩
  have hword : Text.Consumes (Text.word "password") "password".toList := by
    repeat first | exact .nil | refine .one (by decide) ?_
  have hinside : "password".toList <:+: "db password is hunter2".toList :=
    ⟨"db ".toList, " is hunter2".toList, rfl⟩
  exact (isHarmless_iff.mp h).1 _ List.mem_cons_self _ hword hinside

end ServerTree
