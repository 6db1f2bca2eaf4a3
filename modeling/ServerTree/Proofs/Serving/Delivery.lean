import ServerTree.App.Serve
import ServerTree.Proofs.Keeping
import ServerTree.Proofs.Serving.Wire

/-!
# What is sent for a request

What the middleware and the router make of a request, a value or a failure, becomes one answer, whose two
messages are sent, after which every response hook runs once. This needs an answer that can be encoded: a
text that cannot be gives way to an internal error, any other mistake of an answer is raised, and then
nothing is sent.

## Main definitions
- `internalAnswer`, `failureAnswer`: the responses of failures
- `delivery`: what is sent for what the middleware and the router come to
- `hooksRun`: the world after every hook has run
- `IsPlainServed`: values and failures whose fields are of the types that they are declared with

## Main statements
- `outcome_serveRequest`: what becomes of a request
- `serveRequest_delivers`: exactly one response is sent for it, when what was served is plain
-/

namespace ServerTree

variable {U : Type} {α : Type}

/-! ## The answers of failures -/

/-- The response of a failure that nothing else answered. -/
def internalAnswer (debug : Bool) (f : Fault) : Attempt (Response Value) :=
  if debug then (safeErrorBody (.failure f) true).bind fun body => jsonResponse body (.int 500)
  else .ok (errorResponse (.int 500) "Internal server error" [])

/-- The response of a failure. -/
def failureAnswer (debug : Bool) : Fault → Attempt (Response Value)
  | .http e => e.envelope
  | f => internalAnswer debug f

theorem outcome_answerInternalError (debug : Bool) (f : Fault) (request : Request) (w : World U) :
    ∃ w', w.LogsTo w' ∧
      outcome (answerInternalError debug f request) w = ((internalAnswer debug f).mapError .failed, w') := by
  obtain ⟨w', hlogs, hlog⟩ : ∃ w', w.LogsTo w' ∧ Act.Returns (Act.log .server .error
      ("500 " ++ request.method ++ " " ++ request.path)) w () w' := exists_returns_log
  refine ⟨w', hlogs, ?_⟩
  rw [answerInternalError, outcome_bind, hlog]
  cases debug with
  | true => exact outcome_ofAttempt _ w'
  | false => rfl

theorem outcome_answerFailure (debug : Bool) (f : Fault) (request : Request) (w : World U) :
    ∃ w', w.LogsTo w' ∧
      outcome (answerFailure debug f request) w = ((failureAnswer debug f).mapError .failed, w') := by
  cases f with
  | http e => exact ⟨_, ⟨_, rfl⟩, outcome_ofAttempt e.envelope _⟩
  | raised form arguments attributes id => exact outcome_answerInternalError debug _ request w
  | refused r => exact outcome_answerInternalError debug _ request w

/-! ## Answers and their messages -/

/-- What a request is answered with: what was served, or the response of the failure. -/
def answerOf (debug : Bool) : Attempt Value → Attempt Value
  | .ok v => .ok v
  | .error f => (failureAnswer debug f).map .response

/-- What is sent for an answer: its messages, or those of an internal error when a text cannot be encoded. -/
def sentOf (debug head : Bool) (answer : Value) : Attempt Sent :=
  match encodeAnswer answer head with
  | .ok messages => .ok ⟨answer, messages⟩
  | .error f =>
    if f.errorClass = .unicodeEncode then do
      let r ← internalAnswer debug f
      let messages ← encodeResponse r head
      return ⟨.response r, messages⟩
    else .error f

/-- What is sent for what the middleware and the router come to. -/
def delivery (debug head : Bool) (served : Attempt Value) : Attempt Sent :=
  answerOf debug served >>= sentOf debug head

/-- What is sent are the messages of the answer that hooks are given. -/
theorem encodeAnswer_of_delivery {debug head : Bool} {served : Attempt Value} {sent : Sent}
    (h : delivery debug head served = .ok sent) : encodeAnswer sent.answer head = .ok sent.messages := by
  obtain ⟨answer, -, h⟩ := exists_of_bind_eq_ok h
  rw [sentOf] at h
  cases hmessages : encodeAnswer answer head with
  | ok messages =>
    rw [hmessages] at h
    obtain rfl := Except.ok.inj h
    exact hmessages
  | error f =>
    simp only [hmessages] at h
    split at h
    · obtain ⟨r, -, h⟩ := exists_of_bind_eq_ok h
      obtain ⟨messages, hencoded, h⟩ := exists_of_bind_eq_ok h
      obtain rfl := Except.ok.inj h
      exact hencoded
    · cases h

/-- An answer is what was served, or the response of the failure. -/
theorem outcome_answerRequest {b : Behaviour U} {request : Request} {served : Attempt Value}
    {w w₁ : World U}
    (h : Act.Returns (Act.attempt (serveThrough b w.app.middleware (dispatch b) request)) w served w₁) :
    ∃ w₂, w₁.LogsTo w₂ ∧ outcome (answerRequest b request) w =
      ((answerOf w.app.config.debug.truthy served).mapError .failed, w₂) := by
  rw [answerRequest, Act.outcome_get_bind, outcome_bind, h]
  cases served with
  | ok v => exact ⟨w₁, .refl w₁, rfl⟩
  | error f =>
    obtain ⟨w₂, hlogs, hanswer⟩ := outcome_answerFailure w.app.config.debug.truthy f request w₁
    refine ⟨w₂, hlogs, ?_⟩
    simp only [outcome_bind, hanswer, answerOf]
    cases failureAnswer w.app.config.debug.truthy f <;> rfl

theorem outcome_transmit (debug : Bool) (request : Request) (answer : Value) (w : World U) :
    ∃ w', w.LogsTo w' ∧ outcome (transmit debug request answer) w =
      ((sentOf debug (request.method == "HEAD") answer).mapError .failed, w') := by
  simp only [transmit, sentOf]
  cases encodeAnswer answer (request.method == "HEAD") with
  | ok messages => exact ⟨w, .refl w, rfl⟩
  | error f =>
    -- the internal error that takes its place is encoded once more
    simp only
    split
    · obtain ⟨w', hlogs, hanswer⟩ := outcome_answerInternalError debug f request w
      refine ⟨w', hlogs, ?_⟩
      rw [outcome_bind, hanswer]
      cases internalAnswer debug f with
      | error f' => rfl
      | ok r =>
        simp only [Except.mapError, outcome_bind, outcome_ofAttempt, ok_bind]
        cases encodeResponse r (request.method == "HEAD") <;> rfl
    · exact ⟨w, .refl w, rfl⟩

/-! ## Hooks -/

/-- Calls a hook. -/
def Hook.call (b : Behaviour U) (request : Request) (response : Value) (elapsed : Float) (hook : Hook)
    (env : Env U) : Attempt Unit × Env U :=
  match hook with
  | .accessLog => logAccess request response elapsed env
  | .custom fn => b.callHook fn request response elapsed env

/-- The world after a hook was called: what the hook left, with a record when it failed. -/
def Hook.after (b : Behaviour U) (request : Request) (response : Value) (elapsed : Float) (hook : Hook)
    (w : World U) : World U :=
  let r := hook.call b request response elapsed w.env
  match r.1 with
  | .ok () => { w with env := r.2 }
  | .error _ =>
    let message := hook.shown.map fun shown => "Response hook " ++ shown ++ " failed"
    { w with env := { r.2 with log := r.2.log.append .server .error message.toOption } }

/-- The world after every hook was called once, in order. -/
def hooksRun (b : Behaviour U) (request : Request) (response : Value) (elapsed : Float) (hooks : List Hook)
    (w : World U) : World U :=
  hooks.foldl (fun w hook => hook.after b request response elapsed w) w

/-- **Step lemma**: a hook is called once, and stops nothing when it fails. -/
theorem outcome_runHook (b : Behaviour U) (request : Request) (response : Value) (elapsed : Float)
    (hook : Hook) (w : World U) : outcome (runHook b request response elapsed hook) w =
      (.ok (), hook.after b request response elapsed w) := by
  have hcall : Act.Returns (Act.withEnv (hook.call b request response elapsed)) w
      (hook.call b request response elapsed w.env).1
      { w with env := (hook.call b request response elapsed w.env).2 } :=
    Act.returns_withEnv.mpr ⟨rfl, rfl⟩
  change outcome (Act.withEnv (hook.call b request response elapsed) >>= _) w = _
  rw [outcome_bind, hcall, Hook.after]
  cases (hook.call b request response elapsed w.env).1 <;> rfl

/-- **Run lemma**: so are all of them, in order. -/
theorem outcome_runHooks (b : Behaviour U) (request : Request) (response : Value) (elapsed : Float)
    (hooks : List Hook) (w : World U) :
    outcome (forIn hooks PUnit.unit fun hook _ => do
      runHook b request response elapsed hook
      return ForInStep.yield PUnit.unit : Act U PUnit) w =
        (.ok PUnit.unit, hooksRun b request response elapsed hooks w) := by
  induction hooks generalizing w with
  | nil => rfl
  | cons hook hooks ih =>
    rw [List.forIn_cons, outcome_bind, outcome_bind, outcome_runHook]
    exact ih (hook.after b request response elapsed w)

/-! ## Requests -/

/-- **What becomes of a request** whose middleware and router come to something: exactly one response is
sent and then every hook is called, or a failure is raised and nothing is sent. -/
theorem outcome_serveRequest {b : Behaviour U} {request : Request} {inbox : Inbox} {served : Attempt Value}
    {w w₁ : World U} :
    let opened : World U := { w with app := w.app.freeze, inbox := inbox }
    let arrived := { request with maxBodySize := opened.app.config.bodyLimit }
    Act.Returns (Act.attempt (serveThrough b opened.app.middleware (dispatch b) arrived)) opened served w₁ →
      ∃ w₂ elapsed, w₁.LogsTo w₂ ∧ outcome (serveRequest b request inbox) w =
        match delivery opened.app.config.debug.truthy (request.method == "HEAD") served with
        | .ok sent =>
          (.ok sent.messages, hooksRun b arrived sent.answer elapsed opened.app.responseHooks w₂)
        | .error f => (.error (.failed f), w₂) := by
  intro opened arrived h
  obtain ⟨w₂, hlogs, hanswer⟩ := outcome_answerRequest h
  -- the application is frozen and the request has its inbox before anything else
  have hopened : outcome (serveRequest b request inbox) w = outcome (do
      let answer ← answerRequest b arrived
      let sent ← transmit opened.app.config.debug.truthy arrived answer
      let after ← get
      let elapsed := (after.env.clock - opened.env.clock) * 1000.0
      for hook in opened.app.responseHooks do
        runHook b arrived sent.answer elapsed hook
      return sent.messages : Act U WireResponse) opened := rfl
  rw [hopened, outcome_bind, hanswer, delivery]
  cases answerOf opened.app.config.debug.truthy served with
  | error f => exact ⟨w₂, 0, hlogs, rfl⟩
  | ok answer =>
    obtain ⟨w₃, hmore, hsent⟩ := outcome_transmit opened.app.config.debug.truthy arrived answer w₂
    simp only [Except.mapError, outcome_bind, hsent, ok_bind]
    cases sentOf opened.app.config.debug.truthy (arrived.method == "HEAD") answer with
    | error f => exact ⟨w₃, 0, hlogs.trans hmore, rfl⟩
    | ok sent =>
      refine ⟨w₃, (w₃.env.clock - opened.env.clock) * 1000.0, hlogs.trans hmore, ?_⟩
      have hget : outcome (get : Act U (World U)) w₃ = (.ok w₃, w₃) := rfl
      simp only [hget, outcome_runHooks, outcome_pure]

/-- What is sent does not depend on the hooks. -/
theorem fst_outcome_serveRequest (b : Behaviour U) (request : Request) (inbox : Inbox) (w : World U)
    {w₁ : World U} (served : Attempt Value) :
    let opened : World U := { w with app := w.app.freeze, inbox := inbox }
    let arrived := { request with maxBodySize := opened.app.config.bodyLimit }
    Act.Returns (Act.attempt (serveThrough b opened.app.middleware (dispatch b) arrived)) opened served w₁ →
      (outcome (serveRequest b request inbox) w).1 =
        ((delivery opened.app.config.debug.truthy (request.method == "HEAD") served).map
          Sent.messages).mapError .failed := by
  intro opened arrived h
  obtain ⟨w₂, elapsed, -, hserved⟩ := outcome_serveRequest h
  rw [hserved]
  cases delivery opened.app.config.debug.truthy (request.method == "HEAD") served <;> rfl

/-! ## What is plain -/

/-- A failure that can be answered: the fields of an HTTP error are of the types that it is declared with,
and the text of any other can be shown when debugging. -/
def IsPlainFailure (debug : Bool) : Fault → Prop
  | .http e => e.IsPlain
  | f => debug = true → ∃ text, f.text = .ok text

/-- What the middleware and the router come to is a plain response, or a failure that can be answered. -/
def IsPlainServed (debug : Bool) : Attempt Value → Prop
  | .ok v => ∃ r, v = .response r ∧ r.IsPlain
  | .error f => IsPlainFailure debug f

/-- An internal error is a document. -/
theorem isDocument_internalAnswer {debug : Bool} {f : Fault} (h : debug = true → ∃ text, f.text = .ok text)
    (hplain : ∀ e, f ≠ .http e) : ∃ r, internalAnswer debug f = .ok r ∧ r.IsDocument := by
  cases debug with
  | false => exact ⟨_, rfl, isDocument_errorResponse 500 "Internal server error"⟩
  | true =>
    obtain ⟨text, htext⟩ := h rfl
    have hshown : ∃ shown, sanitizeMessage (.failure f) "Internal server error" = .ok shown := by
      cases f with
      | http e => exact absurd rfl (hplain e)
      | _ =>
        rw [sanitizeMessage, errorText?, htext]
        · exact ⟨_, rfl⟩
        · intro e he
          cases he
    obtain ⟨shown, hshown⟩ := hshown
    obtain ⟨cs, hwrite, hascii⟩ := write_debug shown text
      (String.ofList (maskPaths (traceOf (.failure f)).toList))
    have hbody : safeErrorBody (.failure f) true = .ok (.ofFields [("error", .str shown),
        ("details", .ofFields [("message", .str text),
          ("stack", .str (String.ofList (maskPaths (traceOf (.failure f)).toList)))])]) := by
      simp only [safeErrorBody, hshown, htext, ok_bind, if_true]
      rfl
    refine ⟨⟨.str (String.ofList cs), .int 500, .str jsonContentType, []⟩, ?_,
      ⟨⟨cs, rfl, hascii⟩, trivial, rfl, rfl⟩⟩
    simp only [internalAnswer, if_true, hbody, Except.bind, jsonResponse, hwrite]
    rfl

/-- Documents are plain. -/
theorem Response.IsDocument.isPlain {r : Response Value} (h : r.IsDocument) : r.IsPlain where
  body := by
    obtain ⟨cs, hbody, -⟩ := h.body
    rw [hbody]
    trivial
  status := h.status
  contentType := ⟨_, h.contentType⟩
  headers := by
    rw [h.headers]
    exact fun e he => nomatch he

/-- **For all that is plain something is sent**. -/
theorem exists_delivery {debug : Bool} (head : Bool) {served : Attempt Value}
    (h : IsPlainServed debug served) : ∃ sent, delivery debug head served = .ok sent := by
  -- whatever is served, the answer is a plain response
  have hanswer : ∃ r, answerOf debug served = .ok (.response r) ∧ r.IsPlain := by
    cases served with
    | ok v =>
      obtain ⟨r, rfl, hr⟩ := h
      exact ⟨r, rfl, hr⟩
    | error f =>
      have hfailure : ∃ r, failureAnswer debug f = .ok r ∧ r.IsPlain := by
        cases f with
        | http e => exact HttpError.IsPlain.envelope h
        | raised form arguments attributes id =>
          obtain ⟨r, hr, hdocument⟩ := isDocument_internalAnswer h (by simp)
          exact ⟨r, hr, hdocument.isPlain⟩
        | refused refusal =>
          obtain ⟨r, hr, hdocument⟩ := isDocument_internalAnswer h (by simp)
          exact ⟨r, hr, hdocument.isPlain⟩
      obtain ⟨r, hr, hplain⟩ := hfailure
      exact ⟨r, by rw [answerOf, hr]; rfl, hplain⟩
  obtain ⟨r, hr, hplain⟩ := hanswer
  rw [delivery, hr, ok_bind, sentOf]
  have hencodes := hplain.encodes head
  cases hmessages : encodeResponse r head with
  | ok messages =>
    rw [encodeResponse] at hmessages
    rw [hmessages]
    exact ⟨_, rfl⟩
  | error f =>
    rw [encodeResponse] at hmessages
    rw [hmessages]
    -- the text that cannot be encoded gives way to an internal error, which can be
    have hclass : f.errorClass = .unicodeEncode ∧ (∃ text, f.text = .ok text) ∧ ∀ e, f ≠ .http e := by
      rcases hencodes f hmessages with rfl | rfl
      · exact ⟨rfl, ⟨_, rfl⟩, by simp⟩
      · exact ⟨rfl, ⟨_, rfl⟩, by simp⟩
    obtain ⟨hclass, htext, hother⟩ := hclass
    obtain ⟨r', hr', hdocument⟩ : ∃ r', internalAnswer debug f = .ok r' ∧ r'.IsDocument :=
      isDocument_internalAnswer (fun _ => htext) hother
    obtain ⟨messages, hmessages'⟩ := hdocument.encode head
    simp only [hclass, if_true, hr', hmessages', ok_bind]
    exact ⟨_, rfl⟩

/-! ## All together -/

/-- **Exactly one response is sent for a request** whose middleware and router come to something plain: the
two messages of the answer, after which every hook is called once, in order, with this answer. Whatever they
come to, either this is done or a failure is raised and nothing is sent. What a handler of the tree returns is
plain when its reply is, and the response or the response tree that it returns. -/
theorem serveRequest_delivers (b : Behaviour U) (request : Request) (inbox : Inbox) (w : World U) :
    let opened : World U := { w with app := w.app.freeze, inbox := inbox }
    let arrived : Request := { request with maxBodySize := opened.app.config.bodyLimit }
    let debug := opened.app.config.debug.truthy
    let head := request.method == "HEAD"
    (∀ served w₁,
      Act.Returns (Act.attempt (serveThrough b opened.app.middleware (dispatch b) arrived)) opened served w₁ →
        ∃ w₂ elapsed, w₁.LogsTo w₂ ∧ outcome (serveRequest b request inbox) w =
          match delivery debug head served with
          | .ok sent =>
            (.ok sent.messages, hooksRun b arrived sent.answer elapsed opened.app.responseHooks w₂)
          | .error f => (.error (.failed f), w₂)) ∧
    (∀ served sent, delivery debug head served = .ok sent →
      encodeAnswer sent.answer head = .ok sent.messages) ∧
    (∀ served, IsPlainServed debug served → ∃ sent, delivery debug head served = .ok sent) ∧
    ∀ result reply user r, Reply.IsPlain reply → (∀ r', result = .response r' → r'.IsPlain) →
      (∀ d, (outcome (describeResponse b.expand result) user).1 = .ok d → d.IsPlain) →
        (outcome (renderResult b.expand result reply) user).1 = .ok r → r.IsPlain := by
  intro opened arrived debug head
  refine ⟨fun served w₁ h => outcome_serveRequest h, fun served sent => encodeAnswer_of_delivery,
    fun served => exists_delivery head, ?_⟩
  intro result reply user r hreply hresponse htree
  exact isPlain_of_renderResult hreply hresponse htree

/-- Headers with a content type that is no text. -/
def mistypedHeaders : Value := .node (.headers (.mapping [(.str "Content-Type", .int 5)])) []

/-- A handler returns them. -/
def mistyping : Behaviour Unit :=
  { Behaviour.idle with
    handle := fun _ argument reply env => ⟨.returned mistypedHeaders, argument, reply, env⟩ }

/-- An application with this handler. -/
def mistyped : World Unit where
  env := { user := () }
  app := (App.route {} "GET" "/x" (.wrapped
    ⟨.func ⟨"handler", 0, false⟩, .empty, .int 30, "GET /x", ⟨"GET /x", none⟩, 0⟩) .none .none).1

/-- What it makes of these headers. -/
def mistypedResponse : Response Value := ⟨.str "", .int 200, .int 5, []⟩

theorem renderResult_mistypedHeaders :
    renderResult mistyping.expand mistypedHeaders {} = pure mistypedResponse := by
  have hdescribe : describeResponse mistyping.expand mistypedHeaders =
      pure { headers := [(.str "Content-Type", .int 5)] } := by
    rw [describeResponse, nestingLimit, mistypedHeaders, applyTree]
    rfl
  have hrender : renderResult mistyping.expand mistypedHeaders {} = (do
      let d ← describeResponse mistyping.expand mistypedHeaders
      Expand.ofAttempt d.response) := rfl
  rw [hrender, hdescribe]
  rfl

theorem dispatch_mistyped :
    outcome (dispatch mistyping { path := "/x", maxBodySize := .atMost 16777216 })
        { mistyped with app := mistyped.app.freeze } =
      (.ok (.response mistypedResponse),
        { mistyped with app := mistyped.app.freeze, inbox := { cached := some [] } }) := by
  -- trees are folded by a recursion that does not compute, so the run stops short of it
  have hrender : outcome (dispatch mistyping { path := "/x", maxBodySize := .atMost 16777216 })
        { mistyped with app := mistyped.app.freeze } =
      outcome (do return .response (← Act.expand (renderResult mistyping.expand mistypedHeaders {})) :
          Act Unit Value)
        { mistyped with app := mistyped.app.freeze, inbox := { cached := some [] } } := rfl
  rw [hrender, renderResult_mistypedHeaders]
  rfl

/-- Its request is not answered: encoding the response fails, and not because of a text. -/
theorem serveRequest_raises : (outcome (serveRequest mistyping { path := "/x" } {}) mistyped).1 =
    .error (.failed (.refused (noAttribute (.int 5) "encode"))) := by
  have hserved : Act.Returns
      (Act.attempt
        (serveThrough mistyping [] (dispatch mistyping) { path := "/x", maxBodySize := .atMost 16777216 }))
      { mistyped with app := mistyped.app.freeze } (.ok (.response mistypedResponse))
      { mistyped with app := mistyped.app.freeze, inbox := { cached := some [] } } := by
    rw [Act.Returns, serveThrough, List.foldr_nil, Act.outcome_attempt, dispatch_mistyped]
  rw [fst_outcome_serveRequest mistyping { path := "/x" } {} mistyped _ hserved]
  rfl

end ServerTree
