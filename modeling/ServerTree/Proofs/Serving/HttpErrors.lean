import ServerTree.Proofs.Serving.Errors

/-!
# HTTP errors and their responses

An HTTP error is answered with its status and what may be shown of its detail, whoever raised it. What stands
in for a detail that may not be shown depends on where it was raised: outside of the stages of a route it is
the status, in a middleware or a handler a text of the stage. Outside of the stages the headers of the error
are those of the response.

## Main definitions
- `TypedError`: an HTTP error with fields of the types that it is declared with
- `StageCall.AnswersError`: how a request is answered whose last stage raised one
- `RaisedOutside`: what is raised outside of the stages of a route

## Main statements
- `TypedError.envelope`: the response of an error that comes out of the engine
- `RaisedOutside.comes_out`: what is raised outside of the stages comes out of the engine
- `httpErrors_are_answered`: every HTTP error is answered with its status
-/

namespace ServerTree

variable {U : Type} {b : Behaviour U} {w w' : World U}

open Act

/-! ## Typed errors -/

/-- An HTTP error with fields of the types that it is declared with, and the status of an error. -/
structure TypedError where
  form : ErrorClass
  status : Int
  detail : String
  headers : List (String × String)
  isHttp : form ∈ [.http, .badRequest, .notFound, .methodNotAllowed]
  inRange : 400 ≤ status ∧ status ≤ 599

namespace TypedError

/-- The error itself. -/
def error (e : TypedError) : HttpError Value :=
  { form := e.form, status := .int e.status, detail := .str e.detail, headers := Value.ofPairs e.headers }

/-- The error as a failure. -/
def failure (e : TypedError) : Fault := .http e.error

variable (e : TypedError)

theorem errorClass_failure : e.failure.errorClass ≠ .middlewareTimeout := by
  intro h
  have hform := e.isHttp
  rw [show e.form = .middlewareTimeout from h] at hform
  simp at hform

/-- The status of an error is the one that it asks for. -/
theorem status_failure (fallback : Int) : e.failure.status fallback = e.status := by
  have hstatus : (Value.failure e.failure).attribute? "status_code" = some (.int e.status) := rfl
  simp only [Failure.status, Value.status?, hstatus, Option.bind_some, Value.asErrorStatus?, if_pos e.inRange]
  rfl

/-- What may be shown of it, and what stands in for it. -/
theorem exists_shown (fallback : String) : ∃ text, sanitizeMessage (.failure e.failure) fallback = .ok text :=
  ⟨_, rfl⟩

theorem isHuge_status : Value.isHuge e.status = false := by
  -- for any exponent, so that the power is not computed
  have hpow (k : Nat) (hk : 3 ≤ k) : 10 ^ 3 ≤ Nat.pow 10 k := Nat.pow_le_pow_right (by decide) hk
  have hbound := hpow Text.maxDigits (by decide)
  have hrange := e.inRange
  simp only [Value.isHuge, decide_eq_false_iff_not]
  omega

theorem text_status : (Value.int e.status).text = .ok (toString e.status) := by
  simp only [Value.text, Value.unshowable?, e.isHuge_status]
  rfl

theorem exists_text : ∃ text, e.failure.text = .ok text := by
  have hshowable : (Value.failure e.failure).unshowable? true = none := by
    simp only [failure, error, Value.unshowable?, e.isHuge_status]
    rfl
  rw [Failure.text, Value.text, hshowable]
  exact ⟨_, rfl⟩

theorem headerTexts_ofPairs (headers : List (String × String)) :
    headerTexts (Value.ofPairs headers) = .ok (Value.ofPairs headers) := by
  refine headerTexts_eq_ok_iff.mpr ⟨fun h hh => ?_, ?_⟩
  · obtain ⟨e, -, rfl⟩ := List.mem_map.mp hh
    exact ⟨e.2, rfl⟩
  · rw [Value.ofPairs, List.map_map]
    rfl

/-- **The response of an error that comes out of the engine**: its status, what may be shown of it, and its
headers. -/
theorem envelope {text : String}
    (htext : sanitizeMessage (.failure e.failure) ("Error " ++ toString e.status) = .ok text) :
    e.error.envelope = .ok (errorResponse (.int e.status) text e.headers) := by
  have hkeys : (e.error.headers.mapM fun h => h.1.asKey.map fun k => (k, h.2)) = .ok e.error.headers := by
    refine mapM_asKey fun h hh => ?_
    obtain ⟨p, -, rfl⟩ := List.mem_map.mp hh
    exact ⟨p.1, rfl⟩
  have hwritten : Assoc.ofList e.error.headers = Value.ofPairs (Assoc.ofList e.headers) :=
    Assoc.ofList_map Value.beq_str Value.str e.headers
  have hshown : sanitizeFailure (.http e.error) ("Error " ++ toString e.status) = .ok text := htext
  have hstatus : e.error.status.text = .ok (toString e.status) := e.text_status
  simp only [HttpError.envelope, hstatus, hshown, errorEnvelope, jsonResponse_error, hkeys, hwritten,
    headerTexts_ofPairs, ok_bind]
  rfl

/-- Headers whose names differ are kept as they come. -/
theorem headers_errorResponse (status : Value) (text : String) (h : (e.headers.map Prod.fst).Nodup) :
    (errorResponse status text e.headers).headers = Value.ofPairs e.headers := by
  rw [errorResponse, Assoc.ofList_of_nodup h]

/-! ## Stages that raise them -/

/-- A middleware that raises an HTTP error answers with it. -/
theorem exists_returns_middlewareFailed (name : String) (timeout : Value) (w : World U) :
    ∃ answer w', Returns (middlewareFailed name timeout e.failure) w (.answered answer) w' ∧
      IsEnvelopeOf (.failure e.failure) "Middleware error" (.int e.status) answer := by
  obtain ⟨logged, hlogged⟩ : ∃ logged, failureForLog e.failure = .ok logged := by
    obtain ⟨text, htext⟩ := e.exists_text
    exact ⟨_, by rw [failureForLog, htext]; rfl⟩
  obtain ⟨w', -, hlog⟩ : ∃ w', w.LogsTo w' ∧ Returns (Act.log .pipeline .warning
      ("Middleware " ++ name ++ " failed: " ++ logged)) w () w' := exists_returns_log
  obtain ⟨text, htext⟩ := e.exists_shown "Middleware error"
  refine ⟨_, w', ?_, text, htext, rfl⟩
  rw [middlewareFailed, if_neg e.errorClass_failure, e.status_failure]
  exact returns_bind.mpr ⟨logged, w, returns_ofAttempt.mpr ⟨hlogged, rfl⟩,
    returns_bind.mpr ⟨(), w', hlog, returns_bind.mpr ⟨text, w', returns_ofAttempt.mpr ⟨htext, rfl⟩,
      returns_pure.mpr ⟨rfl, rfl⟩⟩⟩⟩

/-- A handler that raises an HTTP error answers with it, when it has sent nothing. -/
theorem exists_returns_handlerFailed (route : String) {reply : Reply} (hsent : reply.sent = false)
    (w : World U) :
    ∃ r w', Returns (handlerFailed route reply e.failure) w r w' ∧
      IsEnvelopeOf (.failure e.failure) "Internal server error" (.int e.status) (.response r) := by
  obtain ⟨text, htext⟩ := e.exists_shown "Internal server error"
  have hanswer (w' : World U) : Returns (if reply.sent then Act.ofAttempt reply.response
      else do
        let shown ← Act.ofAttempt (sanitizeFailure e.failure "Internal server error")
        return errorResponse (.int e.status) shown [] : Act U (Response Value)) w'
          (errorResponse (.int e.status) text []) w' := by
    rw [hsent]
    exact returns_bind.mpr ⟨text, w', returns_ofAttempt.mpr ⟨htext, rfl⟩, returns_pure.mpr ⟨rfl, rfl⟩⟩
  refine ⟨errorResponse (.int e.status) text [], ?_⟩
  rw [handlerFailed, e.status_failure]
  simp only
  split
  · obtain ⟨w', -, hlog⟩ : ∃ w', w.LogsTo w' ∧ Returns (Act.log .pipeline .error
        ("Handler for " ++ route ++ " failed")) w () w' := exists_returns_log
    exact ⟨w', returns_bind.mpr ⟨(), w', hlog, hanswer w'⟩, text, htext, rfl⟩
  · obtain ⟨w', -, hlog⟩ : ∃ w', w.LogsTo w' ∧ Returns (Act.log .pipeline .info
        ("Handler for " ++ route ++ " raised " ++ toString e.status)) w () w' := exists_returns_log
    exact ⟨w', returns_bind.mpr ⟨(), w', hlog, hanswer w'⟩, text, htext, rfl⟩

end TypedError

/-- A handler that has sent a reply answers with it, whatever it raises then. -/
theorem exists_outcome_handlerFailed (route : String) {reply : Reply} (hsent : reply.sent = true) (f : Fault)
    (w : World U) :
    ∃ w', outcome (handlerFailed route reply f) w = (reply.response.mapError .failed, w') := by
  rw [handlerFailed]
  simp only [hsent, if_true]
  split
  · obtain ⟨w', -, hlog⟩ : ∃ w', w.LogsTo w' ∧ Returns (Act.log .pipeline .error
        ("Handler for " ++ route ++ " failed")) w () w' := exists_returns_log
    exact ⟨w', by rw [outcome_bind, hlog]; exact outcome_ofAttempt _ w'⟩
  · obtain ⟨w', -, hlog⟩ : ∃ w', w.LogsTo w' ∧ Returns (Act.log .pipeline .info
        ("Handler for " ++ route ++ " raised " ++ toString (f.status 500))) w () w' := exists_returns_log
    exact ⟨w', by rw [outcome_bind, hlog]; exact outcome_ofAttempt _ w'⟩

variable (b)

/-- A request whose last stage raises an HTTP error is answered with it: as an error of a middleware, or of
the handler, unless this has sent a reply. -/
structure StageCall.AnswersError (s : StageCall U) (e : TypedError) (h : WrappedHandler)
    (calls : List (Call U)) (result : Except Stop Value × World U) : Prop where
  middleware : (stageCalls calls).length ≤ h.config.middleware.length →
    ∃ answer w', result = (.ok answer, w') ∧
      IsEnvelopeOf (.failure e.failure) "Middleware error" (.int e.status) answer
  handler : h.config.middleware.length < (stageCalls calls).length →
    ∃ fields reply env,
      let called := b.handle s.fn (.context fields) reply env
      called.outcome = .raised e.failure ∧
        (called.reply.sent = true → ∃ w',
          result = ((called.reply.response.map Value.response).mapError .failed, w')) ∧
        (called.reply.sent = false → ∃ answer w', result = (.ok answer, w') ∧
          IsEnvelopeOf (.failure e.failure) "Internal server error" (.int e.status) answer)

variable {b}

/-- A call that decided how its request ends and raised an HTTP error has it answered. -/
theorem StageCall.Ends.answersError {s : StageCall U} {e : TypedError} {h : WrappedHandler}
    {calls : List (Call U)} {result : Except Stop Value × World U} (hends : s.Ends b h calls result)
    (hraised : s.ended = .raised e.failure) : s.AnswersError b e h calls result where
  middleware := by
    intro hcount
    have hstops : ¬ s.Continues b := StageCall.not_continues (by simp [hraised])
    obtain ⟨m, -, -, v, w, -, rfl⟩ := hends.middleware hcount hstops
    obtain ⟨answer, w', hfailed, henvelope⟩ :=
      e.exists_returns_middlewareFailed m.fn.functionName h.timeout w
    refine ⟨answer, w', ?_, henvelope⟩
    -- a middleware that answers has nothing run after it
    rw [hraised, outcome_bind]
    simp only [conclude]
    rw [hfailed]
    rfl
  handler := by
    intro hcount
    obtain ⟨-, fields, reply, env, w, hended, -, rfl⟩ := hends.handler hcount
    -- whether the error is shown depends on the reply that the handler left
    refine ⟨fields, reply, env, hended.trans hraised, fun hsent => ?_, fun hsent => ?_⟩
    · obtain ⟨w', hfailed⟩ := exists_outcome_handlerFailed h.route hsent e.failure w
      refine ⟨w', ?_⟩
      rw [hraised, outcome_bind]
      simp only [concludeHandler]
      rw [hfailed]
      cases (b.handle s.fn (.context fields) reply env).reply.response <;> rfl
    · obtain ⟨r, w', hfailed, henvelope⟩ := e.exists_returns_handlerFailed h.route hsent w
      refine ⟨.response r, w', ?_, henvelope⟩
      rw [hraised, outcome_bind]
      simp only [concludeHandler]
      rw [hfailed]
      rfl

/-! ## Errors outside of the stages -/

/-- The cross-origin middleware passes a request on: it is of no other origin, of one that is not allowed, or
no preflight request. -/
def CorsSpec.Passes (spec : CorsSpec Value) (request : Request) : Prop :=
  ∀ origin, request.headers.get? "origin" = some origin → ∃ allowed, spec.allowedOrigin origin = .ok allowed ∧
    (allowed = none ∨ isPreflight request = false)

variable (b)

/-- Who raises a failure outside of the stages of a route. The cross-origin middleware may be around all of
them. -/
inductive RaisedOutside : List EngineMiddleware → Request → World U → Fault → World U → Prop
  /-- The router, which knows no route. -/
  | router {request w miss} (fits : w.app.router.isTooDeepFor request.method request.path = false)
      (misses : w.app.router.match? request.method request.path = .error miss) :
      RaisedOutside [] request w (.http miss.httpError) w
  /-- The decoder of the body, after the request was counted. -/
  | decoder {request w found h w₁ f w₂} (fits : w.app.router.isTooDeepFor request.method request.path = false)
      (finds : w.app.router.match? request.method request.path = .ok found)
      (leads : found.route.endpoint.endpoint = .wrapped h)
      (counts : Returns (checkLimit h { request with pathParams := found.params }) w none w₁)
      (fails : outcome (receiveValue { request with pathParams := found.params }) w₁ =
        (.error (.failed f), w₂)) :
      RaisedOutside [] request w f w₂
  /-- An endpoint of the engine. -/
  | endpoint {request w found fn f w₁} (fits : w.app.router.isTooDeepFor request.method request.path = false)
      (finds : w.app.router.match? request.method request.path = .ok found)
      (leads : found.route.endpoint.endpoint = .custom fn)
      (fails : outcome (callEngine (b.callEndpoint fn) nothingNext
        { request with pathParams := found.params }) w = (.error (.failed f), w₁)) :
      RaisedOutside [] request w f w₁
  /-- A middleware of the engine, whatever is behind it. -/
  | around {fn chain request w f w₁}
      (fails : outcome (callEngine (b.callAround fn) (serveThrough b chain (dispatch b)) request) w =
        (.error (.failed f), w₁)) :
      RaisedOutside (.custom fn :: chain) request w f w₁
  /-- Whoever is behind the cross-origin middleware. -/
  | cors {spec maxAge chain request w f w₁} (passes : CorsSpec.Passes spec request)
      (behind : RaisedOutside chain request w f w₁) :
      RaisedOutside (.cors spec maxAge :: chain) request w f w₁

variable {b}

/-- The cross-origin middleware does not catch what is raised behind it. -/
theorem outcome_corsServe {spec : CorsSpec Value} {maxAge : Value} {next : Next U} {request : Request}
    {f : Fault} (hpasses : spec.Passes request) (h : outcome (next request) w = (.error (.failed f), w')) :
    outcome (corsServe b spec maxAge next request) w = (.error (.failed f), w') := by
  rw [corsServe]
  cases horigin : request.headers.get? "origin" with
  | none => exact h
  | some origin =>
    obtain ⟨allowed, hallowed, hpass⟩ := hpasses origin horigin
    simp only [outcome_bind, outcome_ofAttempt, hallowed, Except.mapError]
    cases allowed with
    | none => exact h
    | some value =>
      have hpreflight : isPreflight request = false := hpass.resolve_left (Option.some_ne_none value)
      simp only [hpreflight, Bool.false_eq_true, if_false, outcome_bind, h]

/-- **What is raised outside of the stages** comes out of the engine. -/
theorem RaisedOutside.comes_out {chain : List EngineMiddleware} {request : Request} {f : Fault}
    (h : RaisedOutside b chain request w f w') :
    outcome (serveThrough b chain (dispatch b) request) w = (.error (.failed f), w') := by
  -- only the cross-origin middleware has something behind it that raises the failure
  induction h with
  | router fits misses =>
    rw [serveThrough, List.foldr_nil, dispatch, outcome_get_bind]
    simp only [fits, misses]
    rfl
  | decoder fits finds leads counts fails =>
    rw [serveThrough, List.foldr_nil, dispatch, outcome_get_bind]
    simp only [fits, finds, leads, WrappedHandler.serve_eq]
    change outcome (checkLimit _ _ >>= _) _ = _
    rw [outcome_bind, counts]
    simp only
    rw [outcome_bind, fails]
  | endpoint fits finds leads fails =>
    rw [serveThrough, List.foldr_nil, dispatch, outcome_get_bind]
    simp only [fits, finds, leads]
    exact fails
  | around fails => exact fails
  | cors passes behind ih => exact outcome_corsServe passes ih

/-- The errors of the router are of the types that they are declared with. -/
theorem TypedError.exists_of_miss (miss : Miss) : ∃ e : TypedError, e.failure = .http miss.httpError := by
  cases miss with
  | notFound => exact ⟨⟨.notFound, 404, "Not Found", [], by decide, by decide⟩, rfl⟩
  | otherMethods allowed => exact ⟨⟨.methodNotAllowed, 405, _, [("Allow", _)], by decide, by decide⟩, rfl⟩

/-! ## All together -/

/-- **Every HTTP error is answered with its status** and with what may be shown of it. One that comes out of
the engine, as does whatever is raised outside of the stages of a route, is answered with its headers too,
and with its status in place of what may not be shown. In that place stands another text for a middleware of
a route, and another one for a handler that has sent nothing. The errors of the router are such errors. -/
theorem httpErrors_are_answered (b : Behaviour U) :
    (∀ e : TypedError,
      (∀ (request : Request) (w w₁ : World U),
        Returns (attempt (serveThrough b w.app.middleware (dispatch b) request)) w (.error e.failure) w₁ →
          ∃ text w₂, sanitizeMessage (.failure e.failure) ("Error " ++ toString e.status) = .ok text ∧
            outcome (answerRequest b request) w =
              (.ok (.response (errorResponse (.int e.status) text e.headers)), w₂) ∧
            ((e.headers.map Prod.fst).Nodup →
              (errorResponse (.int e.status) text e.headers).headers = Value.ofPairs e.headers)) ∧
      (∀ (request : Request) (w w₁ : World U),
        RaisedOutside b w.app.middleware request w e.failure w₁ →
          Returns (attempt (serveThrough b w.app.middleware (dispatch b) request)) w (.error e.failure) w₁) ∧
      ∀ (h : WrappedHandler) (request : Request) (w : World U), ∃ calls,
        Records World.withCalls (h.serve b.recorded request) (h.serve b request) w calls ∧
          ∀ s, (stageCalls calls).getLast? = some s → s.ended = .raised e.failure →
            s.AnswersError b e h calls (outcome (h.serve b request) w)) ∧
    ∀ miss : Miss, ∃ e : TypedError, e.failure = .http miss.httpError := by
  refine ⟨fun e => ⟨fun request w w₁ hserved => ?_, fun request w w₁ hraised => ?_, fun h request w => ?_⟩,
    TypedError.exists_of_miss⟩
  · obtain ⟨text, htext⟩ := e.exists_shown ("Error " ++ toString e.status)
    obtain ⟨w₂, -, hanswer⟩ := outcome_answerRequest hserved
    have hfailure : failureAnswer w.app.config.debug.truthy e.failure = e.error.envelope := rfl
    refine ⟨text, w₂, htext, ?_, e.headers_errorResponse _ text⟩
    rw [hanswer, answerOf, hfailure, e.envelope htext]
    rfl
  · rw [Returns, outcome_attempt, hraised.comes_out]
  · obtain ⟨calls, hrecords, hends⟩ := serve_ends b h request w
    exact ⟨calls, hrecords, fun s hs hraised => (hends s hs).answersError hraised⟩

/-- A refusal without a detail. -/
def bareRefusal : TypedError := ⟨.http, 403, "", [], by decide, by decide⟩

/-- There is nothing of it to be shown. -/
theorem sanitizeMessage_bareRefusal (fallback : String) :
    sanitizeMessage (.failure bareRefusal.failure) fallback = .ok fallback := by
  have hplain : isSensitive [] = false := by
    simp [isSensitive, sensitivePatterns, Text.word, Text.occurs, Text.matchesAt]
  have hnothing : sanitizeText "" = "" := by
    simp [sanitizeText, hplain, Text.cutAt, maskPaths, maskFrom, Text.glyphsOf]
  have hdetail : errorText? (.failure bareRefusal.failure) = .ok (some "") := rfl
  rw [sanitizeMessage, hdetail]
  simp only [Except.map, Option.getD_some, hnothing]
  rfl

/-- What the middleware of the application answers with when it has raised a failure is the answer of the
request. -/
theorem dispatch_raising {f : Fault} {answer : Value} {w : World Unit}
    (h : Returns (middlewareFailed "m1" (.int 30) f)
      { guarded with app := guarded.app.freeze, inbox := { cached := some [] } } (.answered answer) w) :
    outcome (dispatch (raising f) { path := "/x", maxBodySize := .atMost 16777216 })
        { guarded with app := guarded.app.freeze } = (.ok answer, w) := by
  have hrun : outcome (dispatch (raising f) { path := "/x", maxBodySize := .atMost 16777216 })
        { guarded with app := guarded.app.freeze } =
      outcome
        (guardedHandler.runStages (raising f) { path := "/x", maxBodySize := .atMost 16777216 } .none 20)
        { guarded with app := guarded.app.freeze, inbox := { cached := some [] } } := rfl
  have hchain : Returns (runChain (raising f) guardedHandler.timeout guardedHandler.config.middleware
      ⟨coreFields guardedHandler { path := "/x", maxBodySize := .atMost 16777216 } .none 20, {}⟩)
      { guarded with app := guarded.app.freeze, inbox := { cached := some [] } } (.answered answer) w :=
    returns_bind.mpr ⟨.answered answer, w, h, returns_pure.mpr ⟨rfl, rfl⟩⟩
  rw [hrun, runStages_eq, outcome_bind, hchain]
  rfl

/-- A request that a bare refusal ends is answered with the text of a middleware. -/
theorem dispatch_bareRefusal : ∃ w,
    outcome (dispatch (raising bareRefusal.failure) { path := "/x", maxBodySize := .atMost 16777216 })
        { guarded with app := guarded.app.freeze } =
      (.ok (.response (errorResponse (.int 403) "Middleware error" [])), w) := by
  obtain ⟨answer, w, hfailed, text, htext, rfl⟩ := bareRefusal.exists_returns_middlewareFailed "m1" (.int 30)
    { guarded with app := guarded.app.freeze, inbox := { cached := some [] } }
  obtain rfl : "Middleware error" = text :=
    Except.ok.inj ((sanitizeMessage_bareRefusal "Middleware error").symm.trans htext)
  exact ⟨w, dispatch_raising hfailed⟩

/-- What is shown for it is not its status. -/
theorem serveRequest_refused :
    (outcome (serveRequest (raising bareRefusal.failure) { path := "/x" } {}) guarded).1 =
        (encodeResponse (errorResponse (.int 403) "Middleware error" []) false).mapError .failed ∧
      sanitizeMessage (.failure bareRefusal.failure) "Error 403" = .ok "Error 403" := by
  refine ⟨?_, sanitizeMessage_bareRefusal "Error 403"⟩
  obtain ⟨w, hdispatched⟩ := dispatch_bareRefusal
  have hserved : Returns
      (attempt (serveThrough (raising bareRefusal.failure) [] (dispatch (raising bareRefusal.failure))
        { path := "/x", maxBodySize := .atMost 16777216 }))
      { guarded with app := guarded.app.freeze }
      (.ok (.response (errorResponse (.int 403) "Middleware error" []))) w := by
    rw [Returns, serveThrough, List.foldr_nil, outcome_attempt, hdispatched]
  rw [fst_outcome_serveRequest (raising bareRefusal.failure) { path := "/x" } {} guarded _ hserved]
  rfl

end ServerTree
