import ServerTree.App.Serve
import ServerTree.Proofs.RateLimit.Endpoints

/-!
# What serving keeps

While a request is served the library calls functions of the application, expands composites, receives the body,
gives up calls and makes records; and the limiter of the route counts. A statement about the world that these keep
holds wherever serving ends. Where it holds, functions may be exchanged for others that do the same there.

## Main definitions
- `Behaviour.AgreeWhere`: functions of two applications do the same wherever a statement holds, and keep it
- `WrappedHandler.Remarks`: what is noted while a handler of the tree is served
- `WrappedHandler.serveCounted`: the stages behind the limiter
- `sendAnswer`: what follows the answer of a request

## Main statements
- `agree_serveCounted`: all stages of a route agree, and keep the statement
- `agree_serveThrough`: so does the middleware around the router
- `agree_dispatch`: so does the router, when the handlers do
- `agree_answerFailure`, `agree_runHook`: answers and hooks make one record each
- `agree_sendAnswer`: so does what follows an answer, when its records keep the statement
- `agree_serveRequest`: so does serving a request, when the router does
-/

namespace ServerTree

variable {U : Type}

/-! ## Functions -/

/-- Wherever a statement holds, two engine functions ask for the same and come to the same: they leave it holding
whenever they pass a request on, read a body or end, and go on alike with each answer. -/
inductive Course.AgreeWhere (P : World U → Prop) : World U → Course U → Course U → Prop where
  | finish {w : World U} {env : Env U} {result : Attempt Value} (left : P { w with env := env }) :
      AgreeWhere P w (.finish env result) (.finish env result)
  | next {w : World U} {env : Env U} {request : Request} {resume resume' : Env U → Attempt Value → Course U}
      (left : P { w with env := env }) (resumes : ∀ v r, P v → AgreeWhere P v (resume v.env r) (resume' v.env r)) :
      AgreeWhere P w (.next env request resume) (.next env request resume')
  | readBody {w : World U} {env : Env U} {request : Request} {resume resume' : Env U → Attempt Bytes → Course U}
      (left : P { w with env := env }) (resumes : ∀ v r, P v → AgreeWhere P v (resume v.env r) (resume' v.env r)) :
      AgreeWhere P w (.readBody env request resume) (.readBody env request resume')

/-- Wherever a statement about the world holds, the functions of two applications do the same. They keep it, as
does what serving does beside: composites, reading from the inbox, and calls that are given up. -/
structure Behaviour.AgreeWhere (P : World U → Prop) (b b' : Behaviour U) : Prop where
  composites : ∀ {w}, P w → ∀ user, P { w with env := { w.env with user := user } }
  inbox : ∀ {w}, P w → ∀ inbox, P { w with inbox := inbox }
  abandoned : ∀ {w}, P w → ∀ abandoned, P { w with abandoned := abandoned }
  expand : b.expand = b'.expand
  handle : ∀ {w}, P w → ∀ fn argument reply, b.handle fn argument reply w.env = b'.handle fn argument reply w.env ∧
    P { w with env := (b.handle fn argument reply w.env).env }
  call : ∀ {w}, P w → ∀ fn arguments named, b.call fn arguments named w.env = b'.call fn arguments named w.env ∧
    P { w with env := (b.call fn arguments named w.env).2 }
  resume : ∀ {w}, P w → ∀ rest, b.resume rest w.env = b'.resume rest w.env ∧
    P { w with env := (b.resume rest w.env).2 }
  endpoint : ∀ {w}, P w → ∀ fn request,
    Course.AgreeWhere P w (b.endpoint fn request w.env) (b'.endpoint fn request w.env)
  around : ∀ {w}, P w → ∀ fn request,
    Course.AgreeWhere P w (b.around fn request w.env) (b'.around fn request w.env)
  hook : ∀ {w}, P w → ∀ fn request response elapsed,
    b.hook fn request response elapsed w.env = b'.hook fn request response elapsed w.env ∧
      P { w with env := (b.hook fn request response elapsed w.env).2 }

/-! ## Remarks -/

/-- What is noted while a handler of the tree is served: keys that are not merged, middleware that failed or did not
settle in time, and the failure of the handler. -/
inductive WrappedHandler.Remarks (h : WrappedHandler) : Severity → Option String → Prop where
  | reserved {source : Value} {key : String} (reserved : key ∈ reservedKeys source) :
      Remarks h .warning (some (reservedKeyWarning key))
  | timedOut {m : ScopedMiddleware Value} (declared : m ∈ h.config.middleware) :
      Remarks h .warning (h.timeout.text.map fun limit =>
        "Middleware " ++ m.fn.functionName ++ " timed out after " ++ limit ++ "s").toOption
  | failed {m : ScopedMiddleware Value} {f : Fault} {logged : String} (declared : m ∈ h.config.middleware)
      (shown : failureForLog f = .ok logged) :
      Remarks h .warning (some ("Middleware " ++ m.fn.functionName ++ " failed: " ++ logged))
  | handlerFailed : Remarks h .error (some ("Handler for " ++ h.route ++ " failed"))
  | handlerRaised (status : Int) : Remarks h .info (some ("Handler for " ++ h.route ++ " raised " ++ toString status))

/-- Serves a request that was let through: all stages behind the limiter. -/
def WrappedHandler.serveCounted (b : Behaviour U) (h : WrappedHandler) (request : Request) :
    Act U Value := do
  let body ← receiveValue request
  let level := (← get).env.log.effective
  match ← runChain b h.timeout h.config.middleware ⟨coreFields h request body level, {}⟩ with
  | .answered r => return r
  | .proceed v => return .response (← runHandler b h v)

/-- What follows the answer of a request that came to a world: it is put on the wire, and every response hook runs. -/
def sendAnswer (b : Behaviour U) (opened : World U) (request : Request) (answer : Value) : Act U WireResponse := do
  let sent ← transmit opened.app.config.debug.truthy request answer
  let after ← get
  let elapsed := (after.env.clock - opened.env.clock) * 1000.0
  for hook in opened.app.responseHooks do
    runHook b request sent.answer elapsed hook
  return sent.messages

namespace Act

variable {P : World U → Prop} {b b' : Behaviour U}

/-! ## Calls -/

section

variable (hb : b.AgreeWhere P b')

include hb

theorem agree_expandOf {α : Type} (x : Expander U → Expand U α) :
    Agree P (expand (x b.expand)) (expand (x b'.expand)) := by
  rw [← hb.expand]
  exact agree_expand _ fun _ user hw => hb.composites hw user

theorem agree_receiveBody (request : Request) : Preserves P (receiveBody request : Act U (Attempt Bytes)) :=
  preserves_of _ fun _ hw => hb.inbox hw _

theorem agree_receiveValue (request : Request) : Preserves P (receiveValue request : Act U Value) := by
  refine agree_bind (agree_receiveBody hb request) fun received => ?_
  exact agree_bind (agree_ofAttempt _) fun raw => agree_ofAttempt _

theorem agree_callInPlace (fn : Value) (arguments : List Value) (named : List (String × Value)) :
    Agree P (callInPlace b fn arguments named) (callInPlace b' fn arguments named) := by
  have hcall : ∀ w, P w → b.callValue fn arguments named w.env = b'.callValue fn arguments named w.env ∧
      P { w with env := (b.callValue fn arguments named w.env).2 } := by
    intro w hw
    cases fn with
    | func f => exact hb.call hw f arguments named
    | _ => exact ⟨rfl, hw⟩
  refine agree_bind (agree_withEnv hcall) fun r => ?_
  cases r with
  | returned v => exact agree_pure v
  | raised f => exact agree_fail f
  | suspended rest => exact agree_throw _

theorem agree_callStage (fn : Value) (argument : Argument) (reply : Reply) :
    Agree P (callStage b fn argument reply) (callStage b' fn argument reply) := by
  refine agree_withEnv fun w hw => ?_
  have hcall : b.callScoped fn argument reply w.env = b'.callScoped fn argument reply w.env ∧
      P { w with env := (b.callScoped fn argument reply w.env).env } := by
    cases fn with
    | func f => exact hb.handle hw f argument reply
    | _ => exact ⟨rfl, hw⟩
  exact ⟨by rw [hcall.1], hcall.2⟩

theorem agree_haltedAnswer (v : Visit) : Agree P (haltedAnswer b v) (haltedAnswer b' v) := by
  unfold haltedAnswer
  cases Assoc.get? (.str "reply") v.fields with
  | none => exact agree_refuse _
  | some other =>
    -- what stands in the place of the reply is asked for its own response
    have hother : ∀ b₁ b₂ : Behaviour U, (∀ fn, Agree P (callInPlace b₁ fn [] []) (callInPlace b₂ fn [] [])) →
        Agree P (do
          let sent ← ofAttempt (other.part "sent")
          if sent.truthy then
            let fn ← ofAttempt (other.part "to_response")
            callInPlace b₁ fn [] []
          else return Value.response .empty) (do
          let sent ← ofAttempt (other.part "sent")
          if sent.truthy then
            let fn ← ofAttempt (other.part "to_response")
            callInPlace b₂ fn [] []
          else return Value.response .empty) := by
      intro b₁ b₂ hcall
      refine agree_bind (agree_ofAttempt _) fun sent => ?_
      split
      · exact agree_bind (agree_ofAttempt _) fun fn => hcall fn
      · exact agree_pure _
    cases other with
    | reply => exact agree_bind (agree_ofAttempt _) fun r => agree_pure _
    | _ => exact hother b b' fun fn => agree_callInPlace hb fn [] []

theorem agree_askForHeaders (headers : List (String × String)) (v : Value) :
    Agree P (askForHeaders b headers v) (askForHeaders b' headers v) := by
  unfold askForHeaders
  induction headers generalizing v with
  | nil => exact agree_pure v
  | cons header headers ih =>
    rw [List.foldlM_cons, List.foldlM_cons]
    refine agree_bind ?_ fun v' => ih v'
    exact agree_bind (agree_ofAttempt _) fun fn => agree_callInPlace hb fn _ _

theorem agree_viewOf (m : ScopedMiddleware Value) (v : Visit) : Agree P (viewOf b m v) (viewOf b' m v) := by
  unfold viewOf
  cases methodField? "fork" v.fields with
  | none => exact agree_pure _
  | some fn => exact agree_bind (agree_callInPlace hb fn _ _) fun view => agree_pure _

theorem agree_callMiddleware (timeout : Value) (m : ScopedMiddleware Value) (view : Argument) (reply : Reply) :
    Agree P (callMiddleware b timeout m view reply) (callMiddleware b' timeout m view reply) := by
  unfold callMiddleware callWithin
  split
  · cases checkTimeout timeout with
    | ok _ => exact agree_callStage hb _ _ _
    | error f => exact agree_pure _
  · exact agree_pure _

end

/-! ## The stages of a route -/

section

variable (hb : b.AgreeWhere P b') {h : WrappedHandler}
  (hnotes : ∀ {w severity message}, P w → h.Remarks severity message → P (w.noting .pipeline severity message))

include hnotes

theorem agree_warnReserved (source : Value) : Preserves P (warnReserved source : Act U Unit) := by
  refine agree_bind (agree_forIn (fun key hkey _ => ?_) _) fun _ => agree_pure _
  exact agree_bind (agree_log fun w hw => hnotes hw (.reserved hkey)) fun _ => agree_pure _

theorem agree_middlewareFailed {m : ScopedMiddleware Value} (hm : m ∈ h.config.middleware) (f : Fault) :
    Preserves P (middlewareFailed m.fn.functionName h.timeout f : Act U Progress) := by
  unfold middlewareFailed
  split
  · refine agree_bind (agree_logText fun w hw => hnotes hw (.timedOut hm)) fun _ => ?_
    refine agree_bind (agree_ofAttempt _) fun status => ?_
    exact agree_bind (agree_ofAttempt _) fun message => agree_pure _
  · refine agree_ofAttempt_bind fun logged hlogged => ?_
    refine agree_bind (agree_log fun w hw => hnotes hw (.failed hm hlogged)) fun _ => ?_
    exact agree_bind (agree_ofAttempt _) fun shown => agree_pure _

theorem agree_handlerFailed (reply : Reply) (f : Fault) :
    Preserves P (handlerFailed h.route reply f : Act U (Response Value)) := by
  have hanswer : Preserves P (if reply.sent then ofAttempt reply.response
      else do
        let shown ← ofAttempt (sanitizeFailure f "Internal server error")
        return errorResponse (.int (f.status 500)) shown [] : Act U (Response Value)) := by
    split
    · exact agree_ofAttempt _
    · exact agree_bind (agree_ofAttempt _) fun shown => agree_pure _
  unfold handlerFailed
  dsimp only
  -- the failure is logged as an error or not, and then it is answered
  split
  · exact agree_bind (agree_log fun w hw => hnotes hw .handlerFailed) fun _ => hanswer
  · exact agree_bind (agree_log fun w hw => hnotes hw (.handlerRaised _)) fun _ => hanswer

include hb

theorem agree_applySignal (v : Visit) (signal : Signal Value) :
    Agree P (applySignal b v signal) (applySignal b' v signal) := by
  cases signal with
  | proceed => exact agree_pure _
  | halt => exact agree_bind (agree_haltedAnswer hb v) fun r => agree_pure _
  | augment source =>
    unfold applySignal
    cases methodField? "augment" v.fields with
    | some fn => exact agree_bind (agree_callInPlace hb fn _ _) fun _ => agree_pure _
    | none => exact agree_bind (agree_warnReserved hnotes source) fun _ => agree_pure _
  | fail status message => exact agree_bind (agree_ofAttempt _) fun shown => agree_pure _

/-- **Step lemma**: one middleware of the route. -/
theorem agree_runMiddleware {m : ScopedMiddleware Value} (hm : m ∈ h.config.middleware) (v : Visit) :
    Agree P (runMiddleware b h.timeout m v) (runMiddleware b' h.timeout m v) := by
  refine agree_bind (agree_viewOf hb m v) fun view => ?_
  refine agree_bind (agree_callMiddleware hb h.timeout m view v.reply) fun r => ?_
  obtain ⟨ended, reply⟩ := r
  cases ended with
  | returned result =>
    refine agree_bind (agree_expandOf hb fun call => interpret call result) fun signal => ?_
    exact agree_applySignal hb hnotes _ signal
  | raised f => exact agree_middlewareFailed hnotes hm f
  | suspended rest =>
    have hgiven : Preserves P (do
        abandon rest
        middlewareFailed m.fn.functionName h.timeout middlewareTimedOut : Act U Progress) :=
      agree_bind (agree_modify fun w hw => hb.abandoned hw _) fun _ => agree_middlewareFailed hnotes hm _
    dsimp only
    split
    · exact agree_throw _
    · exact hgiven

/-- **Run lemma**: a chain of such middleware, by induction on it. -/
theorem agree_runChain {ms : List (ScopedMiddleware Value)} (hms : ∀ m ∈ ms, m ∈ h.config.middleware) (v : Visit) :
    Agree P (runChain b h.timeout ms v) (runChain b' h.timeout ms v) := by
  induction ms generalizing v with
  | nil => exact agree_pure _
  | cons m ms ih =>
    refine agree_bind (agree_runMiddleware hb hnotes (hms m List.mem_cons_self) v) fun progress => ?_
    cases progress with
    | proceed v' => exact ih (fun m' hm' => hms m' (List.mem_cons_of_mem _ hm')) v'
    | answered r => exact agree_pure _

theorem agree_runHandler (v : Visit) : Agree P (runHandler b h v) (runHandler b' h v) := by
  refine agree_bind (agree_callStage hb _ _ _) fun r => ?_
  obtain ⟨ended, reply⟩ := r
  cases ended with
  | returned result => exact agree_expandOf hb fun call => renderResult call result reply
  | raised f => exact agree_handlerFailed hnotes _ _
  | suspended rest => exact agree_throw _

/-- **All stages of a route agree** behind its limiter. -/
theorem agree_serveCounted (request : Request) :
    Agree P (h.serveCounted b request) (h.serveCounted b' request) := by
  refine agree_bind (agree_receiveValue hb request) fun body => ?_
  refine agree_get_bind fun world _ => ?_
  refine agree_bind (agree_runChain hb hnotes (fun m hm => hm) _) fun progress => ?_
  cases progress with
  | answered r => exact agree_pure _
  | proceed v => exact agree_bind (agree_runHandler hb hnotes v) fun r => agree_pure _

/-- So do all stages, when the statement does not concern the limiters. -/
theorem agree_serve (hlimiters : ∀ {w}, P w → ∀ limiters, P { w with limiters := limiters }) (request : Request) :
    Agree P (h.serve b request) (h.serve b' request) := by
  have hlimit : Preserves P (checkLimit h request : Act U (Option Int)) := by
    unfold checkLimit
    split
    · exact agree_pure _
    · refine agree_get_bind fun world hworld => ?_
      refine agree_bind (fun w _ => ⟨rfl, hlimiters hworld _⟩) fun _ => ?_
      exact agree_bind (agree_ofAttempt _) fun verdict => agree_pure _
    · exact agree_refuse _
  refine agree_bind hlimit fun denied => ?_
  cases denied with
  | some seconds => exact agree_pure _
  | none => exact agree_serveCounted hb hnotes request

end

/-! ## Around the routes -/

section

variable (hb : b.AgreeWhere P b') {next next' : Next U} (hnext : ∀ request, Agree P (next request) (next' request))

include hb hnext

/-- Engine functions that agree come to the same around what agrees. The induction is on what they ask for. -/
theorem agree_runCourse {course course' : Course U} {w : World U}
    (h : Course.AgreeWhere P w course course') :
    outcome (runCourse next course) w = outcome (runCourse next' course') w ∧
      P (outcome (runCourse next course) w).2 := by
  induction h with
  | finish left => exact agree_ofAttempt _ _ left
  | @next w env request resume resume' left _ ih =>
    have hrest : Agree P (do
        let r ← attempt (next request)
        let world ← get
        runCourse next (resume world.env r)) (do
        let r ← attempt (next' request)
        let world ← get
        runCourse next' (resume' world.env r)) :=
      agree_bind (agree_attempt (hnext request)) fun r v hv => ih v r hv
    exact hrest _ left
  | @readBody w env request resume resume' left _ ih =>
    have hrest : Agree P (do
        let r ← receiveBody request
        let world ← get
        runCourse next (resume world.env r)) (do
        let r ← receiveBody request
        let world ← get
        runCourse next' (resume' world.env r)) :=
      agree_bind (agree_receiveBody hb request) fun r v hv => ih v r hv
    exact hrest _ left

/-- An engine function that is called where the statement holds. -/
theorem agree_callEngine {course course' : Request → Env U → Course U}
    (hcourse : ∀ request w, P w → Course.AgreeWhere P w (course request w.env) (course' request w.env))
    (request : Request) : Agree P (callEngine course next request) (callEngine course' next' request) :=
  fun w hw => agree_runCourse hb hnext (hcourse request w hw)

theorem agree_corsServe (spec : CorsSpec Value) (maxAge : Value) (request : Request) :
    Agree P (corsServe b spec maxAge next request) (corsServe b' spec maxAge next' request) := by
  unfold corsServe
  cases request.headers.get? "origin" with
  | none => exact hnext request
  | some origin =>
    refine agree_bind (agree_ofAttempt _) fun allowed => ?_
    cases allowed with
    | none => exact hnext request
    | some allowed =>
      dsimp only
      split
      · exact agree_bind (agree_ofAttempt _) fun r => agree_pure _
      · refine agree_bind (hnext request) fun v => ?_
        cases v with
        | response r => exact agree_pure _
        | _ => exact agree_askForHeaders hb _ _

/-- **Middleware around the router agrees** when the router does, by induction on the chain. -/
theorem agree_serveThrough (chain : List EngineMiddleware) (request : Request) :
    Agree P (serveThrough b chain next request) (serveThrough b' chain next' request) := by
  induction chain generalizing request with
  | nil => exact hnext request
  | cons m chain ih =>
    cases m with
    | cors spec maxAge => exact agree_corsServe hb ih spec maxAge request
    | custom fn =>
      refine agree_callEngine hb ih (fun request w hw => ?_) request
      cases fn with
      | func f => exact hb.around hw f request
      | _ => exact .finish hw

end

/-- **The router agrees** when the handlers of the application do. -/
theorem agree_dispatch (hb : b.AgreeWhere P b')
    (hserve : ∀ {w r h}, P w → w.app.router.Enters r → r.endpoint.endpoint = .wrapped h →
      ∀ request, Agree P (h.serve b request) (h.serve b' request)) (request : Request) :
    Agree P (dispatch b request) (dispatch b' request) := by
  refine agree_get_bind fun w hw => ?_
  dsimp only
  split
  · -- a path that is too deep is refused before it is looked up
    exact agree_refuse_bind _ _ _
  · cases hmatch : w.app.router.match? request.method request.path with
    | error miss => exact agree_fail _
    | ok found =>
      dsimp only
      cases hendpoint : found.route.endpoint.endpoint with
      | wrapped h => exact hserve hw (enters_of_match? hmatch) hendpoint _
      | custom fn =>
        refine agree_callEngine hb (fun request => agree_refuse _) (fun request w hw => ?_) _
        cases fn with
        | func f => exact hb.endpoint hw f request
        | _ => exact .finish hw

/-! ## Answers -/

theorem agree_answerInternalError (debug : Bool) (f : Fault) {request : Request}
    (hnotes : ∀ {w}, P w → P (w.noting .server .error (some ("500 " ++ request.method ++ " " ++ request.path)))) :
    Preserves P (answerInternalError debug f request : Act U (Response Value)) := by
  refine agree_bind (agree_log fun w hw => hnotes hw) fun _ => ?_
  cases debug with
  | true => exact agree_ofAttempt _
  | false => exact agree_pure _

/-- The answer of a failure makes one record: the line of an HTTP error, or that of an internal one. -/
theorem agree_answerFailure (debug : Bool) {f : Fault} {request : Request}
    (hline : ∀ {w e}, P w → f = .http e → P (w.noting .server .debug (e.line? request)))
    (hnotes : ∀ {w}, P w → P (w.noting .server .error (some ("500 " ++ request.method ++ " " ++ request.path)))) :
    Preserves P (answerFailure debug f request : Act U (Response Value)) := by
  cases f with
  | http e =>
    have hlog : Preserves P (changeLog fun log => .ok (log.append .server .debug (e.line? request)) : Act U Unit) :=
      preserves_of _ fun w hw => hline hw rfl
    exact agree_bind hlog fun _ => agree_ofAttempt _
  | _ => exact agree_answerInternalError debug _ hnotes

theorem agree_answerRequest (hb : b.AgreeWhere P b')
    (hdispatch : ∀ request, Agree P (dispatch b request) (dispatch b' request)) {request : Request}
    (hline : ∀ {w e}, P w → P (w.noting .server .debug (HttpError.line? e request)))
    (hnotes : ∀ {w}, P w → P (w.noting .server .error (some ("500 " ++ request.method ++ " " ++ request.path)))) :
    Agree P (answerRequest b request) (answerRequest b' request) := by
  refine agree_get_bind fun world _ => ?_
  refine agree_bind (agree_attempt (agree_serveThrough hb hdispatch _ _)) fun r => ?_
  cases r with
  | ok v => exact agree_pure v
  | error f => exact agree_bind (agree_answerFailure _ (fun hw _ => hline hw) hnotes) fun r => agree_pure _

theorem agree_transmit (debug : Bool) {request : Request} (answer : Value)
    (hnotes : ∀ {w}, P w → P (w.noting .server .error (some ("500 " ++ request.method ++ " " ++ request.path)))) :
    Preserves P (transmit debug request answer : Act U Sent) := by
  unfold transmit
  dsimp only
  cases encodeAnswer answer (request.method == "HEAD") with
  | ok messages => exact agree_pure _
  | error f =>
    dsimp only
    split
    · refine agree_bind (agree_answerInternalError debug f hnotes) fun r => ?_
      exact agree_bind (agree_ofAttempt _) fun messages => agree_pure _
    · exact agree_fail f

/-- A response hook makes one record: the line of the access log, or that of its failure. -/
theorem agree_runHook (hb : b.AgreeWhere P b') {request : Request} {response : Value} {elapsed : Float} {hook : Hook}
    (hline : ∀ {w severity line}, P w → accessRecord request response elapsed = .ok (severity, line) →
      P (w.noting .access severity (some line)))
    (hnotes : ∀ {w}, P w →
      P (w.noting .server .error (hook.shown.map fun shown => "Response hook " ++ shown ++ " failed").toOption)) :
    Agree P (runHook b request response elapsed hook) (runHook b' request response elapsed hook) := by
  refine agree_bind ?_ fun r => ?_
  · refine agree_withEnv fun w hw => ?_
    cases hook with
    | accessLog =>
      refine ⟨rfl, ?_⟩
      show P { w with env := (logAccess request response elapsed w.env).2 }
      rw [logAccess]
      cases hrecord : accessRecord request response elapsed with
      | error f => exact hw
      | ok record => exact hline hw hrecord
    | custom fn =>
      cases fn with
      | func f => exact hb.hook hw f request response elapsed
      | _ => exact ⟨rfl, hw⟩
  · cases r with
    | ok _ => exact agree_pure _
    | error f => exact agree_logText fun w hw => hnotes hw

/-- What follows an answer makes the record of an internal error, and those of the hooks. -/
theorem agree_sendAnswer (hb : b.AgreeWhere P b') (opened : World U) {request : Request} (answer : Value)
    (hnotes : ∀ {w}, P w → P (w.noting .server .error (some ("500 " ++ request.method ++ " " ++ request.path))))
    (hline : ∀ {w response elapsed severity line}, P w →
      accessRecord request response elapsed = .ok (severity, line) → P (w.noting .access severity (some line)))
    (hhooks : ∀ {w hook}, P w → hook ∈ opened.app.responseHooks →
      P (w.noting .server .error (hook.shown.map fun shown => "Response hook " ++ shown ++ " failed").toOption)) :
    Agree P (sendAnswer b opened request answer) (sendAnswer b' opened request answer) := by
  refine agree_bind (agree_transmit _ answer hnotes) fun sent => ?_
  refine agree_get_bind fun after _ => ?_
  refine agree_bind (agree_forIn (fun hook hhook _ => ?_) _) fun _ => agree_pure _
  exact agree_bind (agree_runHook hb hline fun hw => hhooks hw hhook) fun _ => agree_pure _

/-- **Serving a request agrees** when the router does, if the statement concerns neither records nor the freezing of
the application. -/
theorem agree_serveRequest (hb : b.AgreeWhere P b')
    (hdispatch : ∀ request, Agree P (dispatch b request) (dispatch b' request))
    (hfreeze : ∀ {w}, P w → P { w with app := w.app.freeze })
    (hrecords : ∀ {w}, P w → ∀ logger severity message, P (w.noting logger severity message))
    (request : Request) (inbox : Inbox) :
    Agree P (serveRequest b request inbox) (serveRequest b' request inbox) := by
  refine agree_bind (agree_modify fun w hw => hfreeze hw) fun _ => ?_
  refine agree_bind (agree_modify fun w hw => hb.inbox hw inbox) fun _ => ?_
  refine agree_get_bind fun world _ => ?_
  refine agree_bind (agree_answerRequest hb hdispatch (fun hw => hrecords hw _ _ _) fun hw => hrecords hw _ _ _) ?_
  intro answer
  exact agree_sendAnswer hb world answer (fun hw => hrecords hw _ _ _) (fun hw _ => hrecords hw _ _ _)
    fun hw _ => hrecords hw _ _ _

/-! ## Calls that were given up -/

/-- **Step lemma**: a call that was given up goes on. -/
theorem agree_settle (hb : b.AgreeWhere P b')
    (hnotes : ∀ {w f logged}, P w → failureForLog f = .ok logged →
      P (w.noting .pipeline .debug (some ("Timed-out middleware later failed: " ++ logged)))) (rest : Nat) :
    Agree P (settle b rest) (settle b' rest) := by
  refine agree_bind (agree_withEnv fun w hw => hb.resume hw rest) fun r => ?_
  cases r with
  | returned v => exact agree_pure _
  | suspended rest' => exact agree_modify fun w hw => hb.abandoned hw _
  | raised f =>
    dsimp only
    split
    · next shown hshown => exact agree_log fun w hw => hnotes hw hshown
    · exact agree_pure _

/-- **Run lemma**: so do all of them. -/
theorem agree_settleAll (hb : b.AgreeWhere P b')
    (hnotes : ∀ {w f logged}, P w → failureForLog f = .ok logged →
      P (w.noting .pipeline .debug (some ("Timed-out middleware later failed: " ++ logged)))) :
    Agree P (settleAll b) (settleAll b') := by
  refine agree_get_bind fun w hw => ?_
  refine agree_bind (fun v _ => ⟨rfl, hb.abandoned hw []⟩) fun _ => ?_
  refine agree_bind (agree_forIn (fun rest _ _ => ?_) _) fun _ => agree_pure _
  exact agree_bind (agree_settle hb hnotes rest) fun _ => agree_pure _

end Act

end ServerTree
