import ServerTree.App.Serve
import ServerTree.Proofs.Pipeline.Likeness

/-!
# Serving side by side

A request is served alike in worlds that differ in what is still to be received, as long as every request that
the engine functions pass on or read reads alike there.

## Main definitions
- `Course.Passes`: all requests that an engine function passes on or reads are of a kind
- `dispatchBy`, `answerBy`, `serveBy`: how a request is served, by what is registered

## Main statements
- `alike_serveThrough`: the middleware around what is alike
- `alike_serveBy`: a request from its arrival to its last hook
-/

namespace ServerTree

variable {U : Type} {P : App → Inbox → Inbox → Prop} {G : Request → Prop}

/-! ## Requests that are passed on -/

/-- Every request that an engine function passes on or reads in its course is of a kind, whatever it gets to
see on the way. -/
inductive Course.Passes (G : Request → Prop) : Course U → Prop
  | finish (env : Env U) (result : Attempt Value) : Course.Passes G (.finish env result)
  | next {env : Env U} {request : Request} {resume : Env U → Attempt Value → Course U} :
    G request → (∀ env r, (resume env r).Passes G) → Course.Passes G (.next env request resume)
  | readBody {env : Env U} {request : Request} {resume : Env U → Attempt Bytes → Course U} :
    G request → (∀ env r, (resume env r).Passes G) → Course.Passes G (.readBody env request resume)

theorem Course.Passes.mono {G' : Request → Prop} {course : Course U} (h : course.Passes G)
    (hG : ∀ request, G request → G' request) : course.Passes G' := by
  induction h with
  | finish env result => exact .finish env result
  | next hrequest _ ih => exact .next (hG _ hrequest) ih
  | readBody hrequest _ ih => exact .readBody (hG _ hrequest) ih

/-- A kind of requests that is left neither by the parameters of a path nor by the engine functions that are
given one, and whose bodies read alike. -/
structure Kept (b : Behaviour U) (P : App → Inbox → Inbox → Prop) (G : Request → Prop) : Prop where
  params : ∀ {request} params, G request → G { request with pathParams := params }
  around : ∀ {request} fn env, G request → (b.around fn request env).Passes G
  endpoint : ∀ {request} fn env, G request → (b.endpoint fn request env).Passes G
  reads : ∀ {request}, G request → ReadsAlike P request

/-- Passing requests of a kind on comes to the same. -/
def NextAlike (P : App → Inbox → Inbox → Prop) (G : Request → Prop) (next next' : Next U) : Prop :=
  ∀ request, G request → Alike (World.Like P) Eq (next request) (next' request)

/-! ## Serving by parts -/

/-- Passes a request to the endpoint of its route in a router. -/
def dispatchBy (b : Behaviour U) (router : Router Registered) : Next U := fun request => do
  if router.isTooDeepFor request.method request.path then Act.refuse .tooDeep
  match router.match? request.method request.path with
  | .error miss => Act.fail (.http miss.httpError)
  | .ok found =>
    let request := { request with pathParams := found.params }
    match found.route.endpoint.endpoint with
    | .wrapped w => w.serve b request
    | .custom fn => callEngine (b.callEndpoint fn) nothingNext request

/-- What a request is answered with when the middleware of an application is put around what follows. -/
def answerBy (b : Behaviour U) (app : App) (last : Next U) (request : Request) : Act U Value := do
  match ← Act.attempt (serveThrough b app.middleware last request) with
  | .ok v => return v
  | .error f => do
    let r ← answerFailure app.config.debug.truthy f request
    return .response r

/-- Sends what a request is answered with, and runs every hook of an application. -/
def serveBy (b : Behaviour U) (app : App) (last : Next U) (request : Request) : Act U WireResponse := do
  let started ← get
  let request := { request with maxBodySize := app.config.bodyLimit }
  let answer ← answerBy b app last request
  let sent ← transmit app.config.debug.truthy request answer
  let after ← get
  let elapsed := (after.env.clock - started.env.clock) * 1000.0
  for hook in app.responseHooks do
    runHook b request sent.answer elapsed hook
  return sent.messages

theorem outcome_dispatch_eq (b : Behaviour U) (request : Request) (w : World U) :
    outcome (dispatch b request) w = outcome (dispatchBy b w.app.router request) w := rfl

namespace Act

variable {b : Behaviour U} {next next' : Next U} {request : Request}

/-! ## Engine functions -/

theorem alike_setEnv (env : Env U) :
    Alike (World.Like P) Eq (setEnv env : Act U Unit) (setEnv env) := by
  refine alike_modify ?_
  rintro w _ ⟨inbox, rfl, hP⟩
  exact ⟨inbox, rfl, hP⟩

theorem alike_runCourse (hnext : NextAlike P G next next') (hread : ∀ request, G request → ReadsAlike P request)
    {course : Course U} (h : course.Passes G) :
    Alike (World.Like P) Eq (runCourse next course) (runCourse next' course) := by
  induction h with
  | finish env result => exact (alike_setEnv env).bind_eq fun _ => alike_ofAttempt result
  | next hrequest _ ih =>
    refine (alike_setEnv _).bind_eq fun _ => ?_
    refine (alike_attempt (hnext _ hrequest)).bind_eq fun r => ?_
    refine alike_get.bind ?_
    rintro w _ ⟨inbox, rfl, -⟩
    exact ih w.env r
  | readBody hrequest _ ih =>
    refine (alike_setEnv _).bind_eq fun _ => ?_
    refine (alike_receiveBody (hread _ hrequest)).bind_eq fun r => ?_
    refine alike_get.bind ?_
    rintro w _ ⟨inbox, rfl, -⟩
    exact ih w.env r

theorem alike_callEngine (hnext : NextAlike P G next next')
    (hread : ∀ request, G request → ReadsAlike P request) {course : Request → Env U → Course U}
    (hcourse : ∀ env, (course request env).Passes G) :
    Alike (World.Like P) Eq (callEngine course next request) (callEngine course next' request) := by
  refine alike_get.bind ?_
  rintro w _ ⟨inbox, rfl, -⟩
  exact alike_runCourse hnext hread (hcourse w.env)

theorem passes_callAround (hG : Kept b P G) (hrequest : G request) (fn : Value) (env : Env U) :
    (b.callAround fn request env).Passes G := by
  cases fn with
  | func fn => exact hG.around fn env hrequest
  | _ => exact .finish _ _

theorem passes_callEndpoint (hG : Kept b P G) (hrequest : G request) (fn : Value) (env : Env U) :
    (b.callEndpoint fn request env).Passes G := by
  cases fn with
  | func fn => exact hG.endpoint fn env hrequest
  | _ => exact .finish _ _

/-! ## Middleware -/

theorem alike_askForHeaders (headers : List (String × String)) (v : Value) :
    Alike (World.Like P) Eq (askForHeaders b headers v) (askForHeaders b headers v) := by
  unfold askForHeaders
  induction headers generalizing v with
  | nil => exact alike_pure rfl
  | cons header headers ih =>
    rw [List.foldlM_cons]
    refine Alike.bind_eq ?_ fun v' => ih v'
    exact (alike_ofAttempt _).bind_eq fun fn => alike_callInPlace b fn _ _

theorem alike_corsServe (hnext : NextAlike P G next next') (hrequest : G request) (spec : CorsSpec Value)
    (maxAge : Value) :
    Alike (World.Like P) Eq (corsServe b spec maxAge next request)
      (corsServe b spec maxAge next' request) := by
  unfold corsServe
  cases request.headers.get? "origin" with
  | none => exact hnext request hrequest
  | some origin =>
    refine (alike_ofAttempt _).bind_eq fun allowed => ?_
    cases allowed with
    | none => exact hnext request hrequest
    | some allowed =>
      dsimp only
      split
      · exact (alike_ofAttempt _).bind_eq fun r => alike_pure rfl
      · refine (hnext request hrequest).bind_eq fun v => ?_
        cases v with
        | response r => exact alike_pure rfl
        | _ => exact alike_askForHeaders _ _

/-- **Middleware** around what is alike is alike. -/
theorem alike_serveThrough (hG : Kept b P G) (hnext : NextAlike P G next next')
    (chain : List EngineMiddleware) : NextAlike P G (serveThrough b chain next) (serveThrough b chain next') := by
  induction chain with
  | nil => exact hnext
  | cons m chain ih =>
    intro request hrequest
    cases m with
    | cors spec maxAge => exact alike_corsServe ih hrequest spec maxAge
    | custom fn =>
      exact alike_callEngine ih (fun _ h => hG.reads h) fun env => passes_callAround hG hrequest fn env

/-! ## Dispatch -/

/-- What a request comes to at the endpoint that it was routed to. -/
theorem alike_endpoint (hG : Kept b P G) (hrequest : G request) (endpoint : Endpoint) :
    Alike (World.Like P) Eq
      (match endpoint with
        | .wrapped h => h.serve b request
        | .custom fn => callEngine (b.callEndpoint fn) nothingNext request)
      (match endpoint with
        | .wrapped h => h.serve b request
        | .custom fn => callEngine (b.callEndpoint fn) nothingNext request) := by
  cases endpoint with
  | wrapped h => exact alike_serve b (hG.reads hrequest) h
  | custom fn =>
    exact alike_callEngine (fun _ _ => alike_refuse _) (fun _ h => hG.reads h) fun env =>
      passes_callEndpoint hG hrequest fn env

theorem alike_dispatchBy (hG : Kept b P G) (router : Router Registered) :
    NextAlike P G (dispatchBy b router) (dispatchBy b router) := by
  intro request hrequest
  unfold dispatchBy
  dsimp only
  split
  · exact (alike_refuse (S := fun _ _ => False) _).bind fun _ _ h => h.elim
  · cases router.match? request.method request.path with
    | error miss => exact alike_fail _
    | ok found => exact alike_endpoint hG (hG.params found.params hrequest) _

theorem alike_dispatch (hG : Kept b P G) : NextAlike P G (dispatch b) (dispatch b) := by
  intro request hrequest
  refine alike_get.bind ?_
  rintro w _ ⟨inbox, rfl, -⟩
  exact alike_dispatchBy hG w.app.router request hrequest

/-! ## Sending -/

theorem alike_answerInternalError (debug : Bool) (f : Fault) (request : Request) :
    Alike (World.Like P) Eq (answerInternalError debug f request : Act U (Response Value))
      (answerInternalError debug f request) := by
  refine (alike_log _ _ _).bind_eq fun _ => ?_
  cases debug with
  | true => exact alike_ofAttempt _
  | false => exact alike_pure rfl

theorem alike_answerFailure (debug : Bool) (f : Fault) (request : Request) :
    Alike (World.Like P) Eq (answerFailure debug f request : Act U (Response Value))
      (answerFailure debug f request) := by
  cases f with
  | http e => exact (alike_changeLog _).bind_eq fun _ => alike_ofAttempt _
  | _ => exact alike_answerInternalError _ _ _

theorem alike_transmit (debug : Bool) (request : Request) (answer : Value) :
    Alike (World.Like P) Eq (transmit debug request answer : Act U Sent)
      (transmit debug request answer) := by
  unfold transmit
  dsimp only
  cases encodeAnswer answer (request.method == "HEAD") with
  | ok messages => exact alike_pure rfl
  | error f =>
    dsimp only
    split
    · refine (alike_answerInternalError debug f request).bind_eq fun r => ?_
      exact (alike_ofAttempt _).bind_eq fun messages => alike_pure rfl
    · exact alike_fail f

theorem alike_runHook (request : Request) (response : Value) (elapsed : Float) (hook : Hook) :
    Alike (World.Like P) Eq (runHook b request response elapsed hook)
      (runHook b request response elapsed hook) := by
  refine (alike_withEnv _).bind_eq fun r => ?_
  cases r with
  | ok _ => exact alike_pure rfl
  | error f => exact alike_logText _ _ _

/-! ## Requests -/

theorem alike_answerBy (hG : Kept b P G) (hnext : NextAlike P G next next') (hrequest : G request) (app : App) :
    Alike (World.Like P) Eq (answerBy b app next request) (answerBy b app next' request) := by
  refine (alike_attempt (alike_serveThrough hG hnext _ request hrequest)).bind_eq fun r => ?_
  cases r with
  | ok v => exact alike_pure rfl
  | error f => exact (alike_answerFailure _ f request).bind_eq fun r => alike_pure rfl

/-- **A request from its arrival to its last hook** is served alike when it is answered alike. -/
theorem alike_serveBy (hG : Kept b P G) (hnext : NextAlike P G next next') (app : App)
    (hrequest : G { request with maxBodySize := app.config.bodyLimit }) :
    Alike (World.Like P) Eq (serveBy b app next request) (serveBy b app next' request) := by
  refine alike_get.bind ?_
  rintro started _ ⟨inbox, rfl, -⟩
  refine (alike_answerBy hG hnext hrequest app).bind_eq fun answer => ?_
  refine (alike_transmit _ _ _).bind_eq fun sent => ?_
  refine alike_get.bind ?_
  rintro after _ ⟨inbox, rfl, -⟩
  refine (alike_forIn (fun hook _ => ?_) _ _).bind_eq fun _ => alike_pure rfl
  exact (alike_runHook _ _ _ hook).bind_eq fun _ => alike_pure rfl

end Act

/-- Serving a request ends the registrations, and goes on from there with what is to be received. -/
theorem outcome_serveRequest_eq (b : Behaviour U) (request : Request) (inbox : Inbox) (w : World U) :
    outcome (serveRequest b request inbox) w =
      outcome (serveBy b w.app.freeze (dispatch b) request)
        { w with app := w.app.freeze, inbox := inbox } := rfl

end ServerTree
