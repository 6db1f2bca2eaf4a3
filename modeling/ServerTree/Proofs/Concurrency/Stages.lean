import ServerTree.Proofs.Concurrency.Thread
import ServerTree.Proofs.Pipeline.Sights
import ServerTree.Proofs.Serving.Delivery

/-!
# Requests as threads

What serves a request is split where it waits: before a call of application code and after it, around what is
passed on to, and where messages are sent. A request that is served without others comes to what it comes to
in one piece.

## Main definitions
- `Thread.runMiddleware`, `Thread.runChain`, `Thread.runHandler`, `Thread.serve`: the stages of a route
- `Thread.answerRequest`: the middleware of the engine and the router
- `Thread.serveRequest`: one request from its arrival to its last hook

## Main statements
- `Thread.alone_serveRequest`: serving a request alone is serving it
-/

namespace ServerTree

variable {U : Type}

/-- What application code can reach after a stretch of a course. -/
def Course.env : Course U → Env U
  | .finish env _ | .next env _ _ | .readBody env _ _ => env

namespace Thread

variable (b : Behaviour U)

/-! ## The stages of a route -/

/-- Whether there is a time limit. -/
def limits : Value → Bool
  | .none => false
  | _ => true

/-- Calls a middleware on its view of a visit; what cannot be called fails before it is called. -/
def callMiddleware (timeout : Value) (m : ScopedMiddleware Value) (view : Argument) (cell : Nat) :
    Thread U Settled :=
  if m.fn.isCallable then
    match checkTimeout timeout with
    | .ok () => call cell m.fn view (limits timeout)
    | .error f => return .raised f
  else return .raised (.refused (.wrongType "the first argument must be callable"))

/-- What becomes of a request after the call of a middleware. A call that was given up keeps the reply, which
is not read again. -/
def conclude (timeout : Value) (m : ScopedMiddleware Value) (fields : Fields) (cell : Nat) :
    Settled → Thread U Progress
  | .suspended rest => act (Act.conclude b timeout m ⟨fields, {}⟩ (.suspended rest))
  | ended => do
    let reply ← readReply cell
    act (Act.conclude b timeout m ⟨fields, reply⟩ ended)

/-- Runs one middleware. -/
def runMiddleware (timeout : Value) (m : ScopedMiddleware Value) (fields : Fields) (cell : Nat) :
    Thread U Progress := do
  let view ← act (viewOf b m ⟨fields, {}⟩)
  let ended ← callMiddleware timeout m view cell
  conclude b timeout m fields cell ended

/-- Runs middleware in order, up to the first that answers. -/
def runChain (timeout : Value) : List (ScopedMiddleware Value) → Fields → Nat → Thread U Progress
  | [], fields, cell => do
    let reply ← readReply cell
    return .proceed ⟨fields, reply⟩
  | m :: ms, fields, cell => do
    match ← runMiddleware b timeout m fields cell with
    | .proceed v => runChain timeout ms v.fields cell
    | .answered r => return .answered r

/-- Runs the handler and renders its result. -/
def runHandler (h : WrappedHandler) (fields : Fields) (cell : Nat) : Thread U (Response Value) := do
  let ended ← call cell h.handler (.context fields) false
  let reply ← readReply cell
  act (Act.concludeHandler b h reply ended)

/-- Serves a request that was routed to a handler of the tree. What is received of its body is its own: it
makes no difference what happens meanwhile. -/
def serve (h : WrappedHandler) (request : Request) : Thread U Value := do
  match ← act (checkLimit h request) with
  | some seconds => return .response (deniedResponse seconds)
  | none => do
    let body ← act (receiveValue request)
    let world ← act get
    let cell ← openReply
    match ← runChain b h.timeout h.config.middleware
        (coreFields h request body world.env.log.effective) cell with
    | .answered r => return r
    | .proceed v => return .response (← runHandler b h v.fields cell)

/-! ## The engine -/

/-- A stretch of a course, and what follows it. -/
def stretch (course : Env U → Course U) (rest : Env U → Thread U Value) : Thread U Value :=
  .turn (fun w => { w with env := (course w.env).env }) fun w => rest w.env

/-- Runs an engine function to its end, from a stretch after which it waits. -/
def runCourse (next : Request → Thread U Value) : Course U → Thread U Value
  | .finish _ result => act (Act.ofAttempt result)
  | .next _ request resume => do
    let r ← (next request).attempt
    stretch (fun env => resume env r) fun env => runCourse next (resume env r)
  | .readBody _ request resume => do
    let r ← act (receiveBody request)
    stretch (fun env => resume env r) fun env => runCourse next (resume env r)

/-- Calls an engine function with a request. -/
def callEngine (course : Request → Env U → Course U) (next : Request → Thread U Value) (request : Request) :
    Thread U Value :=
  stretch (course request) fun env => runCourse next (course request env)

/-- Answers preflight requests from allowed origins, and adds the headers that let an allowed origin
read the response. -/
def corsServe (spec : CorsSpec Value) (maxAge : Value) (next : Request → Thread U Value) (request : Request) :
    Thread U Value := do
  match request.headers.get? "origin" with
  | none => next request
  | some origin =>
    match ← act (Act.ofAttempt (spec.allowedOrigin origin)) with
    | none => next request
    | some allowed =>
      if isPreflight request then do
        let r ← act (Act.ofAttempt (preflightResponse spec maxAge request allowed))
        return .response r
      else
        match ← next request with
        | .response r => return .response (addCorsHeaders r allowed)
        | v => act (askForHeaders b (corsHeaders allowed) v)

/-- Runs one engine middleware around the next. -/
def around (m : EngineMiddleware) (next : Request → Thread U Value) : Request → Thread U Value :=
  match m with
  | .cors spec maxAge => corsServe b spec maxAge next
  | .custom fn => callEngine (b.callAround fn) next

/-- Passes a request to the endpoint of its route, with the parameters of the path. -/
def dispatch (request : Request) : Thread U Value := do
  let world ← act get
  if world.app.router.isTooDeepFor request.method request.path then act (Act.refuse .tooDeep)
  else
    match world.app.router.match? request.method request.path with
    | .error miss => act (Act.fail (.http miss.httpError))
    | .ok found =>
      let request := { request with pathParams := found.params }
      match found.route.endpoint.endpoint with
      | .wrapped h => serve b h request
      | .custom fn => callEngine (b.callEndpoint fn) (fun request => act (nothingNext request)) request

/-- What a request is answered with. -/
def answerRequest (request : Request) : Thread U Value := do
  let world ← act get
  match ← (world.app.middleware.foldr (around b) (dispatch b) request).attempt with
  | .ok v => return v
  | .error f => do
    let r ← act (answerFailure world.app.config.debug.truthy f request)
    return .response r

/-- Sends messages, and then calls every hook. -/
def deliver (started : World U) (request : Request) (sent : Sent) : Thread U WireResponse := do
  send sent.messages
  let after ← act get
  let elapsed := (after.env.clock - started.env.clock) * 1000.0
  for hook in started.app.responseHooks do
    act (runHook b request sent.answer elapsed hook)
  return sent.messages

/-- Serves a request of HTTP. -/
def serveRequest (request : Request) : Thread U WireResponse := do
  act Act.freeze
  let started ← act get
  let request := { request with maxBodySize := started.app.config.bodyLimit }
  let answer ← answerRequest b request
  let sent ← act (transmit started.app.config.debug.truthy request answer)
  deliver b started request sent

/-! ## Alone -/

variable {b} {goOn : Continuation U} {replies : List Reply} {reply : Reply} {w : World U}

theorem getD_concat : (replies ++ [reply]).getD replies.length {} = reply := by simp

theorem set_concat (left : Reply) : (replies ++ [reply]).set replies.length left = replies ++ [left] := by simp

theorem alone_readReply :
    (readReply replies.length).alone b goOn (replies ++ [reply]) w =
      { result := .ok reply, replies := replies ++ [reply], world := w } := by
  simp only [readReply, alone, getD_concat]

/-- A middleware that is waited for without end stops its request. -/
theorem outcome_conclude_of_waits {timeout : Value} {m : ScopedMiddleware Value} {v : Visit} {ended : Settled}
    (h : ended.waits (limits timeout) = true) :
    outcome (Act.conclude b timeout m v ended) w = (.error .unsettled, w) := by
  cases ended with
  | suspended rest => cases timeout <;> first | rfl | cases h
  | _ => cases h

/-- What is concluded from a call leaves the reply alone. -/
theorem reply_of_returns_conclude {timeout : Value} {m : ScopedMiddleware Value} {v v' : Visit} {ended : Settled}
    {w' : World U} (h : Act.Returns (Act.conclude b timeout m v ended) w (.proceed v') w') :
    v'.reply = v.reply := by
  obtain ⟨_, _, rfl, -, -⟩ := Act.returned_of_returns_conclude h
  obtain ⟨_, _, -, happly⟩ := Act.returns_bind.mp h
  rcases Act.visit_of_returns_applySignal happly with ⟨-, rfl⟩ | ⟨_, -, rfl⟩ <;> rfl

variable (b goOn replies reply w)

/-- A call alone ends as it does, unless it is waited for without end. -/
theorem alone_call (fn : Value) (argument : Argument) (limited : Bool) :
    ∃ ended left w', outcome (callStage b fn argument reply) w = (.ok (ended, left), w') ∧
      (call replies.length fn argument limited).alone b goOn (replies ++ [reply]) w =
        { result := if ended.waits limited then .error .unsettled else .ok ended
          replies := replies ++ [left], world := w' } := by
  refine ⟨_, _, _, rfl, ?_⟩
  simp only [call, alone, Work.run, getD_concat, set_concat]
  split
  · rfl
  · rfl

/-- Calling a middleware alone is calling it, unless it is waited for without end. -/
theorem alone_callMiddleware (timeout : Value) (m : ScopedMiddleware Value) (view : Argument) :
    ∃ ended left w', outcome (ServerTree.callMiddleware b timeout m view reply) w = (.ok (ended, left), w') ∧
      (callMiddleware timeout m view replies.length).alone b goOn (replies ++ [reply]) w =
        { result := if ended.waits (limits timeout) then .error .unsettled else .ok ended
          replies := replies ++ [left], world := w' } := by
  unfold ServerTree.callMiddleware callMiddleware callWithin
  split
  · cases checkTimeout timeout with
    | ok _ => exact alone_call b goOn replies reply w m.fn view (limits timeout)
    | error f => exact ⟨_, _, _, rfl, rfl⟩
  · exact ⟨_, _, _, rfl, rfl⟩

/-- What becomes of a request alone after the call of a middleware. -/
theorem alone_conclude (timeout : Value) (m : ScopedMiddleware Value) (fields : Fields) (ended : Settled) :
    (conclude b timeout m fields replies.length ended).alone b goOn (replies ++ [reply]) w =
      { result := (outcome (Act.conclude b timeout m ⟨fields, reply⟩ ended) w).1, replies := replies ++ [reply]
        world := (outcome (Act.conclude b timeout m ⟨fields, reply⟩ ended) w).2 } := by
  cases ended with
  | suspended rest => rfl
  | _ =>
    rw [conclude, alone_bind, alone_readReply]
    · rfl
    · simp

/-- Running a middleware alone is running it, and what it leaves of the reply lies where the reply was. -/
theorem alone_runMiddleware (timeout : Value) (m : ScopedMiddleware Value) (fields : Fields) :
    let ended := outcome (ServerTree.runMiddleware b timeout m ⟨fields, reply⟩) w
    ∃ left, (runMiddleware b timeout m fields replies.length).alone b goOn (replies ++ [reply]) w =
        { result := ended.1, replies := replies ++ [left], world := ended.2 } ∧
      ∀ v, ended.1 = .ok (.proceed v) → v.reply = left := by
  have hview : viewOf b m ⟨fields, reply⟩ = viewOf b m ⟨fields, {}⟩ := rfl
  rw [Act.runMiddleware_eq, outcome_bind, hview, runMiddleware, alone_bind, alone_act]
  rcases outcome (viewOf b m ⟨fields, {}⟩) w with ⟨stop | view, w₁⟩
  · exact ⟨reply, rfl, fun v hv => by cases hv⟩
  · obtain ⟨ended, left, w₂, hcall, hthread⟩ := alone_callMiddleware b goOn replies reply w₁ timeout m view
    have hrest : outcome (ServerTree.callMiddleware b timeout m view reply >>= fun r =>
        Act.conclude b timeout m ⟨fields, r.2⟩ r.1) w₁ =
        outcome (Act.conclude b timeout m ⟨fields, left⟩ ended) w₂ := by
      rw [outcome_bind, hcall]
    simp only [hrest]
    refine ⟨left, ?_, fun v hv => reply_of_returns_conclude (Prod.ext hv rfl)⟩
    rw [Ending.bind_ok, alone_bind, hthread]
    split
    · rw [Ending.bind_error, outcome_conclude_of_waits ‹_›]
    · rw [Ending.bind_ok, alone_conclude]

/-- Running a chain alone is running it. -/
theorem alone_runChain (timeout : Value) (ms : List (ScopedMiddleware Value)) (fields : Fields) :
    let ended := outcome (ServerTree.runChain b timeout ms ⟨fields, reply⟩) w
    ∃ left, (runChain b timeout ms fields replies.length).alone b goOn (replies ++ [reply]) w =
        { result := ended.1, replies := replies ++ [left], world := ended.2 } ∧
      ∀ v, ended.1 = .ok (.proceed v) → v.reply = left := by
  induction ms generalizing fields reply w with
  | nil =>
    rw [runChain, alone_bind, alone_readReply]
    refine ⟨reply, rfl, fun v hv => ?_⟩
    cases hv
    rfl
  | cons m ms ih =>
    obtain ⟨left, hrun, hleft⟩ := alone_runMiddleware b goOn replies reply w timeout m fields
    rw [runChain, alone_bind, hrun, ServerTree.runChain, outcome_bind]
    rcases hended : outcome (ServerTree.runMiddleware b timeout m ⟨fields, reply⟩) w with
      ⟨stop | ⟨v | answer⟩, w₁⟩
    · exact ⟨left, rfl, fun v hv => by cases hv⟩
    · obtain rfl := hleft v (by rw [hended])
      exact ih v.reply w₁ v.fields
    · exact ⟨left, rfl, fun v hv => by cases hv⟩

/-- Running a handler alone is running it. -/
theorem alone_runHandler (h : WrappedHandler) (fields : Fields) :
    let ended := outcome (ServerTree.runHandler b h ⟨fields, reply⟩) w
    ∃ left, (runHandler b h fields replies.length).alone b goOn (replies ++ [reply]) w =
      { result := ended.1, replies := replies ++ [left], world := ended.2 } := by
  obtain ⟨ended, left, w', hcall, hthread⟩ := alone_call b goOn replies reply w h.handler (.context fields) false
  refine ⟨left, ?_⟩
  rw [Act.runHandler_eq, outcome_bind, hcall, runHandler, alone_bind, hthread]
  cases ended with
  | suspended rest => rfl
  | _ =>
    rw [if_neg (by simp [Settled.waits]), Ending.bind_ok, alone_bind, alone_readReply]
    rfl

variable {b goOn}

/-- Serving a route alone is serving it. -/
theorem runs_serve (h : WrappedHandler) (request : Request) :
    Runs b goOn (serve b h request) (h.serve b request) := by
  refine (runs_act _).bind fun denied => ?_
  cases denied with
  | some seconds => exact runs_pure _
  | none =>
    refine (runs_act _).bind fun body => (runs_act _).bind fun world => ?_
    intro replies w
    obtain ⟨left, hchain, hleft⟩ := alone_runChain b goOn replies {} w h.timeout h.config.middleware
      (coreFields h request body world.env.log.effective)
    have hopen : openReply.alone b goOn replies w =
        { result := .ok replies.length, replies := replies ++ [{}], world := w } := rfl
    rw [alone_bind, hopen, Ending.bind_ok, alone_bind, hchain, outcome_bind]
    rcases hended : outcome (ServerTree.runChain b h.timeout h.config.middleware
      ⟨coreFields h request body world.env.log.effective, {}⟩) w with ⟨stop | ⟨v | answer⟩, w₁⟩
    · exact ⟨[left], rfl⟩
    · obtain rfl := hleft v (by rw [hended])
      obtain ⟨left, hhandler⟩ := alone_runHandler b goOn replies v.reply w₁ h v.fields
      refine ⟨[left], ?_⟩
      rw [Ending.bind_ok]
      simp only [alone_bind, hhandler, outcome_bind]
      rcases outcome (ServerTree.runHandler b h v) w₁ with ⟨stop | answer, w₂⟩ <;> rfl
    · exact ⟨[left], rfl⟩

/-! ## The engine alone -/

/-- Running an engine function alone is running it, from a stretch that has reached its state. -/
theorem alone_runCourse {next : Request → Thread U Value} {next' : Next U}
    (hnext : ∀ request, Runs b goOn (next request) (next' request)) (course : Course U)
    (replies : List Reply) (w : World U) :
    ∃ made, (runCourse next course).alone b goOn replies { w with env := course.env } =
      { result := (outcome (ServerTree.runCourse next' course) w).1, replies := replies ++ made
        world := (outcome (ServerTree.runCourse next' course) w).2 } := by
  induction course generalizing replies w with
  | finish env result => exact runs_act (Act.ofAttempt result) replies { w with env := env }
  | next env request resume ih =>
    have hrest := (hnext request).attempt.bind (f := fun r => stretch (fun env => resume env r) fun env =>
      runCourse next (resume env r)) fun r replies w => ih w.env r replies w
    exact hrest replies { w with env := env }
  | readBody env request resume ih =>
    have hrest := (runs_act (receiveBody request)).bind (f := fun r => stretch (fun env => resume env r) fun env =>
      runCourse next (resume env r)) fun r replies w => ih w.env r replies w
    exact hrest replies { w with env := env }

/-- Calling an engine function alone is calling it. -/
theorem runs_callEngine {next : Request → Thread U Value} {next' : Next U}
    (hnext : ∀ request, Runs b goOn (next request) (next' request))
    (course : Request → Env U → Course U) (request : Request) :
    Runs b goOn (callEngine course next request) (ServerTree.callEngine course next' request) := by
  intro replies w
  exact alone_runCourse hnext (course request w.env) replies w

/-- The cross-origin middleware alone does what it does. -/
theorem runs_corsServe {next : Request → Thread U Value} {next' : Next U}
    (hnext : ∀ request, Runs b goOn (next request) (next' request))
    (spec : CorsSpec Value) (maxAge : Value) (request : Request) :
    Runs b goOn (corsServe b spec maxAge next request) (ServerTree.corsServe b spec maxAge next' request) := by
  unfold corsServe ServerTree.corsServe
  cases request.headers.get? "origin" with
  | none => exact hnext request
  | some origin =>
    refine (runs_act _).bind fun allowed => ?_
    cases allowed with
    | none => exact hnext request
    | some allowed =>
      simp only
      split
      · exact (runs_act _).bind fun r => runs_pure _
      · refine (hnext request).bind fun v => ?_
        cases v with
        | response r => exact runs_pure _
        | _ => exact runs_act _

/-- Engine middleware alone does what it does. -/
theorem runs_around {next : Request → Thread U Value} {next' : Next U}
    (hnext : ∀ request, Runs b goOn (next request) (next' request)) (m : EngineMiddleware) (request : Request) :
    Runs b goOn (around b m next request) (m.serve b next' request) := by
  cases m with
  | cors spec maxAge => exact runs_corsServe hnext spec maxAge request
  | custom fn => exact runs_callEngine hnext _ request

/-- The router alone does what it does. -/
theorem runs_dispatch (request : Request) :
    Runs b goOn (dispatch b request) (ServerTree.dispatch b request) := by
  refine (runs_act get).bind fun world => ?_
  by_cases hdeep : world.app.router.isTooDeepFor request.method request.path = true
  · simp only [hdeep, if_true]
    exact runs_act _
  · simp only [hdeep, Bool.false_eq_true, if_false]
    cases world.app.router.match? request.method request.path with
    | error miss => exact runs_act _
    | ok found =>
      simp only
      cases found.route.endpoint.endpoint with
      | wrapped h => exact runs_serve h _
      | custom fn => exact runs_callEngine (fun request => runs_act _) _ _

variable (b goOn) in
/-- Answering a request alone is answering it. -/
theorem runs_answerRequest (request : Request) :
    Runs b goOn (answerRequest b request) (ServerTree.answerRequest b request) := by
  refine (runs_act get).bind fun world => ?_
  have hchain : ∀ request, Runs b goOn (world.app.middleware.foldr (around b) (dispatch b) request)
      (serveThrough b world.app.middleware (ServerTree.dispatch b) request) := by
    unfold serveThrough
    induction world.app.middleware with
    | nil => exact runs_dispatch
    | cons m ms ih => exact runs_around ih m
  refine (hchain request).attempt.bind fun r => ?_
  cases r with
  | ok v => exact runs_pure _
  | error f => exact (runs_act _).bind fun r => runs_pure _

/-- A loop alone runs when its rounds do. -/
theorem runs_forIn {α : Type} {f : α → PUnit → Thread U (ForInStep PUnit)} {g : α → PUnit → Act U (ForInStep PUnit)}
    (h : ∀ a u, Runs b goOn (f a u) (g a u)) (as : List α) (u : PUnit) :
    Runs b goOn (forIn as u f) (forIn as u g) := by
  induction as with
  | nil => exact runs_pure _
  | cons a as ih =>
    rw [List.forIn_cons, List.forIn_cons]
    refine (h a u).bind fun step => ?_
    cases step with
    | done u => exact runs_pure _
    | yield u => exact ih

variable (b goOn)

/-- What is delivered alone is sent once, and then the hooks are called. -/
theorem alone_deliver (started : World U) (request : Request) (sent : Sent) (replies : List Reply) (w : World U) :
    ∃ made, (deliver b started request sent).alone b goOn replies w =
      { result := .ok sent.messages, replies := replies ++ made
        world := hooksRun b request sent.answer ((w.env.clock - started.env.clock) * 1000.0)
          started.app.responseHooks w
        sent := [sent.messages] } := by
  let elapsed := (w.env.clock - started.env.clock) * 1000.0
  let hooks : Thread U PUnit := forIn started.app.responseHooks PUnit.unit fun hook _ => do
    act (runHook b request sent.answer elapsed hook)
    return ForInStep.yield PUnit.unit
  have hhooks : Runs b goOn hooks (forIn started.app.responseHooks PUnit.unit fun hook _ => do
      runHook b request sent.answer elapsed hook
      return ForInStep.yield PUnit.unit : Act U PUnit) :=
    runs_forIn (fun hook _ => (runs_act _).bind fun _ => runs_pure _) _ _
  obtain ⟨made, hrun⟩ := hhooks replies w
  rw [outcome_runHooks] at hrun
  have hdeliver : (deliver b started request sent).alone b goOn replies w =
      let rest := (do hooks; return sent.messages : Thread U WireResponse).alone b goOn replies w
      { rest with sent := sent.messages :: rest.sent } := rfl
  exact ⟨made, by rw [hdeliver, alone_bind, hrun]; rfl⟩

/-- **Serving a request alone is serving it.** It sends the messages that it returns, and nothing else. -/
theorem alone_serveRequest (request : Request) (inbox : Inbox) (replies : List Reply) (w : World U) :
    let ended := outcome (ServerTree.serveRequest b request inbox) w
    ∃ made, (serveRequest b request).alone b goOn replies { w with inbox := inbox } =
      { result := ended.1, replies := replies ++ made, world := ended.2, sent := ended.1.toOption.toList } := by
  let opened : World U := { w with app := w.app.freeze, inbox := inbox }
  let arrived := { request with maxBodySize := opened.app.config.bodyLimit }
  -- the application is frozen and the request has its inbox before anything else
  have hserve : outcome (ServerTree.serveRequest b request inbox) w = outcome (do
      let answer ← ServerTree.answerRequest b arrived
      let sent ← transmit opened.app.config.debug.truthy arrived answer
      let after ← get
      for hook in opened.app.responseHooks do
        runHook b arrived sent.answer ((after.env.clock - opened.env.clock) * 1000.0) hook
      return sent.messages : Act U WireResponse) opened := rfl
  have hthread : (serveRequest b request).alone b goOn replies { w with inbox := inbox } =
      (do
        let answer ← answerRequest b arrived
        let sent ← act (transmit opened.app.config.debug.truthy arrived answer)
        deliver b opened arrived sent : Thread U WireResponse).alone b goOn replies opened := rfl
  obtain ⟨made, hanswer⟩ := runs_answerRequest b goOn arrived replies opened
  rw [hserve, hthread, outcome_bind, alone_bind, hanswer]
  rcases outcome (ServerTree.answerRequest b arrived) opened with ⟨stop | answer, w₁⟩
  · exact ⟨made, rfl⟩
  simp only [Ending.bind_ok, alone_bind, alone_act, outcome_bind]
  rcases outcome (transmit opened.app.config.debug.truthy arrived answer) w₁ with ⟨stop | sent, w₂⟩
  · exact ⟨made, rfl⟩
  obtain ⟨more, hdeliver⟩ := alone_deliver b goOn opened arrived sent (replies ++ made) w₂
  have hget : outcome (get : Act U (World U)) w₂ = (.ok w₂, w₂) := rfl
  refine ⟨made ++ more, ?_⟩
  rw [Ending.bind_ok, hdeliver]
  simp only [hget, outcome_runHooks, outcome_pure, List.append_assoc]
  rfl

end Thread

end ServerTree
