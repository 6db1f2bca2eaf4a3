import ServerTree.App.Client
import ServerTree.Proofs.RateLimit.Serving
import ServerTree.Proofs.Serving.Likeness

/-!
# Freezing

An application is frozen by the first that enters it: a connection of any kind, the announcements of a server,
or a client. From then on every registration is refused and changes nothing, wherever it is tried. Code of the
application that has it at hand, such as a hook of the startup, may still try; it then only gets to know that it
was refused, and is a function like any other.

## Main definitions
- `AppRegistration`: what can be registered
- `AppCourse`: what a function does that has the application at hand
- `Operation`, `runAll`: what is done to an application, in any order
- `Operation.Enters`: the operations that freeze
- `App.HoldsWhat`: an application holds what was registered in another one

## Main statements
- `AppRegistration.run_frozen`, `Operation.run_frozen`: what an operation does to a frozen application
- `Operation.run_enters`: what an entry does to any application
- `freezing_is_final`: what holds behind the first entry
-/

namespace ServerTree

variable {U : Type}

/-! ## Registrations -/

/-- What can be registered. -/
inductive AppRegistration where
  | route (method path : Value) (endpoint : Endpoint) (schema name : Value)
  | middleware (m : EngineMiddleware)
  | cors (spec : CorsSpec Value)
  | onResponse (hook : Hook)
  | onStartup (hook : Value)
  | onShutdown (hook : Value)

/-- Registers. -/
def AppRegistration.run : AppRegistration → Act U Unit
  | .route method path endpoint schema name => Act.addRouteOf method path endpoint schema name
  | .middleware m => Act.register fun app => app.addMiddleware m
  | .cors spec => Act.register fun app => app.enableCors spec
  | .onResponse hook => Act.register fun app => app.onResponse hook
  | .onStartup hook => Act.register fun app => app.onStartup hook
  | .onShutdown hook => Act.register fun app => app.onShutdown hook

theorem Act.outcome_register_of_error {f : App → Except Refusal App} {w : World U} {r : Refusal}
    (h : f w.app = .error r) :
    outcome (Act.register f : Act U Unit) w = (.error (.failed (.refused r)), w) := by
  rw [Act.register, Act.outcome_get_bind, h]
  rfl

/-- **A frozen application** refuses every registration, and is as it was. -/
theorem AppRegistration.run_frozen {w : World U} (h : w.app.frozen = true) (r : AppRegistration) :
    outcome (r.run : Act U Unit) w = (.error (.failed (.refused .frozenApp)), w) := by
  have hrefused : ∀ changed, w.app.unlessFrozen changed = .error .frozenApp := fun changed => by
    rw [App.unlessFrozen, if_pos h]
  cases r with
  | route method path endpoint schema name =>
    rw [AppRegistration.run, Act.addRouteOf, Act.outcome_get_bind, if_pos h]
    rfl
  | cors spec =>
    have hcors : w.app.enableCors spec = .error .frozenApp := by rw [App.enableCors, if_pos h]
    exact Act.outcome_register_of_error (f := fun app => app.enableCors spec) hcors
  | middleware m => exact Act.outcome_register_of_error (f := fun app => app.addMiddleware m) (hrefused _)
  | onResponse hook => exact Act.outcome_register_of_error (f := fun app => app.onResponse hook) (hrefused _)
  | onStartup hook => exact Act.outcome_register_of_error (f := fun app => app.onStartup hook) (hrefused _)
  | onShutdown hook => exact Act.outcome_register_of_error (f := fun app => app.onShutdown hook) (hrefused _)

/-! ## Code that has the application at hand -/

/-- What a function does that has the application at hand: it tries registrations, and goes on with what
becomes of each. -/
inductive AppCourse (U : Type) where
  | finish (env : Env U) (ended : Settled)
  | attempt (env : Env U) (r : AppRegistration) (resume : Env U → Attempt Unit → AppCourse U)

namespace AppCourse

/-- Runs a function to its end. -/
def run : AppCourse U → Act U Settled
  | .finish env ended => do
    Act.setEnv env
    return ended
  | .attempt env r resume => do
    Act.setEnv env
    let result ← Act.attempt r.run
    let world ← get
    (resume world.env result).run

/-- How a function ends, and what application code can then reach, when every registration is refused. -/
def refused : AppCourse U → Settled × Env U
  | .finish env ended => (ended, env)
  | .attempt env _ resume => (resume env (.error (.refused .frozenApp))).refused

/-- In a frozen application a function that tries registrations does what it does when all are refused, and
nothing else. -/
theorem run_frozen {w : World U} (h : w.app.frozen = true) (course : AppCourse U) :
    outcome course.run w = (.ok course.refused.1, { w with env := course.refused.2 }) := by
  induction course generalizing w with
  | finish env ended => rfl
  | attempt env r resume ih =>
    have hattempt : outcome (Act.attempt r.run : Act U (Attempt Unit)) { w with env := env } =
        (.ok (.error (.refused .frozenApp)), { w with env := env }) := by
      have hrun := AppRegistration.run_frozen (w := { w with env := env }) h r
      rw [Act.outcome_attempt, hrun]
    have hset : outcome (Act.setEnv env : Act U Unit) w = (.ok (), { w with env := env }) := rfl
    rw [run, outcome_bind, hset]
    simp only
    rw [outcome_bind, hattempt]
    exact ih env (.error (.refused .frozenApp)) h

end AppCourse

/-- The same functions, of which the hooks of startup and shutdown do what courses come to that are refused
every registration. -/
def Behaviour.refusing (b : Behaviour U) (hooks : Func → Env U → AppCourse U) : Behaviour U :=
  { b with provide := fun fn env => (hooks fn env).refused }

/-- The course of a hook. -/
def hookCourse (hooks : Func → Env U → AppCourse U) (hook : Value) (env : Env U) : AppCourse U :=
  match hook with
  | .func fn => hooks fn env
  | v => .finish env (.raised (.refused (notCallable v)))

/-- Runs hooks that have the application at hand, in order, up to the first that fails. -/
def runHooks (hooks : Func → Env U → AppCourse U) : List Value → Act U Unit
  | [] => return ()
  | hook :: rest => do
    let world ← get
    match ← (hookCourse hooks hook world.env).run with
    | .returned _ => runHooks hooks rest
    | .raised f => Act.fail f
    | .suspended _ => throw .unsettled

/-- **Hooks in a frozen application** that try registrations run like functions that were told of the
refusals. -/
theorem runHooks_frozen (b : Behaviour U) (hooks : Func → Env U → AppCourse U) (row : List Value) {w : World U}
    (h : w.app.frozen = true) :
    outcome (runHooks hooks row) w = outcome (runPhase (b.refusing hooks) row) w := by
  induction row generalizing w with
  | nil => rfl
  | cons hook rest ih =>
    have hcourse : (hookCourse hooks hook w.env).refused = (b.refusing hooks).callProvide hook w.env := by
      cases hook <;> rfl
    have hcall : outcome (Act.withEnv ((b.refusing hooks).callProvide hook)) w =
        (.ok ((b.refusing hooks).callProvide hook w.env).1,
          { w with env := ((b.refusing hooks).callProvide hook w.env).2 }) := rfl
    rw [runHooks, runPhase, Act.outcome_get_bind, outcome_bind, AppCourse.run_frozen h, outcome_bind, hcall,
      hcourse]
    cases ((b.refusing hooks).callProvide hook w.env).1 with
    | returned v => exact ih h
    | raised f => rfl
    | suspended rest => rfl

/-! ## Operations -/

/-- What is done to an application: something is registered, code of the application runs that has it at hand,
a connection of some kind is served, a server makes its announcements, or a client sends a request or visits. -/
inductive Operation (U : Type) where
  | registers (r : AppRegistration)
  | runs (course : Env U → AppCourse U)
  | serves (kind : String) (request : Request) (inbox : Inbox)
  | announces (messages : List Announcement)
  | sends (c : ClientRequest)
  | visits (paths : List String)

namespace Operation

/-- Does an operation. -/
def run (b : Behaviour U) : Operation U → Act U Unit
  | .registers r => r.run
  | .runs course => do
    let world ← get
    let _ ← (course world.env).run
  | .serves kind request inbox => do
    let _ ← serveScope b kind request inbox
  | .announces messages => do
    let _ ← lifespan b messages
  | .sends c => do
    let _ ← c.send b
  | .visits paths => do
    let _ ← visitAll b paths

/-- An operation enters the application. A request that a client cannot even put together does not. -/
def Enters : Operation U → Prop
  | .registers _ | .runs _ => False
  | .sends c => ∃ arriving, c.request = .ok arriving
  | .serves .. | .announces _ | .visits _ => True

end Operation

/-- The world after operations, each of which may fail. -/
def runAll (b : Behaviour U) (operations : List (Operation U)) (w : World U) : World U :=
  operations.foldl (fun w operation => (outcome (operation.run b) w).2) w

/-! ## Entries -/

namespace Act

variable {J : App → Bank Float → Prop} (b : Behaviour U)

theorem keeps_runPhase (hooks : List Value) : Keeps J (runPhase b hooks) := by
  induction hooks with
  | nil => exact keeps_pure _
  | cons hook hooks ih =>
    refine keeps_bind (keeps_withEnv _) fun r => ?_
    cases r with
    | returned v => exact ih
    | raised f => exact keeps_fail f
    | suspended rest => exact keeps_throw _

theorem keeps_startUp : Keeps J (startUp b) := keeps_bind keeps_get fun _ => keeps_runPhase b _

theorem keeps_shutDown : Keeps J (shutDown b) := keeps_bind keeps_get fun _ => keeps_runPhase b _

theorem keeps_acknowledge (messages : List Announcement) : Keeps J (acknowledge b messages) := by
  induction messages with
  | nil => exact keeps_pure _
  | cons message messages ih =>
    cases message with
    | startup =>
      refine keeps_bind (keeps_attempt (keeps_startUp b)) fun r => ?_
      cases r with
      | ok _ => exact keeps_bind ih fun rest => keeps_pure _
      | error f =>
        refine keeps_bind (keeps_log _ _ _) fun _ => ?_
        exact keeps_bind (keeps_ofAttempt _) fun message => keeps_pure _
    | shutdown => exact keeps_bind (keeps_shutDown b) fun _ => keeps_pure _
    | other => exact ih

/-- A computation freezes the application and changes nothing else of it, however it ends. -/
def Freezes {α : Type} (x : Act U α) : Prop := ∀ w, (outcome x w).2.app = w.app.freeze

/-- What freezes keeps an application that is frozen. -/
theorem Freezes.keeps {α : Type} {x : Act U α} (h : Freezes x) (app : App) :
    Keeps (fun now _ => now = app.freeze) x := by
  intro w (hw : w.app = app.freeze)
  rw [h w, hw, App.freeze_freeze]

theorem Freezes.bind {α β : Type} {x : Act U α} {f : α → Act U β} (hx : Freezes x)
    (hf : ∀ app a, Keeps (fun now _ => now = App.freeze app) (f a)) : Freezes (x >>= f) :=
  fun w => keeps_bind_from (J := fun now _ => now = w.app.freeze) (hx w) (hf w.app)

theorem freezes_freeze : Freezes (Act.freeze : Act U Unit) := fun _ => rfl

theorem freezes_serveRequest (request : Request) (inbox : Inbox) : Freezes (serveRequest b request inbox) :=
  fun w => (serveRequest_arrivals b request inbox w).1

theorem freezes_serveScope (kind : String) (request : Request) (inbox : Inbox) :
    Freezes (serveScope b kind request inbox) := by
  unfold serveScope
  split
  · exact (freezes_serveRequest b request inbox).bind fun _ _ => keeps_pure _
  · exact freezes_freeze.bind fun _ _ => keeps_pure _

theorem freezes_send {c : ClientRequest} {arriving : Request × Bytes} (h : c.request = .ok arriving) :
    Freezes (c.send b) := by
  have hsend : c.send b = (do
      let messages ← serveRequest b arriving.1 (Inbox.single arriving.2)
      Act.ofAttempt (decodeResponse messages)) := by
    rw [ClientRequest.send, h]
    rfl
  rw [hsend]
  exact (freezes_serveRequest b _ _).bind fun _ _ => keeps_ofAttempt _

/-- Sending a request keeps a frozen application, also when it does not get there. -/
theorem keeps_send (app : App) (c : ClientRequest) :
    Keeps (fun now _ => now = app.freeze) (c.send b) := by
  cases h : c.request with
  | ok arriving => exact (freezes_send b h).keeps app
  | error f =>
    rw [ClientRequest.send, h]
    exact keeps_bind (keeps_fail f) fun arriving => keeps_bind ((freezes_serveRequest b _ _).keeps app) fun _ =>
      keeps_ofAttempt _

theorem keeps_getAll (app : App) (paths : List String) :
    Keeps (fun now _ => now = app.freeze) (getAll b paths) := by
  induction paths with
  | nil => exact keeps_pure _
  | cons path paths ih => exact keeps_bind (keeps_send b app _) fun r => keeps_bind ih fun rs => keeps_pure _

theorem freezes_visitAll (paths : List String) : Freezes (visitAll b paths) := by
  refine freezes_freeze.bind fun app _ => keeps_bind (keeps_startUp b) fun _ => ?_
  refine keeps_bind (keeps_attempt (keeps_getAll b app paths)) fun r => ?_
  exact keeps_bind (keeps_shutDown b) fun _ => keeps_ofAttempt _

end Act

open Act

/-- **An entry** freezes the application, and changes nothing else of it, however it ends. -/
theorem Operation.run_enters (b : Behaviour U) {operation : Operation U} (h : operation.Enters) :
    Freezes (operation.run b) := by
  cases operation with
  | registers r => exact absurd h id
  | runs course => exact absurd h id
  | serves kind request inbox => exact (freezes_serveScope b kind request inbox).bind fun _ _ => keeps_pure _
  | announces messages =>
    have hlifespan : Freezes (lifespan b messages) := freezes_freeze.bind fun _ _ => keeps_acknowledge b messages
    exact hlifespan.bind fun _ _ => keeps_pure _
  | sends c =>
    obtain ⟨arriving, harriving⟩ := h
    exact (freezes_send b harriving).bind fun _ _ => keeps_pure _
  | visits paths => exact (freezes_visitAll b paths).bind fun _ _ => keeps_pure _

theorem App.freeze_of_frozen {app : App} (h : app.frozen = true) : app.freeze = app := if_pos h

/-- **Step lemma**: no operation changes a frozen application. -/
theorem Operation.run_frozen (b : Behaviour U) (operation : Operation U) {w : World U}
    (h : w.app.frozen = true) : (outcome (operation.run b) w).2.app = w.app := by
  have hentered (henters : operation.Enters) : (outcome (operation.run b) w).2.app = w.app := by
    rw [run_enters b henters, App.freeze_of_frozen h]
  cases operation with
  | registers r => rw [run, AppRegistration.run_frozen h]
  | runs course =>
    rw [run, outcome_get_bind, outcome_bind, AppCourse.run_frozen h]
    rfl
  | serves kind request inbox => exact hentered trivial
  | announces messages => exact hentered trivial
  | sends c =>
    have hkept := keeps_bind (keeps_send b w.app c) (fun _ => keeps_pure ()) w (App.freeze_of_frozen h).symm
    exact hkept.trans (App.freeze_of_frozen h)
  | visits paths => exact hentered trivial

/-- **Run lemma**: nor do any operations, one after another. -/
theorem runAll_frozen (b : Behaviour U) (operations : List (Operation U)) {w : World U}
    (h : w.app.frozen = true) : (runAll b operations w).app = w.app := by
  induction operations generalizing w with
  | nil => rfl
  | cons operation operations ih =>
    have hstep := operation.run_frozen b h
    have hrest : (runAll b operations (outcome (operation.run b) w).2).app =
        (outcome (operation.run b) w).2.app := ih (hstep ▸ h)
    exact hrest.trans hstep

/-! ## What is served -/

/-- An application holds what was registered in another one, and serves it in the same way. -/
structure App.HoldsWhat (app registered : App) : Prop where
  config : app.config = registered.config
  routes : app.routes = registered.routes
  finds : ∀ method path, app.router.match? method path = registered.router.match? method path
  middleware : app.middleware = registered.middleware
  corsEnabled : app.corsEnabled = registered.corsEnabled
  responseHooks : app.responseHooks = registered.responseHooks
  startupHooks : app.startupHooks = registered.startupHooks
  shutdownHooks : app.shutdownHooks = registered.shutdownHooks

theorem App.freeze_holds (app : App) : app.freeze.HoldsWhat app := by
  cases hfrozen : app.frozen with
  | true =>
    rw [App.freeze_of_frozen hfrozen]
    exact ⟨rfl, rfl, fun _ _ => rfl, rfl, rfl, rfl, rfl, rfl⟩
  | false =>
    simp only [App.freeze, hfrozen, Bool.false_eq_true, if_false]
    exact ⟨rfl, rfl, fun _ _ => rfl, rfl, rfl, rfl, rfl, rfl⟩

theorem App.frozen_freeze (app : App) : app.freeze.frozen = true := by
  unfold App.freeze
  split
  · next h => exact h
  · rfl

/-- Serving goes by what was registered, whether it is frozen or not. -/
theorem serveBy_freeze (b : Behaviour U) (app : App) (last : Next U) (request : Request) :
    serveBy b app.freeze last request = serveBy b app last request := by
  have hsame := app.freeze_holds
  unfold serveBy answerBy
  rw [hsame.config, hsame.middleware, hsame.responseHooks]

theorem dispatchBy_freeze (b : Behaviour U) (app : App) :
    dispatchBy b app.freeze.router = dispatchBy b app.router := by
  cases hfrozen : app.frozen with
  | true => rw [App.freeze_of_frozen hfrozen]
  | false =>
    simp only [App.freeze, hfrozen, Bool.false_eq_true, if_false]
    rfl

theorem Course.passes_all (course : Course U) : course.Passes fun _ => True := by
  induction course with
  | finish env result => exact .finish env result
  | next env request resume ih => exact .next trivial ih
  | readBody env request resume ih => exact .readBody trivial ih

/-- Both worlds are the same one, with a given application. -/
def SameAt (app : App) (now : App) (i j : Inbox) : Prop := now = app ∧ i = j

theorem kept_sameAt (b : Behaviour U) (app : App) : Kept b (SameAt app) fun _ => True where
  params _ _ := trivial
  around _ _ _ := Course.passes_all _
  endpoint _ _ _ := Course.passes_all _
  reads := by
    rintro request - now i _ ⟨happ, rfl⟩
    exact ⟨rfl, happ, rfl⟩

/-- **A request to an application that is frozen** is served with what was registered before: at no point does
it get to see another router or other middleware. -/
theorem serveRequest_registered (b : Behaviour U) (request : Request) (inbox : Inbox) {app : App} {w : World U}
    (h : w.app = app.freeze) :
    outcome (serveRequest b request inbox) w =
      outcome (serveBy b app (dispatchBy b app.router) request) { w with inbox := inbox } := by
  have hfrozen : w.app.freeze = w.app := by rw [h, App.freeze_freeze]
  have hkept : Kept b (SameAt w.app) fun _ => True := kept_sameAt b w.app
  have hdispatch : NextAlike (SameAt w.app) (fun _ => True) (dispatch b) (dispatchBy b app.router) := by
    rintro request - v _ ⟨inbox', rfl, happ, hinbox⟩
    have hrouter : outcome (dispatch b request) v = outcome (dispatchBy b app.router request) v := by
      rw [outcome_dispatch_eq, happ, h, dispatchBy_freeze]
    rw [hrouter]
    exact alike_dispatchBy hkept app.router request trivial v _ ⟨inbox', rfl, happ, hinbox⟩
  rw [outcome_serveRequest_eq, hfrozen, h, serveBy_freeze, ← h]
  exact outcome_eq_of_alike (P := SameAt w.app) (fun _ _ _ hsame => hsame.2)
    (alike_serveBy hkept hdispatch app trivial) ⟨rfl, rfl⟩

/-! ## Behind the first entry -/

/-- **Freezing is final.** Whatever was done to an application before, behind the first operation that enters
it, and behind all that follow, whether they fail or not, it is the frozen one: it holds what was registered
before, every registration is refused with a runtime error and leaves everything as it was, and every request
is served with the routes and the middleware that were registered before. Hooks that have the application at
hand cannot do anything about it, not even those that run while it is entered: functions that were told of the
refusals take their place. -/
theorem freezing_is_final (b : Behaviour U) (w : World U) (before after : List (Operation U))
    (entry : Operation U) (hentry : entry.Enters) :
    let registered := (runAll b before w).app
    let v := runAll b (before ++ entry :: after) w
    v.app = registered.freeze ∧ v.app.frozen = true ∧ v.app.HoldsWhat registered ∧
      (∀ r : AppRegistration, ∃ f : Fault, f.errorClass = .runtime ∧
        outcome (r.run : Act U Unit) v = (.error (.failed f), v)) ∧
      (∀ request inbox, outcome (serveRequest b request inbox) v =
        outcome (serveBy b registered (dispatchBy b registered.router) request) { v with inbox := inbox }) ∧
      ∀ u : World U, u.app.frozen = true →
        (∀ course : AppCourse U, outcome course.run u =
          (.ok course.refused.1, { u with env := course.refused.2 })) ∧
        ∀ hooks row, outcome (runHooks hooks row) u = outcome (runPhase (b.refusing hooks) row) u := by
  intro registered v
  have happ : v.app = registered.freeze := by
    have hentered : (outcome (entry.run b) (runAll b before w)).2.app = registered.freeze :=
      Operation.run_enters b hentry (runAll b before w)
    have hfrozen := runAll_frozen b after (w := (outcome (entry.run b) (runAll b before w)).2)
      (hentered ▸ App.frozen_freeze registered)
    have hv : v = runAll b after (outcome (entry.run b) (runAll b before w)).2 := by
      show List.foldl _ w _ = _
      rw [List.foldl_append]
      rfl
    rw [hv, hfrozen, hentered]
  have hfrozen : v.app.frozen = true := happ ▸ App.frozen_freeze registered
  refine ⟨happ, hfrozen, happ ▸ App.freeze_holds registered, fun r => ?_, fun request inbox => ?_, ?_⟩
  · exact ⟨.refused .frozenApp, rfl, r.run_frozen hfrozen⟩
  · exact serveRequest_registered b request inbox happ
  · exact fun u hu => ⟨fun course => course.run_frozen hu, fun hooks row => runHooks_frozen b hooks row hu⟩

/-- A hook of the startup that tries to register itself for the shutdown, and fails when it is refused. -/
def selfRegistering (fn : Func) (env : Env Unit) : AppCourse Unit :=
  .attempt env (.onShutdown (.func fn)) fun env result =>
    .finish env (match result with
      | .ok () => .returned .none
      | .error f => .raised f)

/-- It is registered, a server announces its start, and middleware comes too late. -/
theorem freezing_is_final_startup :
    (Operation.announces [.startup] : Operation Unit).Enters ∧
      let b := Behaviour.idle.refusing selfRegistering
      let hook := Value.func ⟨"warm_up", 0, false⟩
      let v := runAll b ([.registers (.onStartup hook)] ++ .announces [.startup] ::
        [.registers (.middleware (.custom hook)), .visits ["/"]]) { env := { user := () } }
      v.app.frozen = true ∧ v.app.startupHooks = [hook] ∧ v.app.shutdownHooks = [] ∧
        v.app.middleware = [] := by
  refine ⟨trivial, ?_⟩
  intro b hook v
  obtain ⟨-, hfrozen, hholds, -⟩ := freezing_is_final b { env := { user := () } }
    [.registers (.onStartup hook)] [.registers (.middleware (.custom hook)), .visits ["/"]]
    (.announces [.startup]) trivial
  exact ⟨hfrozen, hholds.startupHooks, hholds.shutdownHooks, hholds.middleware⟩

end ServerTree
