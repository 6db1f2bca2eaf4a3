import ServerTree.Proofs.Serving.Admission
import ServerTree.Proofs.Serving.Delivery
import ServerTree.Proofs.Serving.Freezing

/-!
# Layers around the router

Engine middleware stand around the router in layers: the cross-origin middleware outside, if it was enabled, and
within it the others in the order in which they were added. How a request is served is said here by the positions
of the layers alone. A layer that passes a request on, as often as it likes, has it enter the next one, and goes on
with what that comes to. Serving a request through functions that are nested in each other is just that.

## Main definitions
- `layersOf`: the layers that registrations make
- `LayerTask`, `Onion`: what is to be done in serving a request, and what it comes to

## Main statements
- `layered_run`, `layered_runAll`: which layers there are after registrations
- `onion_iff`: what serving through layers comes to
- `middleware_form_an_onion`: registrations and requests together
-/

namespace ServerTree

variable {U : Type}

/-! ## Which layers there are -/

namespace AppRegistration

/-- The specification that is to be enabled for requests of other origins. -/
def corsSpec? : AppRegistration → Option (CorsSpec Value)
  | .cors spec => some spec
  | _ => none

/-- The middleware that is to be added. -/
def added? : AppRegistration → Option EngineMiddleware
  | .middleware m => some m
  | _ => none

end AppRegistration

/-- The specification that registrations enable: the first one. -/
def enabledSpec? (rs : List AppRegistration) : Option (CorsSpec Value) := rs.findSome? AppRegistration.corsSpec?

/-- The layers that registrations make, the outermost first. -/
def layersOf (rs : List AppRegistration) : List EngineMiddleware :=
  ((enabledSpec? rs).map fun spec => .cors spec App.corsMaxAge).toList ++ rs.filterMap AppRegistration.added?

theorem enabledSpec?_concat (rs : List AppRegistration) (r : AppRegistration) :
    enabledSpec? (rs ++ [r]) = (enabledSpec? rs).or r.corsSpec? := by
  simp [enabledSpec?, List.findSome?_append]

/-- A middleware that is added is the innermost layer. -/
theorem layersOf_middleware (rs : List AppRegistration) (m : EngineMiddleware) :
    layersOf (rs ++ [.middleware m]) = layersOf rs ++ [m] := by
  have hspec : enabledSpec? (rs ++ [.middleware m]) = enabledSpec? rs := by
    rw [enabledSpec?_concat]
    exact Option.or_none
  rw [layersOf, layersOf, hspec, List.filterMap_append, ← List.append_assoc]
  rfl

/-- The first specification is the outermost layer. -/
theorem layersOf_cors {rs : List AppRegistration} (hnone : enabledSpec? rs = none) (spec : CorsSpec Value) :
    layersOf (rs ++ [.cors spec]) = .cors spec App.corsMaxAge :: layersOf rs := by
  have hspec : enabledSpec? (rs ++ [.cors spec]) = some spec := by rw [enabledSpec?_concat, hnone]; rfl
  rw [layersOf, layersOf, hspec, hnone, List.filterMap_append]
  simp [AppRegistration.added?]

/-- Any other registration is no layer. -/
theorem layersOf_other {rs : List AppRegistration} {r : AppRegistration}
    (hspec : (enabledSpec? rs).or r.corsSpec? = enabledSpec? rs) (hadded : r.added? = none) :
    layersOf (rs ++ [r]) = layersOf rs := by
  rw [layersOf, layersOf, enabledSpec?_concat, hspec, List.filterMap_append]
  simp [hadded]

/-- An application that is still open has the layers of some registrations. -/
structure App.Layered (app : App) (rs : List AppRegistration) : Prop where
  unfrozen : app.frozen = false
  enabled : app.corsEnabled = (enabledSpec? rs).isSome
  chain : app.middleware = layersOf rs

theorem App.layered_new (config : AppConfig) : App.Layered { config } [] := ⟨rfl, rfl, rfl⟩

/-- What concerns neither the middleware nor whether there is a cross-origin one leaves the layers. -/
theorem App.Layered.of_eq {app app' : App} {rs : List AppRegistration} (h : app.Layered rs)
    (hfrozen : app'.frozen = app.frozen) (henabled : app'.corsEnabled = app.corsEnabled)
    (hchain : app'.middleware = app.middleware) : app'.Layered rs :=
  ⟨hfrozen.trans h.unfrozen, henabled.trans h.enabled, hchain.trans h.chain⟩

theorem Act.outcome_register_of_ok {f : App → Except Refusal App} {w : World U} {app : App} (h : f w.app = .ok app) :
    outcome (Act.register f : Act U Unit) w = (.ok (), { w with app := app }) := by
  rw [Act.register, Act.outcome_get_bind, h]
  rfl

section

variable {w : World U} {rs : List AppRegistration}

/-- A middleware that is added goes behind all others. -/
theorem outcome_run_middleware (h : w.app.frozen = false) (m : EngineMiddleware) :
    outcome ((AppRegistration.middleware m).run : Act U Unit) w =
      (.ok (), { w with app := { w.app with middleware := w.app.middleware ++ [m] } }) := by
  have hadd : w.app.addMiddleware m = .ok { w.app with middleware := w.app.middleware ++ [m] } := by
    rw [App.addMiddleware, App.unlessFrozen, if_neg (by simp [h])]
  exact Act.outcome_register_of_ok (f := fun app => app.addMiddleware m) hadd

/-- The first specification goes before all others. Any other one is refused and changes nothing. -/
theorem outcome_run_cors (h : w.app.Layered rs) (spec : CorsSpec Value) :
    outcome ((AppRegistration.cors spec).run : Act U Unit) w =
      if (enabledSpec? rs).isSome then (.error (.failed (.refused .corsTwice)), w)
      else (.ok (), { w with app := { w.app with
        middleware := .cors spec App.corsMaxAge :: w.app.middleware, corsEnabled := true } }) := by
  cases hfirst : enabledSpec? rs with
  | none =>
    have henable : w.app.enableCors spec = .ok { w.app with
        middleware := .cors spec App.corsMaxAge :: w.app.middleware, corsEnabled := true } := by
      rw [App.enableCors, if_neg (by simp [h.unfrozen]), if_neg (by simp [h.enabled, hfirst])]
    exact Act.outcome_register_of_ok (f := fun app => app.enableCors spec) henable
  | some first =>
    have hrefused : w.app.enableCors spec = .error .corsTwice := by
      rw [App.enableCors, if_neg (by simp [h.unfrozen]), if_pos (by simp [h.enabled, hfirst])]
    exact Act.outcome_register_of_error (f := fun app => app.enableCors spec) hrefused

/-- Other registrations concern no layer. -/
theorem keeps_run_other {r : AppRegistration} (hspec : r.corsSpec? = none) (hadded : r.added? = none) :
    Act.Keeps (fun app _ => app.Layered rs) (r.run : Act U Unit) := by
  have hregister (change : App → App) (hfrozen : ∀ app, (change app).frozen = app.frozen)
      (henabled : ∀ app, (change app).corsEnabled = app.corsEnabled)
      (hchain : ∀ app, (change app).middleware = app.middleware) :
      Act.Keeps (fun app _ => app.Layered rs)
        (Act.register fun app => app.unlessFrozen (change app) : Act U Unit) := by
    refine Act.keeps_register fun app app' _ hchanged h => ?_
    rw [App.unlessFrozen, if_neg (by simp [h.unfrozen])] at hchanged
    obtain rfl := Except.ok.inj hchanged
    exact h.of_eq (hfrozen app) (henabled app) (hchain app)
  cases r with
  | middleware m => cases hadded
  | cors spec => cases hspec
  | onResponse hook => exact hregister _ (fun _ => rfl) (fun _ => rfl) fun _ => rfl
  | onStartup hook => exact hregister _ (fun _ => rfl) (fun _ => rfl) fun _ => rfl
  | onShutdown hook => exact hregister _ (fun _ => rfl) (fun _ => rfl) fun _ => rfl
  | route method path endpoint schema name =>
    have hroute (m p : String) : Act.Keeps (fun app _ => app.Layered rs)
        (Act.addRoute m p endpoint schema name : Act U Unit) := by
      intro w h
      rw [Act.world_addRoute]
      show ((w.app.route m p endpoint schema name).1).Layered rs
      rw [App.route, if_neg (by simp [h.unfrozen])]
      exact h.of_eq rfl rfl rfl
    refine Act.keeps_bind Act.keeps_get fun v => ?_
    split
    · exact Act.keeps_bind (Act.keeps_refuse _) fun _ => Act.keeps_bind (Act.keeps_ofAttempt _) fun m =>
        Act.keeps_bind (Act.keeps_ofAttempt _) fun p => hroute m p
    · exact Act.keeps_bind (Act.keeps_ofAttempt _) fun m => Act.keeps_bind (Act.keeps_ofAttempt _) fun p => hroute m p

/-- **Step lemma**: a registration makes the layer that it stands for. -/
theorem layered_run (h : w.app.Layered rs) (r : AppRegistration) :
    (outcome (r.run : Act U Unit) w).2.app.Layered (rs ++ [r]) := by
  have hother (hspec : (enabledSpec? rs).or r.corsSpec? = enabledSpec? rs) (hadded : r.added? = none) {app : App}
      (happ : app.Layered rs) : app.Layered (rs ++ [r]) :=
    ⟨happ.unfrozen, by rw [enabledSpec?_concat, hspec, happ.enabled],
      happ.chain.trans (layersOf_other hspec hadded).symm⟩
  cases r with
  | middleware m =>
    rw [outcome_run_middleware h.unfrozen]
    refine ⟨h.unfrozen, ?_, ?_⟩
    · rw [enabledSpec?_concat]
      exact h.enabled.trans (congrArg Option.isSome Option.or_none.symm)
    · rw [layersOf_middleware, ← h.chain]
  | cors spec =>
    rw [outcome_run_cors h]
    cases hfirst : enabledSpec? rs with
    | none =>
      refine ⟨h.unfrozen, ?_, ?_⟩
      · rw [enabledSpec?_concat, hfirst]
        rfl
      · rw [layersOf_cors hfirst, ← h.chain]
        rfl
    -- it is refused, and does not count as a layer either
    | some first => exact hother (by rw [hfirst]; rfl) rfl h
  | route | onResponse | onStartup | onShutdown =>
    exact hother Option.or_none rfl (keeps_run_other rfl rfl w h)

/-- **Run lemma**: registrations, some of which may be refused, make the layers that they stand for. -/
theorem layered_runAll (b : Behaviour U) {config : AppConfig} (hnew : w.app = { config := config })
    (rs : List AppRegistration) : (runAll b (rs.map Operation.registers) w).app.Layered rs := by
  induction rs using List.reverseRecOn with
  | nil => exact hnew ▸ App.layered_new config
  | append_singleton rs r ih =>
    rw [List.map_append, runAll, List.foldl_append]
    exact layered_run ih r

end

/-! ## Serving through layers -/

/-- How a specification judges a request: that of no other origin is not allowed. -/
def CorsSpec.judges (spec : CorsSpec Value) (request : Request) : Attempt (Option String) :=
  match request.headers.get? "origin" with
  | none => .ok none
  | some origin => spec.allowedOrigin origin

/-- What is to be done in serving a request: it enters the layer at a position, or the function of that layer goes
on. -/
inductive LayerTask (U : Type) where
  | enter (position : Nat) (request : Request)
  | proceed (position : Nat) (course : Course U)

/-- What a task comes to, layer by layer. Whatever a layer does, a request that it passes on enters the next
layer, and the router stands behind the last one. -/
inductive Onion (b : Behaviour U) (chain : List EngineMiddleware) :
    LayerTask U → World U → Except Stop Value × World U → Prop where
  /-- Behind the last layer is the router. -/
  | dispatched {i request w} (last : chain[i]? = none) :
      Onion b chain (.enter i request) w (outcome (dispatch b request) w)
  /-- A function is called with the request. -/
  | called {i fn request w out} (layer : chain[i]? = some (.custom fn))
      (runs : Onion b chain (.proceed i (b.callAround fn request w.env)) w out) : Onion b chain (.enter i request) w out
  /-- It answers or raises by itself. -/
  | finished {i env result w} :
      Onion b chain (.proceed i (.finish env result)) w (result.mapError .failed, { w with env := env })
  /-- It passes a request on, which enters the next layer, and goes on with the answer or the failure. -/
  | passed {i env request resume w answer w' out}
      (enters : Onion b chain (.enter (i + 1) request) { w with env := env } (Except.mapError .failed answer, w'))
      (goesOn : Onion b chain (.proceed i (resume w'.env answer)) w' out) :
      Onion b chain (.proceed i (.next env request resume)) w out
  /-- It passes a request on and never hears of it. -/
  | unsettled {i env request resume w w'}
      (enters : Onion b chain (.enter (i + 1) request) { w with env := env } (.error .unsettled, w')) :
      Onion b chain (.proceed i (.next env request resume)) w (.error .unsettled, w')
  /-- It reads the body of a request. -/
  | read {i env request resume w out}
      (goesOn : Onion b chain (.proceed i (resume env (request.body w.inbox).1))
        { w with env := env, inbox := (request.body w.inbox).2 } out) :
      Onion b chain (.proceed i (.readBody env request resume)) w out
  /-- The cross-origin middleware cannot judge an origin. -/
  | misjudged {i spec maxAge request w f} (layer : chain[i]? = some (.cors spec maxAge))
      (judged : spec.judges request = .error f) : Onion b chain (.enter i request) w (.error (.failed f), w)
  /-- A request that is not allowed passes it untouched. -/
  | untouched {i spec maxAge request w out} (layer : chain[i]? = some (.cors spec maxAge))
      (judged : spec.judges request = .ok none) (enters : Onion b chain (.enter (i + 1) request) w out) :
      Onion b chain (.enter i request) w out
  /-- A preflight request that is allowed goes no further. -/
  | preflight {i spec maxAge request w value} (layer : chain[i]? = some (.cors spec maxAge))
      (judged : spec.judges request = .ok (some value)) (asks : isPreflight request = true) :
      Onion b chain (.enter i request) w
        (((preflightResponse spec maxAge request value).map .response).mapError .failed, w)
  /-- Any other request that is allowed passes, and what comes back gets headers. -/
  | allowed {i spec maxAge request w value v w'} (layer : chain[i]? = some (.cors spec maxAge))
      (judged : spec.judges request = .ok (some value)) (asks : isPreflight request = false)
      (enters : Onion b chain (.enter (i + 1) request) w (.ok v, w')) :
      Onion b chain (.enter i request) w (outcome (appendHeaders b (corsHeaders value) v) w')
  /-- And a failure behind it, or what never settles, is that of the request. -/
  | stopped {i spec maxAge request w value stop w'} (layer : chain[i]? = some (.cors spec maxAge))
      (judged : spec.judges request = .ok (some value)) (asks : isPreflight request = false)
      (enters : Onion b chain (.enter (i + 1) request) w (.error stop, w')) :
      Onion b chain (.enter i request) w (.error stop, w')

/-- The functions that stand for the layers from a position on. -/
def nestedFrom (b : Behaviour U) (chain : List EngineMiddleware) (position : Nat) : Next U :=
  serveThrough b (chain.drop position) (dispatch b)

/-- A task as a computation of nested functions. -/
def LayerTask.act (b : Behaviour U) (chain : List EngineMiddleware) : LayerTask U → Act U Value
  | .enter i request => nestedFrom b chain i request
  | .proceed i course => runCourse (nestedFrom b chain (i + 1)) course

section

variable {b : Behaviour U} {chain : List EngineMiddleware} {i : Nat} {w : World U} {request : Request}

theorem nestedFrom_last (h : chain[i]? = none) : nestedFrom b chain i = dispatch b := by
  rw [nestedFrom, List.drop_eq_nil_of_le (List.getElem?_eq_none_iff.mp h)]
  rfl

theorem nestedFrom_layer {m : EngineMiddleware} (h : chain[i]? = some m) :
    nestedFrom b chain i = m.serve b (nestedFrom b chain (i + 1)) := by
  obtain ⟨hi, rfl⟩ := List.getElem?_eq_some_iff.mp h
  rw [nestedFrom, List.drop_eq_getElem_cons hi]
  rfl

/-! ### One step of a function -/

variable {next : Next U} {env : Env U}

theorem outcome_runCourse_finish (result : Attempt Value) :
    outcome (runCourse next (.finish env result)) w = (result.mapError .failed, { w with env := env }) := by
  cases result <;> rfl

/-- A function that passes a request on goes on with what comes back. -/
theorem outcome_runCourse_next (resume : Env U → Attempt Value → Course U) :
    outcome (runCourse next (.next env request resume)) w =
      match outcome (next request) { w with env := env } with
      | (.ok v, w') => outcome (runCourse next (resume w'.env (.ok v))) w'
      | (.error (.failed f), w') => outcome (runCourse next (resume w'.env (.error f))) w'
      | (.error .unsettled, w') => (.error .unsettled, w') := by
  have hset : outcome (Act.setEnv env : Act U Unit) w = (.ok (), { w with env := env }) := rfl
  rw [runCourse, outcome_bind, hset]
  simp only
  rw [outcome_bind, Act.outcome_attempt]
  cases outcome (next request) { w with env := env } with
  | mk r w' => rcases r with (f | _) | v <;> rfl

theorem outcome_runCourse_read (resume : Env U → Attempt Bytes → Course U) :
    outcome (runCourse next (.readBody env request resume)) w =
      outcome (runCourse next (resume env (request.body w.inbox).1))
        { w with env := env, inbox := (request.body w.inbox).2 } := rfl

/-! ### One request at the cross-origin middleware -/

theorem outcome_corsServe_eq (spec : CorsSpec Value) (maxAge : Value) :
    outcome (corsServe b spec maxAge next request) w =
      match spec.judges request with
      | .error f => (.error (.failed f), w)
      | .ok none => outcome (next request) w
      | .ok (some value) =>
        if isPreflight request then
          (((preflightResponse spec maxAge request value).map .response).mapError .failed, w)
        else outcome (next request >>= appendHeaders b (corsHeaders value)) w := by
  rw [corsServe, CorsSpec.judges]
  cases request.headers.get? "origin" with
  | none => rfl
  | some origin =>
    simp only [outcome_bind, outcome_ofAttempt]
    cases spec.allowedOrigin origin with
    | error f => rfl
    | ok judged =>
      cases judged with
      | none => rfl
      | some value =>
        simp only [Except.mapError]
        split
        · cases preflightResponse spec maxAge request value <;> rfl
        · simp only [outcome_bind]
          cases outcome (next request) w with
          | mk r w' =>
            cases r with
            | error stop => rfl
            | ok v => cases v <;> rfl

/-- How the layers from the cross-origin middleware on serve a request. -/
theorem outcome_nestedFrom_cors {spec : CorsSpec Value} {maxAge : Value}
    (layer : chain[i]? = some (.cors spec maxAge)) :
    outcome (nestedFrom b chain i request) w =
      match spec.judges request with
      | .error f => (.error (.failed f), w)
      | .ok none => outcome (nestedFrom b chain (i + 1) request) w
      | .ok (some value) =>
        if isPreflight request then
          (((preflightResponse spec maxAge request value).map .response).mapError .failed, w)
        else outcome (nestedFrom b chain (i + 1) request >>= appendHeaders b (corsHeaders value)) w := by
  rw [nestedFrom_layer layer, EngineMiddleware.serve]
  exact outcome_corsServe_eq spec maxAge

/-! ### Both ways -/

/-- What layers come to is what the nested functions come to. The induction is on the derivation, with one case
for each thing that a layer may do. -/
theorem Onion.outcome_eq {task : LayerTask U} {out : Except Stop Value × World U} (h : Onion b chain task w out) :
    outcome (task.act b chain) w = out := by
  induction h with
  | dispatched last => rw [LayerTask.act, nestedFrom_last last]
  | called layer _ ih =>
    rw [LayerTask.act, nestedFrom_layer layer]
    exact ih
  | finished => rw [LayerTask.act, outcome_runCourse_finish]
  | @passed i env request resume w answer w' out _ _ henter hgoesOn =>
    have hanswer : outcome (nestedFrom b chain (i + 1) request) { w with env := env } =
        (Except.mapError .failed answer, w') := henter
    rw [LayerTask.act, outcome_runCourse_next, hanswer]
    cases answer <;> exact hgoesOn
  | @unsettled i env request resume w w' _ henter =>
    have hanswer : outcome (nestedFrom b chain (i + 1) request) { w with env := env } = (.error .unsettled, w') :=
      henter
    rw [LayerTask.act, outcome_runCourse_next, hanswer]
  | read _ ih =>
    rw [LayerTask.act, outcome_runCourse_read]
    exact ih
  | misjudged layer judged =>
    rw [LayerTask.act, outcome_nestedFrom_cors layer, judged]
  | untouched layer judged _ ih =>
    rw [LayerTask.act, outcome_nestedFrom_cors layer, judged]
    exact ih
  | preflight layer judged asks =>
    rw [LayerTask.act, outcome_nestedFrom_cors layer, judged]
    simp only [asks, if_true]
  | @allowed i spec maxAge request w value v w' layer judged asks _ ih =>
    have hanswer : outcome (nestedFrom b chain (i + 1) request) w = (.ok v, w') := ih
    rw [LayerTask.act, outcome_nestedFrom_cors layer, judged]
    simp only [asks, Bool.false_eq_true, if_false, outcome_bind, hanswer]
  | @stopped i spec maxAge request w value stop w' layer judged asks _ ih =>
    have hanswer : outcome (nestedFrom b chain (i + 1) request) w = (.error stop, w') := ih
    rw [LayerTask.act, outcome_nestedFrom_cors layer, judged]
    simp only [asks, Bool.false_eq_true, if_false, outcome_bind, hanswer]

/-- A function comes to something in layers, whatever it does, when every request does that it passes on. The
induction is on what it does. -/
theorem onion_proceed
    (hnext : ∀ request w, Onion b chain (.enter (i + 1) request) w (outcome (nestedFrom b chain (i + 1) request) w))
    (course : Course U) (w : World U) :
    Onion b chain (.proceed i course) w (outcome (runCourse (nestedFrom b chain (i + 1)) course) w) := by
  induction course generalizing w with
  | finish env result =>
    rw [outcome_runCourse_finish]
    exact .finished
  | next env request resume ih =>
    have henter := hnext request { w with env := env }
    rw [outcome_runCourse_next]
    cases hanswer : outcome (nestedFrom b chain (i + 1) request) { w with env := env } with
    | mk r w' =>
      rw [hanswer] at henter
      -- what comes back is an answer or a failure, and the function goes on, or it never comes back
      rcases r with (f | _) | v
      · have hraised : Onion b chain (.enter (i + 1) request) { w with env := env }
            (Except.mapError .failed (.error f), w') := henter
        exact .passed hraised (ih w'.env (.error f) w')
      · exact .unsettled henter
      · have hanswered : Onion b chain (.enter (i + 1) request) { w with env := env }
            (Except.mapError .failed (.ok v), w') := henter
        exact .passed hanswered (ih w'.env (.ok v) w')
  | readBody env request resume ih =>
    rw [outcome_runCourse_read]
    exact .read (ih env _ _)

/-- A layer comes to something when the next one does. -/
theorem onion_layer {m : EngineMiddleware} (layer : chain[i]? = some m)
    (hnext : ∀ request w, Onion b chain (.enter (i + 1) request) w (outcome (nestedFrom b chain (i + 1) request) w))
    (request : Request) (w : World U) :
    Onion b chain (.enter i request) w (outcome (nestedFrom b chain i request) w) := by
  cases m with
  | custom fn =>
    rw [nestedFrom_layer layer]
    exact .called layer (onion_proceed hnext _ w)
  | cors spec maxAge =>
    rw [outcome_nestedFrom_cors layer]
    cases judged : spec.judges request with
    | error f => exact .misjudged layer judged
    | ok allowed =>
      cases allowed with
      | none => exact .untouched layer judged (hnext request w)
      | some value =>
        cases asks : isPreflight request with
        | true => exact .preflight layer judged asks
        | false =>
          have henter := hnext request w
          simp only [Bool.false_eq_true, if_false, outcome_bind]
          cases hanswer : outcome (nestedFrom b chain (i + 1) request) w with
          | mk r w' =>
            rw [hanswer] at henter
            cases r with
            | error stop => exact .stopped layer judged asks henter
            | ok v => exact .allowed layer judged asks henter

/-- A request comes to something in layers, at whatever position it enters. The induction is on the number of
layers from there on. -/
theorem onion_enter (b : Behaviour U) (chain : List EngineMiddleware) (i : Nat) (request : Request) (w : World U) :
    Onion b chain (.enter i request) w (outcome (nestedFrom b chain i request) w) := by
  induction hleft : chain.length - i generalizing i request w with
  | zero =>
    have hlast : chain[i]? = none := List.getElem?_eq_none (by omega)
    rw [nestedFrom_last hlast]
    exact .dispatched hlast
  | succ left ih =>
    have hlayer : chain[i]? = some chain[i] := List.getElem?_eq_getElem (by omega)
    exact onion_layer hlayer (fun request w => ih (i + 1) request w (by omega)) request w

/-- **Serving through nested functions** comes to exactly what the layers come to. -/
theorem onion_iff (out : Except Stop Value × World U) :
    Onion b chain (.enter 0 request) w out ↔ outcome (serveThrough b chain (dispatch b) request) w = out := by
  constructor
  · exact Onion.outcome_eq
  · rintro rfl
    exact onion_enter b chain 0 request w

end

/-- **Engine middleware form an onion.** Let any registrations be made in a new application. Its layers are then
the first specification that was enabled, if any, and within it the middleware in the order in which they were added.
Further middleware goes to the inside, and a specification to the outside when there is none yet; any other one is
refused and changes nothing. Every request from then on, to the application or to what becomes of it when it is
frozen, comes to exactly what these layers come to: each layer has the requests that it passes on enter the next
one. This decides what is sent. -/
theorem middleware_form_an_onion (b : Behaviour U) (config : AppConfig) (rs : List AppRegistration) {w : World U}
    (hnew : w.app = { config := config }) :
    let registered := runAll b (rs.map .registers) w
    registered.app.middleware = layersOf rs ∧
    (∀ m, outcome (AppRegistration.middleware m).run registered =
      (.ok (), { registered with app := { registered.app with middleware := registered.app.middleware ++ [m] } })) ∧
    (∀ spec, outcome (AppRegistration.cors spec).run registered =
      if (enabledSpec? rs).isSome then (.error (.failed (.refused .corsTwice)), registered)
      else (.ok (), { registered with app := { registered.app with
        middleware := .cors spec App.corsMaxAge :: registered.app.middleware, corsEnabled := true } })) ∧
    ∀ (v : World U) (request : Request) (inbox : Inbox), v.app.freeze = registered.app.freeze →
      let opened : World U := { v with app := v.app.freeze, inbox := inbox }
      let arrived := { request with maxBodySize := opened.app.config.bodyLimit }
      (∀ out, Onion b (layersOf rs) (.enter 0 arrived) opened out ↔
        outcome (serveThrough b opened.app.middleware (dispatch b) arrived) opened = out) ∧
      ∀ served w', Onion b (layersOf rs) (.enter 0 arrived) opened (Except.mapError .failed served, w') →
        (outcome (serveRequest b request inbox) v).1 =
          ((delivery opened.app.config.debug.truthy (request.method == "HEAD") served).map
            Sent.messages).mapError .failed := by
  intro registered
  have hlayered : registered.app.Layered rs := layered_runAll b hnew rs
  refine ⟨hlayered.chain, outcome_run_middleware hlayered.unfrozen, outcome_run_cors hlayered, ?_⟩
  intro v request inbox hv opened arrived
  have hchain : opened.app.middleware = layersOf rs := by
    show v.app.freeze.middleware = layersOf rs
    rw [hv, registered.app.freeze_holds.middleware, hlayered.chain]
  have hiff : ∀ out, Onion b (layersOf rs) (.enter 0 arrived) opened out ↔
      outcome (serveThrough b opened.app.middleware (dispatch b) arrived) opened = out := by
    intro out
    rw [hchain]
    exact onion_iff out
  refine ⟨hiff, fun served w' h => ?_⟩
  have hserved : Act.Returns (serveThrough b opened.app.middleware (dispatch b) arrived).attempt opened served w' := by
    rw [Act.Returns, Act.outcome_attempt, (hiff _).mp h]
    cases served <;> rfl
  exact fst_outcome_serveRequest b request inbox v served hserved

/-! ### A function within one that asks twice -/

/-- A response that says that a place is closed. -/
def closed : Value := .response (errorResponse (.int 503) "closed" [])

/-- The outer function passes a request on to another path, twice, and returns what comes back the second time. The
inner one answers at that path and raises at any other. -/
def relaying : Behaviour Unit where
  __ := Behaviour.idle
  around fn request env :=
    if fn.id = 0 then
      .next env { request with path := "/inner" } fun env _ =>
        .next env { request with path := "/inner" } fun env result => .finish env result
    else if request.path = "/inner" then .finish env (.ok closed)
    else .finish env (.error (.refused (.wrongType "not for me")))

/-- A middleware, a specification, another middleware and another specification. -/
def relayRegistrations : List AppRegistration :=
  [.middleware (.custom (.func ⟨"outer", 0, false⟩)), .cors ⟨.bool true, []⟩,
    .middleware (.custom (.func ⟨"inner", 1, false⟩)), .cors ⟨.bool false, []⟩]

/-- The first specification is outside, and what the inner function answers is what is sent. -/
theorem middleware_form_an_onion_relaying :
    layersOf relayRegistrations = [.cors ⟨.bool true, []⟩ App.corsMaxAge,
        .custom (.func ⟨"outer", 0, false⟩), .custom (.func ⟨"inner", 1, false⟩)] ∧
      ∃ v : World Unit, v.app.middleware = layersOf relayRegistrations ∧
        (outcome (serveRequest relaying { path := "/" } {}) v).1 =
          ((delivery v.app.config.debug.truthy false (.ok closed)).map Sent.messages).mapError .failed := by
  refine ⟨rfl, ?_⟩
  obtain ⟨hchain, -, -, hserves⟩ :=
    middleware_form_an_onion relaying {} relayRegistrations (w := { env := ⟨(), 0.0, {}⟩ }) rfl
  generalize runAll relaying (relayRegistrations.map .registers) { env := ⟨(), 0.0, {}⟩ } = registered
    at hchain hserves
  have hheld := registered.app.freeze_holds
  obtain ⟨hiff, hsent⟩ := hserves registered { path := "/" } {} rfl
  refine ⟨registered, hchain, ?_⟩
  have hanswered : (outcome (serveThrough relaying (layersOf relayRegistrations) (dispatch relaying)
      { path := "/", maxBodySize := registered.app.freeze.config.bodyLimit })
      { registered with app := registered.app.freeze, inbox := {} }).1 = .ok closed := rfl
  have hserved := (hiff (.ok closed, _)).mpr (Prod.ext (by rw [← hanswered, ← hchain, ← hheld.middleware]) rfl)
  have hresult := hsent (.ok closed) _ hserved
  rw [hheld.config] at hresult
  exact hresult

end ServerTree
