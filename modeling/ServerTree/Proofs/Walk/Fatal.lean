import ServerTree.Proofs.Keeping
import ServerTree.Proofs.Walk.Order

/-!
# What stops a walk

A node acts unless it is fatal. Cross-origin nodes and plugins never are, whatever becomes of what they ask
for. What stops the walk along the tree of an application stops its launch, and there is no application.

## Main definitions
- `Payload.IsFatal`: which nodes cannot act
- `App.opened`: an application before its tree is walked

## Main statements
- `settles_runPlugin`: plugins return or fail
- `visit_returns_iff`: a node acts exactly when it is not fatal
- `outcome_build`: what becomes of an application is what becomes of the walk along its tree
- `boot_in_preorder`: walks are in preorder and stop at the first node that is fatal
-/

namespace ServerTree

variable {U : Type} {α : Type}

/-! ## Plugins never wait -/

namespace Act

theorem settles_register (f : App → Except Refusal App) : Settles (register f : Act U Unit) := by
  intro w
  rw [register, outcome_get_bind]
  cases f w.app with
  | ok app => exact fun h => by cases h
  | error r => exact fun h => by cases h

theorem settles_addRoute (method path : String) (endpoint : Endpoint) (schema name : Value) :
    Settles (addRoute method path endpoint schema name : Act U Unit) := by
  intro w
  rw [addRoute, outcome_get_bind]
  refine Settles.bind (fun w h => by cases h) (fun _ => ?_) w
  cases (w.app.route method path endpoint schema name).2 with
  | none => exact fun w h => by cases h
  | some refusal => exact fun w h => by cases h

theorem settles_addRouteOf (method path : Value) (endpoint : Endpoint) (schema name : Value) :
    Settles (addRouteOf method path endpoint schema name : Act U Unit) := by
  refine Settles.bind (fun w h => by cases h) fun world => ?_
  have hrest : Settles (do
      let m ← ofAttempt (method.inCapitals.bind fun m => m.asText "upper")
      let p ← ofAttempt (path.asText "strip")
      addRoute m p endpoint schema name : Act U Unit) :=
    (settles_ofAttempt _).bind fun m => (settles_ofAttempt _).bind fun p => settles_addRoute m p _ _ _
  split
  · exact fun w h => by cases h
  · exact hrest

/-- Attempts at computations that never wait do not wait. -/
theorem Settles.attempt {x : Act U α} (h : x.Settles) : Settles (Act.attempt x) := by
  intro w
  obtain ⟨r, w', hr⟩ := h.returns_attempt w
  rw [hr]
  exact fun h => by cases h

end Act

theorem settles_pluginStep (step : PluginStep) : (step.run : Act U Unit).Settles := by
  cases step with
  | route method path endpoint name => exact Act.settles_addRouteOf _ _ _ _ _
  | middleware use => exact Act.settles_register _
  | onResponse hook => exact Act.settles_register _

/-- A plugin returns or fails: the induction is on what it asks for. -/
theorem settles_runPlugin (course : PluginCourse U) : (runPlugin course).Settles := by
  induction course with
  | finish env result =>
    rw [runPlugin]
    exact Act.Settles.bind (fun w h => by cases h) fun _ => Act.settles_ofAttempt result
  | act env step resume ih =>
    rw [runPlugin]
    refine Act.Settles.bind (fun w h => by cases h) fun _ => ?_
    refine (settles_pluginStep step).attempt.bind fun r => ?_
    exact Act.Settles.bind (fun w h => by cases h) fun world => ih world.env r

theorem settles_startPlugin (b : Behaviour U) (handler options : Value) (c : RouteConfig Value) :
    (startPlugin b handler options c).Settles := by
  refine (Act.settles_ofAttempt _).bind fun given => ?_
  exact Act.Settles.bind (fun w h => by cases h) fun world => settles_runPlugin _

/-! ## Steps that always return -/

theorem returns_logText (logger : Logger) (severity : Severity) (message : Attempt String) (w : World U) :
    ∃ w', Act.Returns (Act.logText logger severity message) w () w' := ⟨_, rfl⟩

/-- A plugin that fails, or that is missing, stops nothing. -/
theorem returns_tryPlugin (b : Behaviour U) (handler name options : Value) (c : RouteConfig Value)
    (w : World U) : ∃ w', Act.Returns (tryPlugin b handler name options c) w () w' := by
  obtain ⟨r, w₁, hr⟩ := (settles_startPlugin b handler options c).returns_attempt w
  cases handler with
  | none => exact returns_logText _ _ _ w
  | _ =>
    cases r with
    | ok u => exact ⟨_, hr.bind_iff.mpr rfl⟩
    | error f => exact ⟨_, hr.bind_iff.mpr rfl⟩

/-- A cross-origin node that is refused, such as a second one, stops nothing. -/
theorem returns_tryCors (spec : CorsSpec Value) (w : World U) :
    ∃ w', Act.Returns (tryCors spec) w () w' := by
  obtain ⟨r, w₁, hr⟩ := (Act.settles_register (U := U) fun app => app.enableCors spec).returns_attempt w
  cases r with
  | ok u => exact ⟨_, hr.bind_iff.mpr rfl⟩
  | error f => exact ⟨_, hr.bind_iff.mpr rfl⟩

/-! ## Nodes that cannot act -/

/-- A computation that starts in a world returns. -/
def Act.ReturnsFrom (x : Act U α) (w : World U) : Prop := ∃ a w', Act.Returns x w a w'

namespace Act

variable {β : Type} {w : World U}

theorem returnsFrom_bind {x : Act U α} {f : α → Act U β} :
    ReturnsFrom (x >>= f) w ↔ ∃ a w₁, Returns x w a w₁ ∧ ReturnsFrom (f a) w₁ := by
  constructor
  · rintro ⟨b, w', h⟩
    obtain ⟨a, w₁, hx, hf⟩ := returns_bind.mp h
    exact ⟨a, w₁, hx, b, w', hf⟩
  · rintro ⟨a, w₁, hx, b, w', hf⟩
    exact ⟨b, w', returns_bind.mpr ⟨a, w₁, hx, hf⟩⟩

/-- A sequence returns where its first computation does, when all that may follow returns. -/
theorem returnsFrom_bind_of {x : Act U α} {f : α → Act U β} (hf : ∀ a w₁, ReturnsFrom (f a) w₁) :
    ReturnsFrom (x >>= f) w ↔ ReturnsFrom x w := by
  rw [returnsFrom_bind]
  constructor
  · rintro ⟨a, w₁, hx, -⟩
    exact ⟨a, w₁, hx⟩
  · rintro ⟨a, w₁, hx⟩
    exact ⟨a, w₁, hx, hf a w₁⟩

theorem returnsFrom_pure (a : α) (w : World U) : ReturnsFrom (pure a : Act U α) w := ⟨a, w, rfl⟩

@[simp] theorem not_returnsFrom_refuse (r : Refusal) : ¬ ReturnsFrom (refuse r : Act U α) w := by
  rintro ⟨a, w', h⟩
  exact returns_refuse h

theorem returnsFrom_ofAttempt {r : Attempt α} : ReturnsFrom (ofAttempt r : Act U α) w ↔ ∃ a, r = .ok a := by
  constructor
  · rintro ⟨a, w', h⟩
    exact ⟨a, (returns_ofAttempt.mp h).1⟩
  · rintro ⟨a, h⟩
    exact ⟨a, w, returns_ofAttempt.mpr ⟨h, rfl⟩⟩

/-- Changing what a computation fails with does not change whether it returns. -/
theorem returnsFrom_mapFailure {x : Act U α} {f : Fault → Fault} :
    ReturnsFrom (mapFailure f x) w ↔ ReturnsFrom x w := by
  simp only [mapFailure, ReturnsFrom, returns_bind]
  constructor
  · rintro ⟨a, w', r, w₁, hr, hrest⟩
    cases r with
    | error e => exact absurd hrest returns_fail
    | ok a =>
      -- only a computation that returned is attempted with a value
      refine ⟨a, w₁, ?_⟩
      simp only [Returns, outcome_attempt] at hr
      split at hr
      · rename_i hx
        simpa [Returns, hx] using hr
      · cases hr
      · cases hr
  · rintro ⟨a, w', h⟩
    refine ⟨a, w', .ok a, w', ?_, returns_pure.mpr ⟨rfl, rfl⟩⟩
    rw [Returns, outcome_attempt, h]

theorem returnsFrom_setThreshold {level : Value} :
    ReturnsFrom (setThreshold level : Act U Unit) w ↔ ∃ n, levelValue level = .ok n := by
  rw [setThreshold, changeLog, ReturnsFrom]
  simp only [outcome_get_bind, Returns]
  cases h : levelValue level with
  | ok n =>
    have hset : w.env.log.setThreshold level = .ok { w.env.log with level := n } := by
      rw [Log.setThreshold, h]
      rfl
    rw [hset]
    exact iff_of_true ⟨(), _, rfl⟩ ⟨n, rfl⟩
  | error f =>
    rw [Log.setThreshold, h]
    constructor
    · rintro ⟨a, w', hx⟩
      cases hx
    · rintro ⟨n, hn⟩
      cases hn

/-- A computation that does not return stops. -/
theorem not_returnsFrom_iff {x : Act U α} : ¬ ReturnsFrom x w ↔ ∃ e w', outcome x w = (.error e, w') := by
  cases h : outcome x w with
  | mk r w' =>
    cases r with
    | error e => simp [ReturnsFrom, Returns, h]
    | ok a => simp [ReturnsFrom, Returns, h]

end Act

/-- Whether an application takes the route of a node: paths are texts, the level of its logger is known, and
the route is neither malformed nor in conflict with others. -/
def RouteConfig.Admits (c : RouteConfig Value) (app : App) (method : String)
    (path handler schema : Value) : Prop :=
  ∃ before own logger, c.settings.mountPath = .str before ∧ path = .str own ∧
    let full := orRoot (joinPaths [before, own])
    RouteLogger.make (method ++ " " ++ full) c.settings.logLevel = .ok logger ∧
      let (endpoint, app) := app.wrapping handler c (method ++ " " ++ full) logger
      (app.route method full endpoint schema .none).2 = none

/-- The nodes that cannot act with a configuration in a world. -/
def Payload.IsFatal (b : Behaviour U) (c : RouteConfig Value) (w : World U) : Payload Value → Prop
  | .server .. => True
  | .logger level => ∀ n, levelValue level ≠ .ok n
  | .db provider => provider = .none ∨ ∀ service, (b.callProvide provider w.env).1 ≠ .returned service
  | .rateLimiter max timeWindow keyHeader => ∀ spec, RateLimitSpec.ofNode max timeWindow keyHeader ≠ .ok spec
  | .middleware use => use = .none
  | .group path => ∀ below, c.withPath path ≠ .ok below
  | .route method path handler schema => handler = .none ∨ ¬ c.Admits w.app method path handler schema
  | .routes dir path => ∀ outside, c.withPath path = .ok outside →
      ¬ (mountDirectory b dir outside.settings.mountPath (c.setPath (.str ""))).ReturnsFrom w
  -- these log what goes wrong, or have nothing to do
  | .cors .. | .plugin .. | .response | .status _ | .body _ | .headers _ | .err .. | .augment _
  | .halt .. => False

theorem requestService_returnsFrom {b : Behaviour U} {provider : Value} {w : World U} :
    (requestService b provider).ReturnsFrom w ↔
      ∃ service, (b.callProvide provider w.env).1 = .returned service := by
  constructor
  · rintro ⟨service, w', h⟩
    obtain ⟨settled, w₁, hcall, hrest⟩ := Act.returns_bind.mp h
    obtain ⟨hsettled, -⟩ := Act.returns_withEnv.mp hcall
    cases settled with
    | returned v => exact ⟨v, hsettled⟩
    -- a provider is waited for, so one that never settles does not return either
    | suspended rest => exact absurd hrest Act.returns_throw
    | raised f =>
      obtain ⟨_, _, -, htext⟩ := Act.returns_bind.mp hrest
      obtain ⟨_, _, -, hrefused⟩ := Act.returns_bind.mp htext
      exact absurd hrefused Act.returns_refuse
  · rintro ⟨service, h⟩
    refine Act.returnsFrom_bind.mpr ⟨_, _, Act.returns_withEnv.mpr ⟨h, rfl⟩, service, _, rfl⟩

theorem registerRoute_returnsFrom {method : String} {path handler schema : Value} {c : RouteConfig Value}
    {w : World U} : (registerRoute method path handler schema c).ReturnsFrom w ↔
      handler ≠ .none ∧ c.Admits w.app method path handler schema := by
  by_cases hhandler : handler = .none
  · subst hhandler
    refine iff_of_false ?_ (by simp)
    intro h
    obtain ⟨_, _, -, hrefused⟩ := Act.returnsFrom_bind.mp h
    exact Act.not_returnsFrom_refuse _ hrefused
  rw [registerRoute_eq hhandler]
  constructor
  · -- a registration that returned got through all of its steps, and each says what it asks for
    intro h
    obtain ⟨before, _, hbefore, hrest⟩ := Act.returnsFrom_bind.mp h
    obtain ⟨hbeforeText, rfl⟩ := Act.returns_ofAttempt.mp hbefore
    obtain ⟨own, _, hown, hrest⟩ := Act.returnsFrom_bind.mp hrest
    obtain ⟨hownText, rfl⟩ := Act.returns_ofAttempt.mp hown
    obtain ⟨endpoint, _, hwrap, hrest⟩ := Act.returnsFrom_bind.mp hrest
    obtain ⟨logger, hlogger, rfl, rfl⟩ := Act.returns_wrap.mp hwrap
    obtain ⟨_, _, hadd, -⟩ := Act.returnsFrom_bind.mp hrest
    obtain ⟨haccepted, -⟩ := Act.returns_addRoute.mp hadd
    exact ⟨hhandler, before, own, logger, asPath_eq_ok.mp hbeforeText, asPath_eq_ok.mp hownText, hlogger,
      haccepted⟩
  · rintro ⟨-, before, own, logger, hbefore, rfl, hlogger, haccepted⟩
    have hpath : c.settings.mountPath.asPath = .ok before := asPath_eq_ok.mpr hbefore
    refine Act.returnsFrom_bind.mpr ⟨before, w, Act.returns_ofAttempt.mpr ⟨hpath, rfl⟩, ?_⟩
    refine Act.returnsFrom_bind.mpr ⟨own, w, Act.returns_ofAttempt.mpr ⟨asPath_eq_ok.mpr rfl, rfl⟩, ?_⟩
    refine Act.returnsFrom_bind.mpr ⟨_, _, Act.returns_wrap.mpr ⟨logger, hlogger, rfl, rfl⟩, ?_⟩
    exact Act.returnsFrom_bind.mpr ⟨(), _, Act.returns_addRoute.mpr ⟨haccepted, rfl⟩, (), _, rfl⟩

/-- **A node acts exactly when it is not fatal.** -/
theorem visit_returns_iff {b : Behaviour U} {c : RouteConfig Value} {p : Payload Value} {w : World U} :
    (visit b c p).ReturnsFrom w ↔ ¬ p.IsFatal b c w := by
  -- in most cases the action is one that may fail, and then one that does not
  cases p with
  | server port host => exact iff_of_false (Act.not_returnsFrom_refuse _) (not_not_intro trivial)
  | logger level =>
    have hset : (visit b c (.logger level)).ReturnsFrom w ↔ ∃ n, levelValue level = .ok n :=
      (Act.returnsFrom_bind_of fun _ _ => ⟨_, _, rfl⟩).trans
        (Act.returnsFrom_mapFailure.trans Act.returnsFrom_setThreshold)
    rw [Payload.IsFatal, hset]
    simp
  | db provider =>
    by_cases hnone : provider = .none
    · subst hnone
      exact iff_of_false (Act.not_returnsFrom_refuse _) (not_not_intro (.inl rfl))
    · rw [Payload.IsFatal, visit_db hnone, Act.returnsFrom_bind_of fun _ _ => Act.returnsFrom_pure _ _,
        requestService_returnsFrom]
      simp [hnone]
  | cors origin methods =>
    obtain ⟨w', h⟩ := returns_tryCors ⟨origin, methods⟩ w
    exact iff_of_true ⟨_, _, h.bind_iff.mpr rfl⟩ id
  | rateLimiter max timeWindow keyHeader =>
    rw [Payload.IsFatal, visit, Act.returnsFrom_bind_of fun _ _ => Act.returnsFrom_pure _ _,
      Act.returnsFrom_ofAttempt]
    cases RateLimitSpec.ofNode max timeWindow keyHeader <;> simp [Except.mapError]
  | middleware use =>
    by_cases hnone : use = .none
    · subst hnone
      exact iff_of_false (Act.not_returnsFrom_refuse _) (not_not_intro rfl)
    · rw [visit_middleware hnone]
      exact iff_of_true (Act.returnsFrom_pure _ _) hnone
  | group path =>
    rw [Payload.IsFatal, visit, Act.returnsFrom_bind_of fun _ _ => Act.returnsFrom_pure _ _,
      Act.returnsFrom_ofAttempt]
    simp
  | routes dir path =>
    have hmount : (visit b c (.routes dir path)).ReturnsFrom w ↔ ∃ outside, c.withPath path = .ok outside ∧
        (mountDirectory b dir outside.settings.mountPath (c.setPath (.str ""))).ReturnsFrom w := by
      constructor
      · intro h
        obtain ⟨outside, _, hpath, hrest⟩ := Act.returnsFrom_bind.mp h
        obtain ⟨houtside, rfl⟩ := Act.returns_ofAttempt.mp hpath
        exact ⟨outside, houtside, (Act.returnsFrom_bind_of fun _ _ => Act.returnsFrom_pure _ _).mp hrest⟩
      · rintro ⟨outside, houtside, hmount⟩
        refine Act.returnsFrom_bind.mpr ⟨outside, w, Act.returns_ofAttempt.mpr ⟨houtside, rfl⟩, ?_⟩
        exact (Act.returnsFrom_bind_of fun _ _ => Act.returnsFrom_pure _ _).mpr hmount
    rw [Payload.IsFatal, hmount]
    simp
  | plugin handler name options =>
    obtain ⟨w', h⟩ := returns_tryPlugin b handler name options c w
    exact iff_of_true ⟨_, _, h.bind_iff.mpr rfl⟩ id
  | route method path handler schema =>
    rw [Payload.IsFatal, visit, Act.returnsFrom_bind_of fun _ _ => Act.returnsFrom_pure _ _,
      registerRoute_returnsFrom]
    simp
  | response | status code | body data | headers headers | err code message details | augment data
  | halt code message => exact iff_of_true (Act.returnsFrom_pure _ _) id

/-! ## Launches -/

/-- An application before its tree is walked: what its server sets is in effect unless it was configured
otherwise, and accesses are logged when the configuration asks for it. -/
def App.opened (app : App) (configured : Bool) (host port : Value) : App :=
  let app := if configured then app else { app with config := { host := host, port := port } }
  if app.config.accessLog.truthy then { app with responseHooks := app.responseHooks ++ [.accessLog] } else app

/-- The rest of a launch starts from the opened application. -/
theorem outcome_opened {x : Act U α} {w : World U} (hopen : w.app.frozen = false) (port host : Value) :
    outcome (do
      let world ← get
      if world.app.config.accessLog.truthy then
        Act.register fun app => app.onResponse .accessLog
      x : Act U α) w = outcome x { w with app := w.app.opened true host port } := by
  rw [Act.outcome_get_bind]
  cases hlog : w.app.config.accessLog.truthy with
  | false =>
    simp only [App.opened, hlog, if_true]
    rw [if_neg Bool.false_ne_true]
    rfl
  | true =>
    have hregister : Act.Returns (Act.register fun app => app.onResponse .accessLog) w ()
        { w with app := { w.app with responseHooks := w.app.responseHooks ++ [.accessLog] } } := by
      rw [Act.Returns, Act.register, Act.outcome_get_bind]
      simp only [App.onResponse, App.unlessFrozen, hopen]
      rfl
    simp only [App.opened, hlog, if_true]
    rw [outcome_bind, hregister]

/-- A launch is the walk along the children of its server, from the opened application, and a record of the
routes. -/
theorem outcome_build_eq {b : Behaviour U} {root port host : Value} {children : List Value} {w w₁ : World U}
    {configured : Bool}
    (hroot : Act.Returns (Act.expand (resolve b.expand root)) w (.node (.server port host) children) w₁)
    (hopen : w.app.frozen = false) :
    outcome (build b root configured) w = outcome (do
      walkTrees b nestingLimit children .empty
      let built ← get
      let routes ← Act.ofAttempt (built.app.listRoutes.mapError .refused)
      Act.log .tree .info ("Registered " ++ toString routes.length ++ " routes") : Act U Unit)
      { w₁ with app := w₁.app.opened configured host port } := by
  -- resolving the root does not touch the application
  have hstill : w₁.app.frozen = false := by
    obtain ⟨-, rfl⟩ := Act.returns_expand.mp hroot
    exact hopen
  rw [build, outcome_bind, hroot]
  cases configured with
  | true => exact outcome_opened hstill port host
  | false =>
    have hserver : ({ w₁ with app := { w₁.app with config := { host := host, port := port } } } :
        World U).app.frozen = false := hstill
    exact outcome_opened hserver port host

/-- So a launch returns exactly when this walk does and its routes can be listed. -/
theorem returns_build_iff {b : Behaviour U} {root port host : Value} {children : List Value} {w w₁ w' : World U}
    {configured : Bool}
    (hroot : Act.Returns (Act.expand (resolve b.expand root)) w (.node (.server port host) children) w₁)
    (hopen : w.app.frozen = false) :
    Act.Returns (build b root configured) w () w' ↔
      ∃ w₂ routes, Act.Returns (walkTrees b nestingLimit children .empty)
          { w₁ with app := w₁.app.opened configured host port } () w₂ ∧
        w₂.app.listRoutes = .ok routes ∧
        w' = { w₂ with env := w₂.env.emit .tree .info ("Registered " ++ toString routes.length ++ " routes") } := by
  rw [Act.Returns, outcome_build_eq hroot hopen]
  constructor
  · intro h
    obtain ⟨_, w₂, hwalk, h⟩ := Act.returns_bind.mp h
    obtain ⟨_, _, hget, h⟩ := Act.returns_bind.mp h
    obtain ⟨rfl, rfl⟩ := Act.returns_get.mp hget
    obtain ⟨routes, _, hlist, hlog⟩ := Act.returns_bind.mp h
    obtain ⟨hroutes, rfl⟩ := Act.returns_ofAttempt.mp hlist
    refine ⟨w₂, routes, hwalk, ?_, (Act.returns_log.mp hlog).symm⟩
    cases hlisted : w₂.app.listRoutes with
    | error refusal =>
      rw [hlisted] at hroutes
      cases hroutes
    | ok listed =>
      rw [hlisted] at hroutes
      rw [Except.ok.inj hroutes]
  · rintro ⟨w₂, routes, hwalk, hlisted, rfl⟩
    refine Act.returns_bind.mpr ⟨(), w₂, hwalk, Act.returns_bind.mpr ⟨w₂, w₂, rfl, ?_⟩⟩
    refine Act.returns_bind.mpr ⟨routes, w₂, Act.returns_ofAttempt.mpr ⟨?_, rfl⟩, Act.returns_log.mpr rfl⟩
    rw [hlisted]
    rfl

/-- What stops the walk along the children of a server stops the launch. -/
theorem outcome_build {b : Behaviour U} {root port host : Value} {children : List Value} {w w₁ w' : World U}
    {e : Stop} {configured : Bool}
    (hroot : Act.Returns (Act.expand (resolve b.expand root)) w (.node (.server port host) children) w₁)
    (hopen : w.app.frozen = false)
    (h : outcome (walkTrees b nestingLimit children .empty)
      { w₁ with app := w₁.app.opened configured host port } = (.error e, w')) :
    outcome (build b root configured) w = (.error e, w') := by
  rw [outcome_build_eq hroot hopen, outcome_bind, h]

/-! ## The whole walk -/

/-- **Walks are in preorder and stop at the first node that is fatal.** -/
theorem boot_in_preorder (b : Behaviour U) :
    (∀ v c w, ∃ visits, RunsInPreorder b c [v] w visits (outcome (walk b v c) w) ∧
      ∀ whole, b.Steady → Unfolds b [v] whole → visits.map NodeVisit.payload <+: whole.payloads ∧
        ((outcome (walk b v c) w).1 = .ok () → visits.map NodeVisit.payload = whole.payloads)) ∧
    (∀ c p w, (∃ e w', outcome (visit b c p) w = (.error e, w')) ↔ p.IsFatal b c w) ∧
    ∀ root configured w port host children w₁,
      Act.Returns (Act.expand (resolve b.expand root)) w (.node (.server port host) children) w₁ →
      w.app.frozen = false →
        let opened : World U := { w₁ with app := w₁.app.opened configured host port }
        ∃ visits, RunsInPreorder b .empty children opened visits
            (outcome (walkTrees b nestingLimit children .empty) opened) ∧
          ∀ e w', outcome (walkTrees b nestingLimit children .empty) opened = (.error e, w') →
            outcome (build b root configured) w = (.error e, w') := by
  refine ⟨fun v c w => ?_, fun c p w => ?_, fun root configured w port host children w₁ hroot hopen => ?_⟩
  · obtain ⟨visits, hruns⟩ := (ends_of_walkTree b nestingLimit v c w).runsInPreorder
    exact ⟨visits, hruns, fun whole hb hwhole => hruns.map_payload hb hwhole⟩
  · rw [← Act.not_returnsFrom_iff, visit_returns_iff, not_not]
  · have hends := ends_of_walkTrees (ends_of_walkTree b nestingLimit) children .empty
      { w₁ with app := w₁.app.opened configured host port }
    obtain ⟨visits, hruns⟩ := hends.runsInPreorder
    exact ⟨visits, hruns, fun e w' h => outcome_build hroot hopen h⟩

end ServerTree
