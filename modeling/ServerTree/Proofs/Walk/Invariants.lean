import ServerTree.Proofs.Directory.Chain
import ServerTree.Proofs.Keeping
import ServerTree.Proofs.Walk.Registrations

/-!
# What a walk keeps

Whatever the composites, the plugins and the modules of a tree do, a node that is reached does few things: it makes
records, it calls functions of the application, it wraps handlers and registers them, and it enables cross-origin
requests. A statement about the world that these keep holds wherever the visit ends. Of a statement about the
application and its limiters only what concerns these two is left, and it holds wherever the walk ends.

## Main definitions
- `RouteConfig.IsBelow`: a configuration in effect at a node, or below directories that are mounted there
- `World.KeptByVisits`: a statement about the world that what a node does keeps
- `App.KeptByRegistrations`: one about the application that registrations keep

## Main statements
- `preserves_visit`, `keeps_visit`: a node keeps it
- `keeps_walkTree`, `keeps_build`: so do a walk and a launch
-/

namespace ServerTree

variable {U : Type}

/-! ## The log level in effect -/

/-- The log level of a configuration is that of the deepest of some directories which sets one, and otherwise that
of another configuration, at which they are mounted. -/
def RouteConfig.IsBelow (config outer : RouteConfig Value) : Prop :=
  ∃ chain, config.settings.logLevel =
    (deepest? DirectoryConfig.logLevel? chain).getD outer.settings.logLevel

theorem RouteConfig.isBelow_self (c : RouteConfig Value) : c.IsBelow c := ⟨[], rfl⟩

/-- A longer path leaves the log level alone. -/
theorem logLevel_of_withPath {c c' : RouteConfig Value} {path : Value} (h : c.withPath path = .ok c') :
    c'.settings.logLevel = c.settings.logLevel := by
  obtain ⟨before, -, h⟩ := exists_of_bind_eq_ok h
  obtain ⟨own, -, h⟩ := exists_of_bind_eq_ok h
  obtain rfl := Except.ok.inj h
  rfl

/-- A directory overrides the log level or leaves it. -/
theorem logLevel_of_apply {level : DirectoryConfig} {c c' : RouteConfig Value} (h : level.apply c = .ok c') :
    c'.settings.logLevel = level.logLevel?.getD c.settings.logLevel := by
  rw [apply_eq] at h
  split at h
  · obtain rfl := Except.ok.inj h
    rw [foldl_withMiddleware]
    rfl
  · obtain ⟨below, hbelow, h⟩ := exists_of_bind_eq_ok h
    obtain rfl := Except.ok.inj h
    rw [foldl_withMiddleware]
    exact logLevel_of_withPath hbelow

/-- So a chain of directories leaves the level of the deepest that has one. -/
theorem isBelow_of_mergeChain {chain : List DirectoryConfig} {c c' : RouteConfig Value}
    (h : mergeChain c chain = .ok c') : c'.IsBelow c := by
  refine ⟨chain, ?_⟩
  induction chain using List.reverseRecOn generalizing c' with
  | nil =>
    obtain rfl := Except.ok.inj h
    rfl
  | append_singleton chain level ih =>
    rw [mergeChain, List.foldlM_append] at h
    obtain ⟨above, habove, h⟩ := exists_of_bind_eq_ok h
    obtain ⟨last, hlast, h⟩ := exists_of_bind_eq_ok h
    obtain rfl := Except.ok.inj h
    rw [logLevel_of_apply hlast, ih habove, deepest?_concat, Option.getD_or]

/-! ## What a node does to the world -/

/-- Wherever a statement holds, the course of a plugin keeps it: the plugin leaves it holding at each of its steps
and at its end. -/
inductive PluginCourse.Keeps (P : World U → Prop) : World U → PluginCourse U → Prop where
  | finish {w : World U} {env : Env U} {result : Attempt Unit} (left : P { w with env := env }) :
      Keeps P w (.finish env result)
  | act {w : World U} {env : Env U} {step : PluginStep} {resume : Env U → Attempt Unit → PluginCourse U}
      (left : P { w with env := env }) (resumes : ∀ v r, P v → Keeps P v (resume v.env r)) :
      Keeps P w (.act env step resume)

/-- What a node may do when it is reached with a configuration keeps a statement about the world: records, calls of
functions, and registrations of handlers, with this configuration or one below directories, and of what plugins
ask for. -/
structure World.KeptByVisits (b : Behaviour U) (c : RouteConfig Value) (P : World U → Prop) : Prop where
  records : ∀ {w}, P w → ∀ logger severity message, P (w.noting logger severity message)
  composites : ∀ {w}, P w → ∀ user, P { w with env := { w.env with user := user } }
  modules : ∀ {w}, P w → ∀ names, P { w with env := (b.load names w.env).2 }
  providers : ∀ {w}, P w → ∀ fn, P { w with env := (b.callProvide fn w.env).2 }
  plugins : ∀ {w}, P w → ∀ fn options, PluginCourse.Keeps P w (b.callPlugin fn options c w.env)
  route : ∀ {w}, P w → ∀ method path fn schema name,
    P { w with app := (w.app.route method path (.custom fn) schema name).1 }
  wrapped : ∀ {w}, P w → ∀ handler {config shown logger}, config.IsBelow c →
    RouteLogger.make shown config.settings.logLevel = .ok logger → ∀ method path schema name,
      let (endpoint, app) := w.app.wrapping handler config shown logger
      P { w with app := (app.route method path endpoint schema name).1 }
  middleware : ∀ {w app fn}, P w → w.app.addMiddleware (.custom fn) = .ok app → P { w with app := app }
  hook : ∀ {w app hook}, P w → w.app.onResponse hook = .ok app → P { w with app := app }

/-- Registrations of routes, and what else plugins ask for, keep a statement about an application and its
limiters, whether they are accepted or refused. -/
structure App.KeptByRegistrations (J : App → Bank Float → Prop) : Prop where
  route : ∀ {app bank}, J app bank → ∀ method path fn schema name,
    J (app.route method path (.custom fn) schema name).1 bank
  wrapped : ∀ {app bank}, J app bank → ∀ handler config shown logger method path schema name,
    let (endpoint, app) := app.wrapping handler config shown logger
    J (app.route method path endpoint schema name).1 bank
  middleware : ∀ {app app' bank fn}, J app bank → app.addMiddleware (.custom fn) = .ok app' → J app' bank
  hook : ∀ {app app' bank hook}, J app bank → app.onResponse hook = .ok app' → J app' bank

section

variable {J : App → Bank Float → Prop}

/-- A plugin gets at the application by what it asks for alone. -/
theorem PluginCourse.keeps_app (course : PluginCourse U) (w : World U) (h : J w.app w.limiters) :
    course.Keeps (fun w => J w.app w.limiters) w := by
  induction course generalizing w with
  | finish env result => exact .finish h
  | act env step resume ih => exact .act h fun v r hv => ih v.env r v hv

/-- Of what a node does, only registrations concern the application. -/
theorem App.KeptByRegistrations.keptByVisits (hJ : App.KeptByRegistrations J) (b : Behaviour U)
    (c : RouteConfig Value) : World.KeptByVisits b c fun w => J w.app w.limiters where
  records h _ _ _ := h
  composites h _ := h
  modules h _ := h
  providers h _ := h
  plugins h _ _ := PluginCourse.keeps_app _ _ h
  route h := hJ.route h
  wrapped {_} h handler {config shown logger} _ _ := hJ.wrapped h handler config shown logger
  middleware h := hJ.middleware h
  hook h := hJ.hook h

end

/-- The rules of a cross-origin node. -/
def Payload.corsSpec? : Payload Value → Option (CorsSpec Value)
  | .cors origin methods => some ⟨origin, methods⟩
  | _ => none

namespace Act

variable {α : Type} {P : World U → Prop} {b : Behaviour U} {c : RouteConfig Value}

/-! ## Registering -/

/-- A registration that is tried changes nothing but the application, also when it is refused. -/
theorem world_addRoute (method path : String) (endpoint : Endpoint) (schema name : Value) (w : World U) :
    (outcome (addRoute method path endpoint schema name : Act U Unit) w).2 =
      { w with app := (w.app.route method path endpoint schema name).1 } := by
  rw [addRoute, outcome_get_bind]
  show (outcome _ { w with app := (w.app.route method path endpoint schema name).1 }).2 = _
  cases (w.app.route method path endpoint schema name).2 <;> rfl

/-- A handler that cannot be wrapped changes nothing. -/
theorem world_of_wrap_error {handler : Value} {config : RouteConfig Value} {route : String} {stop : Stop}
    {w w' : World U} (h : outcome (wrap handler config route : Act U Endpoint) w = (.error stop, w')) :
    w' = w := by
  rw [wrap, outcome_get_bind] at h
  cases hwrap : w.app.wrap handler config route with
  | error f =>
    rw [hwrap] at h
    exact (Prod.mk.inj h).2.symm
  | ok wrapped =>
    rw [hwrap] at h
    cases (Prod.mk.inj h).1

/-- **Step lemma**: wrapping a handler and registering it is a registration. -/
theorem preserves_wrap_addRoute (hP : World.KeptByVisits b c P) (handler : Value) {config : RouteConfig Value}
    (hbelow : config.IsBelow c) (route method path : String) (schema name : Value) {rest : Act U α}
    (hrest : Preserves P rest) : Preserves P (do
      let endpoint ← wrap handler config route
      addRoute method path endpoint schema name
      rest) := by
  refine preserves_of _ fun w hw => ?_
  rw [outcome_bind]
  cases hwrap : outcome (wrap handler config route : Act U Endpoint) w with
  | mk r w₁ =>
    cases r with
    | error stop =>
      obtain rfl := world_of_wrap_error hwrap
      exact hw
    | ok endpoint =>
      obtain ⟨logger, hlogger, rfl, rfl⟩ := returns_wrap.mp hwrap
      have hadded := hP.wrapped hw handler hbelow hlogger method path schema name
      dsimp only
      rw [outcome_bind]
      cases hadd : outcome (addRoute method path _ schema name : Act U Unit) _ with
      | mk r w₂ =>
        -- the registration is tried, whether it is refused or not
        obtain rfl := (congrArg Prod.snd hadd).symm.trans (world_addRoute method path _ schema name _)
        cases r with
        | error stop => exact hadded
        | ok _ => exact hrest.holds hadded

/-! ## Loading modules -/

theorem preserves_loadModule (hP : World.KeptByVisits b c P) (names : List String) :
    Preserves P (loadModule b names) := by
  refine agree_bind (agree_withEnv fun w hw => ⟨rfl, hP.modules hw names⟩) fun r => ?_
  exact agree_ofAttempt r

theorem preserves_expand (hP : World.KeptByVisits b c P) (x : Expand U α) : Preserves P (expand x) :=
  agree_expand x fun _ user hw => hP.composites hw user

theorem preserves_log (hP : World.KeptByVisits b c P) (logger : Logger) (severity : Severity)
    (message : String) : Preserves P (log logger severity message : Act U Unit) :=
  agree_log fun _ hw => hP.records hw _ _ _

theorem preserves_logText (hP : World.KeptByVisits b c P) (logger : Logger) (severity : Severity)
    (message : Attempt String) : Preserves P (logText logger severity message : Act U Unit) :=
  agree_logText fun _ hw => hP.records hw _ _ _

theorem preserves_loadConfig (hP : World.KeptByVisits b c P) (names : List String) :
    Preserves P (loadConfig b names) := by
  refine agree_bind (preserves_loadModule hP _) fun exports => ?_
  exact agree_bind (agree_ofAttempt _) fun tree => preserves_expand hP _

theorem preserves_loadConfigs (hP : World.KeptByVisits b c P) (m : Mount) (directories : List (List String)) :
    Preserves P (loadConfigs b m directories) := by
  induction directories with
  | nil => exact agree_pure _
  | cons directory directories ih =>
    refine agree_bind (agree_attempt (preserves_loadConfig hP _)) fun r => ?_
    cases r with
    | ok config => exact agree_bind ih fun configs => agree_pure _
    | error f => exact agree_get_bind fun _ _ => agree_bind (preserves_logText hP _ _ _) fun _ => ih

theorem preserves_loadRoute (hP : World.KeptByVisits b c P) (m : Mount)
    (parsed : List (FilePath × DirectoryConfig)) (names : List String) :
    Preserves P (loadRoute b m parsed names) := by
  refine agree_bind (agree_attempt (preserves_loadModule hP _)) fun r => ?_
  cases r with
  | error f => exact agree_bind (preserves_logText hP _ _ _) fun _ => agree_pure _
  | ok exports =>
    dsimp only
    split
    · exact agree_bind (preserves_log hP _ _ _) fun _ => agree_pure _
    · refine agree_bind (agree_ofAttempt _) fun merged => ?_
      -- whatever the middleware is, the module is then put together from texts
      have hmade : ∀ {f : String → String → String → RouteModule} {v v' : Attempt String} {url : Attempt String},
          Preserves P (do
            let url ← ofAttempt url
            let before ← ofAttempt v
            let path ← ofAttempt v'
            return some (f url before path) : Act U (Option RouteModule)) := by
        intro f v v' url
        refine agree_bind (agree_ofAttempt _) fun url => ?_
        refine agree_bind (agree_ofAttempt _) fun before => ?_
        exact agree_bind (agree_ofAttempt _) fun path => agree_pure _
      split
      · exact agree_bind (agree_pure _) fun middleware => hmade
      · refine agree_get_bind fun _ _ => ?_
        refine agree_bind (preserves_logText hP _ _ _) fun _ => ?_
        exact agree_bind (agree_pure _) fun middleware => hmade

theorem preserves_loadRoutes (hP : World.KeptByVisits b c P) (m : Mount)
    (parsed : List (FilePath × DirectoryConfig)) (paths : List (List String)) :
    Preserves P (loadRoutes b m parsed paths) := by
  induction paths with
  | nil => exact agree_pure _
  | cons path paths ih =>
    refine agree_bind (preserves_loadRoute hP m parsed path) fun r => ?_
    exact agree_bind ih fun rs => agree_pure _

/-- A discovery registers nothing. -/
theorem preserves_discoverRoutes (hP : World.KeptByVisits b c P) (directory path : Value)
    (inherited : RouteConfig Value) : Preserves P (discoverRoutes b directory path inherited) := by
  refine agree_bind (agree_ofAttempt _) fun written => ?_
  refine agree_get_bind fun w _ => ?_
  refine agree_bind (agree_ofAttempt _) fun there => ?_
  cases there with
  | none => exact agree_bind (preserves_log hP _ _ _) fun _ => agree_pure _
  | some root =>
    dsimp only
    split
    · exact agree_bind (preserves_log hP _ _ _) fun _ => agree_pure _
    · refine agree_bind (agree_forIn (fun link _ _ => ?_) _) fun _ => ?_
      · exact agree_bind (preserves_log hP _ _ _) fun _ => agree_pure _
      exact agree_bind (preserves_loadConfigs hP _ _) fun parsed => preserves_loadRoutes hP _ parsed _

/-! ## What is discovered -/

section

variable {w w' : World U}

/-- A route module has a configuration below directories. -/
theorem isBelow_of_loadRoute {m : Mount} {parsed : List (FilePath × DirectoryConfig)} {names : List String}
    {r : RouteModule} (h : Returns (loadRoute b m parsed names) w (some r) w') : r.config.IsBelow m.inherited := by
  obtain ⟨loaded, w₁, -, h⟩ := returns_bind.mp h
  cases loaded with
  | error f =>
    obtain ⟨_, _, -, h⟩ := returns_bind.mp h
    exact absurd (returns_pure.mp h).1 (by simp)
  | ok exports =>
    dsimp only at h
    split at h
    · obtain ⟨_, _, -, h⟩ := returns_bind.mp h
      exact absurd (returns_pure.mp h).1 (by simp)
    · obtain ⟨merged, _, hmerged, h⟩ := returns_bind.mp h
      have hbelow := isBelow_of_mergeChain (returns_ofAttempt.mp hmerged).1
      -- the middleware of the module joins the chain and leaves the settings alone
      have hmade : ∀ {w₁ : World U} (fns : List Value) {url before path : Attempt String}
          {f : String → String → String → RouteModule},
          (∀ u s p, (f u s p).config = fns.foldl RouteConfig.withMiddleware merged) →
          Returns (do
            let url ← ofAttempt url
            let before ← ofAttempt before
            let path ← ofAttempt path
            return some (f url before path)) w₁ (some r) w' → r.config.IsBelow m.inherited := by
        intro w₁ fns url before path f hconfig hmade
        obtain ⟨u, _, -, hmade⟩ := returns_bind.mp hmade
        obtain ⟨s, _, -, hmade⟩ := returns_bind.mp hmade
        obtain ⟨p, _, -, hmade⟩ := returns_bind.mp hmade
        obtain rfl := Option.some.inj (returns_pure.mp hmade).1
        rw [hconfig, foldl_withMiddleware]
        exact hbelow
      split at h
      · obtain ⟨fns, _, -, h⟩ := returns_bind.mp h
        exact hmade fns (fun _ _ _ => rfl) h
      · obtain ⟨_, _, -, h⟩ := returns_bind.mp h
        obtain ⟨_, _, -, h⟩ := returns_bind.mp h
        obtain ⟨fns, _, -, h⟩ := returns_bind.mp h
        exact hmade fns (fun _ _ _ => rfl) h

theorem isBelow_of_loadRoutes {m : Mount} {parsed : List (FilePath × DirectoryConfig)}
    {paths : List (List String)} {modules : List RouteModule}
    (h : Returns (loadRoutes b m parsed paths) w modules w') : ∀ r ∈ modules, r.config.IsBelow m.inherited := by
  induction paths generalizing w w' modules with
  | nil =>
    obtain ⟨rfl, -⟩ := returns_pure.mp h
    exact fun r hr => nomatch hr
  | cons path paths ih =>
    obtain ⟨first?, w₁, hfirst, h⟩ := returns_bind.mp h
    obtain ⟨rest, w₂, hrest, h⟩ := returns_bind.mp h
    obtain ⟨rfl, -⟩ := returns_pure.mp h
    intro r hr
    rcases List.mem_append.mp hr with hhere | hlater
    · obtain rfl := Option.mem_toList.mp hhere
      exact isBelow_of_loadRoute hfirst
    · exact ih hrest r hlater

/-- So does every module that is discovered. -/
theorem isBelow_of_discoverRoutes {directory path : Value} {inherited : RouteConfig Value}
    {modules : List RouteModule} (h : Returns (discoverRoutes b directory path inherited) w modules w') :
    ∀ r ∈ modules, r.config.IsBelow inherited := by
  -- a directory that is missing has no modules
  have hnone : ∀ {w₁ : World U} {message : String}, Returns (do
      log .files .error message
      return []) w₁ modules w' → ∀ r ∈ modules, r.config.IsBelow inherited := by
    intro w₁ message hmissing
    obtain ⟨_, _, -, hmissing⟩ := returns_bind.mp hmissing
    obtain ⟨rfl, -⟩ := returns_pure.mp hmissing
    exact fun r hr => nomatch hr
  obtain ⟨written, _, -, h⟩ := returns_bind.mp h
  obtain ⟨v, _, -, h⟩ := returns_bind.mp h
  obtain ⟨there, _, -, h⟩ := returns_bind.mp h
  cases there with
  | none => exact hnone h
  | some root =>
    dsimp only at h
    split at h
    · exact hnone h
    · obtain ⟨_, _, -, h⟩ := returns_bind.mp h
      obtain ⟨parsed, _, -, h⟩ := returns_bind.mp h
      exact isBelow_of_loadRoutes h

end

/-! ## Nodes -/

/-- What a plugin asks for is registered. -/
theorem preserves_pluginStep (hP : World.KeptByVisits b c P) (step : PluginStep) :
    Preserves P (step.run : Act U Unit) := by
  cases step with
  | route method path endpoint name =>
    have hrest : Preserves P (do
        let m ← ofAttempt (method.inCapitals.bind fun m => m.asText "upper")
        let p ← ofAttempt (path.asText "strip")
        addRoute m p (.custom endpoint) .none name : Act U Unit) := by
      refine agree_bind (agree_ofAttempt _) fun m => ?_
      refine agree_bind (agree_ofAttempt _) fun p => preserves_of _ fun w hw => ?_
      rw [world_addRoute]
      exact hP.route hw m p endpoint .none name
    refine agree_get_bind fun w _ => ?_
    split
    · exact agree_bind (agree_refuse _) fun _ => hrest
    · exact hrest
  | middleware use =>
    exact preserves_register (f := fun app => app.addMiddleware (.custom use)) fun w app hw happ =>
      hP.middleware hw happ
  | onResponse hook =>
    exact preserves_register (f := fun app => app.onResponse (.custom hook)) fun w app hw happ => hP.hook hw happ

/-- A plugin that keeps a statement keeps it until it ends. The induction is on its course, which goes on from
every answer. -/
theorem PluginCourse.Keeps.holds (hP : World.KeptByVisits b c P) {course : PluginCourse U} {w : World U}
    (h : course.Keeps P w) : P (outcome (runPlugin course) w).2 := by
  induction h with
  | finish left => exact (agree_ofAttempt _).holds left
  | @act w env step resume left _ ih =>
    have hrest : Preserves P (do
        let r ← attempt step.run
        let world ← get
        runPlugin (resume world.env r)) := by
      refine agree_bind (agree_attempt (preserves_pluginStep hP step)) fun r => ?_
      exact preserves_of _ fun v hv => ih v r hv
    exact hrest.holds left

theorem preserves_startPlugin (hP : World.KeptByVisits b c P) (handler options : Value) :
    Preserves P (startPlugin b handler options c) := by
  refine agree_bind (agree_ofAttempt _) fun given => preserves_of _ fun w hw => ?_
  exact PluginCourse.Keeps.holds hP (hP.plugins hw handler given)

theorem preserves_tryPlugin (hP : World.KeptByVisits b c P) (handler name options : Value) :
    Preserves P (tryPlugin b handler name options c) := by
  unfold tryPlugin
  dsimp only
  split
  · exact preserves_logText hP _ _ _
  · refine agree_bind (agree_attempt (preserves_startPlugin hP handler options)) fun r => ?_
    cases r with
    | ok _ => exact preserves_logText hP _ _ _
    | error f => exact preserves_logText hP _ _ _

theorem preserves_tryCors {spec : CorsSpec Value}
    (hrecords : ∀ {w}, P w → ∀ logger severity message, P (w.noting logger severity message))
    (hspec : ∀ {w app}, P w → w.app.enableCors spec = .ok app → P { w with app := app }) :
    Preserves P (tryCors spec : Act U Unit) := by
  have hregister : Preserves P (register fun app => app.enableCors spec : Act U Unit) :=
    preserves_register fun w app hw happ => hspec hw happ
  refine agree_bind (agree_attempt hregister) fun r => ?_
  cases r with
  | ok _ => exact agree_pure _
  | error f => exact agree_logText fun _ hw => hrecords hw _ _ _

theorem preserves_requestService (hP : World.KeptByVisits b c P) (provider : Value) :
    Preserves P (requestService b provider) := by
  refine agree_bind (agree_withEnv fun w hw => ⟨rfl, hP.providers hw provider⟩) fun r => ?_
  cases r with
  | returned service => exact agree_bind (preserves_log hP _ _ _) fun _ => agree_pure _
  | suspended rest => exact agree_throw _
  | raised f =>
    refine agree_bind (preserves_logText hP _ _ _) fun _ => ?_
    exact agree_bind (agree_ofAttempt _) fun reason => agree_refuse _

theorem preserves_registerRoute (hP : World.KeptByVisits b c P) (method : String) (path handler schema : Value) :
    Preserves P (registerRoute method path handler schema c : Act U Unit) := by
  unfold registerRoute
  split
  · exact agree_bind (agree_ofAttempt _) fun shown => agree_refuse _
  · refine agree_bind (agree_ofAttempt _) fun before => ?_
    refine agree_bind (agree_ofAttempt _) fun own => ?_
    exact preserves_wrap_addRoute hP _ c.isBelow_self _ _ _ _ _ (preserves_log hP _ _ _)

/-- The handlers of a route module are wrapped and registered one by one. -/
theorem preserves_registerModule (hP : World.KeptByVisits b c P) {r : RouteModule} (hr : r.config.IsBelow c) :
    Preserves P (r.register : Act U Unit) := by
  refine agree_bind (agree_forIn (fun handler _ _ => ?_) _) fun _ => agree_pure _
  refine preserves_wrap_addRoute hP _ hr _ _ _ _ _ ?_
  exact agree_bind (preserves_log hP _ _ _) fun _ => agree_pure _

/-- The modules of a directory are registered with configurations below the one that it is mounted at. -/
theorem preserves_mountDirectory (hP : World.KeptByVisits b c P) (directory path : Value)
    {inherited : RouteConfig Value} (hlevel : inherited.settings.logLevel = c.settings.logLevel) :
    Preserves P (mountDirectory b directory path inherited) := by
  refine agree_bind_of_returns (preserves_discoverRoutes hP directory path inherited) fun modules _ _ hfound => ?_
  refine agree_bind (agree_forIn (fun r hr _ => ?_) _) fun _ => ?_
  · obtain ⟨chain, hchain⟩ := isBelow_of_discoverRoutes hfound r hr
    exact agree_bind (preserves_registerModule hP ⟨chain, hlevel ▸ hchain⟩) fun _ => agree_pure _
  exact agree_bind (preserves_logText hP _ _ _) fun _ => agree_pure _

/-- **Step lemma**: whatever a node does when it is reached, it keeps what its single steps keep: setting the
threshold and enabling cross-origin requests, if it does that, and all others. -/
theorem preserves_visit (hP : World.KeptByVisits b c P) {p : Payload Value}
    (hlogger : ∀ level, p = .logger level → Preserves P (setThreshold level : Act U Unit))
    (hcors : ∀ spec, p.corsSpec? = some spec → Preserves P (tryCors spec : Act U Unit)) :
    Preserves P (visit b c p) := by
  cases p with
  | server port host => exact agree_refuse _
  | logger level =>
    refine agree_bind (agree_mapFailure _ (hlogger level rfl)) fun _ => ?_
    exact agree_bind (preserves_logText hP _ _ _) fun _ => agree_pure _
  | db provider =>
    by_cases hnone : provider = .none
    · subst hnone
      exact agree_refuse _
    · rw [visit_db hnone]
      exact agree_bind (preserves_requestService hP provider) fun service => agree_pure _
  | cors origin methods => exact agree_bind (hcors _ rfl) fun _ => agree_pure _
  | rateLimiter max timeWindow keyHeader => exact agree_bind (agree_ofAttempt _) fun spec => agree_pure _
  | middleware use =>
    by_cases hnone : use = .none
    · subst hnone
      exact agree_refuse _
    · rw [visit_middleware hnone]
      exact agree_pure _
  | group path => exact agree_bind (agree_ofAttempt _) fun below => agree_pure _
  | routes dir path =>
    refine agree_bind (agree_ofAttempt _) fun outside => ?_
    exact agree_bind (preserves_mountDirectory hP _ _ rfl) fun modules => agree_pure _
  | plugin handler name options => exact agree_bind (preserves_tryPlugin hP _ _ _) fun _ => agree_pure _
  | route method path handler schema =>
    exact agree_bind (preserves_registerRoute hP _ _ _ _) fun _ => agree_pure _
  | response | status code | body data | headers headers | err code message details | augment data
  | halt code message => exact agree_pure _

/-! ## Trees -/

variable (b) {J : App → Bank Float → Prop}

theorem keeps_tryCors {spec : CorsSpec Value}
    (hspec : ∀ app app' bank, app.enableCors spec = .ok app' → J app bank → J app' bank) :
    Keeps J (tryCors spec : Act U Unit) :=
  (preserves_tryCors (fun h _ _ _ => h) fun {w app} hw happ => hspec w.app app w.limiters happ hw).keeps

/-- **Step lemma**: so a node keeps what registrations keep, and what enabling cross-origin requests keeps if it
does that. -/
theorem keeps_visit (hJ : App.KeptByRegistrations J) (c : RouteConfig Value) {p : Payload Value}
    (hcors : ∀ spec, p.corsSpec? = some spec → Keeps J (tryCors spec : Act U Unit)) :
    Keeps J (visit b c p) :=
  (preserves_visit (hJ.keptByVisits b c) (fun _ _ => preserves_of _ (keeps_changeLog _))
    fun spec hspec => preserves_of _ (hcors spec hspec)).keeps

/-- **Run lemma**: a walk along a row keeps what those along its values keep. -/
theorem keeps_walkTrees {fuel : Nat} (htree : ∀ v c, Keeps J (walkTree b fuel v c))
    (vs : List Value) (c : RouteConfig Value) : Keeps J (walkTrees b fuel vs c) := by
  induction vs with
  | nil =>
    rw [walkTrees]
    exact keeps_pure _
  | cons v vs ih =>
    rw [walkTrees]
    exact keeps_bind (htree v c) fun _ => ih

/-- The induction is on the fuel: rows of nodes have less than what they stand in, and so have children. -/
theorem keeps_walkTree (hJ : App.KeptByRegistrations J)
    (hcors : ∀ spec, Keeps J (tryCors spec : Act U Unit)) (fuel : Nat) (v : Value) (c : RouteConfig Value) :
    Keeps J (walkTree b fuel v c) := by
  induction fuel using Nat.strongRecOn generalizing v c with
  | ind fuel ih =>
    cases fuel with
    | zero =>
      rw [walkTree]
      exact keeps_refuse _
    | succ fuel =>
      rw [walkTree]
      refine keeps_bind (keeps_expand _) fun r => ?_
      cases r with
      | nothing => exact keeps_pure _
      | items xs => exact keeps_walkTrees b (ih fuel (Nat.lt_succ_self fuel)) xs c
      | node p children =>
        refine keeps_bind (keeps_visit b hJ c fun spec _ => hcors spec) fun below => ?_
        cases below with
        | none => exact keeps_pure _
        | some below =>
          have hdepth := depth_pos p.kind
          exact keeps_walkTrees b (ih _ (by omega)) children below

/-- **Run lemma**: so does building an application from a tree, when the settings of the application do not
matter. -/
theorem keeps_build (hJ : App.KeptByRegistrations J) (hcors : ∀ spec, Keeps J (tryCors spec : Act U Unit))
    (hconfig : ∀ app bank config, J app bank → J { app with config := config } bank) (root : Value)
    (configured : Bool) : Keeps J (build b root configured) := by
  -- with or without an access log the rest is a walk of the children
  have hwalk : ∀ cs, Keeps J (do
      walkTrees b nestingLimit cs .empty
      let built ← get
      let routes ← ofAttempt (built.app.listRoutes.mapError .refused)
      log .tree .info ("Registered " ++ toString routes.length ++ " routes") : Act U Unit) := by
    intro cs
    refine keeps_bind (keeps_walkTrees b (keeps_walkTree b hJ hcors nestingLimit) cs .empty) fun _ => ?_
    refine keeps_bind keeps_get fun built => ?_
    exact keeps_bind (keeps_ofAttempt _) fun routes => keeps_log _ _ _
  have hhook : ∀ cs, Keeps J (do
      let world ← get
      if world.app.config.accessLog.truthy then register fun app => app.onResponse .accessLog
      walkTrees b nestingLimit cs .empty
      let built ← get
      let routes ← ofAttempt (built.app.listRoutes.mapError .refused)
      log .tree .info ("Registered " ++ toString routes.length ++ " routes") : Act U Unit) := by
    intro cs
    refine keeps_bind keeps_get fun world => ?_
    split
    · exact keeps_bind (keeps_register fun app app' bank happ h => hJ.hook h happ) fun _ => hwalk cs
    · exact hwalk cs
  have hconfigure : ∀ port host, Keeps J (modify (fun w : World U =>
      { w with app := { w.app with config := { host := host, port := port } } }) : Act U PUnit) :=
    fun port host w h => hconfig w.app w.limiters _ h
  refine keeps_bind (keeps_expand _) fun r => ?_
  cases r with
  | node p cs =>
    cases p with
    | server port host =>
      cases configured with
      | true => exact hhook cs
      | false => exact keeps_bind (hconfigure port host) fun _ => hhook cs
    | _ => exact keeps_refuse _
  | items xs => exact keeps_refuse _
  | nothing => exact keeps_refuse _

end Act

end ServerTree
