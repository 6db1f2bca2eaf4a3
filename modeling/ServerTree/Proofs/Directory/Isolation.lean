import ServerTree.Proofs.Alike
import ServerTree.Proofs.Directory.Absence
import ServerTree.Proofs.Directory.Discovery

/-!
# Broken modules beside others

A module that cannot be loaded is noted and passed over. A directory of routes is then mounted as if the file
of the module were absent: the others are loaded with the same configurations, and the same is registered in
the same order. This holds of everything that comes to light while a module is loaded. The level of a route's
logger is looked up later, when its handlers are registered, and a level that is not known fails the mount.

## Main definitions
- `ConfigDefect`: the ways in which the load of a configuration module fails
- `Bystanders`: the broken modules of a directory fail to load, and the others do not notice
- `World.Akin`: worlds in which application code finds the same

## Main statements
- `alike_loadConfigs`, `alike_loadRoutes`: run lemmas, with the broken modules on one side only
- `mount_isolates_broken`: a directory is mounted as if its broken modules were absent
-/

namespace ServerTree

variable {U : Type} {α : Type} {same : U → U → Prop}

/-! ## Defects -/

/-- Why the configuration module of a directory cannot be loaded, and what is left after the attempt. -/
inductive ConfigDefect (b : Behaviour U) (names : List String) (env : Env U) : Fault → Env U → Prop
  /-- Its own code fails. -/
  | raises {f : Fault} {after : Env U} :
      b.load (names ++ [configFileName]) env = (.error f, after) → ConfigDefect b names env f after
  /-- It exports nothing usable. -/
  | unusable {exports : Exports} {f : Fault} {after : Env U} :
      b.load (names ++ [configFileName]) env = (.ok exports, after) →
      exportedConfig (Assoc.get? "config" exports) = .error f → ConfigDefect b names env f after
  /-- What it exports cannot be collected: a composite does not resolve, or a node is refused. -/
  | undeclared {exports : Exports} {tree : Value} {f : Fault} {after : Env U} {user : U} :
      b.load (names ++ [configFileName]) env = (.ok exports, after) →
      exportedConfig (Assoc.get? "config" exports) = .ok tree →
      outcome (collectConfig b.expand tree) after.user = (.error f, user) →
      ConfigDefect b names env f { after with user := user }

theorem outcome_loadModule (b : Behaviour U) (names : List String) (w : World U) :
    outcome (loadModule b names) w =
      ((b.load names w.env).1.mapError .failed, { w with env := (b.load names w.env).2 }) :=
  outcome_ofAttempt _ _

theorem outcome_loadModule_error {b : Behaviour U} {names : List String} {w : World U} {f : Fault}
    {after : Env U} (h : b.load names w.env = (.error f, after)) :
    outcome (loadModule b names) w = (.error (.failed f), { w with env := after }) := by
  rw [outcome_loadModule, h]
  rfl

/-- A load with a defect fails. -/
theorem ConfigDefect.outcome_loadConfig {b : Behaviour U} {names : List String} {w : World U} {f : Fault}
    {after : Env U} (h : ConfigDefect b names w.env f after) :
    outcome (loadConfig b names) w = (.error (.failed f), { w with env := after }) := by
  rw [loadConfig, outcome_bind]
  cases h with
  | raises hload => rw [outcome_loadModule_error hload]
  | unusable hload hexport =>
    rw [outcome_loadModule, hload]
    dsimp only [Except.mapError]
    rw [outcome_bind, outcome_ofAttempt, hexport]
    rfl
  | @undeclared exports tree f after user hload hexport hcollect =>
    rw [outcome_loadModule, hload]
    dsimp only [Except.mapError]
    rw [outcome_bind, outcome_ofAttempt, hexport]
    exact outcome_expand (w := { w with env := after }) hcollect

/-- Composites do the same in states that are in a relation. -/
def CallsAlike (same : U → U → Prop) (call : Expander U) : Prop :=
  ∀ f named children, Alike same Eq (call f named children) (call f named children)

/-- Some modules of a directory are broken, and the others are bystanders: a relation between states of
application code holds whatever a broken module did to one of them, and loads of the others cannot tell states
in the relation apart. -/
structure Bystanders (b : Behaviour U) (same : U → U → Prop) (root : List String) (scan : Scan)
    (broken : List (List String)) : Prop where
  configs : ∀ directory ∈ scan.configs, directory ++ [configFileName] ∈ broken →
    ∀ env env' : Env U, same env.user env'.user →
      ∃ f after, ConfigDefect b (root ++ directory) env f after ∧ same after.user env'.user
  routes : ∀ path ∈ scan.routes, path ∈ broken → ∀ env env' : Env U, same env.user env'.user →
    ∃ f after, b.load (root ++ path) env = (.error f, after) ∧ same after.user env'.user
  others : ∀ path ∉ broken, ∀ env env' : Env U, same env.user env'.user →
    (b.load (root ++ path) env).1 = (b.load (root ++ path) env').1 ∧
      same (b.load (root ++ path) env).2.user (b.load (root ++ path) env').2.user
  composites : CallsAlike same b.expand

/-! ## Collecting side by side -/

section

variable {call : Expander U}

theorem alike_callComposite (hcall : CallsAlike same call) (type : Value)
    (props : List (Value × Value)) (children : List Value) :
    Alike same Eq (callComposite call type props children) (callComposite call type props children) := by
  cases type with
  | func f =>
    simp only [callComposite]
    split
    · exact hcall f _ _
    · exact alike_throw _
  | _ => exact alike_throw _

theorem alike_resolveWithin (hcall : CallsAlike same call) (n : Nat) (v : Value) :
    Alike same Eq (resolveWithin call n v) (resolveWithin call n v) := by
  induction n generalizing v with
  | zero => cases v <;> first | exact alike_pure rfl | exact alike_throw _
  | succ n ih =>
    cases v with
    | element type props children =>
      refine (alike_callComposite hcall type props children).bind_eq fun v => ?_
      exact (ih v).bind_eq fun _ => alike_pure rfl
    | _ => exact alike_pure rfl

mutual

theorem alike_collectTree (hcall : CallsAlike same call) :
    (fuel : Nat) → (v : Value) → (c : DirectoryConfig) →
      Alike same Eq (collectTree call fuel v c) (collectTree call fuel v c)
  | 0, _, _ => by
    simp only [collectTree]
    exact alike_throw _
  | fuel + 1, v, c => by
    simp only [collectTree]
    refine (alike_resolveWithin hcall maxExpansions v).bind_eq fun r => ?_
    cases r with
    | nothing => exact alike_pure rfl
    | items xs => exact alike_collectTrees hcall fuel xs c
    | node p cs =>
      dsimp only
      split
      · exact alike_throw _
      · exact alike_collectTrees hcall fuel cs _
termination_by fuel => (fuel, 0)

theorem alike_collectTrees (hcall : CallsAlike same call) (fuel : Nat) : (vs : List Value) → (c : DirectoryConfig) →
      Alike same Eq (collectTrees call fuel vs c) (collectTrees call fuel vs c)
  | [], _ => by
    simp only [collectTrees]
    exact alike_pure rfl
  | v :: vs, c => by
    simp only [collectTrees]
    exact (alike_collectTree hcall fuel v c).bind_eq fun c => alike_collectTrees hcall fuel vs c
termination_by vs => (fuel, vs.length + 1)

end

end

/-! ## Worlds in which application code finds the same -/

/-- Two worlds differ in records, the clock and files at most, as far as application code can tell. -/
def World.Akin (same : U → U → Prop) (w w' : World U) : Prop :=
  ∃ env files, w' = { w with env := env, files := files } ∧ same w.env.user env.user

/-- What only one of two worlds goes through, as far as application code can tell. -/
theorem World.Akin.after {w w' : World U} (h : w.Akin same w') {env : Env U}
    (henv : same env.user w'.env.user) : World.Akin same { w with env := env } w' := by
  obtain ⟨env', files, rfl, -⟩ := h
  exact ⟨env', files, rfl, henv⟩

theorem World.Akin.user {w w' : World U} (h : w.Akin same w') : same w.env.user w'.env.user := by
  obtain ⟨env, files, rfl, hsame⟩ := h
  exact hsame

namespace World.Akin

theorem alike_expand {x : Expand U α} (hx : Alike same Eq x x) :
    Alike (World.Akin same) Eq (Act.expand x) (Act.expand x) := by
  rintro w _ ⟨env, files, rfl, hsame⟩
  obtain ⟨a, _, user, user', hends, hends', rfl, huser⟩ | ⟨f, user, user', hends, hends', huser⟩ :=
    (hx _ _ hsame).ways
  · rw [outcome_expand hends, outcome_expand hends']
    exact .returned rfl ⟨_, files, rfl, huser⟩
  · rw [outcome_expand hends, outcome_expand hends']
    exact .stopped _ ⟨_, files, rfl, huser⟩

/-- Records may differ. -/
theorem alike_logText (logger : Logger) (severity : Severity) (message message' : Attempt String) :
    Alike (World.Akin same) Eq (Act.logText logger severity message) (Act.logText logger severity message') := by
  refine alike_modify ?_
  rintro w _ ⟨env, files, rfl, hsame⟩
  exact ⟨_, files, rfl, hsame⟩

theorem alike_log (logger : Logger) (severity : Severity) (message message' : String) :
    Alike (World.Akin same) Eq (Act.log logger severity message) (Act.log logger severity message') := by
  refine alike_modify ?_
  rintro w _ ⟨env, files, rfl, hsame⟩
  exact ⟨_, files, rfl, hsame⟩

/-- A record that is made in one world only. -/
theorem logText_left (logger : Logger) (severity : Severity) (message : Attempt String) (w w' : World U)
    (h : w.Akin same w') :
    ∃ a v, outcome (Act.logText logger severity message) w = (.ok a, v) ∧ True ∧ World.Akin same v w' :=
  ⟨(), _, rfl, trivial, h.after h.user⟩

theorem alike_wrap (handler : Value) (config : RouteConfig Value) (route : String) :
    Alike (World.Akin same) Eq (Act.wrap handler config route) (Act.wrap handler config route) := by
  refine alike_get.bind ?_
  rintro w _ ⟨env, files, rfl, hsame⟩
  refine (Act.alike_ofAttempt _).bind_eq fun r => ?_
  exact (alike_set ⟨env, files, rfl, hsame⟩).bind_eq fun _ => alike_pure rfl

theorem alike_addRoute (method path : String) (endpoint : Endpoint) (schema name : Value) :
    Alike (World.Akin same) Eq (Act.addRoute method path endpoint schema name)
      (Act.addRoute method path endpoint schema name) := by
  refine alike_get.bind ?_
  rintro w _ ⟨env, files, rfl, hsame⟩
  refine (alike_set ⟨env, files, rfl, hsame⟩).bind_eq fun _ => ?_
  dsimp only
  split
  · exact alike_pure rfl
  · exact Act.alike_refuse _

end World.Akin

/-! ## Loads side by side -/

section

variable {b : Behaviour U} {root : List String} {scan : Scan} {broken : List (List String)}

theorem Bystanders.alike_loadModule (h : Bystanders b same root scan broken) {path : List String}
    (hpath : path ∉ broken) :
    Alike (World.Akin same) Eq (loadModule b (root ++ path)) (loadModule b (root ++ path)) := by
  rintro w _ ⟨env, files, rfl, hsame⟩
  obtain ⟨hexports, huser⟩ := h.others path hpath w.env env hsame
  rw [outcome_loadModule, outcome_loadModule, hexports]
  cases (b.load (root ++ path) env).1 with
  | ok exports => exact .returned rfl ⟨_, files, rfl, huser⟩
  | error f => exact .stopped _ ⟨_, files, rfl, huser⟩

theorem Bystanders.alike_loadConfig (h : Bystanders b same root scan broken) {directory : List String}
    (hdirectory : directory ++ [configFileName] ∉ broken) :
    Alike (World.Akin same) Eq (loadConfig b (root ++ directory)) (loadConfig b (root ++ directory)) := by
  have hload := h.alike_loadModule hdirectory
  rw [← List.append_assoc] at hload
  refine hload.bind_eq fun exports => ?_
  refine (Act.alike_ofAttempt _).bind_eq fun tree => ?_
  exact World.Akin.alike_expand (alike_collectTree h.composites nestingLimit tree {})

/-- What fails in one world only is attempted in vain there. -/
theorem attempt_left {load : Act U α} {w w' : World U} {f : Fault} {after : Env U}
    (h : w.Akin same w') (hload : outcome load w = (.error (.failed f), { w with env := after }))
    (hafter : same after.user w'.env.user) :
    ∃ r v, outcome (Act.attempt load) w = (.ok r, v) ∧ (∃ f, r = .error f) ∧ World.Akin same v w' := by
  refine ⟨.error f, { w with env := after }, ?_, ⟨f, rfl⟩, h.after hafter⟩
  rw [Act.outcome_attempt, hload]

/-- **Run lemma**: the configurations that are loaded are those that are loaded without the broken modules. -/
theorem Bystanders.alike_loadConfigs (h : Bystanders b same root scan broken) (path : Value)
    (inherited : RouteConfig Value) {directories : List (List String)}
    (hsub : ∀ directory ∈ directories, directory ∈ scan.configs) :
    Alike (World.Akin same) Eq (loadConfigs b ⟨root, path, inherited⟩ directories)
      (loadConfigs b ⟨root, path, inherited⟩
        (directories.filter fun directory => decide (directory ++ [configFileName] ∉ broken))) := by
  induction directories with
  | nil => exact alike_pure rfl
  | cons directory directories ih =>
    have hrest := ih fun other hmem => hsub other (List.mem_cons_of_mem _ hmem)
    by_cases hbroken : directory ++ [configFileName] ∈ broken
    · rw [List.filter_cons_of_neg (by simpa using hbroken), loadConfigs]
      refine Alike.bind_left (P := fun r => ∃ f, r = .error f) (fun w w' hw => ?_) ?_
      · obtain ⟨f, after, hdefect, hafter⟩ :=
          h.configs directory (hsub _ (List.mem_cons_self ..)) hbroken w.env w'.env hw.user
        exact attempt_left hw hdefect.outcome_loadConfig hafter
      · rintro _ ⟨f, rfl⟩
        -- the failure is noted, on this side alone
        refine Alike.bind_left (P := fun _ => True) (fun w w' hw => ⟨w, w, rfl, trivial, hw⟩) fun _ _ => ?_
        exact Alike.bind_left (World.Akin.logText_left _ _ _) fun _ _ => hrest
    · rw [List.filter_cons_of_pos (by simpa using hbroken), loadConfigs, loadConfigs]
      refine (Act.alike_attempt (h.alike_loadConfig hbroken)).bind_eq fun r => ?_
      cases r with
      | ok config => exact hrest.bind_eq fun _ => alike_pure rfl
      | error f =>
        refine alike_get.bind fun w w' _ => ?_
        exact (World.Akin.alike_logText _ _ _ _).bind_eq fun _ => hrest

/-- What is made of possible failures does not depend on the world. -/
theorem alike_attempts {R : World U → World U → Prop} {β γ δ : Type} (x : Attempt α) (y : Attempt β)
    (z : Attempt γ) (k : α → β → γ → δ) :
    Alike R Eq (do return k (← Act.ofAttempt x) (← Act.ofAttempt y) (← Act.ofAttempt z) : Act U δ)
      (do return k (← Act.ofAttempt x) (← Act.ofAttempt y) (← Act.ofAttempt z)) := by
  refine (Act.alike_ofAttempt x).bind_eq fun a => ?_
  refine (Act.alike_ofAttempt y).bind_eq fun b => ?_
  exact (Act.alike_ofAttempt z).bind_eq fun c => alike_pure rfl

/-- A route module that is not broken is loaded alike. -/
theorem Bystanders.alike_loadRoute (h : Bystanders b same root scan broken) (path : Value)
    (inherited : RouteConfig Value) (parsed : List (FilePath × DirectoryConfig)) {names : List String}
    (hnames : names ∉ broken) :
    Alike (World.Akin same) Eq (loadRoute b ⟨root, path, inherited⟩ parsed names)
      (loadRoute b ⟨root, path, inherited⟩ parsed names) := by
  refine (Act.alike_attempt (h.alike_loadModule hnames)).bind_eq fun r => ?_
  cases r with
  | error f => exact (World.Akin.alike_logText _ _ _ _).bind_eq fun _ => alike_pure rfl
  | ok exports =>
    dsimp only
    split
    · exact (World.Akin.alike_log _ _ _ _).bind_eq fun _ => alike_pure rfl
    · refine (Act.alike_ofAttempt _).bind_eq fun merged => ?_
      split
      · exact (alike_pure rfl).bind_eq fun fns => alike_attempts _ _ _ _
      · refine alike_get.bind fun w w' _ => ?_
        refine (World.Akin.alike_logText _ _ _ _).bind_eq fun _ => ?_
        exact (alike_pure rfl).bind_eq fun fns => alike_attempts _ _ _ _

/-- **Run lemma**: the route modules that are loaded are those that are loaded without the broken ones. -/
theorem Bystanders.alike_loadRoutes (h : Bystanders b same root scan broken) (path : Value)
    (inherited : RouteConfig Value) (parsed : List (FilePath × DirectoryConfig))
    {paths : List (List String)} (hsub : ∀ names ∈ paths, names ∈ scan.routes) :
    Alike (World.Akin same) Eq (loadRoutes b ⟨root, path, inherited⟩ parsed paths)
      (loadRoutes b ⟨root, path, inherited⟩ parsed
        (paths.filter fun names => decide (names ∉ broken))) := by
  induction paths with
  | nil => exact alike_pure rfl
  | cons names paths ih =>
    have hrest := ih fun other hmem => hsub other (List.mem_cons_of_mem _ hmem)
    by_cases hbroken : names ∈ broken
    · rw [List.filter_cons_of_neg (by simpa using hbroken), loadRoutes, loadRoute, bind_assoc]
      -- a failure is noted, and gives no route module
      refine Alike.bind_left (P := fun r => ∃ f, r = .error f) (fun w w' hw => ?_) ?_
      · obtain ⟨f, after, hload, hafter⟩ :=
          h.routes names (hsub _ (List.mem_cons_self ..)) hbroken w.env w'.env hw.user
        exact attempt_left hw (outcome_loadModule_error hload) hafter
      · rintro _ ⟨f, rfl⟩
        simp only [bind_assoc, pure_bind]
        refine Alike.bind_left (World.Akin.logText_left _ _ _) fun _ _ => ?_
        simpa using hrest
    · rw [List.filter_cons_of_pos (by simpa using hbroken), loadRoutes, loadRoutes]
      refine (h.alike_loadRoute path inherited parsed hbroken).bind_eq fun r => ?_
      exact hrest.bind_eq fun rs => alike_pure rfl

/-! ## The mount -/

/-- What a discovery does once the directory is found. -/
def discoverAt (b : Behaviour U) (files : FileSystem) (m : Mount) (entries : List (String × FileTree)) :
    Act U (List RouteModule) := do
  for link in (Scan.of entries).links do
    Act.log .files .debug ("Skipping symlink " ++ files.written (m.root ++ link))
  let parsed ← loadConfigs b m (Scan.of entries).configs
  loadRoutes b m parsed (Scan.of entries).routes

theorem outcome_discoverRoutes {w : World U} {directory : String} {entries : List (String × FileTree)}
    (path : Value) (inherited : RouteConfig Value) (hroot : w.files.locate? directory = .ok (some root))
    (hentries : w.files.list? root = some entries) :
    outcome (discoverRoutes b (.str directory) path inherited) w =
      outcome (discoverAt b w.files ⟨root, path, inherited⟩ entries) w := by
  have hwritten : outcome (Act.ofAttempt (Value.str directory).asDirectory : Act U String) w =
      (.ok directory, w) := outcome_ofAttempt _ w
  have hget : outcome (get : Act U (World U)) w = (.ok w, w) := rfl
  have hlocate : outcome (Act.ofAttempt ((w.files.locate? directory).mapError .refused) : Act U _) w =
      (.ok (some root), w) := by
    rw [hroot]
    exact outcome_ofAttempt _ w
  rw [discoverRoutes, outcome_bind, hwritten]
  dsimp only
  rw [outcome_bind, hget]
  dsimp only
  rw [outcome_bind, hlocate]
  dsimp only
  rw [hentries, discoverAt]

theorem Bystanders.alike_discoverAt {entries : List (String × FileTree)}
    (h : Bystanders b same root (Scan.of entries) broken) (files files' : FileSystem) (path : Value)
    (inherited : RouteConfig Value) :
    Alike (World.Akin same) Eq (discoverAt b files ⟨root, path, inherited⟩ entries)
      (discoverAt b files' ⟨root, path, inherited⟩ (FileTree.entriesWithout broken [] entries)) := by
  -- the scans differ in the broken modules
  rw [discoverAt, discoverAt, links_entriesWithout, configs_entriesWithout, routes_entriesWithout]
  refine (alike_forIn (fun link _ => ?_) _ _).bind_eq fun _ => ?_
  · exact (World.Akin.alike_log _ _ _ _).bind_eq fun _ => alike_pure rfl
  · refine (h.alike_loadConfigs path inherited fun _ hmem => hmem).bind_eq fun parsed => ?_
    exact h.alike_loadRoutes path inherited parsed fun _ hmem => hmem

theorem alike_register (r : RouteModule) :
    Alike (World.Akin same) Eq (r.register : Act U Unit) r.register := by
  refine (alike_forIn (fun handler _ => ?_) _ _).bind_eq fun _ => alike_pure rfl
  refine (World.Akin.alike_wrap _ _ _).bind_eq fun endpoint => ?_
  refine (World.Akin.alike_addRoute _ _ _ _ _).bind_eq fun _ => ?_
  exact (World.Akin.alike_log _ _ _ _).bind_eq fun _ => alike_pure rfl

/-! ## Levels -/

/-- Whether a route can have a level: it is known, or there is none. -/
def Value.IsKnownLevel (level : Value) : Prop := level = .none ∨ ∃ n, levelNumber level = .ok n

theorem isKnownLevel_of_make {route : String} {level : Value} {logger : RouteLogger}
    (h : RouteLogger.make route level = .ok logger) : level.IsKnownLevel := by
  unfold RouteLogger.make at h
  split at h
  · exact .inl rfl
  -- any other level is looked up
  · cases hlevel : levelNumber level with
    | ok n => exact .inr ⟨n, hlevel⟩
    | error f =>
      rw [hlevel] at h
      cases h

/-- A route module that is registered has a known level, as it has handlers. -/
theorem isKnownLevel_of_register {r : RouteModule} {w w' : World U} (hhandlers : r.handlers ≠ [])
    (h : Act.Returns r.register w () w') : r.config.settings.logLevel.IsKnownLevel := by
  obtain ⟨handler, handlers, hcons⟩ := List.exists_cons_of_ne_nil hhandlers
  rw [RouteModule.register, hcons, List.forIn_cons, bind_assoc, Act.returns_bind] at h
  obtain ⟨step, v, hround, -⟩ := h
  obtain ⟨endpoint, v', hwrap, -⟩ := Act.returns_bind.mp hround
  obtain ⟨logger, hlogger, -, -⟩ := Act.returns_wrap.mp hwrap
  exact isKnownLevel_of_make hlogger

theorem exists_eq_of_returns_attempts {β γ δ : Type} {x : Attempt α} {y : Attempt β} {z : Attempt γ}
    {k : α → β → γ → δ} {d : δ} {w w' : World U}
    (h : Act.Returns (do return k (← Act.ofAttempt x) (← Act.ofAttempt y) (← Act.ofAttempt z)) w d w') :
    ∃ a b c, k a b c = d := by
  obtain ⟨a, _, -, h⟩ := Act.returns_bind.mp h
  obtain ⟨b, _, -, h⟩ := Act.returns_bind.mp h
  obtain ⟨c, _, -, h⟩ := Act.returns_bind.mp h
  exact ⟨a, b, c, (Act.returns_pure.mp h).1⟩

theorem handlers_ne_nil_of_loadRoute {m : Mount} {parsed : List (FilePath × DirectoryConfig)}
    {names : List String} {r : RouteModule} {w w' : World U}
    (h : Act.Returns (loadRoute b m parsed names) w (some r) w') : r.handlers ≠ [] := by
  rw [loadRoute, Act.returns_bind] at h
  obtain ⟨exports, w₁, -, h⟩ := h
  cases exports with
  | error f =>
    obtain ⟨_, _, -, hnone⟩ := Act.returns_bind.mp h
    cases (Act.returns_pure.mp hnone).1
  | ok exports =>
    dsimp only at h
    split at h
    · obtain ⟨_, _, -, hnone⟩ := Act.returns_bind.mp h
      cases (Act.returns_pure.mp hnone).1
    · next hsome =>
      obtain ⟨merged, w₂, -, h⟩ := Act.returns_bind.mp h
      -- whether there is middleware or not, the module is made with all handlers
      split at h
      · obtain ⟨fns, w₃, -, hmade⟩ := Act.returns_bind.mp h
        obtain ⟨url, before, between, hr⟩ := exists_eq_of_returns_attempts hmade
        cases hr
        exact hsome
      · obtain ⟨_, _, -, h⟩ := Act.returns_bind.mp h
        obtain ⟨_, _, -, h⟩ := Act.returns_bind.mp h
        obtain ⟨fns, w₃, -, hmade⟩ := Act.returns_bind.mp h
        obtain ⟨url, before, between, hr⟩ := exists_eq_of_returns_attempts hmade
        cases hr
        exact hsome

theorem handlers_ne_nil_of_loadRoutes {m : Mount} {parsed : List (FilePath × DirectoryConfig)}
    {paths : List (List String)} {modules : List RouteModule} {w w' : World U}
    (h : Act.Returns (loadRoutes b m parsed paths) w modules w') : ∀ r ∈ modules, r.handlers ≠ [] := by
  induction paths generalizing modules w w' with
  | nil =>
    obtain ⟨rfl, -⟩ := Act.returns_pure.mp h
    simp
  | cons names paths ih =>
    rw [loadRoutes, Act.returns_bind] at h
    obtain ⟨found, w₁, hfound, h⟩ := h
    obtain ⟨rest, w₂, hrest, hreturn⟩ := Act.returns_bind.mp h
    obtain ⟨rfl, -⟩ := Act.returns_pure.mp hreturn
    intro r hr
    rcases List.mem_append.mp hr with hhere | hthere
    · cases Option.mem_toList.mp hhere
      exact handlers_ne_nil_of_loadRoute hfound
    · exact ih hrest r hthere

/-- **Whatever is mounted has a known level.** -/
theorem isKnownLevel_of_mountDirectory {directory : String} {entries : List (String × FileTree)}
    {path : Value} {inherited : RouteConfig Value} {modules : List RouteModule} {w w' : World U}
    (hroot : w.files.locate? directory = .ok (some root)) (hentries : w.files.list? root = some entries)
    (h : Act.Returns (mountDirectory b (.str directory) path inherited) w modules w') :
    ∀ r ∈ modules, r.config.settings.logLevel.IsKnownLevel := by
  rw [mountDirectory, Act.returns_bind] at h
  obtain ⟨found, w₁, hfound, h⟩ := h
  obtain ⟨_, w₂, hregistered, h⟩ := Act.returns_bind.mp h
  obtain ⟨_, _, -, hreturn⟩ := Act.returns_bind.mp h
  obtain ⟨rfl, -⟩ := Act.returns_pure.mp hreturn
  rw [Act.Returns, outcome_discoverRoutes path inherited hroot hentries, discoverAt] at hfound
  obtain ⟨_, _, -, hfound⟩ := Act.returns_bind.mp hfound
  obtain ⟨parsed, _, -, hfound⟩ := Act.returns_bind.mp hfound
  intro r hr
  have hrounds : ∀ (r : RouteModule) (s : PUnit) (w : World U) step w',
      Act.Returns (do r.register; pure (ForInStep.yield PUnit.unit)) w step w' →
        ∃ s', step = .yield s' := by
    intro r s w step w' hround
    obtain ⟨_, _, -, hstep⟩ := Act.returns_bind.mp hround
    exact ⟨_, (Act.returns_pure.mp hstep).1.symm⟩
  obtain ⟨_, v, step, v', hround⟩ := exists_returns_round hrounds hregistered r hr
  obtain ⟨_, v₁, hregister, -⟩ := Act.returns_bind.mp hround
  exact isKnownLevel_of_register (handlers_ne_nil_of_loadRoutes hfound r hr) hregister

/-! ## Isolation -/

/-- **A directory is mounted as if its broken modules were absent**, when each of them fails to be loaded: the
mount comes to the same, and the application has the same routes, in the same order, with the same handlers and
configurations. A level that is not known fails no load, and no mount with a route of such a level returns. -/
theorem mount_isolates_broken {w : World U} {files : FileSystem} {directory : String}
    {entries : List (String × FileTree)} (path : Value) (inherited : RouteConfig Value)
    (hroot : w.files.locate? directory = .ok (some root)) (hentries : w.files.list? root = some entries)
    (hroot' : files.locate? directory = .ok (some root))
    (hentries' : files.list? root = some (FileTree.entriesWithout broken [] entries))
    (hsame : same w.env.user w.env.user) (hapart : Bystanders b same root (Scan.of entries) broken) :
    let mounted := outcome (mountDirectory b (.str directory) path inherited) w
    let absent := outcome (mountDirectory b (.str directory) path inherited) { w with files := files }
    mounted.1 = absent.1 ∧ mounted.2.app = absent.2.app ∧
      ∀ modules, mounted.1 = .ok modules → ∀ r ∈ modules, r.config.settings.logLevel.IsKnownLevel := by
  intro mounted absent
  have hakin : w.Akin same { w with files := files } := ⟨w.env, files, rfl, hsame⟩
  have hdiscovered : EndsAlike (World.Akin same) Eq
      (outcome (discoverRoutes b (.str directory) path inherited) w)
      (outcome (discoverRoutes b (.str directory) path inherited) { w with files := files }) := by
    rw [outcome_discoverRoutes path inherited hroot hentries,
      outcome_discoverRoutes path inherited hroot' hentries']
    exact hapart.alike_discoverAt w.files files path inherited _ _ hakin
  have hends : EndsAlike (World.Akin same) Eq mounted absent := by
    -- the same modules are registered in applications that are the same
    refine hdiscovered.bind ?_
    rintro modules _ rfl
    refine (alike_forIn (fun r _ => ?_) _ _).bind_eq fun _ => ?_
    · exact (alike_register r).bind_eq fun _ => alike_pure rfl
    · exact (World.Akin.alike_logText _ _ _ _).bind_eq fun _ => alike_pure rfl
  refine ⟨hends.fst_eq, ?_, fun modules hmounted => ?_⟩
  · obtain ⟨env, files, hworld, -⟩ := hends.snd
    rw [hworld]
  · have hreturns : mounted = (.ok modules, mounted.2) := Prod.ext hmounted rfl
    exact isKnownLevel_of_mountDirectory hroot hentries hreturns

/-! ### A directory with one route -/

/-- A directory of routes with a configuration module and a route module. -/
def FileSystem.health : FileSystem where
  base := "/srv/routes"
  root := .dir [("_config.py", .file), ("health.py", .file)]

/-- The directory without its configuration module. -/
def FileSystem.healthAlone : FileSystem where
  base := "/srv/routes"
  root := .dir (FileTree.entriesWithout [["_config.py"]] [] FileSystem.health.root.entries)

/-- Modules of the directory, given what the configuration module exports. -/
def Behaviour.health (config : Exports) : Behaviour Unit where
  __ := Behaviour.idle
  load names env :=
    if names = ["_config.py"] then (.ok config, env)
    else (.ok [("GET", .func ⟨"health", 0, false⟩)], env)

theorem locate?_base {files : FileSystem} (h : FileSystem.checkPath files.base = .ok ()) :
    files.locate? files.base = .ok (some []) := by
  have hbelow : files.below? files.base = some [] := by rw [FileSystem.below?, if_pos rfl]
  have hfollow : files.follow? [] = some [] := by rw [FileSystem.follow?, FileTree.follow]
  simp only [FileSystem.locate?, h, hbelow, hfollow]
  rfl

theorem scan_health : Scan.of FileSystem.health.root.entries = ⟨[["health.py"]], [[]], []⟩ := by
  rw [Scan.of, scan_of_sorted (by decide)]
  decide

theorem mount_isolates_broken_health :
    Bystanders (Behaviour.health []) Eq [] (Scan.of FileSystem.health.root.entries) [["_config.py"]] ∧
      let mount := mountDirectory (Behaviour.health []) (.str "/srv/routes") (.str "") RouteConfig.empty
      let mounted := outcome mount { env := { user := () }, files := .health }
      let absent := outcome mount { env := { user := () }, files := .healthAlone }
      mounted.1 = absent.1 ∧ mounted.2.app = absent.2.app ∧
        ∀ modules, mounted.1 = .ok modules → ∀ r ∈ modules, r.config.settings.logLevel.IsKnownLevel := by
  have hapart : Bystanders (Behaviour.health []) Eq [] (Scan.of FileSystem.health.root.entries)
      [["_config.py"]] := by
    rw [scan_health]
    constructor
    · intro directory hmem _ env env' _
      obtain rfl := List.mem_singleton.mp hmem
      -- it exports no tree
      exact ⟨_, env, .unusable rfl rfl, rfl⟩
    · intro path hmem hbroken
      obtain rfl := List.mem_singleton.mp hmem
      exact absurd hbroken (by decide)
    · intro path hpath env env' _
      have hother : [] ++ path ≠ ["_config.py"] := fun h => hpath (List.mem_singleton.mpr h)
      simp only [Behaviour.health, if_neg hother, and_self]
    · exact fun _ _ _ => alike_pure rfl
  exact ⟨hapart, mount_isolates_broken (w := { env := { user := () }, files := .health }) (.str "")
    RouteConfig.empty (locate?_base (by decide)) rfl (locate?_base (by decide)) rfl rfl hapart⟩

/-- Exports of a configuration module with a level that is not known. -/
def Exports.loud : Exports := [("config", .node (.logger (.str "loud")) [])]

/-- The route module of the directory. -/
def RouteModule.health : RouteModule where
  source := "health.py"
  url := "/health"
  config := RouteConfig.empty
  handlers := [("GET", .func ⟨"health", 0, false⟩)]
  schemas := []

/-- They can be collected. -/
theorem outcome_loadConfigs_loud (path : Value) (inherited : RouteConfig Value) (w : World Unit) :
    outcome (loadConfigs (Behaviour.health .loud) ⟨[], path, inherited⟩ [[]]) w =
      (.ok [(belowRoot [], { logLevel := .str "loud" })], w) := by
  have hcollect : collectConfig (Behaviour.health .loud).expand (.node (.logger (.str "loud")) []) =
      pure { logLevel := .str "loud" } := by
    rw [collectConfig, nestingLimit, collectTree]
    show collectTrees _ _ _ _ = _
    rw [collectTrees]
  have hload : outcome (loadConfig (Behaviour.health .loud) ([] ++ [])) w =
      (.ok { logLevel := .str "loud" }, w) := by
    show outcome (Act.expand (collectConfig (Behaviour.health .loud).expand _)) w = _
    rw [hcollect]
    rfl
  rw [loadConfigs, outcome_bind, Act.outcome_attempt, hload]
  rfl

/-- Without the configuration module, the route module is loaded as it is. -/
theorem outcome_loadRoute_health (config : Exports) (w : World Unit) :
    outcome (loadRoute (Behaviour.health config) ⟨[], .str "", RouteConfig.empty⟩ [] ["health.py"]) w =
      (.ok (some .health), w) := by
  have hload : outcome (loadModule (Behaviour.health config) ([] ++ ["health.py"])) w =
      (.ok [("GET", .func ⟨"health", 0, false⟩)], w) := rfl
  have hsource : Text.join "/" ["health.py"] = "health.py" := by decide
  have hown : ((urlOfPath "health.py").mapError .refused : Attempt String) = .ok "/health" := by
    have hurl : urlOfPath "health.py" = .ok "/health" := by decide
    rw [hurl]
    rfl
  have hurl : orRoot (joinPaths ["", "", "/health"]) = "/health" := by decide
  have hhandlers : moduleHandlers [("GET", .func ⟨"health", 0, false⟩)] =
      [("GET", .func ⟨"health", 0, false⟩)] := rfl
  rw [loadRoute, outcome_bind, Act.outcome_attempt]
  dsimp only
  rw [hload, hsource, hown]
  dsimp only
  rw [hhandlers]
  show (Except.ok (some (RouteModule.mk "health.py" (orRoot (joinPaths ["", "", "/health"])) _ _ _)), w) = _
  rw [hurl]
  rfl

theorem unknown_level_fails_mount :
    let mount := mountDirectory (Behaviour.health .loud) (.str "/srv/routes") (.str "") RouteConfig.empty
    (outcome mount { env := { user := () }, files := .health }).1 =
        .error (.failed (.refused (.unknownLevel "'loud'"))) ∧
      (outcome mount { env := { user := () }, files := .healthAlone }).1 = .ok [.health] := by
  intro mount
  have hroot : FileSystem.health.locate? "/srv/routes" = .ok (some []) := locate?_base (by decide)
  have hentries : FileSystem.health.list? [] = some FileSystem.health.root.entries := rfl
  have hroot' : FileSystem.healthAlone.locate? "/srv/routes" = .ok (some []) := locate?_base (by decide)
  have hentries' : FileSystem.healthAlone.list? [] = some [("health.py", .file)] := rfl
  have hscan : Scan.of [("health.py", .file)] = ⟨[["health.py"]], [], []⟩ := by
    rw [Scan.of, scan_of_sorted (by decide)]
    decide
  refine ⟨?_, ?_⟩
  · show (outcome (mountDirectory _ _ _ _) _).1 = _
    rw [mountDirectory, outcome_bind, outcome_discoverRoutes _ _ hroot hentries, discoverAt, scan_health]
    simp only [List.forIn_nil, pure_bind]
    -- the level is found out when the handler is wrapped
    rw [outcome_bind, outcome_loadConfigs_loud]
    rfl
  · show (outcome (mountDirectory _ _ _ _) _).1 = _
    rw [mountDirectory, outcome_bind, outcome_discoverRoutes _ _ hroot' hentries', discoverAt, hscan]
    simp only [List.forIn_nil, pure_bind, loadConfigs, loadRoutes]
    rw [outcome_bind, outcome_loadRoute_health]
    rfl

end

end ServerTree
