import ServerTree.Proofs.Directory.Chain
import ServerTree.Proofs.Directory.Scanning
import ServerTree.Proofs.Directory.Url

/-!
# The route modules below a directory

A discovery loads the configuration modules and then the route modules that a scan finds. Whatever a load
does, the discovery returns, with one route module for each load that gave handlers. What such a module
serves depends on what it exports, on the configurations that were loaded for the directories on the way to
it, and on the configuration that all of them inherit.

## Main definitions
- `Loads`: a row of loads, each in the world that the one before left
- `levels`: the configurations on the way to a directory
- `RouteModule.Serves`: what is served for the exports of a route module
- `Discovered`: what a discovery gives

## Main statement
- `discoverRoutes_effective`: a discovery returns exactly the route modules with the configuration in effect
-/

namespace ServerTree

variable {U : Type} {α β : Type}

/-! ## Loads -/

theorem settles_loadModule (b : Behaviour U) (names : List String) : (loadModule b names).Settles :=
  (Act.settles_withEnv _).bind fun r => Act.settles_ofAttempt r

theorem settles_loadConfig (b : Behaviour U) (names : List String) : (loadConfig b names).Settles :=
  (settles_loadModule b _).bind fun _ => (Act.settles_ofAttempt _).bind fun _ => Act.settles_expand _

/-- A row of loads, of places in order: each goes on from the one before, with nothing but records in
between. -/
inductive Loads (load : List String → Act U α) :
    List (List String) → World U → List (List String × Attempt α) → World U → Prop
  | nil (w : World U) : Loads load [] w [] w
  | cons {place : List String} {places : List (List String)} {w w₁ w₂ w' : World U} {r : Attempt α}
      {loads : List (List String × Attempt α)} :
      Act.Returns (Act.attempt (load place)) w r w₁ → w₁.LogsTo w₂ → Loads load places w₂ loads w' →
      Loads load (place :: places) w ((place, r) :: loads) w'

/-- Each place is loaded once. -/
theorem Loads.places {load : List String → Act U α} {places : List (List String)} {w w' : World U}
    {loads : List (List String × Attempt α)} (h : Loads load places w loads w') :
    loads.map Prod.fst = places := by
  induction h with
  | nil w => rfl
  | cons _ _ _ ih => rw [List.map_cons, ih]

/-- What loads gave, by the places. -/
def loaded (loads : List (List String × Attempt α)) : List (List String × α) :=
  loads.filterMap fun l => l.2.toOption.map (l.1, ·)

/-- What loads of route modules gave, as far as there are handlers. -/
def handled (loads : List (List String × Attempt Exports)) : List (List String × Exports) :=
  (loaded loads).filter fun l => moduleHandlers l.2 ≠ []

/-- The configurations of the directories on the way to a directory, root first, as far as they could be
loaded. -/
def levels (configs : List (List String × DirectoryConfig)) (directory : List String) :
    List DirectoryConfig :=
  directory.inits.filterMap fun above => Assoc.get? above configs

/-! ## The configuration modules -/

theorem get?_map_belowRoot (directory : List String) (configs : List (List String × DirectoryConfig)) :
    Assoc.get? (belowRoot directory) (configs.map (Prod.map belowRoot id)) = Assoc.get? directory configs := by
  induction configs with
  | nil => rfl
  | cons config configs ih =>
    have hkey : (belowRoot config.1 == belowRoot directory) = (config.1 == directory) := by
      simp [belowRoot, Bool.beq_eq_decide_eq]
    simp only [List.map_cons, Prod.map, Assoc.get?, hkey, id, ih]

/-- The configuration in effect for the route modules of a directory, before their own middleware. -/
theorem Mount.configOf_eq {m : Mount} {path : String} (h : m.inherited.settings.mountPath = .str path)
    (hnormal : joinPaths [path] = path) (configs : List (List String × DirectoryConfig))
    (directory : List String) :
    m.configOf (configs.map (Prod.map belowRoot id)) directory =
      .ok (effective m.inherited (levels configs directory) []) := by
  rw [Mount.configOf, configChain_eq_inits, mergeChain_eq_effective h hnormal, levels]
  simp only [get?_map_belowRoot]

/-- **Run lemma**: all configuration modules are loaded, and those that can be are kept. -/
theorem loadConfigs_returns (b : Behaviour U) (m : Mount) (directories : List (List String))
    (w : World U) :
    ∃ configs w', Loads (fun directory => loadConfig b (m.root ++ directory)) directories w configs w' ∧
      Act.Returns (loadConfigs b m directories) w ((loaded configs).map (Prod.map belowRoot id)) w' := by
  induction directories generalizing w with
  | nil => exact ⟨[], w, .nil w, Act.returns_pure.mpr ⟨rfl, rfl⟩⟩
  | cons directory directories ih =>
    obtain ⟨r, w₁, hload⟩ := (settles_loadConfig b (m.root ++ directory)).returns_attempt w
    cases r with
    | ok config =>
      obtain ⟨configs, w', hloads, hrest⟩ := ih w₁
      refine ⟨_, w', .cons hload (.refl w₁) hloads, ?_⟩
      rw [loadConfigs, hload.bind_iff, hrest.bind_iff]
      exact Act.returns_pure.mpr ⟨rfl, rfl⟩
    | error f =>
      obtain ⟨w₂, hnoted, hlog⟩ := exists_returns_logText (w := w₁)
      obtain ⟨configs, w', hloads, hrest⟩ := ih w₂
      refine ⟨_, w', .cons hload hnoted hloads, ?_⟩
      rw [loadConfigs, hload.bind_iff, (Act.returns_get.mpr ⟨rfl, rfl⟩).bind_iff, hlog.bind_iff]
      exact hrest

/-! ## The route modules -/

/-- What is served for the exports of a route module, below an external path and a configuration that all
directories inherit, when certain configurations were loaded for them. -/
structure RouteModule.Serves (external : String) (inherited : RouteConfig Value)
    (configs : List (List String × DirectoryConfig)) (path : List String) (exports : Exports)
    (r : RouteModule) : Prop where
  /-- It is known by its path below the root. -/
  source : r.source = Text.join "/" path
  /-- Its configuration is the one in effect in its directory, with its own middleware last. -/
  config : r.config = effective inherited (levels configs path.dropLast)
    ((moduleMiddleware? exports).getD [])
  /-- Its URL has the external path, the inherited one, those of the directories on the way, root first, and
  the one of its own path, each once. -/
  url : ∃ own, urlOfPath r.source = .ok own ∧
    r.url = orRoot (joinPaths [external, r.config.settings.mountPath.pathText, own]) ∧
    pathSegments r.url = pathSegments external ++ pathSegments inherited.settings.mountPath.pathText ++
      (chainPaths (levels configs path.dropLast)).flatMap pathSegments ++ pathSegments own
  /-- It serves all handlers of the module, with their schemas. -/
  handlers : r.handlers = moduleHandlers exports
  schemas : r.schemas = moduleSchemas exports (r.handlers.map Prod.fst)

/-- What a load of a route module comes to: nothing when it failed or gave no handler. -/
def IsServed (external : String) (inherited : RouteConfig Value)
    (configs : List (List String × DirectoryConfig)) (path : List String) :
    Attempt Exports → Option RouteModule → Prop
  | .error _, r => r = none
  | .ok exports, r =>
    if moduleHandlers exports = [] then r = none
    else ∃ found, r = some found ∧ found.Serves external inherited configs path exports

/-- The route module of exports, given the URL of its path. -/
def RouteModule.made (external : String) (inherited : RouteConfig Value)
    (configs : List (List String × DirectoryConfig)) (path : List String) (exports : Exports)
    (own : String) : RouteModule :=
  let config := effective inherited (levels configs path.dropLast) ((moduleMiddleware? exports).getD [])
  { source := Text.join "/" path
    url := orRoot (joinPaths [external, config.settings.mountPath.pathText, own])
    config := config
    handlers := moduleHandlers exports
    schemas := moduleSchemas exports ((moduleHandlers exports).map Prod.fst) }

theorem RouteModule.made_serves {external own : String} {inherited : RouteConfig Value}
    {configs : List (List String × DirectoryConfig)} {path : List String} {exports : Exports}
    (hown : urlOfPath (Text.join "/" path) = .ok own) :
    (RouteModule.made external inherited configs path exports own).Serves external inherited configs path
      exports := by
  have hurl : (RouteModule.made external inherited configs path exports own).url =
      orRoot (joinPaths [external, joinPaths (inherited.settings.mountPath.pathText ::
        chainPaths (levels configs path.dropLast)), own]) := by
    simp only [RouteModule.made, effective, chainSettings, Value.pathText]
  refine ⟨rfl, rfl, ⟨own, hown, hurl, ?_⟩, rfl, rfl⟩
  -- the path of the configuration is itself joined, from the inherited path and those of the levels
  rw [hurl, pathSegments_orRoot_joinPaths]
  simp [pathSegments_joinPaths]

/-- Once its configuration is known, a route module is made. -/
theorem made_returns {m : Mount} {external own : String} {configs : List (List String × DirectoryConfig)}
    {path : List String} {exports : Exports} {fns : List Value} (hexternal : m.path = .str external)
    (hown : urlOfPath (Text.join "/" path) = .ok own) (hfns : (moduleMiddleware? exports).getD [] = fns)
    (w : World U) :
    Act.Returns (do
      let config :=
        fns.foldl RouteConfig.withMiddleware (effective m.inherited (levels configs path.dropLast) [])
      let url ← Act.ofAttempt ((urlOfPath (Text.join "/" path)).mapError .refused)
      let before ← Act.ofAttempt m.path.asPath
      let between ← Act.ofAttempt config.settings.mountPath.asPath
      return some {
        source := Text.join "/" path
        url := orRoot (joinPaths [before, between, url])
        config := config
        handlers := moduleHandlers exports
        schemas := moduleSchemas exports ((moduleHandlers exports).map Prod.fst) : RouteModule }
      : Act U (Option RouteModule)) w
      (some (.made external m.inherited configs path exports own)) w := by
  have hurl : ((urlOfPath (Text.join "/" path)).mapError .refused : Attempt String) = .ok own := by
    rw [hown]
    rfl
  have hexternal : m.path.asPath = .ok external := asPath_eq_ok.mpr hexternal
  -- the own middleware joins the chain and leaves the path as it is
  have hconfig : fns.foldl RouteConfig.withMiddleware
      (effective m.inherited (levels configs path.dropLast) []) =
        effective m.inherited (levels configs path.dropLast) fns := by
    rw [foldl_withMiddleware]
    simp [effective, Settings.scoped]
  have hpath : (effective m.inherited (levels configs path.dropLast) fns).settings.mountPath.asPath =
      .ok _ := asPath_eq_ok.mpr rfl
  subst hfns
  simp only [hconfig]
  rw [(Act.returns_ofAttempt.mpr ⟨hurl, rfl⟩).bind_iff, (Act.returns_ofAttempt.mpr ⟨hexternal, rfl⟩).bind_iff,
    (Act.returns_ofAttempt.mpr ⟨hpath, rfl⟩).bind_iff]
  exact Act.returns_pure.mpr ⟨rfl, rfl⟩

/-- **Step lemma**: loading one route module returns what its load comes to. -/
theorem loadRoute_returns {b : Behaviour U} {m : Mount} {external before own : String}
    {path : List String} {w w₁ : World U} {r : Attempt Exports}
    (hexternal : m.path = .str external) (hbefore : m.inherited.settings.mountPath = .str before)
    (hnormal : joinPaths [before] = before) (hown : urlOfPath (Text.join "/" path) = .ok own)
    (configs : List (List String × DirectoryConfig))
    (hload : Act.Returns (Act.attempt (loadModule b (m.root ++ path))) w r w₁) :
    ∃ found w₂, w₁.LogsTo w₂ ∧ IsServed external m.inherited configs path r found ∧
      Act.Returns (loadRoute b m (configs.map (Prod.map belowRoot id)) path) w found w₂ := by
  simp only [loadRoute, hload.bind_iff]
  cases r with
  | error f =>
    obtain ⟨w₂, hnoted, hlog⟩ := exists_returns_logText (w := w₁)
    refine ⟨none, w₂, hnoted, rfl, ?_⟩
    rw [hlog.bind_iff]
    exact Act.returns_pure.mpr ⟨rfl, rfl⟩
  | ok exports =>
    by_cases hnone : moduleHandlers exports = []
    · obtain ⟨w₂, hnoted, hlog⟩ := exists_returns_log (w := w₁)
      refine ⟨none, w₂, hnoted, by rw [IsServed, if_pos hnone], ?_⟩
      simp only [hnone]
      rw [hlog.bind_iff]
      exact Act.returns_pure.mpr ⟨rfl, rfl⟩
    · have hserved : IsServed external m.inherited configs path (.ok exports)
          (some (.made external m.inherited configs path exports own)) := by
        rw [IsServed, if_neg hnone]
        exact ⟨_, rfl, RouteModule.made_serves hown⟩
      have hconfig := m.configOf_eq hbefore hnormal configs path.dropLast
      obtain ⟨handler, handlers, hcons⟩ := List.exists_cons_of_ne_nil hnone
      simp only [hcons]
      have hmerged : Act.Returns (Act.ofAttempt (m.configOf _ path.dropLast)) w₁ _ w₁ :=
        Act.returns_ofAttempt.mpr ⟨hconfig, rfl⟩
      -- an export that is no middleware is noted, and counts as none
      cases hmiddleware : moduleMiddleware? exports with
      | some fns =>
        refine ⟨_, w₁, .refl w₁, hserved, ?_⟩
        rw [hmerged.bind_iff, (Act.returns_pure.mpr ⟨rfl, rfl⟩).bind_iff, ← hcons]
        exact made_returns hexternal hown (by rw [hmiddleware]; rfl) w₁
      | none =>
        obtain ⟨w₂, hnoted, hlog⟩ := exists_returns_logText (w := w₁)
        refine ⟨_, w₂, hnoted, hserved, ?_⟩
        rw [hmerged.bind_iff, (Act.returns_get.mpr ⟨rfl, rfl⟩).bind_iff, hlog.bind_iff,
          (Act.returns_pure.mpr ⟨rfl, rfl⟩).bind_iff, ← hcons]
        exact made_returns hexternal hown (by rw [hmiddleware]; rfl) w₂

theorem handled_cons (path : List String) (exports : Exports)
    (loads : List (List String × Attempt Exports)) :
    handled ((path, .ok exports) :: loads) =
      if moduleHandlers exports = [] then handled loads else (path, exports) :: handled loads := by
  show (((path, exports) :: loaded loads).filter _) = _
  rw [List.filter_cons]
  split <;> simp_all [handled]

/-- **Run lemma**: all route modules are loaded, and each load that gave handlers is served. -/
theorem loadRoutes_returns {b : Behaviour U} {m : Mount} {external before : String}
    {paths : List (List String)} (hexternal : m.path = .str external)
    (hbefore : m.inherited.settings.mountPath = .str before) (hnormal : joinPaths [before] = before)
    (hown : ∀ path ∈ paths, ∃ own, urlOfPath (Text.join "/" path) = .ok own)
    (configs : List (List String × DirectoryConfig)) (w : World U) :
    ∃ loads modules w', Loads (fun path => loadModule b (m.root ++ path)) paths w loads w' ∧
      List.Forall₂ (fun (l : List String × Exports) (r : RouteModule) =>
        r.Serves external m.inherited configs l.1 l.2) (handled loads) modules ∧
      Act.Returns (loadRoutes b m (configs.map (Prod.map belowRoot id)) paths) w modules w' := by
  induction paths generalizing w with
  | nil => exact ⟨[], [], w, .nil w, .nil, Act.returns_pure.mpr ⟨rfl, rfl⟩⟩
  | cons path paths ih =>
    obtain ⟨own, hpath⟩ := hown path (List.mem_cons_self ..)
    obtain ⟨r, w₁, hload⟩ := (settles_loadModule b (m.root ++ path)).returns_attempt w
    obtain ⟨found, w₂, hnoted, hserved, hfound⟩ :=
      loadRoute_returns hexternal hbefore hnormal hpath configs hload
    obtain ⟨loads, modules, w', hloads, hmodules, hrest⟩ :=
      ih (fun path' hmem => hown path' (List.mem_cons_of_mem _ hmem)) w₂
    refine ⟨_, found.toList ++ modules, w', .cons hload hnoted hloads, ?_, ?_⟩
    · cases r with
      | error f =>
        obtain rfl := hserved
        exact hmodules
      | ok exports =>
        rw [IsServed] at hserved
        rw [handled_cons]
        split at hserved
        · next hnone =>
          obtain rfl := hserved
          rwa [if_pos hnone]
        · next hsome =>
          obtain ⟨_, rfl, hserves⟩ := hserved
          rw [if_neg hsome]
          exact .cons hserves hmodules
    · rw [loadRoutes, hfound.bind_iff, hrest.bind_iff]
      exact Act.returns_pure.mpr ⟨rfl, rfl⟩

/-! ## A discovery -/

/-- What a discovery below a directory with certain entries gives, from one world to another. -/
structure Discovered (b : Behaviour U) (root : List String) (entries : List (String × FileTree))
    (external : String) (inherited : RouteConfig Value) (w w' : World U)
    (configs : List (List String × Attempt DirectoryConfig))
    (loads : List (List String × Attempt Exports)) (modules : List RouteModule) : Prop where
  /-- The configuration modules are loaded before the route modules, and nothing else happens. -/
  run : ∃ w₁ w₂, w.LogsTo w₁ ∧
    Loads (fun directory => loadConfig b (root ++ directory)) (configs.map Prod.fst) w₁ configs w₂ ∧
    Loads (fun path => loadModule b (root ++ path)) (loads.map Prod.fst) w₂ loads w'
  /-- They are those of all directories within reach. -/
  configs_places : ∀ directory, directory ∈ configs.map Prod.fst ↔
    ∃ here, Reaches entries directory here ∧ (configFileName, .file) ∈ here
  /-- The route modules are all those within reach. -/
  loads_places : ∀ path, path ∈ loads.map Prod.fst ↔ ∃ directory name here,
    path = directory ++ [name] ∧ Reaches entries directory here ∧ (name, .file) ∈ here ∧
      isRouteFile name = true
  /-- Each is loaded once. -/
  once : NamesDiffer entries → (configs.map Prod.fst).Nodup ∧ (loads.map Prod.fst).Nodup
  /-- Each that has handlers is served, with the configuration in effect. -/
  served : List.Forall₂ (fun (l : List String × Exports) (r : RouteModule) =>
    r.Serves external inherited (loaded configs) l.1 l.2) (handled loads) modules

/-- **A discovery returns exactly the route modules with the configuration in effect**: one for each
route module within reach that could be loaded and has handlers, configured by what all directories inherit,
by the configuration modules of the directories on the way to it and by its own middleware, and by nothing
else. -/
theorem discoverRoutes_effective (b : Behaviour U) (w : World U) {directory external before : String}
    {inherited : RouteConfig Value} {root : List String} {entries : List (String × FileTree)}
    (hroot : w.files.locate? directory = .ok (some root)) (hentries : w.files.list? root = some entries)
    (hbefore : inherited.settings.mountPath = .str before) (hnormal : joinPaths [before] = before) :
    ∃ configs loads modules w', outcome (discoverRoutes b (.str directory) (.str external) inherited) w =
        (.ok modules, w') ∧
      Discovered b root entries external inherited w w' configs loads modules := by
  have hlocate : ((w.files.locate? directory).mapError .refused : Attempt (Option (List String))) =
      .ok (some root) := by
    rw [hroot]
    rfl
  obtain ⟨w₁, hlinks, hlinked⟩ := exists_returns_forIn_log .files .debug (Scan.of entries).links
    (fun link => "Skipping symlink " ++ w.files.written (root ++ link)) w
  have hown : ∀ path ∈ (Scan.of entries).routes, ∃ own, urlOfPath (Text.join "/" path) = .ok own := by
    intro path hpath
    obtain ⟨directory, name, here, rfl, -, -, hname⟩ := mem_scan_routes.mp hpath
    exact urlOfPath_of_isRouteFile directory hname
  let m : Mount := ⟨root, .str external, inherited⟩
  obtain ⟨configs, w₂, hconfigs, hloaded⟩ := loadConfigs_returns b m (Scan.of entries).configs w₁
  obtain ⟨loads, modules, w', hloads, hserved, hmodules⟩ :=
    loadRoutes_returns (b := b) (m := m) rfl hbefore hnormal hown (loaded configs) w₂
  refine ⟨configs, loads, modules, w', ?_, ?_⟩
  · show Act.Returns _ w modules w'
    have hwritten : (Value.str directory).asDirectory = .ok directory := rfl
    rw [discoverRoutes, (Act.returns_ofAttempt.mpr ⟨hwritten, rfl⟩).bind_iff,
      (Act.returns_get.mpr ⟨rfl, rfl⟩).bind_iff, (Act.returns_ofAttempt.mpr ⟨hlocate, rfl⟩).bind_iff]
    simp only [hentries]
    rw [hlinked.bind_iff, hloaded.bind_iff]
    exact hmodules
  · constructor
    · rw [hconfigs.places, hloads.places]
      exact ⟨w₁, w₂, hlinks, hconfigs, hloads⟩
    · rw [hconfigs.places]
      exact fun _ => mem_scan_configs
    · rw [hloads.places]
      exact fun _ => mem_scan_routes
    · rw [hconfigs.places, hloads.places]
      exact fun hnames => ⟨nodup_scan_configs hnames, nodup_scan_routes hnames⟩
    · exact hserved

/-- A directory of routes with a configuration module of its own and one below. -/
def FileSystem.reports : FileSystem where
  base := "/srv/routes"
  root := .dir [("_config.py", .file), ("admin", .dir [("_config.py", .file), ("daily.py", .file)])]

/-- Modules of a directory of routes: the outer one groups everything, the inner one sets a log level. -/
def Behaviour.reports : Behaviour Unit where
  __ := Behaviour.idle
  load names env :=
    match names with
    | ["_config.py"] => (.ok [("config", .node (.group (.str "api")) [])], env)
    | ["admin", "_config.py"] => (.ok [("config", .node (.logger (.str "debug")) [])], env)
    | _ => (.ok [("GET", .func ⟨"daily", 0, false⟩)], env)

theorem discoverRoutes_effective_reports :
    FileSystem.reports.locate? "/srv/routes" = .ok (some []) ∧
      ∃ configs loads modules w', outcome (discoverRoutes Behaviour.reports (.str "/srv/routes")
          (.str "/v1") RouteConfig.empty) { env := { user := () }, files := .reports } = (.ok modules, w') ∧
        Discovered Behaviour.reports [] FileSystem.reports.root.entries "/v1" RouteConfig.empty
          { env := { user := () }, files := .reports } w' configs loads modules := by
  have hroot : FileSystem.reports.locate? "/srv/routes" = .ok (some []) := by
    have hpath : FileSystem.checkPath "/srv/routes" = .ok () := by decide
    have hfollow : FileSystem.reports.follow? [] = some [] := by
      rw [FileSystem.follow?, FileTree.follow]
    have hbelow : FileSystem.reports.below? "/srv/routes" = some [] := by decide
    simp only [FileSystem.locate?, hpath, hbelow, hfollow]
    rfl
  exact ⟨hroot, discoverRoutes_effective Behaviour.reports { env := { user := () }, files := .reports } hroot
    rfl rfl (by decide)⟩

end ServerTree
