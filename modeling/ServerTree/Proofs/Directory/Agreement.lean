import ServerTree.Proofs.Directory.Chain
import ServerTree.Proofs.Walk.Fatal

/-!
# Trees and directories declare the same

The nodes that configure a route stand either around it in a tree or in the modules of the directories above
it. A walk derives one configuration from the next at every such node. A module is flattened into a level
first, and levels are folded onto a configuration afterwards. Chains of nodes give a route the same settings,
and the same functions as middleware, in both ways.

The nodes themselves connect the two: `inherited` says what they come to in a tree, and `effective` what the
levels of their modules come to.

## Main definitions
- `ConfigChain`: nodes of which each is the only child of the one before
- `DirectoryConfig.Declares`: a level says what nodes say

## Main statements
- `DirectoryConfig.Declares.collect`: one more node of a module
- `mergeChain_eq_walked`: a walk of nested chains and a fold along their modules agree
-/

namespace ServerTree

variable {U : Type}

/-! ## Chains of nodes -/

/-- Nodes around a row of values, each the only child of the one before. -/
def stack (ps : List (Payload Value)) (inside : List Value) : List Value :=
  ps.foldr (fun p below => [.node p below]) inside

/-- A chain of nodes that configure what is below them. -/
structure ConfigChain where
  outermost : Payload Value
  inner : List (Payload Value)
  isConfig : ∀ p ∈ outermost :: inner, p.kind.isConfig = true

namespace ConfigChain

/-- The nodes of a chain, outermost first. -/
def payloads (chain : ConfigChain) : List (Payload Value) := chain.outermost :: chain.inner

/-- A chain around values. -/
def around (chain : ConfigChain) (inside : List Value) : Value :=
  .node chain.outermost (stack chain.inner inside)

/-- Chains, each around the next, and the last one around a value. -/
def nest (chains : List ConfigChain) (v : Value) : Value :=
  chains.foldr (fun chain below => chain.around [below]) v

/-- The nodes of a chain as ancestors: none of them has a provider. -/
def ancestors (chain : ConfigChain) : List Ancestor := chain.payloads.map fun p => ⟨p, none⟩

theorem stack_payloads (chain : ConfigChain) (inside : List Value) :
    stack chain.payloads inside = [chain.around inside] := rfl

/-- A nest of chains is a single chain. -/
theorem singleton_nest (chains : List ConfigChain) (v : Value) :
    [nest chains v] = stack (chains.flatMap payloads) [v] := by
  induction chains with
  | nil => rfl
  | cons chain chains ih =>
    have happend : stack (chain.payloads ++ chains.flatMap payloads) [v] =
        stack chain.payloads (stack (chains.flatMap payloads) [v]) := List.foldr_append
    rw [List.flatMap_cons, happend, ← ih, stack_payloads]
    rfl

end ConfigChain

/-! ## Chains that are walked -/

/-- Nodes that configure hand something down. -/
theorem closes_of_isConfig {p : Payload Value} (h : p.kind.isConfig = true) : p.closes = false := by
  cases p <;> first | rfl | cases h

/-- Nodes that configure have no service. -/
theorem service_of_isConfig {b : Behaviour U} {p : Payload Value} {service : Option Value}
    (h : p.kind.isConfig = true) (hserved : Ancestor.IsServed b ⟨p, service⟩) : service = none := by
  cases p <;> first | exact hserved | cases h

/-- A walk of a chain visits its nodes from the outside in and the route at last, with what it inherits from
all of them. -/
theorem Walks.of_stack {b : Behaviour U} {start c : RouteConfig Value} {route : Payload Value}
    {children : List Value} (hroute : route.closes = true) {ps : List (Payload Value)}
    (hconfig : ∀ p ∈ ps, p.kind.isConfig = true) {before : List Ancestor}
    (hc : c = inherited start before) {w w' : World U} {visits : List (NodeVisit U)}
    (h : Walks b (stack ps [.node route children]) c w visits w') :
    ∃ outer last, visits = outer ++ [last] ∧ outer.map NodeVisit.payload = ps ∧ last.payload = route ∧
      last.config = inherited start (before ++ ps.map fun p => ⟨p, none⟩) ∧
      ∀ p ∈ ps, ∃ c w, ¬ p.IsFatal b c w := by
  induction ps generalizing before c w visits w' with
  | nil =>
    cases h with
    | nothing resolved _ => exact absurd (returns_resolve_node.mp resolved).1 (by simp)
    | splice resolved _ => exact absurd (returns_resolve_node.mp resolved).1 (by simp)
    | node resolved visited _ _ =>
      obtain ⟨rfl, rfl⟩ := Resolved.node.inj (returns_resolve_node.mp resolved).1
      subst hc
      exact absurd (visit_below visited).1 (by simp [hroute])
    | closed resolved visited rest =>
      obtain ⟨rfl, rfl⟩ := Resolved.node.inj (returns_resolve_node.mp resolved).1
      cases rest
      exact ⟨[], _, rfl, rfl, rfl, by simpa using hc, by simp⟩
  | cons p ps ih =>
    have hp := hconfig p (List.mem_cons_self ..)
    cases h with
    | nothing resolved _ => exact absurd (returns_resolve_node.mp resolved).1 (by simp)
    | splice resolved _ => exact absurd (returns_resolve_node.mp resolved).1 (by simp)
    | closed resolved visited rest =>
      obtain ⟨rfl, rfl⟩ := Resolved.node.inj (returns_resolve_node.mp resolved).1
      exact absurd (closes_of_visit visited) (by simp [closes_of_isConfig hp])
    | node resolved visited inside rest =>
      obtain ⟨rfl, rfl⟩ := Resolved.node.inj (returns_resolve_node.mp resolved).1
      cases rest
      subst hc
      -- one more ancestor is passed on the way to the route
      obtain ⟨-, service, hserved, hbelow⟩ := visit_below visited
      obtain rfl := service_of_isConfig hp hserved
      obtain ⟨outer, last, rfl, rfl, hlast, hinherited, hacts⟩ :=
        ih (fun p' hp' => hconfig p' (List.mem_cons_of_mem _ hp')) hbelow inside
      rw [List.append_nil]
      refine ⟨_ :: outer, last, rfl, rfl, hlast, by simpa using hinherited, ?_⟩
      intro p' hp'
      rcases List.mem_cons.mp hp' with rfl | hrest
      · exact ⟨_, _, visit_returns_iff.mp ⟨_, _, visited⟩⟩
      · exact hacts p' hrest

/-- There is no walk of a value without fuel. -/
theorem exists_fuel_of_walkTrees {b : Behaviour U} {fuel : Nat} {v : Value} {c : RouteConfig Value}
    {w w' : World U} (h : Act.Returns (walkTrees b fuel [v] c) w () w') : ∃ n, fuel = n + 1 := by
  cases fuel with
  | zero =>
    rw [returns_walkTrees_singleton, walkTree] at h
    exact absurd h Act.returns_refuse
  | succ n => exact ⟨n, rfl⟩

/-- A chain that is walked to its end is not nested too deep. -/
theorem length_lt_of_walkTrees_stack {b : Behaviour U} {v : Value} {ps : List (Payload Value)} {fuel : Nat}
    (hconfig : ∀ p ∈ ps, p.kind.isConfig = true) {c : RouteConfig Value} {w w' : World U}
    (h : Act.Returns (walkTrees b fuel (stack ps [v]) c) w () w') : ps.length < fuel := by
  induction ps generalizing fuel c w with
  | nil =>
    obtain ⟨n, rfl⟩ := exists_fuel_of_walkTrees h
    exact Nat.succ_pos n
  | cons p ps ih =>
    obtain ⟨n, rfl⟩ := exists_fuel_of_walkTrees h
    obtain ⟨below, w₁, hvisit, hbelow⟩ := returns_walkTree_node.mp (returns_walkTrees_singleton.mp h)
    cases below with
    | none =>
      have hopen := closes_of_isConfig (hconfig p (List.mem_cons_self ..))
      exact absurd (closes_of_visit hvisit) (by simp [hopen])
    | some below =>
      -- a walk spends at least one step on each node
      have hless := ih (fun p' hp' => hconfig p' (List.mem_cons_of_mem _ hp')) hbelow
      have hdepth := depth_pos p.kind
      rw [List.length_cons]
      omega

/-! ## Chains that are collected -/

/-- The segments of the paths in a list. -/
def segmentsOf (paths : List String) : List (List Char) := paths.flatMap fun p => segmentChars p.toList

@[simp] theorem segmentsOf_append (paths paths' : List String) :
    segmentsOf (paths ++ paths') = segmentsOf paths ++ segmentsOf paths' := List.flatMap_append

/-- What a level sets is what nodes set: the last of them, for what can be set once. -/
structure DirectoryConfig.Declares (level : DirectoryConfig) (nodes : List Ancestor) : Prop where
  middleware : level.middleware = nodes.filterMap Ancestor.use?
  rateLimit : level.rateLimit? = nearest? Ancestor.rateLimit? nodes
  cors : level.cors? = nearest? Ancestor.cors? nodes
  logLevel : level.logLevel? = nearest? Ancestor.logLevel? nodes
  -- a level keeps one path, joined from those of its groups
  path : segmentsOf level.mountPath.toList = segmentsOf (groupPaths nodes)

theorem DirectoryConfig.declares_nil : DirectoryConfig.Declares {} [] := ⟨rfl, rfl, rfl, rfl, rfl⟩

/-- A level sets what another does, and what one more node does. -/
structure DirectoryConfig.Extends (next level : DirectoryConfig) (a : Ancestor) : Prop where
  middleware : next.middleware = level.middleware ++ a.use?.toList
  rateLimit : next.rateLimit? = a.rateLimit?.or level.rateLimit?
  cors : next.cors? = a.cors?.or level.cors?
  logLevel : next.logLevel? = a.logLevel?.or level.logLevel?
  path : segmentsOf next.mountPath.toList = segmentsOf level.mountPath.toList ++ segmentsOf a.path?.toList

theorem DirectoryConfig.Extends.declares {next level : DirectoryConfig} {nodes : List Ancestor} {a : Ancestor}
    (h : next.Extends level a) (hnodes : level.Declares nodes) : next.Declares (nodes ++ [a]) where
  middleware := by
    rw [h.middleware, hnodes.middleware, List.filterMap_append]
    cases huse : a.use? <;> simp [huse]
  rateLimit := by rw [h.rateLimit, hnodes.rateLimit, nearest?_concat]
  cors := by rw [h.cors, hnodes.cors, nearest?_concat]
  logLevel := by rw [h.logLevel, hnodes.logLevel, nearest?_concat]
  path := by rw [h.path, hnodes.path, groupPaths_concat, segmentsOf_append]

theorem collect_middleware {level : DirectoryConfig} {use : Value} (h : use ≠ .none) :
    level.collect (.middleware use) = .ok { level with middleware := level.middleware ++ [use] } := by
  cases use <;> first | rfl | exact absurd rfl h

/-- A level that a logger sets: no value that counts as a level is missing. -/
theorem logLevel?_of_levelValue {level : DirectoryConfig} {v n : Value} (h : levelValue v = .ok n) :
    DirectoryConfig.logLevel? { level with logLevel := v } = some v := by
  cases v <;> first | rfl | cases h

/-- A path that is appended is a text. -/
theorem exists_eq_str_of_withPath {c below : RouteConfig Value} {path : Value}
    (h : c.withPath path = .ok below) : ∃ own, path = .str own := by
  cases path with
  | str own => exact ⟨own, rfl⟩
  | _ => 
    rw [RouteConfig.withPath] at h
    cases hbefore : c.settings.mountPath.asPath <;> rw [hbefore] at h <;> cases h

/-- **Step lemma**: a node that acts in a walk is taken into account in its module, for the same setting. -/
theorem exists_collect_of_acts {b : Behaviour U} {p : Payload Value} {c : RouteConfig Value} {w : World U}
    (hacts : ¬ p.IsFatal b c w) (hconfig : p.kind.isConfig = true) (level : DirectoryConfig) :
    ∃ next, level.collect p = .ok next ∧ next.Extends level ⟨p, none⟩ := by
  have hkeeps : level.middleware = level.middleware ++ [] := (List.append_nil _).symm
  have hpath : segmentsOf level.mountPath.toList = segmentsOf level.mountPath.toList ++ [] :=
    (List.append_nil _).symm
  cases p with
  | logger own =>
    obtain ⟨n, hn⟩ : ∃ n, levelValue own = .ok n := by simpa [Payload.IsFatal] using hacts
    exact ⟨_, rfl, hkeeps, rfl, rfl, logLevel?_of_levelValue hn, hpath⟩
  | middleware use => exact ⟨_, collect_middleware hacts, rfl, rfl, rfl, rfl, hpath⟩
  | rateLimiter max timeWindow keyHeader =>
    obtain ⟨spec, hspec⟩ : ∃ spec, RateLimitSpec.ofNode max timeWindow keyHeader = .ok spec := by
      simpa [Payload.IsFatal] using hacts
    refine ⟨{ level with rateLimit := some spec }, ?_, hkeeps, ?_, rfl, rfl, hpath⟩
    · rw [DirectoryConfig.collect, hspec]
      rfl
    · rw [Ancestor.rateLimit?, hspec]
      rfl
  | group path =>
    obtain ⟨below, hbelow⟩ : ∃ below, c.withPath path = .ok below := by simpa [Payload.IsFatal] using hacts
    obtain ⟨own, rfl⟩ := exists_eq_str_of_withPath hbelow
    refine ⟨_, rfl, hkeeps, rfl, rfl, rfl, ?_⟩
    -- the path so far and that of the group become one, with the segments of both
    show segmentsOf [joinPaths [level.mountPath.getD "", own]] = _ ++ segmentsOf [own]
    rw [segmentsOf, List.flatMap_singleton, segmentChars_joinPaths]
    cases level.mountPath <;> simp [segmentsOf, segmentChars, Text.piecesOf]
  | cors origin methods => exact ⟨_, rfl, hkeeps, rfl, rfl, rfl, hpath⟩
  | _ => cases hconfig

theorem collectTree_node {call : Expander U} {fuel : Nat} {p : Payload Value} {cs : List Value}
    {level next : DirectoryConfig} (h : level.collect p = .ok next) :
    collectTree call (fuel + 1) (.node p cs) level = collectTrees call fuel cs next := by
  have hself : resolve call (.node p cs) = pure (.node p cs) := rfl
  rw [collectTree, hself, pure_bind]
  simp only [h]

/-- **Run lemma**: a chain whose nodes act in a walk is collected to a level that declares what they do. -/
theorem exists_collectTrees_stack {b : Behaviour U} (call : Expander U) {ps : List (Payload Value)}
    (hacts : ∀ p ∈ ps, p.kind.isConfig = true ∧ ∃ c w, ¬ p.IsFatal b c w) {fuel : Nat}
    (hfuel : ps.length ≤ fuel) {level : DirectoryConfig} {nodes : List Ancestor} (h : level.Declares nodes) :
    ∃ next, (∀ user, outcome (collectTrees call fuel (stack ps []) level) user = (.ok next, user)) ∧
      next.Declares (nodes ++ ps.map fun p => ⟨p, none⟩) := by
  induction ps generalizing fuel level nodes with
  | nil => exact ⟨level, fun _ => by rw [stack, List.foldr_nil, collectTrees]; rfl, by simpa using h⟩
  | cons p ps ih =>
    obtain ⟨fuel, rfl⟩ : ∃ n, fuel = n + 1 := ⟨fuel - 1, by rw [List.length_cons] at hfuel; omega⟩
    obtain ⟨hconfig, c, w, hp⟩ := hacts p (List.mem_cons_self ..)
    obtain ⟨next, hnext, hextends⟩ := exists_collect_of_acts hp hconfig level
    obtain ⟨last, hlast, hdeclares⟩ := ih (fun p' hp' => hacts p' (List.mem_cons_of_mem _ hp'))
      (Nat.le_of_succ_le_succ hfuel) (hextends.declares h)
    refine ⟨last, fun user => ?_, by simpa using hdeclares⟩
    show outcome (collectTrees call (fuel + 1) [.node p (stack ps [])] level) user = _
    have hrow : collectTrees call (fuel + 1) [.node p (stack ps [])] level =
        collectTrees call fuel (stack ps []) next := by
      simp only [collectTrees, collectTree_node hnext, bind_pure]
    rw [hrow, hlast]

/-- The module of a chain, when this can be walked. -/
theorem ConfigChain.exists_collectConfig {b : Behaviour U} (call : Expander U) (chain : ConfigChain)
    (hacts : ∀ p ∈ chain.payloads, ∃ c w, ¬ p.IsFatal b c w) (hlength : chain.payloads.length ≤ nestingLimit) :
    ∃ level, (∀ user, outcome (collectConfig call (chain.around [])) user = (.ok level, user)) ∧
      level.Declares chain.ancestors := by
  obtain ⟨level, hlevel, hdeclares⟩ := exists_collectTrees_stack call
    (fun p hp => ⟨chain.isConfig p hp, hacts p hp⟩) hlength DirectoryConfig.declares_nil
  refine ⟨level, fun user => ?_, hdeclares⟩
  have hrow : collectTrees call nestingLimit [chain.around []] {} = collectConfig call (chain.around []) := by
    simp only [collectTrees, bind_pure, collectConfig]
  rw [← hrow]
  exact hlevel user

/-! ## Agreement -/

theorem nearest?_append (setting : Ancestor → Option Value) (above below : List Ancestor) :
    nearest? setting (above ++ below) = (nearest? setting below).or (nearest? setting above) := by
  rw [nearest?, List.filterMap_append, List.getLast?_append]
  rfl

/-- The deepest level of a chain says what the nearest of all nodes says. -/
theorem deepest?_eq_nearest? {setting : DirectoryConfig → Option Value} {own : Ancestor → Option Value}
    {levels : List DirectoryConfig} {nodes : List (List Ancestor)}
    (h : List.Forall₂ (fun level ns => setting level = nearest? own ns) levels nodes) :
    deepest? setting levels = nearest? own nodes.flatten := by
  induction h with
  | nil => rfl
  | @cons level ns levels nodes hlevel _ ih =>
    have hfirst : deepest? setting (level :: levels) = (deepest? setting levels).or (setting level) := by
      cases hset : setting level <;> simp [deepest?, hset, List.getLast?_cons]
    rw [hfirst, ih, hlevel, List.flatten_cons, nearest?_append]

/-- Paths with the same segments come to the same when they are joined to another. -/
theorem joinPaths_congr {paths paths' : List String} (h : segmentsOf paths = segmentsOf paths')
    (start : String) : joinPaths (start :: paths) = joinPaths (start :: paths') := by
  show String.ofList (segmentsPath (segmentChars start.toList ++ segmentsOf paths)) = _
  rw [h]
  rfl

section

variable {start : RouteConfig Value} {levels : List DirectoryConfig} {nodes : List (List Ancestor)}

theorem segmentsOf_chainPaths (h : List.Forall₂ DirectoryConfig.Declares levels nodes) :
    segmentsOf (chainPaths levels) = segmentsOf (groupPaths nodes.flatten) := by
  induction h with
  | nil => rfl
  | @cons level ns levels nodes hlevel _ ih =>
    have hfirst : chainPaths (level :: levels) = level.mountPath.toList ++ chainPaths levels := by
      cases hset : level.mountPath <;> simp [chainPaths, hset]
    rw [hfirst, segmentsOf_append, ih, hlevel.path, List.flatten_cons, ← segmentsOf_append]
    simp only [groupPaths, List.filterMap_append]

/-- Below a path that is empty or normalized, the groups are joined to it, whether there are any or not. -/
theorem mountPath_inheritedSettings {path : String} (hpath : start.settings.mountPath = .str path)
    (hnormal : joinPaths [path] = path) (above : List Ancestor) :
    (inheritedSettings start above).mountPath = .str (joinPaths (path :: groupPaths above)) := by
  show (if groupPaths above = [] then _ else _) = _
  by_cases hnone : groupPaths above = []
  · rw [if_pos hnone, hnone, hnormal, hpath]
  · rw [if_neg hnone, hpath]
    rfl

/-- Levels set what all their nodes together set. -/
theorem chainSettings_eq_inheritedSettings {path : String} (hpath : start.settings.mountPath = .str path)
    (hnormal : joinPaths [path] = path) (h : List.Forall₂ DirectoryConfig.Declares levels nodes)
    (hservice : nearest? Ancestor.service? nodes.flatten = none) :
    chainSettings start levels = inheritedSettings start nodes.flatten := by
  have hlimit := deepest?_eq_nearest? (h.imp fun _ _ hlevel => hlevel.rateLimit)
  have hcors := deepest?_eq_nearest? (h.imp fun _ _ hlevel => hlevel.cors)
  have hlog := deepest?_eq_nearest? (h.imp fun _ _ hlevel => hlevel.logLevel)
  have hmount : Value.str (joinPaths (start.settings.mountPath.pathText :: chainPaths levels)) =
      (inheritedSettings start nodes.flatten).mountPath := by
    rw [mountPath_inheritedSettings hpath hnormal, joinPaths_congr (segmentsOf_chainPaths h), hpath]
    rfl
  rw [chainSettings, hmount, hlimit, hcors, hlog, inheritedSettings, hservice]
  rfl

theorem chainMiddleware_fns (passed levels : List DirectoryConfig) :
    (chainMiddleware start passed levels).map ScopedMiddleware.fn =
      levels.flatMap DirectoryConfig.middleware := by
  induction levels generalizing passed with
  | nil => rfl
  | cons level levels ih => simp [chainMiddleware, Settings.scoped, ih, Function.comp_def]

theorem inheritedChain_fns (passed above : List Ancestor) :
    (inheritedChain start passed above).map ScopedMiddleware.fn = above.filterMap Ancestor.use? := by
  induction above generalizing passed with
  | nil => rfl
  | cons a above ih => cases huse : a.use? <;> simp [inheritedChain, huse, ih]

/-- The functions of levels are those of all their nodes. -/
theorem effective_fns (h : List.Forall₂ DirectoryConfig.Declares levels nodes) :
    (effective start levels []).middleware.map ScopedMiddleware.fn =
      (inherited start nodes.flatten).middleware.map ScopedMiddleware.fn := by
  have hfns : levels.flatMap DirectoryConfig.middleware = nodes.flatten.filterMap Ancestor.use? := by
    induction h with
    | nil => rfl
    | cons hlevel _ ih => rw [List.flatMap_cons, ih, hlevel.middleware, List.flatten_cons, List.filterMap_append]
  simp only [effective, inherited, Settings.scoped, List.map_append, List.map_nil, List.append_nil,
    chainMiddleware_fns, inheritedChain_fns, hfns]

end

/-- The modules of chains, when these can be walked. -/
theorem ConfigChain.exists_levels {b : Behaviour U} (call : Expander U) {chains : List ConfigChain}
    (hacts : ∀ p ∈ chains.flatMap payloads, ∃ c w, ¬ p.IsFatal b c w)
    (hlength : (chains.flatMap payloads).length ≤ nestingLimit) :
    ∃ levels,
      List.Forall₂ (fun chain level => ∀ user,
        outcome (collectConfig call (chain.around [])) user = (.ok level, user)) chains levels ∧
      List.Forall₂ DirectoryConfig.Declares levels (chains.map ancestors) := by
  induction chains with
  | nil => exact ⟨[], .nil, .nil⟩
  | cons chain chains ih =>
    rw [List.flatMap_cons] at hacts hlength
    rw [List.length_append] at hlength
    obtain ⟨level, hlevel, hdeclares⟩ := chain.exists_collectConfig call
      (fun p hp => hacts p (List.mem_append_left _ hp)) (by omega)
    obtain ⟨levels, hlevels, hrest⟩ := ih (fun p hp => hacts p (List.mem_append_right _ hp)) (by omega)
    exact ⟨level :: levels, .cons hlevel hlevels, .cons hdeclares hrest⟩

/-- **Trees and directories agree.** When a walk of nested chains around a route returns, the modules of the
chains can be collected and folded onto the configuration that the walk starts with. This gives the settings
that the walk hands to the route, and the same functions as middleware. -/
theorem mergeChain_eq_walked {b : Behaviour U} {chains : List ConfigChain} {base : RouteConfig Value}
    {path method : String} {own handler schema : Value} {children : List Value} {w w' : World U}
    (hpath : base.settings.mountPath = .str path) (hnormal : joinPaths [path] = path)
    (hwalk : Act.Returns
      (walk b (ConfigChain.nest chains (.node (.route method own handler schema) children)) base) w () w') :
    ∃ outer route levels merged,
      Walks b [ConfigChain.nest chains (.node (.route method own handler schema) children)] base w
        (outer ++ [route]) w' ∧
      outer.map NodeVisit.payload = chains.flatMap ConfigChain.payloads ∧
      route.payload = .route method own handler schema ∧
      List.Forall₂ (fun chain level => ∀ user,
        outcome (collectConfig b.expand (chain.around [])) user = (.ok level, user)) chains levels ∧
      mergeChain base levels = .ok merged ∧ merged.settings = route.config.settings ∧
      merged.middleware.map ScopedMiddleware.fn = route.config.middleware.map ScopedMiddleware.fn := by
  obtain ⟨visits, hwalks⟩ := walks_of_walk hwalk
  have hconfig : ∀ p ∈ chains.flatMap ConfigChain.payloads, p.kind.isConfig = true := by
    intro p hp
    obtain ⟨chain, -, hmem⟩ := List.mem_flatMap.mp hp
    exact chain.isConfig p hmem
  have hnested := hwalks
  rw [ConfigChain.singleton_nest] at hnested
  obtain ⟨outer, route, rfl, houter, hroute, hinherited, hacts⟩ :=
    Walks.of_stack rfl hconfig (inherited_nil base).symm hnested
  -- modules are nested no deeper than the walk could go
  have hlength : (chains.flatMap ConfigChain.payloads).length < nestingLimit := by
    rw [walk, ← returns_walkTrees_singleton, ConfigChain.singleton_nest] at hwalk
    exact length_lt_of_walkTrees_stack hconfig hwalk
  obtain ⟨levels, hlevels, hdeclares⟩ := ConfigChain.exists_levels b.expand hacts hlength.le
  have hnodes : route.config = inherited base (chains.map ConfigChain.ancestors).flatten := by
    rw [hinherited, List.nil_append, List.map_flatMap, List.flatMap_def]
    rfl
  have hservice : nearest? Ancestor.service? (chains.map ConfigChain.ancestors).flatten = none := by
    have hnone : ∀ p : Payload Value, Ancestor.service? ⟨p, none⟩ = none := by
      intro p
      cases p <;> rfl
    rw [nearest?, List.filterMap_eq_nil_iff.mpr, List.getLast?_nil]
    intro a ha
    obtain ⟨_, hchain, hmem⟩ := List.mem_flatten.mp ha
    obtain ⟨chain, -, rfl⟩ := List.mem_map.mp hchain
    obtain ⟨p, -, rfl⟩ := List.mem_map.mp hmem
    exact hnone p
  refine ⟨outer, route, levels, _, hwalks, houter, hroute, hlevels,
    mergeChain_eq_effective hpath hnormal levels, ?_, ?_⟩
  · rw [hnodes]
    exact chainSettings_eq_inheritedSettings hpath hnormal hdeclares hservice
  · rw [hnodes]
    exact effective_fns hdeclares

/-- A group with a middleware, and a group of another module. -/
def guardedLogs : List ConfigChain :=
  [⟨.group (.str "/api"), [.middleware (.object "auth" 0)], by decide⟩,
    ⟨.group (.str "logs"), [], by decide⟩]

/-- Chains that can be walked around a route. -/
theorem mergeChain_eq_walked_guardedLogs :
    ∃ w' : World Unit, Act.Returns (walk .idle (ConfigChain.nest guardedLogs
        (.node (.route "GET" (.str "/") (.object "list" 1) .none) [])) .empty) { env := { user := () } } () w' ∧
      ∃ outer route levels merged,
        Walks .idle [ConfigChain.nest guardedLogs (.node (.route "GET" (.str "/") (.object "list" 1) .none) [])]
          .empty { env := { user := () } } (outer ++ [route]) w' ∧
        outer.map NodeVisit.payload = guardedLogs.flatMap ConfigChain.payloads ∧
        route.payload = .route "GET" (.str "/") (.object "list" 1) .none ∧
        List.Forall₂ (fun chain level => ∀ user,
          outcome (collectConfig Behaviour.idle.expand (chain.around [])) user = (.ok level, user))
          guardedLogs levels ∧
        mergeChain .empty levels = .ok merged ∧ merged.settings = route.config.settings ∧
        merged.middleware.map ScopedMiddleware.fn = route.config.middleware.map ScopedMiddleware.fn := by
  let w : World Unit := { env := { user := () } }
  let grouped : RouteConfig Value := RouteConfig.empty.setPath (.str "/api")
  let guarded := grouped.withMiddleware (.object "auth" 0)
  let logs := guarded.setPath (.str "/api/logs")
  obtain ⟨w', hroute⟩ : ∃ w', Act.Returns
      (visit .idle logs (.route "GET" (.str "/") (.object "list" 1) .none)) w none w' := ⟨_, rfl⟩
  have hwalk : Act.Returns (walk .idle (ConfigChain.nest guardedLogs
      (.node (.route "GET" (.str "/") (.object "list" 1) .none) [])) .empty) w () w' := by
    refine returns_walkTree_node.mpr ⟨some grouped, w, rfl, ?_⟩
    refine returns_walkTrees_singleton.mpr (returns_walkTree_node.mpr ⟨some guarded, w, rfl, ?_⟩)
    refine returns_walkTrees_singleton.mpr (returns_walkTree_node.mpr ⟨some logs, w, rfl, ?_⟩)
    exact returns_walkTrees_singleton.mpr (returns_walkTree_node.mpr ⟨none, w', hroute, rfl⟩)
  exact ⟨w', hwalk, mergeChain_eq_walked rfl rfl hwalk⟩

end ServerTree
