import Mathlib.Data.List.Induction
import Mathlib.Data.List.Infix
import ServerTree.Directory.Mount
import ServerTree.Proofs.Walk.Inheritance

/-!
# What a chain of directories adds up to

A chain of directories is folded onto a configuration level by level. What comes out can be said at once:
the paths of all levels are joined, root first; the middleware of all levels follows in the same order, each
with the settings of its own level; and every other setting is that of the deepest level that has it. The
levels are the directories from the root down to the one that the chain belongs to, and no others.

## Main definitions
- `deepest?`: what the deepest level of a chain says
- `effective`: the configuration below a chain, with the middleware of a module

## Main statements
- `mergeChain_eq_effective`: a fold along a chain gives the configuration in effect
- `configChain_eq_inits`: the chain of a directory goes through the directories above it
-/

namespace ServerTree

/-! ## The rule -/

/-- The log level that a directory sets. -/
def DirectoryConfig.logLevel? (level : DirectoryConfig) : Option Value :=
  match level.logLevel with
  | .none => none
  | v => some v

/-- The rate limit that a directory sets. -/
def DirectoryConfig.rateLimit? (level : DirectoryConfig) : Option Value :=
  level.rateLimit.map .rateLimitSpec

/-- The cross-origin rules that a directory sets. -/
def DirectoryConfig.cors? (level : DirectoryConfig) : Option Value := level.cors.map .corsSpec

/-- What the deepest level of a chain that has a setting sets it to. Levels are listed root first. -/
def deepest? (setting : DirectoryConfig → Option Value) (chain : List DirectoryConfig) : Option Value :=
  (chain.filterMap setting).getLast?

/-- The paths of the levels of a chain. -/
def chainPaths (chain : List DirectoryConfig) : List String :=
  chain.filterMap DirectoryConfig.mountPath

/-- The settings below a chain. -/
def chainSettings (start : RouteConfig Value) (chain : List DirectoryConfig) : Settings Value where
  mountPath := .str (joinPaths (start.settings.mountPath.pathText :: chainPaths chain))
  rateLimit := (deepest? DirectoryConfig.rateLimit? chain).getD start.settings.rateLimit
  cors := (deepest? DirectoryConfig.cors? chain).getD start.settings.cors
  logLevel := (deepest? DirectoryConfig.logLevel? chain).getD start.settings.logLevel
  service := start.settings.service
  extensions := start.settings.extensions

/-- Functions that remember settings. -/
def Settings.scoped (settings : Settings Value) (fns : List Value) : List (ScopedMiddleware Value) :=
  fns.map fun fn => ⟨fn, settings⟩

/-- The middleware of a chain, below other levels that are already passed: that of each level remembers the
settings with the overrides of this level, and none of a deeper one. -/
def chainMiddleware (start : RouteConfig Value) :
    List DirectoryConfig → List DirectoryConfig → List (ScopedMiddleware Value)
  | _, [] => []
  | passed, level :: chain =>
    (chainSettings start (passed ++ [level])).scoped level.middleware ++
      chainMiddleware start (passed ++ [level]) chain

/-- The configuration below a chain, for a module with middleware of its own. -/
def effective (start : RouteConfig Value) (chain : List DirectoryConfig) (own : List Value) :
    RouteConfig Value :=
  let settings := chainSettings start chain
  ⟨settings, start.middleware ++ chainMiddleware start [] chain ++ settings.scoped own⟩

/-! ## One more level -/

@[simp] theorem deepest?_concat (setting : DirectoryConfig → Option Value) (chain : List DirectoryConfig)
    (level : DirectoryConfig) :
    deepest? setting (chain ++ [level]) = (setting level).or (deepest? setting chain) := by
  cases h : setting level <;> simp [deepest?, List.filterMap_append, h]

theorem chainPaths_concat (chain : List DirectoryConfig) (level : DirectoryConfig) :
    chainPaths (chain ++ [level]) = chainPaths chain ++ level.mountPath.toList := by
  cases h : level.mountPath <;> simp [chainPaths, List.filterMap_append, h]

theorem chainMiddleware_concat (start : RouteConfig Value) (passed chain : List DirectoryConfig)
    (level : DirectoryConfig) :
    chainMiddleware start passed (chain ++ [level]) = chainMiddleware start passed chain ++
      (chainSettings start (passed ++ chain ++ [level])).scoped level.middleware := by
  induction chain generalizing passed with
  | nil => simp [chainMiddleware]
  | cons first chain ih => simp [chainMiddleware, ih]

/-- The middleware of a module joins the chain last, and changes no setting. -/
theorem foldl_withMiddleware (c : RouteConfig Value) (fns : List Value) :
    fns.foldl RouteConfig.withMiddleware c = ⟨c.settings, c.middleware ++ c.settings.scoped fns⟩ := by
  induction fns generalizing c with
  | nil => simp [Settings.scoped]
  | cons fn fns ih =>
    rw [List.foldl_cons, ih]
    simp [RouteConfig.withMiddleware, Settings.scoped]

/-- A path that adds nothing can be left out. -/
theorem joinPaths_concat_empty (parts : List String) : joinPaths (parts ++ [""]) = joinPaths parts := by
  have hnone : segmentChars "".toList = [] := by decide
  simp only [joinPaths, List.flatMap_append, List.flatMap_cons, List.flatMap_nil, hnone, List.append_nil]

/-- A path joined to that of a chain is joined to the paths of its levels. -/
theorem joinPaths_chain (start : String) (chain : List DirectoryConfig) (level : DirectoryConfig) :
    joinPaths [joinPaths (start :: chainPaths chain), level.mountPath.getD ""] =
      joinPaths (start :: chainPaths (chain ++ [level])) := by
  rw [joinPaths_append, chainPaths_concat]
  cases level.mountPath with
  | none => exact joinPaths_concat_empty (start :: chainPaths chain) |>.trans (by simp)
  | some path => rfl

/-- A configuration with the settings that a level has. -/
def DirectoryConfig.override (level : DirectoryConfig) (c : RouteConfig Value) : RouteConfig Value :=
  { c with settings := { c.settings with
      rateLimit := level.rateLimit?.getD c.settings.rateLimit
      cors := level.cors?.getD c.settings.cors
      logLevel := level.logLevel?.getD c.settings.logLevel } }

/-- A level overrides the settings that it has, then adds its path and its middleware. -/
theorem apply_eq (level : DirectoryConfig) (c : RouteConfig Value) :
    level.apply c = (do
      let c ←
        match level.mountPath.getD "" with
        | "" => pure (level.override c)
        | path => (level.override c).withPath (.str path)
      return level.middleware.foldl RouteConfig.withMiddleware c) := by
  obtain ⟨middleware, limit, logLevel, path, cors⟩ := level
  cases logLevel <;> cases limit <;> cases cors <;> rfl

/-- A level adds its path to one that is joined from others: an empty path is left out, and would make no
difference. -/
theorem apply_of_joined (level : DirectoryConfig) {c : RouteConfig Value} {parts : List String}
    (h : c.settings.mountPath = .str (joinPaths parts)) :
    level.apply c = .ok (level.middleware.foldl RouteConfig.withMiddleware
      ((level.override c).setPath (.str (joinPaths (parts ++ [level.mountPath.getD ""]))))) := by
  have hpath : (level.override c).settings.mountPath = .str (joinPaths parts) := h
  rw [apply_eq]
  split
  · next hempty =>
    rw [hempty, joinPaths_concat_empty, ← hpath]
    rfl
  · next path _ =>
    rw [RouteConfig.withPath, hpath, ← joinPaths_append]
    rfl

/-- **Step lemma**: on the configuration of a chain, one more level gives that of the longer chain. -/
theorem apply_effective (start : RouteConfig Value) (chain : List DirectoryConfig)
    (level : DirectoryConfig) :
    level.apply (effective start chain []) = .ok (effective start (chain ++ [level]) []) := by
  have hpaths : joinPaths (start.settings.mountPath.pathText :: chainPaths chain ++
      [level.mountPath.getD ""]) =
      joinPaths (start.settings.mountPath.pathText :: chainPaths (chain ++ [level])) := by
    rw [← joinPaths_append, joinPaths_chain]
  have hsettings : ((level.override (effective start chain [])).setPath
      (.str (joinPaths (start.settings.mountPath.pathText :: chainPaths (chain ++ [level]))))).settings =
      chainSettings start (chain ++ [level]) := by
    simp only [chainSettings, deepest?_concat, Option.getD_or]
    rfl
  have hmiddleware : effective start (chain ++ [level]) [] = ⟨chainSettings start (chain ++ [level]),
      (effective start chain []).middleware ++
        (chainSettings start (chain ++ [level])).scoped level.middleware⟩ := by
    simp [effective, chainMiddleware_concat, Settings.scoped]
  rw [apply_of_joined level rfl, foldl_withMiddleware, hpaths, hsettings, hmiddleware]
  rfl

/-- **Run lemma**: a fold along a chain gives the configuration in effect, for a path that is empty or
normalized. -/
theorem mergeChain_eq_effective {start : RouteConfig Value} {path : String}
    (h : start.settings.mountPath = .str path) (hnormal : joinPaths [path] = path)
    (chain : List DirectoryConfig) : mergeChain start chain = .ok (effective start chain []) := by
  induction chain using List.reverseRecOn with
  | nil =>
    obtain ⟨⟨mountPath, limit, cors, log, service, extensions⟩, middleware⟩ := start
    obtain rfl : mountPath = .str path := h
    simp [mergeChain, effective, chainSettings, chainMiddleware, chainPaths, deepest?, Value.pathText,
      hnormal, Settings.scoped, pure, Except.pure]
  | append_singleton chain level ih =>
    rw [mergeChain] at ih ⊢
    rw [List.foldlM_append, ih]
    exact (bind_pure _).trans (apply_effective start chain level)

/-! ## The levels of a chain -/

/-- Upwards from a directory lie the directories on the way to it. -/
theorem upward_eq_inits (names : List String) :
    (upward (belowRoot []) "" names.reverse).reverse = names.inits.map belowRoot := by
  induction names using List.reverseRecOn with
  | nil => rfl
  | append_singleton names name ih =>
    rw [List.reverse_append]
    show (upward (belowRoot []) "" (name :: names.reverse)).reverse = _
    rw [upward, if_neg (by simp [belowRoot]), List.reverse_cons, ih, List.inits_append]
    simp [belowRoot]

/-- The chain of a directory goes through the directories on the way to it, root first. -/
theorem configChain_eq_inits {α : Type} (directory : List String) (parsed : List (FilePath × α)) :
    configChain (belowRoot directory) (belowRoot []) parsed =
      directory.inits.filterMap fun above => Assoc.get? (belowRoot above) parsed := by
  rw [configChain]
  show ((upward (belowRoot []) "" directory.reverse).reverse).filterMap _ = _
  rw [upward_eq_inits, List.filterMap_map]
  rfl

end ServerTree
