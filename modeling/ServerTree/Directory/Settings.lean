import ServerTree.Config.Derive
import ServerTree.Directory.Path
import ServerTree.Node.Build
import ServerTree.Node.Resolve

/-!
# The configuration of a directory

The configuration module of a directory exports a tree. Its loggers, middleware, rate limiters, groups and
cross-origin nodes are collected; all other nodes only pass their children on. A route module inherits the
configurations of every directory from the root of the routes down to its own.

## Main definitions
- `DirectoryConfig`, `collectConfig`: what a tree declares
- `configChain`: the configurations of a directory and those above it, root first
- `mergeChain`: folds a chain onto a configuration
-/

namespace ServerTree

/-- What a directory declares. Missing settings leave the inherited ones alone; middleware and the path
add to them. -/
structure DirectoryConfig where
  middleware : List Value := []
  rateLimit : Option (RateLimitSpec Value) := none
  logLevel : Value := .none
  mountPath : Option String := none
  cors : Option (CorsSpec Value) := none

instance : Inhabited DirectoryConfig := ⟨{}⟩

/-! ## Collecting -/

/-- Takes one node into account. -/
def DirectoryConfig.collect (c : DirectoryConfig) : Payload Value → Attempt DirectoryConfig
  | .logger level => .ok { c with logLevel := level }
  | .middleware .none => .ok c
  | .middleware use => .ok { c with middleware := c.middleware ++ [use] }
  | .rateLimiter max timeWindow keyHeader => do
    let spec ← RateLimitSpec.ofNode max timeWindow keyHeader
    return { c with rateLimit := some spec }
  | .group path => do
    let p ← path.asPath
    return { c with mountPath := some (joinPaths [c.mountPath.getD "", p]) }
  | .cors origin methods => .ok { c with cors := some ⟨origin, methods⟩ }
  | _ => .ok c

variable {U : Type}

mutual

/-- Collects a tree. The fuel bounds the nesting. -/
def collectTree (call : Expander U) : Nat → Value → DirectoryConfig → Expand U DirectoryConfig
  | 0, _, _ => throw (.refused .tooDeep)
  | fuel + 1, v, c => do
    match ← resolve call v with
    | .nothing => return c
    | .items xs => collectTrees call fuel xs c
    | .node p cs =>
      match c.collect p with
      | .error f => throw f
      | .ok c => collectTrees call fuel cs c
termination_by fuel => (fuel, 0)

/-- Collects a row of trees, in order. -/
def collectTrees (call : Expander U) (fuel : Nat) :
    List Value → DirectoryConfig → Expand U DirectoryConfig
  | [], c => return c
  | v :: vs, c => do
    let c ← collectTree call fuel v c
    collectTrees call fuel vs c
termination_by vs => (fuel, vs.length + 1)

end

/-- Collects what a tree declares. -/
def collectConfig (call : Expander U) (v : Value) : Expand U DirectoryConfig :=
  collectTree call nestingLimit v {}

/-- The tree that a configuration module exports; a function is a composite. -/
def exportedConfig (value : Option Value) : Attempt Value :=
  match value with
  | none => refuse .noConfigExport
  | some .none => refuse .noConfigExport
  | some (.func f) => .ok (.element (.func f) [] [])
  | some (.node p cs) => .ok (.node p cs)
  | some (.element type props cs) => .ok (.element type props cs)
  | some (.list xs) => .ok (.list xs)
  | some (.tuple xs) => .ok (.tuple xs)
  | some v => refuse (.badConfigExport v.typeName)

/-! ## Chains -/

/-- The directories from one up to the root, itself first, or up to the top when the root is not above
it. The names are given innermost first. -/
def upward (root : FilePath) (anchor : String) : List String → List FilePath
  | [] => [⟨anchor, []⟩]
  | name :: names =>
    let here : FilePath := ⟨anchor, (name :: names).reverse⟩
    if here = root then [here] else here :: upward root anchor names

/-- The configurations of a directory and of those above it up to the root, root first. -/
def configChain {α : Type} (directory root : FilePath) (parsed : List (FilePath × α)) : List α :=
  (upward root directory.anchor directory.names.reverse).reverse.filterMap
    fun d => Assoc.get? d parsed

/-- Overrides settings and adds the path and the middleware of one directory. The middleware remembers
the settings after the overrides. -/
def DirectoryConfig.apply (level : DirectoryConfig) (c : RouteConfig Value) :
    Attempt (RouteConfig Value) := do
  let c :=
    match level.logLevel with
    | .none => c
    | v => c.setLogLevel v
  let c := (level.rateLimit.map fun s => c.setRateLimit (.rateLimitSpec s)).getD c
  let c := (level.cors.map fun s => c.setCors (.corsSpec s)).getD c
  let c ←
    match level.mountPath.getD "" with
    | "" => pure c
    | path => c.withPath (.str path)
  return level.middleware.foldl RouteConfig.withMiddleware c

/-- Folds a chain of directories, root first, onto a configuration. -/
def mergeChain (base : RouteConfig Value) (chain : List DirectoryConfig) : Attempt (RouteConfig Value) :=
  chain.foldlM (fun c level => level.apply c) base

end ServerTree
