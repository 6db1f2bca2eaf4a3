import ServerTree.App.Boot
import ServerTree.Proofs.Returns
import ServerTree.Proofs.Routing.Path

/-!
# What a node inherits

A walk hands a configuration down and changes it at every node. The same configuration can be said at once
from the ancestors of a place: the paths of all groups, outermost first; the functions of all middleware,
outermost first, each with the settings of its own place; and every other setting from the nearest ancestor
that has it. Nothing else has a part in it.

## Main definitions
- `Ancestor`: a node above a place
- `inherited`: the configuration at a place, from its ancestors

## Main statement
- `visit_below`: a node hands down what is inherited below it
-/

namespace ServerTree

variable {U : Type}

/-- A node above a place: what it carries and, when it has a provider, what this returned. -/
structure Ancestor where
  payload : Payload Value
  service : Option Value := none

namespace Ancestor

/-- The path of a group. -/
def path? : Ancestor → Option String
  | ⟨.group (.str path), _⟩ => some path
  | _ => none

/-- The function of a middleware. -/
def use? : Ancestor → Option Value
  | ⟨.middleware use, _⟩ => some use
  | _ => none

/-- The level of a logger. -/
def logLevel? : Ancestor → Option Value
  | ⟨.logger level, _⟩ => some level
  | _ => none

/-- The limit of a rate limiter. -/
def rateLimit? : Ancestor → Option Value
  | ⟨.rateLimiter max timeWindow keyHeader, _⟩ =>
    (RateLimitSpec.ofNode max timeWindow keyHeader).toOption.map .rateLimitSpec
  | _ => none

/-- The rules of a cross-origin node. -/
def cors? : Ancestor → Option Value
  | ⟨.cors origin methods, _⟩ => some (.corsSpec ⟨origin, methods⟩)
  | _ => none

/-- The service of a database. -/
def service? : Ancestor → Option Value
  | ⟨.db _, service⟩ => service
  | _ => none

/-- The service of a node is what its provider returned. Other nodes have none. -/
def IsServed (b : Behaviour U) : Ancestor → Prop
  | ⟨.db provider, service⟩ =>
    ∃ env env' v, b.callProvide provider env = (.returned v, env') ∧ service = some v
  | ⟨_, service⟩ => service = none

end Ancestor

/-! ## The rule -/

/-- The text of a path; anything else counts as an empty one. -/
def Value.pathText : Value → String
  | .str s => s
  | _ => ""

/-- What the nearest ancestor that has a setting sets it to. Ancestors are listed outermost first. -/
def nearest? (setting : Ancestor → Option Value) (above : List Ancestor) : Option Value :=
  (above.filterMap setting).getLast?

/-- The paths of the groups among ancestors. -/
def groupPaths (above : List Ancestor) : List String := above.filterMap Ancestor.path?

/-- The settings at a place below ancestors, in a tree that starts with a configuration. -/
def inheritedSettings (start : RouteConfig Value) (above : List Ancestor) : Settings Value where
  mountPath :=
    if groupPaths above = [] then start.settings.mountPath
    else .str (joinPaths (start.settings.mountPath.pathText :: groupPaths above))
  rateLimit := (nearest? Ancestor.rateLimit? above).getD start.settings.rateLimit
  cors := (nearest? Ancestor.cors? above).getD start.settings.cors
  logLevel := (nearest? Ancestor.logLevel? above).getD start.settings.logLevel
  service := (nearest? Ancestor.service? above).getD start.settings.service
  extensions := start.settings.extensions

/-- The middleware among ancestors, below others that are already passed: each remembers the settings at
its own place. -/
def inheritedChain (start : RouteConfig Value) :
    List Ancestor → List Ancestor → List (ScopedMiddleware Value)
  | _, [] => []
  | passed, a :: above =>
    (a.use?.map fun use => ⟨use, inheritedSettings start passed⟩).toList ++
      inheritedChain start (passed ++ [a]) above

/-- The configuration at a place below ancestors, in a tree that starts with a configuration. -/
def inherited (start : RouteConfig Value) (above : List Ancestor) : RouteConfig Value :=
  ⟨inheritedSettings start above, start.middleware ++ inheritedChain start [] above⟩

/-! ## One more ancestor -/

@[simp] theorem nearest?_concat (setting : Ancestor → Option Value) (above : List Ancestor) (a : Ancestor) :
    nearest? setting (above ++ [a]) = (setting a).or (nearest? setting above) := by
  cases h : setting a <;> simp [nearest?, List.filterMap_append, h]

@[simp] theorem groupPaths_concat (above : List Ancestor) (a : Ancestor) :
    groupPaths (above ++ [a]) = groupPaths above ++ a.path?.toList := by
  cases h : a.path? <;> simp [groupPaths, List.filterMap_append, h]

theorem inheritedChain_concat (start : RouteConfig Value) (passed above : List Ancestor) (a : Ancestor) :
    inheritedChain start passed (above ++ [a]) = inheritedChain start passed above ++
      (a.use?.map fun use => ⟨use, inheritedSettings start (passed ++ above)⟩).toList := by
  induction above generalizing passed with
  | nil => simp [inheritedChain]
  | cons b above ih => simp [inheritedChain, ih]

/-- At the root of a tree the configuration is the one it starts with. -/
@[simp] theorem inherited_nil (start : RouteConfig Value) : inherited start [] = start := by
  simp [inherited, inheritedSettings, inheritedChain, nearest?, groupPaths]

/-- One more ancestor overrides the settings that it has, lengthens the path when it is a group, and joins
the chain when it is a middleware. -/
theorem inherited_concat (start : RouteConfig Value) (above : List Ancestor) (a : Ancestor) :
    inherited start (above ++ [a]) =
      let c := inherited start above
      { settings := {
          mountPath :=
            match a.path? with
            | some path =>
              .str (joinPaths (start.settings.mountPath.pathText :: (groupPaths above ++ [path])))
            | none => c.settings.mountPath
          rateLimit := a.rateLimit?.getD c.settings.rateLimit
          cors := a.cors?.getD c.settings.cors
          logLevel := a.logLevel?.getD c.settings.logLevel
          service := a.service?.getD c.settings.service
          extensions := c.settings.extensions }
        middleware :=
          match a.use? with
          | some use => c.middleware ++ [⟨use, c.settings⟩]
          | none => c.middleware } := by
  cases hpath : a.path? <;> cases huse : a.use? <;>
    simp [inherited, inheritedSettings, inheritedChain_concat, hpath, huse]

theorem asPath_eq_ok {v : Value} {path : String} : v.asPath = .ok path ↔ v = .str path := by
  cases v <;> simp [Value.asPath, Value.asText, refuse]

/-- The path at a place, when it is one, joined with another. -/
theorem joinPaths_inherited {start : RouteConfig Value} {above : List Ancestor} {before : String}
    (h : (inherited start above).settings.mountPath = .str before) (path : String) :
    joinPaths [before, path] =
      joinPaths (start.settings.mountPath.pathText :: (groupPaths above ++ [path])) := by
  simp only [inherited, inheritedSettings] at h
  -- below no group the path is the one that the tree starts with, and otherwise it is a joined one
  by_cases hnone : groupPaths above = []
  · rw [if_pos hnone] at h
    rw [h, hnone]
    rfl
  · rw [if_neg hnone] at h
    obtain rfl := Value.str.inj h
    rw [joinPaths_append]
    rfl

/-! ## What each kind of node adds -/

section

variable {start : RouteConfig Value} {above : List Ancestor}

theorem inherited_logger (level : Value) (service : Option Value) :
    inherited start (above ++ [⟨.logger level, service⟩]) = (inherited start above).setLogLevel level := by
  rw [inherited_concat]
  rfl

theorem inherited_db (provider service : Value) :
    inherited start (above ++ [⟨.db provider, some service⟩]) =
      (inherited start above).setService service := by
  rw [inherited_concat]
  rfl

theorem inherited_cors (origin : Value) (methods : List Value) (service : Option Value) :
    inherited start (above ++ [⟨.cors origin methods, service⟩]) =
      (inherited start above).setCors (.corsSpec ⟨origin, methods⟩) := by
  rw [inherited_concat]
  rfl

theorem inherited_rateLimiter {max timeWindow keyHeader : Value} {spec : RateLimitSpec Value}
    (h : RateLimitSpec.ofNode max timeWindow keyHeader = .ok spec) (service : Option Value) :
    inherited start (above ++ [⟨.rateLimiter max timeWindow keyHeader, service⟩]) =
      (inherited start above).setRateLimit (.rateLimitSpec spec) := by
  rw [inherited_concat]
  simp only [Ancestor.rateLimit?, h]
  rfl

theorem inherited_middleware (use : Value) (service : Option Value) :
    inherited start (above ++ [⟨.middleware use, service⟩]) =
      (inherited start above).withMiddleware use := by
  rw [inherited_concat]
  rfl

theorem inherited_group {path : Value} {next : RouteConfig Value}
    (h : (inherited start above).withPath path = .ok next) (service : Option Value) :
    inherited start (above ++ [⟨.group path, service⟩]) = next := by
  rw [RouteConfig.withPath] at h
  cases hbefore : (inherited start above).settings.mountPath.asPath with
  | error f => simp [hbefore, bind, Except.bind] at h
  | ok before =>
    cases hpath : path.asPath with
    | error f => simp [hbefore, hpath, bind, Except.bind] at h
    | ok own =>
      obtain rfl := asPath_eq_ok.mp hpath
      simp only [hbefore, hpath, bind, Except.bind, pure, Except.pure, Except.ok.injEq] at h
      rw [← h, joinPaths_inherited (asPath_eq_ok.mp hbefore), inherited_concat]
      rfl

/-- A node that changes no setting hands down what it inherits. -/
theorem inherited_plain {a : Ancestor} (hpath : a.path? = none) (huse : a.use? = none)
    (hlevel : a.logLevel? = none) (hlimit : a.rateLimit? = none) (hcors : a.cors? = none)
    (hservice : a.service? = none) : inherited start (above ++ [a]) = inherited start above := by
  rw [inherited_concat, hpath, huse, hlevel, hlimit, hcors, hservice]
  rfl

end

/-! ## One visit -/

/-- Whether the children of a node are not visited. -/
def Payload.closes : Payload Value → Bool
  | .route .. | .routes .. => true
  | _ => false

theorem visit_db {b : Behaviour U} {c : RouteConfig Value} {provider : Value} (h : provider ≠ .none) :
    visit b c (.db provider) = (do
      let service ← requestService b provider
      return some (c.setService service)) := by
  cases provider <;> first | rfl | exact absurd rfl h

theorem visit_middleware {b : Behaviour U} {c : RouteConfig Value} {use : Value} (h : use ≠ .none) :
    visit b c (.middleware use) = pure (some (c.withMiddleware use)) := by
  cases use <;> first | rfl | exact absurd rfl h

/-- A provider that gives a service was called. -/
theorem returns_requestService {b : Behaviour U} {provider service : Value} {w w' : World U}
    (h : Act.Returns (requestService b provider) w service w') :
    ∃ env env', b.callProvide provider env = (.returned service, env') := by
  obtain ⟨settled, w₁, hcall, hrest⟩ := Act.returns_bind.mp h
  obtain ⟨hsettled, -⟩ := Act.returns_withEnv.mp hcall
  cases settled with
  | returned v =>
    obtain ⟨_, _, -, hv⟩ := Act.returns_bind.mp hrest
    obtain ⟨rfl, -⟩ := Act.returns_pure.mp hv
    exact ⟨w.env, _, Prod.ext hsettled rfl⟩
  | suspended rest => exact absurd hrest Act.returns_throw
  | raised f =>
    obtain ⟨_, _, -, htext⟩ := Act.returns_bind.mp hrest
    obtain ⟨_, _, -, hrefused⟩ := Act.returns_bind.mp htext
    exact absurd hrefused Act.returns_refuse

/-- A node that ends with a configuration for its children hands down just this one. -/
theorem returns_some {x : Act U Unit} {c below : RouteConfig Value} {w w' : World U}
    (h : Act.Returns (x >>= fun _ => pure (some c)) w (some below) w') : c = below := by
  obtain ⟨_, _, -, hbelow⟩ := Act.returns_bind.mp h
  obtain ⟨hsome, -⟩ := Act.returns_pure.mp hbelow
  exact Option.some.inj hsome

/-- **Step lemma**: at a place below ancestors, a node hands down what is inherited below it. -/
theorem visit_below {b : Behaviour U} {start below : RouteConfig Value} {above : List Ancestor}
    {p : Payload Value} {w w' : World U}
    (h : Act.Returns (visit b (inherited start above) p) w (some below) w') :
    p.closes = false ∧ ∃ service, Ancestor.IsServed b ⟨p, service⟩ ∧
      below = inherited start (above ++ [⟨p, service⟩]) := by
  cases p with
  | server port host => exact absurd h Act.returns_refuse
  | logger level =>
    obtain ⟨_, _, -, hrest⟩ := Act.returns_bind.mp h
    exact ⟨rfl, none, rfl, by rw [inherited_logger, returns_some hrest]⟩
  | db provider =>
    by_cases hnone : provider = .none
    · subst hnone
      exact absurd h Act.returns_refuse
    · rw [visit_db hnone] at h
      obtain ⟨service, _, hservice, hbelow⟩ := Act.returns_bind.mp h
      obtain ⟨hsome, -⟩ := Act.returns_pure.mp hbelow
      -- the service is what the provider returned at this very visit
      obtain ⟨env, env', hcall⟩ := returns_requestService hservice
      refine ⟨rfl, some service, ⟨env, env', service, hcall, rfl⟩, ?_⟩
      rw [inherited_db, Option.some.inj hsome]
  | cors origin methods => exact ⟨rfl, none, rfl, by rw [inherited_cors, returns_some h]⟩
  | rateLimiter max timeWindow keyHeader =>
    obtain ⟨spec, _, hspec, hbelow⟩ := Act.returns_bind.mp h
    obtain ⟨hsome, -⟩ := Act.returns_pure.mp hbelow
    obtain ⟨hspec, -⟩ := Act.returns_ofAttempt.mp hspec
    have hmade : RateLimitSpec.ofNode max timeWindow keyHeader = .ok spec := by
      cases hof : RateLimitSpec.ofNode max timeWindow keyHeader with
      | ok made =>
        rw [hof] at hspec
        exact hspec
      | error f =>
        rw [hof] at hspec
        cases hspec
    exact ⟨rfl, none, rfl, by rw [inherited_rateLimiter hmade, Option.some.inj hsome]⟩
  | middleware use =>
    by_cases hnone : use = .none
    · subst hnone
      exact absurd h Act.returns_refuse
    · rw [visit_middleware hnone] at h
      obtain ⟨hsome, -⟩ := Act.returns_pure.mp h
      exact ⟨rfl, none, rfl, by rw [inherited_middleware, Option.some.inj hsome]⟩
  | group path =>
    obtain ⟨next, _, hnext, hbelow⟩ := Act.returns_bind.mp h
    obtain ⟨hsome, -⟩ := Act.returns_pure.mp hbelow
    obtain ⟨hnext, -⟩ := Act.returns_ofAttempt.mp hnext
    exact ⟨rfl, none, rfl, by rw [inherited_group hnext, Option.some.inj hsome]⟩
  | plugin handler name options =>
    exact ⟨rfl, none, rfl, by rw [inherited_plain rfl rfl rfl rfl rfl rfl, returns_some h]⟩
  -- routes and directories of routes hand nothing down
  | routes dir path =>
    obtain ⟨_, _, -, hrest⟩ := Act.returns_bind.mp h
    obtain ⟨_, _, -, hnone⟩ := Act.returns_bind.mp hrest
    exact absurd (Act.returns_pure.mp hnone).1 (by simp)
  | route method path handler schema =>
    obtain ⟨_, _, -, hnone⟩ := Act.returns_bind.mp h
    exact absurd (Act.returns_pure.mp hnone).1 (by simp)
  | response | status code | body data | headers headers | err code message details | augment data
  | halt code message =>
    obtain ⟨hsome, -⟩ := Act.returns_pure.mp h
    exact ⟨rfl, none, rfl, by rw [inherited_plain rfl rfl rfl rfl rfl rfl, Option.some.inj hsome]⟩

/-- A node that hands nothing down is one whose children are not visited. -/
theorem closes_of_visit {b : Behaviour U} {c : RouteConfig Value} {p : Payload Value} {w w' : World U}
    (h : Act.Returns (visit b c p) w none w') : p.closes = true := by
  -- most kinds end by handing a configuration down, whatever they do before
  have hsome : ∀ {α : Type} {x : Act U α} {f : α → RouteConfig Value} {w w' : World U},
      ¬ Act.Returns (x >>= fun a => pure (some (f a))) w none w' := by
    intro α x f w w' hx
    obtain ⟨_, _, -, hreturn⟩ := Act.returns_bind.mp hx
    exact absurd (Act.returns_pure.mp hreturn).1 (by simp)
  cases p with
  | server port host => exact absurd h Act.returns_refuse
  | logger level =>
    obtain ⟨_, _, -, hrest⟩ := Act.returns_bind.mp h
    exact absurd hrest hsome
  | db provider =>
    by_cases hnone : provider = .none
    · subst hnone
      exact absurd h Act.returns_refuse
    · rw [visit_db hnone] at h
      exact absurd h hsome
  | middleware use =>
    by_cases hnone : use = .none
    · subst hnone
      exact absurd h Act.returns_refuse
    · rw [visit_middleware hnone] at h
      exact absurd (Act.returns_pure.mp h).1 (by simp)
  | route method path handler schema => rfl
  | routes dir path => rfl
  | cors origin methods | rateLimiter max timeWindow keyHeader | group path
  | plugin handler name options => exact absurd h hsome
  | response | status code | body data | headers headers | err code message details | augment data
  | halt code message => exact absurd (Act.returns_pure.mp h).1 (by simp)

end ServerTree
