import ServerTree.Proofs.RateLimit.Bank
import ServerTree.Proofs.Serving.Invariants

/-!
# Serving and the limiters

While requests are served, only their arrival at the endpoint of a route moves a limiter. Everything else that
serving does, also what application code does in its course, leaves the application and its limiters alone.

## Main definitions
- `Router.handler?`: the handler that a request arrives at
- `Router.countAt`: one arrival, over any times
- `Router.bankAfter`: the limiters after arrivals, over any times
- `Runs`: what a running application comes to

## Main statements
- `dispatch_counts`: a running application counts what arrives, over doubles
- `Runs.arrived`: at every time of a run the limiters are those after arrivals
-/

namespace ServerTree

variable {U : Type}

/-! ## The application and its limiters -/

section

variable {J : App → Bank Float → Prop}

/-- An engine function does not get at the application and its limiters, but by what it passes requests on to. -/
theorem Course.agreeWhere_app (course : Course U) {w : World U} (h : J w.app w.limiters) :
    Course.AgreeWhere (fun w => J w.app w.limiters) w course course := by
  induction course generalizing w with
  | finish env result => exact .finish h
  | next env request resume ih => exact .next h fun v r hv => ih v.env r hv
  | readBody env request resume ih => exact .readBody h fun v r hv => ih v.env r hv

/-- Nor do other functions. -/
theorem Behaviour.agreeWhere_app (b : Behaviour U) : b.AgreeWhere (fun w => J w.app w.limiters) b where
  composites h _ := h
  inbox h _ := h
  abandoned h _ := h
  expand := rfl
  handle h _ _ _ := ⟨rfl, h⟩
  call h _ _ _ := ⟨rfl, h⟩
  resume h _ := ⟨rfl, h⟩
  endpoint h _ _ := Course.agreeWhere_app _ h
  around h _ _ := Course.agreeWhere_app _ h
  hook h _ _ _ _ := ⟨rfl, h⟩

namespace Act

variable (b : Behaviour U)

/-- A request that was let through moves no limiter any more. -/
theorem keeps_serveCounted (h : WrappedHandler) (request : Request) : Keeps J (h.serveCounted b request) :=
  Preserves.keeps (agree_serveCounted b.agreeWhere_app (fun hw _ => hw) request)

/-- An endpoint of the engine moves none. -/
theorem keeps_endpoint (fn : Value) (request : Request) :
    Keeps J (callEngine (b.callEndpoint fn) nothingNext request) := by
  refine Preserves.keeps (agree_callEngine b.agreeWhere_app (fun request => agree_refuse _) ?_ request)
  exact fun request w hw => Course.agreeWhere_app _ hw

end Act

end

/-! ## Arrivals -/

section

variable {τ ω : Type} [TimeScale τ ω]

/-- The handler of the tree that a request arrives at, and its route. -/
def Router.handler? (router : Router Registered) (request : Request) :
    Option (Route Registered × WrappedHandler) :=
  if router.isTooDeepFor request.method request.path then none
  else
    match router.match? request.method request.path with
    | .error _ => none
    | .ok found =>
      match found.route.endpoint.endpoint with
      | .wrapped h => some (found.route, h)
      | .custom _ => none

/-- Counts a request that arrives at a router, over any times. Gives the seconds to wait when it is denied. -/
def Router.countAt (length : Value → ω) (router : Router Registered) (request : Request) (now : τ)
    (bank : Bank τ) : Attempt (Option Int) × Bank τ :=
  match router.handler? request with
  | some (_, h) => h.countAt length request now bank
  | none => (.ok none, bank)

/-- The limiters after requests have arrived at a router, each at its time. -/
def Router.bankAfter (length : Value → ω) (router : Router Registered) (arrivals : List (Request × τ))
    (bank : Bank τ) : Bank τ :=
  arrivals.foldl (fun bank a => (router.countAt length a.1 a.2 bank).2) bank

end

/-- Serving is counting, and then the stages behind the limiter unless the request is denied. -/
theorem outcome_serve (b : Behaviour U) (h : WrappedHandler) (request : Request) (w : World U) :
    let r := h.countAt id request w.env.clock w.limiters
    outcome (h.serve b request) w =
      match r.1 with
      | .error f => (.error (.failed f), { w with limiters := r.2 })
      | .ok (some seconds) => (.ok (.response (deniedResponse seconds)), { w with limiters := r.2 })
      | .ok none => outcome (h.serveCounted b request) { w with limiters := r.2 } := by
  intro r
  rw [WrappedHandler.serve, outcome_bind, outcome_checkLimit]
  rcases r.1 with f | (_ | seconds)
  · rfl
  · rfl
  · rfl

/-- A request that arrives at a handler is served by it, with the parameters of its path. One that arrives at
no handler of the tree leaves the application and the limiters alone. -/
theorem dispatch_cases (b : Behaviour U) (request : Request) (w : World U) :
    (∃ route h params, w.app.router.handler? request = some (route, h) ∧
      outcome (dispatch b request) w = outcome (h.serve b { request with pathParams := params }) w) ∨
    w.app.router.handler? request = none ∧
      (outcome (dispatch b request) w).2.app = w.app ∧
      (outcome (dispatch b request) w).2.limiters = w.limiters := by
  unfold dispatch
  rw [Act.outcome_get_bind, Router.handler?]
  by_cases hdeep : w.app.router.isTooDeepFor request.method request.path = true
  · rw [if_pos hdeep, if_pos hdeep]
    exact .inr ⟨rfl, rfl, rfl⟩
  · rw [if_neg hdeep, if_neg hdeep]
    cases w.app.router.match? request.method request.path with
    | error miss => exact .inr ⟨rfl, rfl, rfl⟩
    | ok found =>
      dsimp only
      cases found.route.endpoint.endpoint with
      | wrapped h => exact .inl ⟨found.route, h, found.params, rfl, rfl⟩
      | custom fn =>
        -- a function that takes requests has no limiter, and nothing to pass them on to
        have hkept := Act.keeps_endpoint b fn { request with pathParams := found.params } w
          (J := fun app bank => app = w.app ∧ bank = w.limiters) ⟨rfl, rfl⟩
        exact .inr ⟨rfl, hkept⟩

/-- **A running application counts what arrives**, over doubles: a request moves the limiters as an arrival
does, and is denied, or passed on to the stages behind the limiter, as the count says. -/
theorem dispatch_counts (b : Behaviour U) (request : Request) (w : World U) :
    let r := w.app.router.countAt id request w.env.clock w.limiters
    (outcome (dispatch b request) w).2.app = w.app ∧ (outcome (dispatch b request) w).2.limiters = r.2 ∧
    (∀ seconds, r.1 = .ok (some seconds) →
      (outcome (dispatch b request) w).1 = .ok (.response (deniedResponse seconds))) ∧
    (∀ route h, w.app.router.handler? request = some (route, h) → r.1 = .ok none →
      ∃ params, outcome (dispatch b request) w =
        outcome (h.serveCounted b { request with pathParams := params }) { w with limiters := r.2 }) := by
  intro r
  rcases dispatch_cases b request w with ⟨route, h, params, hhandler, hrun⟩ | ⟨hnone, happ, hlimiters⟩
  · have hr : r = h.countAt id { request with pathParams := params } w.env.clock w.limiters := by
      show Router.countAt id w.app.router request w.env.clock w.limiters = _
      rw [Router.countAt, hhandler]
      rfl
    rw [hrun, outcome_serve, ← hr]
    have hkept := Act.keeps_serveCounted b h { request with pathParams := params }
      { w with limiters := r.2 } (J := fun app bank => app = w.app ∧ bank = r.2) ⟨rfl, rfl⟩
    -- only a request that is let through gets to the stages behind the limiter
    rcases hverdict : r.1 with f | (_ | seconds)
    · exact ⟨rfl, rfl, nofun, nofun⟩
    · refine ⟨hkept.1, hkept.2, nofun, fun route' h' hhandler' _ => ?_⟩
      obtain ⟨-, rfl⟩ := Prod.mk.inj (Option.some.inj (hhandler.symm.trans hhandler'))
      exact ⟨params, rfl⟩
    · refine ⟨rfl, rfl, fun seconds' hdenied => ?_, nofun⟩
      cases hdenied
      rfl
  · have hr : r = (.ok none, w.limiters) := by
      show Router.countAt id w.app.router request w.env.clock w.limiters = _
      rw [Router.countAt, hnone]
    rw [hr]
    refine ⟨happ, hlimiters, nofun, fun route h hhandler => ?_⟩
    rw [hnone] at hhandler
    cases hhandler

/-! ## Runs -/

@[simp] theorem Router.bankAfter_concat {τ ω : Type} [TimeScale τ ω] (length : Value → ω)
    (router : Router Registered) (arrivals : List (Request × τ)) (request : Request) (now : τ)
    (bank : Bank τ) :
    router.bankAfter length (arrivals ++ [(request, now)]) bank =
      (router.countAt length request now (router.bankAfter length arrivals bank)).2 := by
  simp [Router.bankAfter]

/-- The application is a given one, and its limiters are those after arrivals. -/
def Arrived (app : App) (bank : Bank Float) (app' : App) (bank' : Bank Float) : Prop :=
  app' = app ∧ ∃ arrivals, bank' = app.router.bankAfter id arrivals bank

/-- **Step lemma**: passing a request on to the router is one more arrival. -/
theorem keeps_dispatch (b : Behaviour U) (app : App) (bank : Bank Float) (request : Request) :
    Act.Keeps (Arrived app bank) (dispatch b request) := by
  rintro w ⟨rfl, arrivals, harrivals⟩
  obtain ⟨happ, hlimiters, -, -⟩ := dispatch_counts b request w
  refine ⟨happ, arrivals ++ [(request, w.env.clock)], ?_⟩
  rw [hlimiters, Router.bankAfter_concat, harrivals]

/-- What was frozen stays as it is. -/
theorem App.freeze_freeze (app : App) : app.freeze.freeze = app.freeze := by
  cases hfrozen : app.frozen <;> simp [App.freeze, hfrozen]

/-- Freezing an application enters no new route. -/
theorem App.enters_freeze (app : App) (r : Route Registered) :
    app.freeze.router.Enters r ↔ app.router.Enters r := by
  have htrie : app.freeze.router.trie = app.router.trie := by
    cases hfrozen : app.frozen <;> simp [App.freeze, hfrozen, Router.compile]
  rw [Router.Enters, Router.Enters, htrie]

/-- Serving a request begins with the frozen application. -/
theorem outcome_serveRequest_freeze (b : Behaviour U) (request : Request) (inbox : Inbox) (w : World U) :
    outcome (serveRequest b request inbox) w =
      outcome (serveRequest b request inbox) { w with app := w.app.freeze } := by
  have hrun (v : World U) : outcome (serveRequest b request inbox) v = outcome (do
      let world ← get
      let request := { request with maxBodySize := world.app.config.bodyLimit }
      let answer ← answerRequest b request
      sendAnswer b world request answer : Act U WireResponse) { v with app := v.app.freeze, inbox := inbox } := rfl
  rw [hrun, hrun, App.freeze_freeze]

/-- Whatever the middleware around the router, the stages of a route and the hooks do while a request is
served, the limiters are afterwards those after arrivals. -/
theorem serveRequest_arrivals (b : Behaviour U) (request : Request) (inbox : Inbox) (w : World U) :
    Arrived w.app.freeze w.limiters (outcome (serveRequest b request inbox) w).2.app
      (outcome (serveRequest b request inbox) w).2.limiters := by
  have hserve := Act.agree_serveRequest (b.agreeWhere_app (J := Arrived w.app.freeze w.limiters))
    (fun request => Act.preserves_of _ (keeps_dispatch b _ _ request))
    (fun {v} hv => ⟨by rw [hv.1, App.freeze_freeze], hv.2⟩) (fun hv _ _ _ => hv) request inbox
  rw [outcome_serveRequest_freeze]
  exact hserve.holds ⟨rfl, [], rfl⟩

/-- What a running application comes to: requests are served one after another, and in between everything but
the application and its limiters may change. -/
inductive Runs (b : Behaviour U) (w : World U) : World U → Prop
  | start : Runs b w w
  | passes {v v' : World U} : Runs b w v → v'.app = v.app → v'.limiters = v.limiters → Runs b w v'
  | serves {v : World U} (request : Request) (inbox : Inbox) :
    Runs b w v → Runs b w (outcome (serveRequest b request inbox) v).2

/-- **Run lemma**: at every time of a run the limiters are those after arrivals. -/
theorem Runs.arrived {b : Behaviour U} {w v : World U} (h : Runs b w v) :
    v.app.freeze = w.app.freeze ∧
      ∃ arrivals, v.limiters = w.app.freeze.router.bankAfter id arrivals w.limiters := by
  induction h with
  | start => exact ⟨rfl, [], rfl⟩
  | passes _ happ hlimiters ih =>
    rw [happ, hlimiters]
    exact ih
  | @serves v request inbox _ ih =>
    -- what arrives while this request is served comes after all that has arrived
    obtain ⟨happ, arrivals, harrivals⟩ := ih
    obtain ⟨happ', further, hfurther⟩ := serveRequest_arrivals b request inbox v
    refine ⟨by rw [happ', App.freeze_freeze, happ], arrivals ++ further, ?_⟩
    rw [hfurther, harrivals, happ, Router.bankAfter, Router.bankAfter, Router.bankAfter, List.foldl_append]

end ServerTree
