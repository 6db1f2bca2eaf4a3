import ServerTree.Proofs.RateLimit.Endpoints
import ServerTree.Proofs.RateLimit.Serving
import ServerTree.Proofs.Walk.Fatal

/-!
# Requests to a built application

Requests arrive at a built application in any order, to any of its routes and from any clients, at times that
do not decrease. Over exact times each of them is judged by a counter that is kept for its route and its
client alone.

## Main definitions
- `Router.timesOf`: when a client has made requests to a route

## Main statements
- `App.Numbered.bankAfter_reflects`: after any arrivals, the limiter of a route agrees with the counters of
  its clients
- `build_judges`: the requests to a built application are judged by independent counters
-/

namespace ServerTree

/-! ## The requests of a client to a route -/

section

variable {τ : Type}

/-- Whether a request arrives at a route. -/
def Router.arrivesAt (router : Router Registered) (route : Route Registered) (request : Request) : Bool :=
  (router.handler? request).any fun e => e.1.serial == route.serial

/-- The times at which a client has made requests to a route. -/
def Router.timesOf (router : Router Registered) (route : Route Registered) (header : Value) (key : String)
    (arrivals : List (Request × τ)) : List τ :=
  (arrivals.filter fun a => router.arrivesAt route a.1 && identityKey a.1 header == key).map Prod.snd

variable {router : Router Registered} {route : Route Registered} {request : Request}

/-- A request to another route, or to none, is none of any client to this one. -/
theorem timesOf_concat_other (header : Value) (key : String) (arrivals : List (Request × τ)) (now : τ)
    (h : router.arrivesAt route request = false) :
    router.timesOf route header key (arrivals ++ [(request, now)]) =
      router.timesOf route header key arrivals := by
  simp [Router.timesOf, h]

/-- A request to a route is one of its client, and of no other. -/
theorem timesOf_concat_own (header : Value) (key : String) (arrivals : List (Request × τ)) (now : τ)
    (h : router.arrivesAt route request = true) :
    router.timesOf route header key (arrivals ++ [(request, now)]) =
      if key = identityKey request header then router.timesOf route header key arrivals ++ [now]
      else router.timesOf route header key arrivals := by
  by_cases hkey : key = identityKey request header
  · subst hkey
    simp [Router.timesOf, h]
  · simp [Router.timesOf, h, hkey, Ne.symm hkey]

end

/-! ## The limiter of a route -/

/-- The route of the handler at which a request arrives is entered in the router. -/
theorem enters_of_handler? {router : Router Registered} {request : Request} {route : Route Registered}
    {h : WrappedHandler} (hhandler : router.handler? request = some (route, h)) :
    router.Enters route ∧ route.endpoint.endpoint = .wrapped h := by
  rw [Router.handler?] at hhandler
  split at hhandler
  · cases hhandler
  · cases hmatch : router.match? request.method request.path with
    | error miss =>
      rw [hmatch] at hhandler
      cases hhandler
    | ok found =>
      rw [hmatch] at hhandler
      dsimp only at hhandler
      split at hhandler
      · next h' hendpoint =>
        obtain ⟨rfl, rfl⟩ := Prod.mk.inj (Option.some.inj hhandler)
        exact ⟨enters_of_match? hmatch, hendpoint⟩
      · cases hhandler

namespace App

variable {app : App} {route : Route Registered} {h : WrappedHandler} {spec : RateLimitSpec Value}

/-- A limiter that nothing was counted with agrees with counters that have seen nothing. -/
theorem limiter_nil (number : Nat) : Bank.limiter ([] : Bank ℚ) number = Limiter.texts {} := rfl

/-- **Step lemma**: one more arrival, to whatever route and from whatever client, keeps the limiter of a route
in agreement with the counters of its clients. -/
theorem Numbered.countAt_reflects (hnumbered : app.Numbered) (hroute : app.router.Enters route)
    (hendpoint : route.endpoint.endpoint = .wrapped h)
    (hspec : h.config.settings.rateLimit = .rateLimitSpec spec) {length : Value → ℚ}
    {arrivals : List (Request × ℚ)} {bank : Bank ℚ} {l : Limiter String ℚ} (request : Request) (now : ℚ)
    (hl : bank.limiter h.number = l.texts)
    (hreflects : l.Reflects (length spec.window) now
      (fun key => app.router.timesOf route spec.keyHeader key arrivals)) :
    ∃ next : Limiter String ℚ,
      (app.router.countAt length request now bank).2.limiter h.number = next.texts ∧
      next.Reflects (length spec.window) now
        (fun key => app.router.timesOf route spec.keyHeader key (arrivals ++ [(request, now)])) := by
  cases hhandler : app.router.handler? request with
  | none =>
    have hother : app.router.arrivesAt route request = false := by simp [Router.arrivesAt, hhandler]
    simp only [timesOf_concat_other _ _ _ _ hother, Router.countAt, hhandler]
    exact ⟨l, hl, hreflects⟩
  | some arrived =>
    obtain ⟨route', h'⟩ := arrived
    obtain ⟨hroute', hendpoint'⟩ := enters_of_handler? hhandler
    simp only [Router.countAt, hhandler]
    by_cases hserial : route'.serial = route.serial
    · have hown : app.router.arrivesAt route request = true := by simp [Router.arrivesAt, hhandler, hserial]
      obtain rfl := hnumbered.eq_of_serial route' route hroute' hroute hserial
      obtain rfl : h' = h := by simpa [hendpoint] using hendpoint'.symm
      simp only [timesOf_concat_own _ _ _ _ hown]
      exact (ServerTree.countAt_reflects hspec hl hreflects request).1
    · -- the handler of another route has another number
      have hother : app.router.arrivesAt route request = false := by
        simp [Router.arrivesAt, hhandler, hserial]
      have hne : h.number ≠ h'.number := by
        intro hnumber
        have hsame := hnumbered.eq_of_number route route' h h' hroute hroute' hendpoint hendpoint' hnumber
        exact hserial (congrArg Route.serial hsame.symm)
      simp only [timesOf_concat_other _ _ _ _ hother]
      refine ⟨l, ?_, hreflects⟩
      rw [countAt_limiter_of_ne length h' request now bank hne]
      exact hl

/-- **Run lemma**: after arrivals at times that do not decrease, the limiter of a route agrees with the
counters of its clients. The induction is on the arrivals, from the last one. -/
theorem Numbered.bankAfter_reflects (hnumbered : app.Numbered) (hroute : app.router.Enters route)
    (hendpoint : route.endpoint.endpoint = .wrapped h)
    (hspec : h.config.settings.rateLimit = .rateLimitSpec spec) (length : Value → ℚ)
    {arrivals : List (Request × ℚ)} {now : ℚ}
    (htimes : ((arrivals.map Prod.snd) ++ [now]).Pairwise (· ≤ ·)) :
    ∃ l : Limiter String ℚ, (app.router.bankAfter length arrivals []).limiter h.number = l.texts ∧
      l.Reflects (length spec.window) now
        (fun key => app.router.timesOf route spec.keyHeader key arrivals) := by
  induction arrivals using List.reverseRecOn generalizing now with
  | nil => exact ⟨{}, limiter_nil h.number, Limiter.reflects_empty _ now⟩
  | append_singleton arrivals a ih =>
    obtain ⟨request, before⟩ := a
    rw [List.map_append] at htimes
    obtain ⟨hearlier, -, hlast⟩ := List.pairwise_append.mp htimes
    -- the invariant holds at the time of the last arrival, and from then on as time passes
    have hle : before ≤ now := hlast before (by simp) now (by simp)
    obtain ⟨l, hl, hreflects⟩ := ih hearlier
    obtain ⟨next, hnext, hagrees⟩ :=
      hnumbered.countAt_reflects hroute hendpoint hspec request before hl hreflects
    refine ⟨next, ?_, hagrees.mono hle⟩
    rw [Router.bankAfter_concat]
    exact hnext

/-- Freezing a numbered application keeps it numbered. -/
theorem Numbered.freeze (hnumbered : app.Numbered) : app.freeze.Numbered := by
  rw [App.freeze]
  split
  · exact hnumbered
  · exact ⟨hnumbered.serial_lt, hnumbered.number_lt, hnumbered.eq_of_serial, hnumbered.eq_of_number⟩

end App

/-! ## Verdicts -/

/-- **Requests to a built application are judged by independent counters.** After any requests at times that
do not decrease, to whatever routes and from whatever clients, one that arrives at a limited route is let
through or told to wait as a counter says that is kept for its route and its client alone and never forgets.
What was denied makes no difference to it. The limiters of a running application are at every time those
after arrivals, and each further arrival is denied or passed on as the same count says over doubles. -/
theorem build_judges {U : Type} {b : Behaviour U} {root : Value} {configured : Bool} {w w' : World U}
    (hempty : w.app.router = {}) (hbank : w.limiters = [])
    (hbuilt : Act.Returns (build b root configured) w () w') (length : Value → ℚ)
    (arrivals : List (Request × ℚ)) (request : Request) (now : ℚ) {route : Route Registered}
    {h : WrappedHandler} {spec : RateLimitSpec Value} {max : Int}
    (htimes : ((arrivals.map Prod.snd) ++ [now]).Pairwise (· ≤ ·))
    (hroute : w'.app.freeze.router.handler? request = some (route, h))
    (hspec : h.config.settings.rateLimit = .rateLimitSpec spec) (hmax : maximum? spec.max = some max) :
    let router := w'.app.freeze.router
    let window := length spec.window
    let mine := router.timesOf route spec.keyHeader (identityKey request spec.keyHeader) arrivals
    (∃ seconds, 1 ≤ seconds ∧
      (router.countAt length request now (router.bankAfter length arrivals [])).1 =
        .ok (if admits max window mine now then none else some seconds)) ∧
    admits max window (letThrough max window mine) now = admits max window mine now ∧
    (∀ v, Runs b w' v → v.app.freeze = w'.app.freeze ∧
      ∃ arrivals, v.limiters = router.bankAfter id arrivals []) ∧
    ∀ v : World U, v.app = w'.app.freeze →
      let r := router.countAt id request v.env.clock v.limiters
      (outcome (dispatch b request) v).2.limiters = r.2 ∧
      (∀ seconds, r.1 = .ok (some seconds) →
        (outcome (dispatch b request) v).1 = .ok (.response (deniedResponse seconds))) ∧
      (r.1 = .ok none → ∃ params, outcome (dispatch b request) v =
        outcome (h.serveCounted b { request with pathParams := params }) { v with limiters := r.2 }) := by
  intro router window mine
  obtain ⟨hnumbered, hnone⟩ := build_numbered hempty hbank hbuilt
  obtain ⟨henters, hendpoint⟩ := enters_of_handler? hroute
  refine ⟨?_, admits_letThrough max window mine now, ?_, ?_⟩
  · obtain ⟨l, hl, hreflects⟩ :=
      hnumbered.freeze.bankAfter_reflects henters hendpoint hspec length htimes
    have hjudged := (countAt_reflects hspec hl hreflects request).2 max hmax
    have hcount : router.countAt length request now (router.bankAfter length arrivals []) =
        h.countAt length request now (router.bankAfter length arrivals []) := by
      rw [Router.countAt, hroute]
    rw [hcount]
    exact hjudged
  · intro v hv
    have harrived := hv.arrived
    rwa [hnone] at harrived
  · intro v hv r
    have hr : v.app.router.countAt id request v.env.clock v.limiters = r := by rw [hv]
    have hroute' : v.app.router.handler? request = some (route, h) := by
      rw [hv]
      exact hroute
    obtain ⟨-, hlimiters, hdenied, hcounted⟩ := dispatch_counts b request v
    rw [hr] at hlimiters hdenied hcounted
    exact ⟨hlimiters, hdenied, hcounted route h hroute'⟩

/-! ### A route under a limit of one request a minute -/

/-- One request a minute, for each address. -/
def oneAMinute : RateLimitSpec Value := ⟨.int 1, .ofFloat (Float.ofInt 60), .none⟩

theorem ofNode_oneAMinute : RateLimitSpec.ofNode (.int 1) (.int 60) .none = .ok oneAMinute := by
  have hfinite : (Float.ofInt 60).isInf = false := by decide +kernel
  have hpositive : ¬ Float.ofInt 60 ≤ 0.0 := by decide +kernel
  simp only [RateLimitSpec.ofNode, parseWindow, windowSeconds, hfinite, Bool.false_eq_true, if_false, bind,
    Except.bind, hpositive, keyHeaderName]
  rfl

/-- The route below the limit. -/
def limitedBooks : Value :=
  .node (.rateLimiter (.int 1) (.int 60) .none) [.node (.route "GET" (.str "/books") (.object "list" 0) .none) []]

/-- The world in which its walk begins. -/
def booksStart : World Unit where
  env := { user := () }
  app := { config := { host := .str "127.0.0.1", port := .int 8000 }, responseHooks := [.accessLog] }

/-- The world after its route was visited. -/
def booksWalked : World Unit :=
  (outcome (visit .idle (RouteConfig.empty.setRateLimit (.rateLimitSpec oneAMinute))
    (.route "GET" (.str "/books") (.object "list" 0) .none)) booksStart).2

/-- The world with the built application. -/
def booksBuilt : World Unit :=
  { booksWalked with env := booksWalked.env.emit .tree .info "Registered 1 routes" }

/-- Building the application of the route returns. -/
theorem returns_build_books :
    Act.Returns (build .idle (.node (.server (.int 8000) (.str "127.0.0.1")) [limitedBooks]) false)
      { env := { user := () } } () booksBuilt := by
  have hroot : Act.Returns (Act.expand (resolve Behaviour.idle.expand
      (.node (.server (.int 8000) (.str "127.0.0.1")) [limitedBooks]))) { env := { user := () } }
      (.node (.server (.int 8000) (.str "127.0.0.1")) [limitedBooks]) { env := { user := () } } := rfl
  have hlimit : Act.Returns (visit .idle .empty (.rateLimiter (.int 1) (.int 60) .none)) booksStart
      (some (RouteConfig.empty.setRateLimit (.rateLimitSpec oneAMinute))) booksStart := by
    simp only [visit, ofNode_oneAMinute]
    rfl
  refine (returns_build_iff hroot rfl).mpr ⟨booksWalked, _, ?_, rfl, rfl⟩
  refine returns_walkTrees_singleton.mpr (returns_walkTree_node.mpr ⟨some _, booksStart, hlimit, ?_⟩)
  exact returns_walkTrees_singleton.mpr (returns_walkTree_node.mpr ⟨none, booksWalked, rfl, rfl⟩)

/-- A request of a client for the books. -/
def books (client : String) : Request := { path := "/books", client := some (client, 50000) }

/-- Within the minute the second request of a client is denied, also when another client has come in between;
after the minute it is let through. -/
theorem build_judges_books :
    let router := booksBuilt.app.freeze.router
    let verdict (now : ℚ) := (router.countAt (fun _ => (60 : ℚ)) (books "ada") now
      (router.bankAfter (fun _ => (60 : ℚ)) [(books "ada", 0), (books "grace", 1)] [])).1
    (∃ seconds, 1 ≤ seconds ∧ verdict 2 = .ok (some seconds)) ∧ verdict 60 = .ok none := by
  intro router verdict
  obtain ⟨route, h, hroute, hspec⟩ : ∃ route h, router.handler? (books "ada") = some (route, h) ∧
      h.config.settings.rateLimit = .rateLimitSpec oneAMinute := ⟨_, _, rfl, rfl⟩
  have hmine : router.timesOf route oneAMinute.keyHeader (identityKey (books "ada") oneAMinute.keyHeader)
      [(books "ada", (0 : ℚ)), (books "grace", 1)] = [0] := by
    have hown : router.arrivesAt route (books "ada") = true := by simp [Router.arrivesAt, hroute]
    have hother : (identityKey (books "grace") oneAMinute.keyHeader ==
        identityKey (books "ada") oneAMinute.keyHeader) = false := by decide +kernel
    simp [Router.timesOf, hown, hother]
  have hjudged : ∀ now : ℚ, 1 ≤ now → ∃ seconds, 1 ≤ seconds ∧
      verdict now = .ok (if admits 1 60 [0] now then none else some seconds) := by
    intro now hnow
    have hzero : (0 : ℚ) ≤ now := by linarith
    have htimes : ([(books "ada", (0 : ℚ)), (books "grace", 1)].map Prod.snd ++ [now]).Pairwise (· ≤ ·) := by
      simp [hnow, hzero]
    have hverdict := (build_judges rfl rfl returns_build_books (fun _ => 60) _ (books "ada") now htimes
      hroute hspec rfl).1
    rwa [hmine] at hverdict
  constructor
  · obtain ⟨seconds, hseconds, hverdict⟩ := hjudged 2 (by norm_num)
    have hdenied : admits 1 60 [0] 2 = false := by decide +kernel
    rw [hdenied] at hverdict
    exact ⟨seconds, hseconds, hverdict⟩
  · obtain ⟨seconds, -, hverdict⟩ := hjudged 60 (by norm_num)
    have hadmitted : admits 1 60 [0] 60 = true := by decide +kernel
    rw [hadmitted] at hverdict
    exact hverdict

end ServerTree
