import ServerTree.Proofs.Routing.Entered
import ServerTree.Proofs.Walk.Invariants

/-!
# Endpoints have limiters of their own

Every handler that is wrapped while an application is built gets the next number, and this number is that of
one route. So the limiters of a built application, which are known by these numbers, belong to single routes.
It holds whatever the tree, the composites, the plugins and the modules do, and also of what a refused
registration leaves behind.

## Main definitions
- `App.Numbered`: the numbers of endpoints tell the routes apart

## Main statement
- `build_numbered`: a built application is numbered, and nothing has been counted yet
-/

namespace ServerTree

/-! ## Numbers -/

namespace App

/-- The numbers of routes and those of endpoints that were given out tell the routes apart. -/
structure Numbered (app : App) : Prop where
  serial_lt : ∀ r, app.router.Enters r → r.serial < app.router.count
  number_lt : ∀ r h, app.router.Enters r → r.endpoint.endpoint = .wrapped h → h.number < app.wrapped
  eq_of_serial : ∀ r r', app.router.Enters r → app.router.Enters r' → r.serial = r'.serial → r = r'
  eq_of_number : ∀ r r' h h', app.router.Enters r → app.router.Enters r' →
    r.endpoint.endpoint = .wrapped h → r'.endpoint.endpoint = .wrapped h' → h.number = h'.number → r = r'

/-- An application without routes is numbered. -/
theorem numbered_of_empty {app : App} (h : app.router = {}) : app.Numbered := by
  have hnone : ∀ r, ¬ app.router.Enters r := by
    rw [h]
    exact not_enters_empty
  exact ⟨fun r hr => absurd hr (hnone r), fun r _ hr => absurd hr (hnone r),
    fun r _ hr => absurd hr (hnone r), fun r _ _ _ hr => absurd hr (hnone r)⟩

/-- Giving out further numbers, and all that does not concern the routes, keeps an application numbered. -/
theorem Numbered.of_router {app app' : App} (h : app.Numbered) (hrouter : app'.router = app.router)
    (hwrapped : app.wrapped ≤ app'.wrapped) : app'.Numbered where
  serial_lt r hr := by
    rw [hrouter] at hr ⊢
    exact h.serial_lt r hr
  number_lt r w hr hw := by
    rw [hrouter] at hr
    exact Nat.lt_of_lt_of_le (h.number_lt r w hr hw) hwrapped
  eq_of_serial r r' hr hr' := by
    rw [hrouter] at hr hr'
    exact h.eq_of_serial r r' hr hr'
  eq_of_number r r' w w' hr hr' := by
    rw [hrouter] at hr hr'
    exact h.eq_of_number r r' w w' hr hr'

/-- **Step lemma**: registering an endpoint whose number is that of no route keeps an application numbered,
whether the registration is accepted or refused. -/
theorem Numbered.route {app : App} (h : app.Numbered) {endpoint : Endpoint}
    (hnew : ∀ w, endpoint = .wrapped w → w.number < app.wrapped ∧
      ∀ r w', app.router.Enters r → r.endpoint.endpoint = .wrapped w' → w'.number ≠ w.number)
    (method path : String) (schema name : Value) :
    (app.route method path endpoint schema name).1.Numbered := by
  rw [App.route]
  by_cases hfrozen : app.frozen = true
  · rw [if_pos hfrozen]
    exact h
  · rw [if_neg hfrozen]
    obtain ⟨henters, hcount⟩ := enters_add app.router path [Text.upper method] ⟨endpoint, schema, name⟩
    generalize app.router.add path [Text.upper method] ⟨endpoint, schema, name⟩ = added at henters hcount
    constructor
    · intro r hr
      rcases henters r hr with hold | ⟨rfl, hnext⟩
      · exact Nat.lt_of_lt_of_le (h.serial_lt r hold) hcount
      · show app.router.count < added.1.count
        omega
    · intro r w hr hw
      rcases henters r hr with hold | ⟨rfl, -⟩
      · exact h.number_lt r w hold hw
      · exact (hnew w hw).1
    · -- the number of the new route is greater than those of all others
      intro r r' hr hr' hserial
      rcases henters r hr with hold | ⟨rfl, -⟩ <;> rcases henters r' hr' with hold' | ⟨rfl, -⟩
      · exact h.eq_of_serial r r' hold hold' hserial
      · exact absurd hserial (Nat.ne_of_lt (h.serial_lt r hold))
      · exact absurd hserial.symm (Nat.ne_of_lt (h.serial_lt r' hold'))
      · rfl
    · -- and its endpoint has a number that no other route has
      intro r r' w w' hr hr' hw hw' hnumber
      rcases henters r hr with hold | ⟨rfl, -⟩ <;> rcases henters r' hr' with hold' | ⟨rfl, -⟩
      · exact h.eq_of_number r r' w w' hold hold' hw hw' hnumber
      · exact absurd hnumber ((hnew w' hw').2 r w hold hw)
      · exact absurd hnumber.symm ((hnew w hw).2 r' w' hold' hw')
      · rfl

end App

/-! ## Building -/

/-- An application is numbered and nothing was counted. -/
def Uncounted (app : App) (bank : Bank Float) : Prop := app.Numbered ∧ bank = []

/-- A registration that does not concern the routes keeps an application numbered. -/
theorem uncounted_of_unlessFrozen {app changed app' : App} {bank : Bank Float}
    (happ : app.unlessFrozen changed = .ok app') (h : Uncounted app bank)
    (hrouter : changed.router = app.router) (hwrapped : changed.wrapped = app.wrapped) :
    Uncounted app' bank := by
  rw [App.unlessFrozen] at happ
  split at happ
  · cases happ
  · obtain rfl := Except.ok.inj happ
    exact ⟨h.1.of_router hrouter (Nat.le_of_eq hwrapped.symm), h.2⟩

/-- **Step lemma**: registrations keep an application numbered. -/
theorem keptByRegistrations_uncounted : App.KeptByRegistrations Uncounted where
  route h method path fn schema name := ⟨h.1.route (by intro _ heq; cases heq) method path schema name, h.2⟩
  wrapped {app _} h handler config shown logger method path schema name := by
    have hnumbered : ({ app with wrapped := app.wrapped + 1 } : App).Numbered :=
      h.1.of_router rfl (Nat.le_succ _)
    refine ⟨hnumbered.route ?_ method path schema name, h.2⟩
    -- the number that was given out just now is greater than that of any route
    intro w hendpoint
    cases hendpoint
    refine ⟨Nat.lt_succ_self _, fun r w' hr hw' => ?_⟩
    exact Nat.ne_of_lt (h.1.number_lt r w' hr hw')
  middleware h happ := uncounted_of_unlessFrozen happ h rfl rfl
  hook h happ := uncounted_of_unlessFrozen happ h rfl rfl

/-- So does enabling cross-origin requests. -/
theorem uncounted_of_enableCors {app app' : App} {bank : Bank Float} {spec : CorsSpec Value}
    (happ : app.enableCors spec = .ok app') (h : Uncounted app bank) : Uncounted app' bank := by
  rw [App.enableCors] at happ
  split at happ
  · cases happ
  · split at happ
    · cases happ
    · obtain rfl := Except.ok.inj happ
      exact ⟨h.1.of_router rfl (Nat.le_refl _), h.2⟩

/-- **A built application is numbered**: each of its limiters will belong to one route, and nothing has been
counted yet. -/
theorem build_numbered {U : Type} {b : Behaviour U} {root : Value} {configured : Bool} {w w' : World U}
    (hempty : w.app.router = {}) (hbank : w.limiters = [])
    (h : Act.Returns (build b root configured) w () w') : w'.app.Numbered ∧ w'.limiters = [] := by
  have hkept := Act.keeps_build b keptByRegistrations_uncounted
    (fun spec => Act.keeps_tryCors fun app app' bank happ => uncounted_of_enableCors happ)
    (fun app bank config h => ⟨h.1.of_router rfl (Nat.le_refl _), h.2⟩) root configured w
    ⟨App.numbered_of_empty hempty, hbank⟩
  rwa [show outcome (build b root configured) w = _ from h] at hkept

end ServerTree
