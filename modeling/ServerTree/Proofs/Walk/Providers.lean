import ServerTree.Proofs.Directory.Discovery
import ServerTree.Proofs.Walk.Fatal

/-!
# Waiting for providers

Of all that a walk does, only the providers of databases are waited for. Modules, plugins and registrations
return or fail, so a node that is never done is a database whose provider does not settle.

## Main statements
- `settles_mountDirectory`: a directory of routes is never waited for
- `waits_of_visit`: a node that does not settle is a database
-/

namespace ServerTree

variable {U : Type} {α β : Type}

namespace Act

/-! ## Steps that never wait -/

theorem settles_pure (a : α) : Settles (pure a : Act U α) := fun _ h => by cases h

theorem settles_refuse (r : Refusal) : Settles (refuse r : Act U α) := fun _ h => by cases h

theorem settles_get : Settles (get : Act U (World U)) := fun _ h => by cases h

theorem settles_log (logger : Logger) (severity : Severity) (message : String) :
    Settles (log logger severity message : Act U Unit) := fun _ h => by cases h

theorem settles_logText (logger : Logger) (severity : Severity) (message : Attempt String) :
    Settles (logText logger severity message : Act U Unit) := fun _ h => by cases h

/-- A loop settles when each of its rounds does. -/
theorem settles_forIn {γ : Type} {f : γ → β → Act U (ForInStep β)} (hf : ∀ c s, Settles (f c s))
    (cs : List γ) (init : β) : Settles (forIn cs init f) := by
  induction cs generalizing init with
  | nil => exact settles_pure init
  | cons c cs ih =>
    rw [List.forIn_cons]
    -- a round may end the loop or go on with the rest
    refine (hf c init).bind fun step => ?_
    cases step with
    | done s => exact settles_pure s
    | yield s => exact ih s

theorem settles_mapFailure (f : Fault → Fault) {x : Act U α} (hx : x.Settles) : Settles (mapFailure f x) := by
  refine hx.attempt.bind fun r => ?_
  cases r with
  | ok a => exact settles_pure a
  | error e => exact fun _ h => by cases h

theorem settles_setThreshold (level : Value) : Settles (setThreshold level : Act U Unit) :=
  settles_get.bind fun _ => (settles_ofAttempt _).bind fun _ => fun _ h => by cases h

theorem settles_wrap (handler : Value) (config : RouteConfig Value) (route : String) :
    Settles (wrap handler config route : Act U Endpoint) :=
  settles_get.bind fun _ => (settles_ofAttempt _).bind fun _ => Settles.bind (fun _ h => by cases h)
    fun _ => settles_pure _

end Act

open Act

/-! ## Directories -/

theorem settles_loadConfigs (b : Behaviour U) (m : Mount) (directories : List (List String)) :
    (loadConfigs b m directories).Settles := by
  induction directories with
  | nil => exact settles_pure _
  | cons directory directories ih =>
    -- a file that cannot be read is skipped
    refine (settles_loadConfig b _).attempt.bind fun r => ?_
    cases r with
    | ok config => exact ih.bind fun _ => settles_pure _
    | error f => exact settles_get.bind fun _ => (settles_logText _ _ _).bind fun _ => ih

theorem settles_loadRoute (b : Behaviour U) (m : Mount) (parsed : List (FilePath × DirectoryConfig))
    (names : List String) : (loadRoute b m parsed names).Settles := by
  refine (settles_loadModule b _).attempt.bind fun r => ?_
  cases r with
  | error f => exact (settles_logText _ _ _).bind fun _ => settles_pure _
  | ok exports =>
    dsimp only
    split
    · exact (settles_log _ _ _).bind fun _ => settles_pure _
    · refine (settles_ofAttempt _).bind fun merged => ?_
      -- whatever the middleware is, the module is then put together from texts
      have hmade : ∀ {f : String → String → String → RouteModule} {v v' url : Attempt String}, Settles (do
          let url ← ofAttempt url
          let before ← ofAttempt v
          let path ← ofAttempt v'
          return some (f url before path) : Act U (Option RouteModule)) :=
        (settles_ofAttempt _).bind fun _ => (settles_ofAttempt _).bind fun _ =>
          (settles_ofAttempt _).bind fun _ => settles_pure _
      split
      · exact (settles_pure _).bind fun _ => hmade
      · refine settles_get.bind fun _ => (settles_logText _ _ _).bind fun _ => ?_
        exact (settles_pure _).bind fun _ => hmade

theorem settles_loadRoutes (b : Behaviour U) (m : Mount) (parsed : List (FilePath × DirectoryConfig))
    (paths : List (List String)) : (loadRoutes b m parsed paths).Settles := by
  induction paths with
  | nil => exact settles_pure _
  | cons path paths ih => exact (settles_loadRoute b m parsed path).bind fun _ => ih.bind fun _ => settles_pure _

theorem settles_discoverRoutes (b : Behaviour U) (directory path : Value) (inherited : RouteConfig Value) :
    (discoverRoutes b directory path inherited).Settles := by
  refine (settles_ofAttempt _).bind fun written => settles_get.bind fun w => ?_
  refine (settles_ofAttempt _).bind fun there => ?_
  cases there with
  | none => exact (settles_log _ _ _).bind fun _ => settles_pure _
  | some root =>
    dsimp only
    split
    · exact (settles_log _ _ _).bind fun _ => settles_pure _
    · refine (settles_forIn (fun link _ => ?_) _ _).bind fun _ => ?_
      · exact (settles_log _ _ _).bind fun _ => settles_pure _
      exact (settles_loadConfigs b _ _).bind fun parsed => settles_loadRoutes b _ parsed _

theorem settles_registerModule (r : RouteModule) : (r.register : Act U Unit).Settles := by
  refine (settles_forIn (fun handler _ => ?_) _ _).bind fun _ => settles_pure _
  refine (settles_wrap _ _ _).bind fun _ => (settles_addRoute _ _ _ _ _).bind fun _ => ?_
  exact (settles_log _ _ _).bind fun _ => settles_pure _

/-- **Directories of routes are never waited for.** -/
theorem settles_mountDirectory (b : Behaviour U) (directory path : Value) (inherited : RouteConfig Value) :
    (mountDirectory b directory path inherited).Settles := by
  refine (settles_discoverRoutes b directory path inherited).bind fun modules => ?_
  refine (settles_forIn (fun r _ => ?_) _ _).bind fun _ => ?_
  · exact (settles_registerModule r).bind fun _ => settles_pure _
  exact (settles_logText _ _ _).bind fun _ => settles_pure _

/-! ## Nodes -/

theorem settles_registerRoute (method : String) (path handler schema : Value) (c : RouteConfig Value) :
    (registerRoute method path handler schema c : Act U Unit).Settles := by
  by_cases hhandler : handler = .none
  · subst hhandler
    exact (settles_ofAttempt _).bind fun _ => settles_refuse _
  · rw [registerRoute_eq hhandler]
    refine (settles_ofAttempt _).bind fun _ => (settles_ofAttempt _).bind fun _ => ?_
    exact (settles_wrap _ _ _).bind fun _ => (settles_addRoute _ _ _ _ _).bind fun _ => settles_log _ _ _

/-- A provider that does not settle is all that a request for a service waits for. -/
theorem suspended_of_requestService {b : Behaviour U} {provider : Value} {w : World U}
    (h : (outcome (requestService b provider) w).1 = .error .unsettled) :
    ∃ rest, (b.callProvide provider w.env).1 = .suspended rest := by
  have hcall : Returns (withEnv (b.callProvide provider)) w (b.callProvide provider w.env).1
      { w with env := (b.callProvide provider w.env).2 } := returns_withEnv.mpr ⟨rfl, rfl⟩
  rw [requestService, outcome_bind, hcall] at h
  cases hsettled : (b.callProvide provider w.env).1 with
  | suspended rest => exact ⟨rest, rfl⟩
  | returned service =>
    rw [hsettled] at h
    exact absurd h (((settles_log _ _ _).bind fun _ => settles_pure service) _)
  | raised f =>
    rw [hsettled] at h
    have hraised : Settles (do
        logText .tree .error (f.text.map ("Database provider failed: " ++ ·))
        let reason ← ofAttempt f.text
        Act.refuse (.providerFailed reason) : Act U Value) :=
      (settles_logText _ _ _).bind fun _ => (settles_ofAttempt _).bind fun _ => settles_refuse _
    exact absurd h (hraised _)

/-- **A node that does not settle** is a database whose provider does not. -/
theorem waits_of_visit {b : Behaviour U} {c : RouteConfig Value} {p : Payload Value} {w : World U}
    (h : (outcome (visit b c p) w).1 = .error .unsettled) :
    ∃ provider rest, p = .db provider ∧ (b.callProvide provider w.env).1 = .suspended rest := by
  cases p with
  | db provider =>
    by_cases hnone : provider = .none
    · subst hnone
      cases h
    · rw [visit_db hnone, outcome_bind] at h
      cases hservice : outcome (requestService b provider) w with
      | mk r w' =>
        rw [hservice] at h
        cases r with
        | ok service => cases h
        | error e =>
          obtain rfl : e = .unsettled := Except.error.inj h
          obtain ⟨rest, hrest⟩ := suspended_of_requestService (congrArg Prod.fst hservice)
          exact ⟨provider, rest, rfl, hrest⟩
  -- all others settle
  | server port host => cases h
  | logger level =>
    refine absurd h (Settles.bind (settles_mapFailure _ (settles_setThreshold level)) (fun _ => ?_) w)
    exact (settles_logText _ _ _).bind fun _ => settles_pure _
  | cors origin methods =>
    obtain ⟨w', htry⟩ := returns_tryCors ⟨origin, methods⟩ w
    rw [visit, outcome_bind, htry] at h
    cases h
  | rateLimiter max timeWindow keyHeader =>
    exact absurd h (Settles.bind (settles_ofAttempt _) (fun _ => settles_pure _) w)
  | middleware use =>
    by_cases hnone : use = .none
    · subst hnone
      cases h
    · rw [visit_middleware hnone] at h
      cases h
  | group path => exact absurd h (Settles.bind (settles_ofAttempt _) (fun _ => settles_pure _) w)
  | routes dir path =>
    refine absurd h (Settles.bind (settles_ofAttempt _) (fun _ => ?_) w)
    exact (settles_mountDirectory b _ _ _).bind fun _ => settles_pure _
  | plugin handler name options =>
    obtain ⟨w', htry⟩ := returns_tryPlugin b handler name options c w
    rw [visit, outcome_bind, htry] at h
    cases h
  | route method path handler schema =>
    exact absurd h (Settles.bind (settles_registerRoute _ _ _ _ _) (fun _ => settles_pure _) w)
  | response | status code | body data | headers headers | err code message details | augment data
  | halt code message => cases h

end ServerTree
