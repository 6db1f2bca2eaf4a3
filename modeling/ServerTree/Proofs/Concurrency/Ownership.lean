import Mathlib.Data.Set.Insert
import ServerTree.Proofs.Concurrency.Stages

/-!
# Whose replies are whose

A thread makes the replies that it uses. With a call that it gives up it gives up the reply that the call has, and
from then on it neither reads that reply nor lets another call have it.

## Main definitions
- `Thread.KeepsTo`: a thread uses no replies but those it may use
- `Thread.HasUnlessGivenUp`, `Thread.HasToGoOn`: a request has its reply after a call, and when it goes on

## Main statements
- `Thread.keepsTo_runMiddleware`: a request goes on from a middleware only with its reply
- `Thread.keepsTo_serveRequest`: a request uses its own replies, up to the call that it gives up
-/

namespace ServerTree

namespace Thread

variable {U : Type} {α β : Type}

/-- A thread uses no replies but those it may use and those that it makes, of which it loses the one that it leaves
to a call. `Q` relates the replies that it may use in the end to what it returns. -/
def KeepsTo (Q : Set ℕ → α → Prop) (may : Set ℕ) : Thread U α → Prop
  | .done result => ∀ a, result = .ok a → Q may a
  | .turn _ next => ∀ w, KeepsTo Q may (next w)
  | .opens next => ∀ cell, KeepsTo Q (insert cell may) (next cell)
  | .reads cell next => cell ∈ may ∧ ∀ reply, KeepsTo Q may (next reply)
  | .calls cell _ _ limited next =>
    cell ∈ may ∧ (∀ v, KeepsTo Q may (next (.returned v))) ∧ (∀ f, KeepsTo Q may (next (.raised f))) ∧
      (limited = true → ∀ rest, KeepsTo Q (may \ {cell}) (next (.suspended rest)))
  | .sends _ next => KeepsTo Q may next

/-- Nothing is said of what a thread returns. -/
abbrev Anything : Set ℕ → α → Prop := fun _ _ => True

/-- A request has its reply after a call, unless the call was given up. -/
abbrev HasUnlessGivenUp (cell : ℕ) : Set ℕ → Settled → Prop := fun may ended =>
  (∃ rest, ended = .suspended rest) ∨ cell ∈ may

/-- A request that goes on has its reply. -/
abbrev HasToGoOn (cell : ℕ) : Set ℕ → Progress → Prop := fun may p => ∀ v, p = .proceed v → cell ∈ may

variable {Q : Set ℕ → α → Prop} {R : Set ℕ → β → Prop} {may : Set ℕ}

/-! ## Sequences -/

theorem keepsTo_pure {a : α} (h : Q may a) : KeepsTo Q may (pure a : Thread U α) := by
  intro a' ha'
  cases ha'
  exact h

/-- A sequence keeps to what its first thread may use, and then to what is left of that. -/
theorem KeepsTo.bind {t : Thread U α} {f : α → Thread U β} (h : KeepsTo Q may t)
    (hf : ∀ may' a, Q may' a → KeepsTo R may' (f a)) : KeepsTo R may (t >>= f) := by
  change KeepsTo R may (t.bind f)
  -- along the first thread, on which what may be used changes
  induction t generalizing may with
  | done result =>
    cases result with
    | ok a => exact hf may a (h a rfl)
    | error stop =>
      intro a ha
      cases ha
  | turn after next ih => exact fun w => ih w (h w)
  | opens next ih => exact fun cell => ih cell (h cell)
  | reads cell next ih => exact ⟨h.1, fun reply => ih reply (h.2 reply)⟩
  | calls cell work argument limited next ih =>
    obtain ⟨hcell, hreturned, hraised, hsuspended⟩ := h
    exact ⟨hcell, fun v => ih _ (hreturned v), fun f => ih _ (hraised f),
      fun hlimited rest => ih _ (hsuspended hlimited rest)⟩
  | sends messages next ih => exact ih h

/-- An attempt keeps to what the thread keeps to. -/
theorem KeepsTo.attempt {t : Thread U α} (h : KeepsTo Anything may t) : KeepsTo Anything may t.attempt := by
  induction t generalizing may with
  | done result => exact fun _ _ => trivial
  | turn after next ih => exact fun w => ih w (h w)
  | opens next ih => exact fun cell => ih cell (h cell)
  | reads cell next ih => exact ⟨h.1, fun reply => ih reply (h.2 reply)⟩
  | calls cell work argument limited next ih =>
    obtain ⟨hcell, hreturned, hraised, hsuspended⟩ := h
    exact ⟨hcell, fun v => ih _ (hreturned v), fun f => ih _ (hraised f),
      fun hlimited rest => ih _ (hsuspended hlimited rest)⟩
  | sends messages next ih => exact ih h

/-- A loop keeps to what its rounds keep to. -/
theorem keepsTo_forIn {f : α → PUnit → Thread U (ForInStep PUnit)} (h : ∀ may a u, KeepsTo Anything may (f a u))
    (as : List α) (u : PUnit) : KeepsTo Anything may (forIn as u f) := by
  induction as generalizing may with
  | nil => exact keepsTo_pure trivial
  | cons a as ih =>
    rw [List.forIn_cons]
    refine (h may a u).bind fun may step _ => ?_
    cases step with
    | done u => exact keepsTo_pure trivial
    | yield u => exact ih

/-! ## Primitives -/

/-- A computation of the library uses no reply. -/
theorem keepsTo_act {x : Act U α} (h : ∀ w a w', Act.Returns x w a w' → Q may a) : KeepsTo Q may (act x) :=
  fun w a ha => h w a _ (Prod.ext ha rfl)

theorem keepsTo_act_anything (x : Act U α) : KeepsTo Anything may (act x) :=
  keepsTo_act fun _ _ _ _ => trivial

theorem keepsTo_openReply : KeepsTo (fun may' cell => cell ∈ may') may (openReply : Thread U ℕ) := by
  intro cell a ha
  cases ha
  exact Set.mem_insert _ _

theorem keepsTo_readReply {cell : ℕ} (h : cell ∈ may) :
    KeepsTo (fun may' _ => may' = may) may (readReply cell : Thread U Reply) :=
  ⟨h, fun _ _ _ => rfl⟩

/-- A call that settles leaves its reply to the thread. -/
theorem keepsTo_call {cell : ℕ} (fn : Value) (argument : Argument) (limited : Bool) (h : cell ∈ may) :
    KeepsTo (HasUnlessGivenUp cell) may (call cell fn argument limited : Thread U Settled) := by
  refine ⟨h, fun v ended hended => ?_, fun f ended hended => ?_, fun _ rest ended hended => ?_⟩
  · exact .inr h
  · exact .inr h
  · cases hended
    exact .inl ⟨rest, rfl⟩

/-! ## The stages of a route -/

variable (b : Behaviour U) {cell : ℕ}

theorem keepsTo_callMiddleware (timeout : Value) (m : ScopedMiddleware Value) (view : Argument) (h : cell ∈ may) :
    KeepsTo (HasUnlessGivenUp cell) may (callMiddleware timeout m view cell : Thread U Settled) := by
  unfold callMiddleware
  split
  · cases checkTimeout timeout with
    | ok _ => exact keepsTo_call _ _ _ h
    | error f => exact keepsTo_pure (.inr h)
  · exact keepsTo_pure (.inr h)

/-- A request goes on from the call of a middleware only with its reply. -/
theorem keepsTo_conclude (timeout : Value) (m : ScopedMiddleware Value) (fields : Fields) {ended : Settled}
    (h : HasUnlessGivenUp cell may ended) :
    KeepsTo (HasToGoOn cell) may (conclude b timeout m fields cell ended) := by
  cases ended with
  | suspended rest =>
    -- the reply is lost, so the request must not go on
    refine keepsTo_act fun w p w' hreturns v hv => ?_
    subst hv
    obtain ⟨_, _, hended, -⟩ := Act.returned_of_returns_conclude hreturns
    cases hended
  | _ =>
    have hcell : cell ∈ may := h.resolve_left (by simp)
    refine (keepsTo_readReply hcell).bind ?_
    rintro _ reply rfl
    exact keepsTo_act fun _ _ _ _ _ _ => hcell

/-- **A request goes on from a middleware only with its reply.** -/
theorem keepsTo_runMiddleware (timeout : Value) (m : ScopedMiddleware Value) (fields : Fields) (h : cell ∈ may) :
    KeepsTo (HasToGoOn cell) may (runMiddleware b timeout m fields cell) := by
  refine (keepsTo_act (Q := fun may' _ => cell ∈ may') fun _ _ _ _ => h).bind fun may' view hcell => ?_
  exact (keepsTo_callMiddleware timeout m view hcell).bind fun may'' ended hended =>
    keepsTo_conclude b timeout m fields hended

theorem keepsTo_runChain (timeout : Value) (ms : List (ScopedMiddleware Value)) (fields : Fields)
    (h : cell ∈ may) :
    KeepsTo (HasToGoOn cell) may (runChain b timeout ms fields cell) := by
  induction ms generalizing may fields with
  | nil =>
    refine (keepsTo_readReply h).bind ?_
    rintro _ reply rfl
    exact keepsTo_pure fun _ _ => h
  | cons m ms ih =>
    refine (keepsTo_runMiddleware b timeout m fields h).bind fun may' p hp => ?_
    cases p with
    | proceed v => exact ih v.fields (hp v rfl)
    | answered answer =>
      refine keepsTo_pure fun v hv => ?_
      cases hv

theorem keepsTo_runHandler (h : WrappedHandler) (fields : Fields) (hcell : cell ∈ may) :
    KeepsTo Anything may (runHandler b h fields cell) := by
  -- a handler is never given up, so its reply stays with the request
  have hcall : KeepsTo (fun may' _ => may' = may) may (call cell h.handler (.context fields) false : Thread U Settled) :=
    ⟨hcell, fun _ _ _ => rfl, fun _ _ _ => rfl, fun hlimited => by cases hlimited⟩
  refine hcall.bind ?_
  rintro _ ended rfl
  exact (keepsTo_readReply hcell).bind fun _ _ _ => keepsTo_act_anything _

theorem keepsTo_serve (h : WrappedHandler) (request : Request) :
    KeepsTo Anything may (serve b h request) := by
  refine (keepsTo_act_anything _).bind fun may denied _ => ?_
  cases denied with
  | some seconds => exact keepsTo_pure trivial
  | none =>
    refine (keepsTo_act_anything _).bind fun may body _ => (keepsTo_act_anything _).bind fun may world _ => ?_
    refine keepsTo_openReply.bind fun may cell hcell => ?_
    refine (keepsTo_runChain b _ _ _ hcell).bind fun may p hp => ?_
    cases p with
    | answered answer => exact keepsTo_pure trivial
    | proceed v => exact (keepsTo_runHandler b h v.fields (hp v rfl)).bind fun _ _ _ => keepsTo_pure trivial

/-! ## The engine -/

variable {b} {next : Request → Thread U Value}

theorem keepsTo_runCourse (hnext : ∀ may request, KeepsTo Anything may (next request)) (course : Course U) :
    KeepsTo Anything may (runCourse next course) := by
  induction course generalizing may with
  | finish env result => exact keepsTo_act_anything _
  | next env request resume ih =>
    exact (hnext may request).attempt.bind fun _ r _ w => ih w.env r
  | readBody env request resume ih =>
    exact (keepsTo_act_anything _).bind fun _ r _ w => ih w.env r

theorem keepsTo_callEngine (hnext : ∀ may request, KeepsTo Anything may (next request))
    (course : Request → Env U → Course U) (request : Request) :
    KeepsTo Anything may (callEngine course next request) :=
  fun w => keepsTo_runCourse hnext (course request w.env)

theorem keepsTo_corsServe (hnext : ∀ may request, KeepsTo Anything may (next request)) (spec : CorsSpec Value)
    (maxAge : Value) (request : Request) : KeepsTo Anything may (corsServe b spec maxAge next request) := by
  unfold corsServe
  cases request.headers.get? "origin" with
  | none => exact hnext may request
  | some origin =>
    refine (keepsTo_act_anything _).bind fun may allowed _ => ?_
    cases allowed with
    | none => exact hnext may request
    | some allowed =>
      simp only
      split
      · exact (keepsTo_act_anything _).bind fun _ _ _ => keepsTo_pure trivial
      · refine (hnext may request).bind fun may v _ => ?_
        cases v with
        | response r => exact keepsTo_pure trivial
        | _ => exact keepsTo_act_anything _

theorem keepsTo_around (hnext : ∀ may request, KeepsTo Anything may (next request)) (m : EngineMiddleware)
    (may : Set ℕ) (request : Request) : KeepsTo Anything may (around b m next request) := by
  cases m with
  | cors spec maxAge => exact keepsTo_corsServe hnext spec maxAge request
  | custom fn => exact keepsTo_callEngine hnext _ request

theorem keepsTo_dispatch (may : Set ℕ) (request : Request) : KeepsTo Anything may (dispatch b request) := by
  refine (keepsTo_act_anything _).bind fun may world _ => ?_
  simp only
  split
  · exact keepsTo_act_anything _
  · cases world.app.router.match? request.method request.path with
    | error miss => exact keepsTo_act_anything _
    | ok found =>
      simp only
      cases found.route.endpoint.endpoint with
      | wrapped h => exact keepsTo_serve b h _
      | custom fn => exact keepsTo_callEngine (fun _ _ => keepsTo_act_anything _) _ _

theorem keepsTo_answerRequest (request : Request) : KeepsTo Anything may (answerRequest b request) := by
  refine (keepsTo_act_anything _).bind fun may world _ => ?_
  have hchain : ∀ may request,
      KeepsTo Anything may (world.app.middleware.foldr (around b) (dispatch b) request) := by
    induction world.app.middleware with
    | nil => exact keepsTo_dispatch
    | cons m ms ih => exact keepsTo_around ih m
  refine (hchain may request).attempt.bind fun may r _ => ?_
  cases r with
  | ok v => exact keepsTo_pure trivial
  | error f => exact (keepsTo_act_anything _).bind fun _ _ _ => keepsTo_pure trivial

theorem keepsTo_deliver (started : World U) (request : Request) (sent : Sent) :
    KeepsTo Anything may (deliver b started request sent) := by
  have hsend : KeepsTo Anything may (send sent.messages : Thread U Unit) := fun _ _ => trivial
  refine hsend.bind fun _ _ _ => (keepsTo_act_anything _).bind fun may after _ => ?_
  refine (keepsTo_forIn (fun may hook _ => ?_) _ _).bind fun _ _ _ => keepsTo_pure trivial
  exact (keepsTo_act_anything _).bind fun _ _ _ => keepsTo_pure trivial

/-- **A request uses its own replies**, and of these not the one that it left to a call. -/
theorem keepsTo_serveRequest (b : Behaviour U) (may : Set ℕ) (request : Request) :
    KeepsTo Anything may (serveRequest b request) := by
  refine (keepsTo_act_anything _).bind fun _ _ _ => (keepsTo_act_anything _).bind fun _ started _ => ?_
  refine (keepsTo_answerRequest _).bind fun _ answer _ => (keepsTo_act_anything _).bind fun _ sent _ => ?_
  exact keepsTo_deliver started _ sent

end Thread

end ServerTree
