import ServerTree.Proofs.Concurrency.Ownership
import ServerTree.Proofs.Concurrency.Server
import ServerTree.Proofs.Serving.Errors

/-!
# Calls that were given up

A call that was given up may go on at any time, set attributes of its context, use the reply of its request and
end in any way. Its context is its own, nobody waits for its end, and the reply is no longer anyone's but its own:
the request that gave it up does not read it again, and other requests have replies of their own. So whatever
such calls do, every request is served as if they never went on.

## Main definitions
- `owned`: the replies that a request may use
- `AgreeOn`: replies that differ only where no request may use them
- `Server.Agrees`: servers that differ only by what calls did that were given up

## Main statements
- `Server.Agrees.step`: what one choice leads to with and without late calls
- `late_calls_are_without_effect`: what all choices lead to
-/

namespace ServerTree

variable {U : Type} {b : Behaviour U} {goOn : Continuation U}

/-! ## Owners of replies -/

/-- The replies that a request may use, by who owns which. -/
def owned (owner : ℕ → Option ℕ) (i : ℕ) : Set ℕ := {cell | owner cell = some i}

section

variable {owner : ℕ → Option ℕ} {cell i j : ℕ}

theorem mem_owned : cell ∈ owned owner i ↔ owner cell = some i := Iff.rfl

/-- A new reply is its maker's. -/
theorem owned_update_self : owned (Function.update owner cell (some i)) i = insert cell (owned owner i) := by
  ext c
  by_cases h : c = cell <;> simp [owned, Function.update_apply, h]

/-- A reply that a request loses is its owner's no more. -/
theorem owned_update_none : owned (Function.update owner cell none) i = owned owner i \ {cell} := by
  ext c
  by_cases h : c = cell <;> simp [owned, Function.update_apply, h]

/-- What others own stays theirs. -/
theorem owned_update_of_notMem {new : Option ℕ} (hnew : new ≠ some j) (h : cell ∉ owned owner j) :
    owned (Function.update owner cell new) j = owned owner j := by
  ext c
  by_cases hc : c = cell
  · subst hc
    simpa [owned, hnew] using h
  · simp [owned, Function.update_apply, hc]

end

/-! ## Replies that agree -/

/-- Two rows of replies that differ only in replies that no request may use. -/
structure AgreeOn (owner : ℕ → Option ℕ) (replies replies' : List Reply) : Prop where
  length : replies.length = replies'.length
  same : ∀ i, ∀ cell ∈ owned owner i, replies[cell]? = replies'[cell]?
  made : ∀ i, ∀ cell ∈ owned owner i, cell < replies.length

namespace AgreeOn

variable {owner : ℕ → Option ℕ} {replies replies' : List Reply} {cell i : ℕ}

theorem getD (h : AgreeOn owner replies replies') (hcell : cell ∈ owned owner i) :
    replies.getD cell {} = replies'.getD cell {} := by
  simp only [List.getD_eq_getElem?_getD, h.same i cell hcell]

/-- A reply that is changed on both sides. -/
theorem set (h : AgreeOn owner replies replies') (cell : ℕ) (reply : Reply) :
    AgreeOn owner (replies.set cell reply) (replies'.set cell reply) := by
  refine ⟨by simpa using h.length, fun i c hc => ?_, fun i c hc => by simpa using h.made i c hc⟩
  simp only [List.getElem?_set, h.length, h.same i c hc]

/-- A reply that nobody owns is changed on one side. -/
theorem set_left (h : AgreeOn owner replies replies') (hcell : owner cell = none) (reply : Reply) :
    AgreeOn owner (replies.set cell reply) replies' := by
  refine ⟨by simpa using h.length, fun i c hc => ?_, fun i c hc => by simpa using h.made i c hc⟩
  have hne : cell ≠ c := by
    rintro rfl
    rw [mem_owned, hcell] at hc
    cases hc
  rw [List.getElem?_set_ne hne, h.same i c hc]

/-- A reply is made on both sides. -/
theorem concat (h : AgreeOn owner replies replies') (i : ℕ) (reply : Reply) :
    AgreeOn (Function.update owner replies.length (some i)) (replies ++ [reply]) (replies' ++ [reply]) := by
  have hcases : ∀ j, ∀ c ∈ owned (Function.update owner replies.length (some i)) j,
      c = replies.length ∨ c ∈ owned owner j := by
    intro j c hc
    by_cases hfresh : c = replies.length
    · exact .inl hfresh
    · rw [mem_owned, Function.update_of_ne hfresh] at hc
      exact .inr hc
  refine ⟨by simp [h.length], fun j c hc => ?_, fun j c hc => ?_⟩
  · rcases hcases j c hc with rfl | hc
    · rw [List.getElem?_concat_length, h.length, List.getElem?_concat_length]
    · have hmade := h.made j c hc
      rw [List.getElem?_append_left hmade, List.getElem?_append_left (h.length ▸ hmade), h.same j c hc]
  · rw [List.length_append, List.length_singleton]
    rcases hcases j c hc with rfl | hc
    · exact Nat.lt_succ_self _
    · exact Nat.lt_succ_of_lt (h.made j c hc)

/-- A request loses a reply. -/
theorem lose (h : AgreeOn owner replies replies') (cell : ℕ) :
    AgreeOn (Function.update owner cell none) replies replies' := by
  refine ⟨h.length, fun i c hc => ?_, fun i c hc => ?_⟩
  · rw [owned_update_none] at hc
    exact h.same i c hc.1
  · rw [owned_update_none] at hc
    exact h.made i c hc.1

end AgreeOn

/-! ## Threads -/

namespace Thread

variable {α : Type} {owner : ℕ → Option ℕ} {replies replies' : List Reply} {i : ℕ}

/-- What a stretch of a thread does to replies and their owners. -/
structure StepsAlike (owner owner' : ℕ → Option ℕ) (i : ℕ) (r r' : Thread U α × List Reply × World U) : Prop where
  thread : r.1 = r'.1
  world : r.2.2 = r'.2.2
  keeps : r.1.KeepsTo Anything (owned owner' i)
  agree : AgreeOn owner' r.2.1 r'.2.1
  others : ∀ j ≠ i, owned owner' j = owned owner j

variable (b goOn) in
/-- **Step lemma for threads**: a stretch of a thread goes alike wherever its own replies are alike. -/
theorem KeepsTo.step {t : Thread U α} (ht : t.KeepsTo Anything (owned owner i))
    (h : AgreeOn owner replies replies') (w : World U) :
    ∃ owner', StepsAlike owner owner' i (t.step b goOn replies w) (t.step b goOn replies' w) ∧
      ∀ cell < replies.length, owner' cell = owner cell := by
  cases t with
  | done result => exact ⟨owner, ⟨rfl, rfl, ht, h, fun _ _ => rfl⟩, fun _ _ => rfl⟩
  | turn after next => exact ⟨owner, ⟨rfl, rfl, ht w, h, fun _ _ => rfl⟩, fun _ _ => rfl⟩
  | sends messages next => exact ⟨owner, ⟨rfl, rfl, ht, h, fun _ _ => rfl⟩, fun _ _ => rfl⟩
  | opens next =>
    -- the rows are equally long, so the new reply has the same place in both
    refine ⟨Function.update owner replies.length (some i),
      ⟨congrArg next h.length, rfl, ?_, h.concat i {}, fun j hj => ?_⟩, fun cell hcell => ?_⟩
    · rw [owned_update_self]
      exact ht replies.length
    · exact owned_update_of_notMem (fun heq => hj (Option.some.inj heq).symm)
        fun hmem => Nat.lt_irrefl _ (h.made j _ hmem)
    · exact Function.update_of_ne (Nat.ne_of_lt hcell) _ _
  | reads cell next =>
    refine ⟨owner, ⟨congrArg next (h.getD ht.1), rfl, ht.2 _, h, fun _ _ => rfl⟩, fun _ _ => rfl⟩
  | calls cell work argument limited next =>
    obtain ⟨hcell, hreturned, hraised, hsuspended⟩ := ht
    simp only [Thread.step, h.getD hcell]
    refine ⟨owner, ⟨rfl, rfl, ?_, h.set cell _, fun _ _ => rfl⟩, fun _ _ => rfl⟩
    cases (work.run b goOn argument (replies'.getD cell {}) w.env).outcome with
    | returned v => exact hreturned v
    | raised f => exact hraised f
    | suspended rest =>
      -- the call is still waited for, and with it the thread keeps the reply
      exact ⟨hcell, hreturned, hraised, hsuspended⟩

/-- Replies do not vanish. -/
theorem length_le_step (t : Thread U α) (replies : List Reply) (w : World U) :
    replies.length ≤ (t.step b goOn replies w).2.1.length := by
  cases t <;> simp [Thread.step]

/-- What is seen in a stretch is alike as well. -/
theorem KeepsTo.seenAfter_eq {t : Thread U α} (ht : t.KeepsTo Anything (owned owner i))
    (h : AgreeOn owner replies replies') (sights : List Sight) :
    t.seenAfter replies sights = t.seenAfter replies' sights := by
  cases t with
  | calls cell work argument limited next => rw [seenAfter, seenAfter, h.getD ht.1]
  | _ => rfl

/-- A call that is given up takes its reply with it. -/
theorem KeepsTo.giveUp {t rest : Thread U α} {call : Adrift} (ht : t.KeepsTo Anything (owned owner i))
    (h : t.giveUp? = some (call, rest)) :
    call.cell ∈ owned owner i ∧ rest.KeepsTo Anything (owned owner i \ {call.cell}) := by
  unfold giveUp? at h
  split at h
  · obtain ⟨hcell, -, -, hsuspended⟩ := ht
    cases h
    exact ⟨hcell, hsuspended rfl _⟩
  · cases h

end Thread

/-! ## Servers -/

namespace Server

/-- Two servers that differ only by what calls did that were given up. -/
structure Agrees (owner : ℕ → Option ℕ) (s s' : Server U) : Prop where
  world : s.world = s'.world
  tasks : s.tasks = s'.tasks
  replies : AgreeOn owner s.replies s'.replies
  keeps : ∀ i, ∀ task : Task U, s.tasks[i]? = some task → task.thread.KeepsTo Thread.Anything (owned owner i)
  adrift : ∀ call ∈ s.adrift, call.cell < s.replies.length ∧ owner call.cell = none

variable {owner : ℕ → Option ℕ} {s s' : Server U} {i : ℕ} {task : Task U}

/-- What a call does that was given up makes no difference. -/
theorem Agrees.drift (h : Agrees owner s s') (j : ℕ) (late : Late) :
    Agrees owner (s.step b goOn (.drift j late)) s' := by
  unfold step
  simp only
  split
  · rename_i cell argument rest hcall
    -- its reply is nobody's, and nothing else of it can be reached
    obtain ⟨hmade, hcell⟩ := h.adrift _ (List.mem_of_getElem? hcall)
    refine ⟨h.world, h.tasks, h.replies.set_left hcell _, h.keeps, fun call hmem => ?_⟩
    have hlength : (s.drift j ⟨cell, argument, .suspended rest⟩ late).replies.length = s.replies.length :=
      List.length_set
    rw [hlength]
    rcases List.mem_or_eq_of_mem_set hmem with hmem | rfl
    · exact h.adrift call hmem
    · exact ⟨hmade, hcell⟩
  · exact h

/-- The threads of all requests keep to their replies after one request has got another thread. -/
theorem keeps_set {owner owner' : ℕ → Option ℕ} {tasks : List (Task U)} {task : Task U}
    (h : ∀ j, ∀ task : Task U, tasks[j]? = some task → task.thread.KeepsTo Thread.Anything (owned owner j))
    (hothers : ∀ j ≠ i, owned owner' j = owned owner j)
    (hkeeps : task.thread.KeepsTo Thread.Anything (owned owner' i)) (j : ℕ) (other : Task U)
    (hother : (tasks.set i task)[j]? = some other) :
    other.thread.KeepsTo Thread.Anything (owned owner' j) := by
  by_cases hij : i = j
  · subst hij
    obtain ⟨-, rfl⟩ := by simpa [List.getElem?_set] using hother
    exact hkeeps
  · rw [List.getElem?_set_ne hij] at hother
    rw [hothers j (Ne.symm hij)]
    exact h j other hother

/-- A stretch of a request is the same on both sides. -/
theorem Agrees.turn (h : Agrees owner s s') (htask : s.tasks[i]? = some task) :
    ∃ owner', Agrees owner' (s.turn b goOn i task) (s'.turn b goOn i task) := by
  obtain ⟨world', replies', tasks', adrift', notes'⟩ := s'
  obtain ⟨rfl, rfl, hreplies, hkeeps, hadrift⟩ := h
  have htask' := hkeeps i task htask
  obtain ⟨owner', hstep, hold⟩ := htask'.step b goOn hreplies { s.world with inbox := task.inbox }
  have hsame : (task.turn b goOn s.replies s.world).1 = (task.turn b goOn replies' s.world).1 := by
    simp only [Task.turn, hstep.thread, hstep.world, htask'.seenAfter_eq hreplies]
  refine ⟨owner', hstep.world, congrArg (s.tasks.set i) hsame, hstep.agree, ?_, fun call hcall => ?_⟩
  · exact keeps_set hkeeps hstep.others hstep.keeps
  · obtain ⟨hmade, hcell⟩ := hadrift call hcall
    exact ⟨Nat.lt_of_lt_of_le hmade (Thread.length_le_step ..), (hold _ hmade).trans hcell⟩

/-- So is giving up a call. -/
theorem Agrees.expire (h : Agrees owner s s') (htask : s.tasks[i]? = some task) {call : Adrift}
    {rest : Thread U WireResponse} (hcall : task.thread.giveUp? = some (call, rest)) :
    ∃ owner', Agrees owner' (s.expire i task call rest) (s'.expire i task call rest) := by
  obtain ⟨hcell, hrest⟩ := (h.keeps i task htask).giveUp hcall
  refine ⟨Function.update owner call.cell none, h.world, ?_, h.replies.lose call.cell, ?_, ?_⟩
  · simp only [Server.expire, h.tasks]
  · refine keeps_set h.keeps (fun j hj => owned_update_of_notMem (by simp) fun hmem => hj ?_) ?_
    · exact (Option.some.inj (hcell.symm.trans hmem)).symm
    · rw [owned_update_none]
      exact hrest
  · intro other hother
    rcases List.mem_append.mp hother with hold | hnew
    · obtain ⟨hmade, hnone⟩ := h.adrift other hold
      refine ⟨hmade, ?_⟩
      by_cases hsame : other.cell = call.cell
      · rw [hsame, Function.update_self]
      · rw [Function.update_of_ne hsame, hnone]
    · obtain rfl := List.mem_singleton.mp hnew
      exact ⟨h.replies.made i _ hcell, Function.update_self ..⟩

/-- **Step lemma**: a choice leads to the same whatever was done by calls that were given up. -/
theorem Agrees.step (h : Agrees owner s s') {choice : Choice U} (hchoice : choice.isLate = false) :
    ∃ owner', Agrees owner' (s.step b goOn choice) (s'.step b goOn choice) := by
  cases choice with
  | drift j late => cases hchoice
  | elsewhere change =>
    refine ⟨owner, ?_, h.tasks, h.replies, h.keeps, h.adrift⟩
    simp only [Server.step, h.world]
  | turn i =>
    simp only [Server.step, ← h.tasks]
    split
    · exact h.turn ‹_›
    · exact ⟨owner, h⟩
  | expire i =>
    simp only [Server.step, ← h.tasks]
    split
    · split
      · exact h.expire ‹_› ‹_›
      · exact ⟨owner, h⟩
    · exact ⟨owner, h⟩

variable (b goOn) in
/-- **Run lemma**: so do all choices, one after the other. -/
theorem Agrees.run (h : Agrees owner s s') (choices : List (Choice U)) :
    ∃ owner', Agrees owner' (s.run b goOn choices)
      (s'.run b goOn (choices.filter fun choice => !choice.isLate)) := by
  induction choices generalizing owner s s' with
  | nil => exact ⟨owner, h⟩
  | cons choice choices ih =>
    cases hchoice : choice.isLate with
    | true =>
      -- a step that only the left server takes
      rw [List.filter_cons_of_neg (by simp [hchoice])]
      cases choice with
      | drift j late => exact ih (h.drift j late)
      | _ => cases hchoice
    | false =>
      rw [List.filter_cons_of_pos (by simp [hchoice])]
      obtain ⟨owner', hstep⟩ := h.step hchoice
      exact ih hstep

end Server

/-! ## All requests -/

/-- At first requests have made no replies, and no call was given up. -/
theorem Server.agrees_start (w : World U) (requests : List (Request × Inbox)) :
    Agrees (fun _ => none) (start b w requests) (start b w requests) := by
  refine ⟨rfl, rfl, ⟨rfl, fun i cell h => ?_, fun i cell h => ?_⟩, fun i task htask => ?_, fun call hcall => ?_⟩
  · cases h
  · cases h
  · obtain ⟨request, inbox, -, rfl⟩ := by simpa [start] using htask
    exact Thread.keepsTo_serveRequest b _ request
  · cases hcall

/-- **Calls that were given up are without effect.** Whatever requests come, and in whatever order they go on,
run out of time and let calls go on that were given up: what is sent for every request, what its calls see, what it
comes to and what is still to be done for it are the same as when calls never go on that were given up. -/
theorem late_calls_are_without_effect (b : Behaviour U) (goOn : Continuation U) (w : World U)
    (requests : List (Request × Inbox)) (choices : List (Choice U)) :
    let late := (Server.start b w requests).run b goOn choices
    let never := (Server.start b w requests).run b goOn (choices.filter fun choice => !choice.isLate)
    late.tasks = never.tasks ∧ late.world = never.world := by
  obtain ⟨owner, hagrees⟩ := (Server.agrees_start w requests).run b goOn choices
  exact ⟨hagrees.tasks, hagrees.world⟩

/-- A middleware waits for something. -/
def lingering : Behaviour Unit :=
  { Behaviour.idle with handle := fun fn argument reply env =>
      ⟨if fn.name = "m1" then .suspended 0 else .returned .none, argument, reply, env⟩ }

/-- It goes on when it was given up, sends a reply and raises a failure, which is recorded. The messages for its
request are those for a middleware that is not done in time. -/
example :
    let late : Choice Unit := .drift 0 ⟨.value .none, Reply.send {} (.str "late"), .raised (.raised .value [.str "late"] [] 0)⟩
    let ended := (Server.start lingering guarded [({ path := "/x" }, {})]).run lingering
      (fun rest argument reply env => ⟨.suspended rest, argument, reply, env⟩)
      (List.replicate 10 (.turn 0) ++ [.expire 0, late] ++ List.replicate 4 (.turn 0))
    ended.notes = ["Timed-out middleware later failed: late"] ∧
      ended.tasks.map (fun task => task.sent.map Except.ok) =
        [[encodeResponse (errorResponse (.int 500) "Middleware timeout" []) false]] := ⟨rfl, rfl⟩

end ServerTree
