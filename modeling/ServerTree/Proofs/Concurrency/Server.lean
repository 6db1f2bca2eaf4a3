import ServerTree.Proofs.Concurrency.Stages

/-!
# Requests that take turns

A server has many requests in progress. They go on one stretch at a time, in any order, and all of them work on
the same world. While a call is suspended its time may run out: the request goes on without it, and the call is
adrift. It keeps its context and the reply of the request, and it may go on at any time, set attributes of its
context, use the reply, and end in any way, which nobody waits for. What it does to the state that all of
application code shares is as if it were done elsewhere: that may change at any time.

## Main definitions
- `Task`: a request in progress, with what was sent for it and what its calls have seen
- `Adrift`: a call that was given up
- `Choice`: what may happen next
- `Server.step`, `Server.run`: what happens

## Main statements
- `outcome_settle`: what comes of a call that was given up
- `Server.canEnd_serveRequest`: a server with one request serves it as the library does
-/

namespace ServerTree

variable {U : Type}

/-! ## Servers -/

/-- What a stretch of a call sees. -/
structure Sight where
  work : Work
  argument : Argument
  reply : Reply

/-- A request in progress: what is left to do, what is still to be received, what was sent and what its calls
have seen. -/
structure Task (U : Type) where
  thread : Thread U WireResponse
  inbox : Inbox
  sent : List WireResponse := []
  sights : List Sight := []

/-- A call that was given up: where its reply lies, its argument, and how it stands. -/
structure Adrift where
  cell : Nat
  argument : Argument
  state : Settled

/-- What a call that was given up does in a stretch: its argument and the reply as it leaves them, and how it
stands then. -/
structure Late where
  argument : Argument
  reply : Reply
  state : Settled

/-- What may happen next. -/
inductive Choice (U : Type) where
  /-- A request goes on. -/
  | turn (task : Nat)
  /-- The time of a call that a request waits for runs out. -/
  | expire (task : Nat)
  /-- Time passes, or application code elsewhere changes the state that all of it shares. -/
  | elsewhere (change : Env U → Env U)
  /-- A call that was given up goes on. -/
  | drift (call : Nat) (late : Late)

/-- Whether a choice lets a call go on that was given up. -/
def Choice.isLate : Choice U → Bool
  | .drift _ _ => true
  | _ => false

/-- A server with requests in progress. What is recorded of calls that were given up is kept apart from what
application code can reach. -/
structure Server (U : Type) where
  world : World U
  replies : List Reply := []
  tasks : List (Task U)
  adrift : List Adrift := []
  notes : List String := []

/-- What is recorded when a call that was given up stands in a way. -/
def Settled.notes : Settled → List String
  | .raised f =>
    match failureForLog f with
    | .ok shown => ["Timed-out middleware later failed: " ++ shown]
    | .error _ => []
  | _ => []

/-- Nothing comes of a call that was given up but what is recorded of it. -/
theorem outcome_settle (b : Behaviour U) (rest : Nat) (w : World U) :
    let r := b.resume rest w.env
    ∃ abandoned, outcome (settle b rest) w = (.ok (), { w with
      env := r.1.notes.foldl (fun env note => env.emit .pipeline .debug note) r.2, abandoned }) := by
  have hresume : outcome (Act.withEnv (b.resume rest)) w =
      (.ok (b.resume rest w.env).1, { w with env := (b.resume rest w.env).2 }) := rfl
  rw [settle, outcome_bind, hresume]
  rcases b.resume rest w.env with ⟨v | f | rest', env⟩
  · exact ⟨_, rfl⟩
  · simp only [Settled.notes]
    cases failureForLog f with
    | ok shown => exact ⟨_, rfl⟩
    | error untold => exact ⟨_, rfl⟩
  · exact ⟨_, rfl⟩

namespace Thread

variable {α : Type}

/-- What was sent after the next stretch of a thread. -/
def sentAfter (sent : List WireResponse) : Thread U α → List WireResponse
  | .sends messages _ => sent ++ [messages]
  | _ => sent

/-- What calls have seen after the next stretch of a thread. -/
def seenAfter (replies : List Reply) (sights : List Sight) : Thread U α → List Sight
  | .calls cell work argument _ _ => sights ++ [⟨work, argument, replies.getD cell {}⟩]
  | _ => sights

/-- The call that a thread can give up, and how it goes on without. -/
def giveUp? : Thread U α → Option (Adrift × Thread U α)
  | .calls cell (.goOn rest) argument true next =>
    some (⟨cell, argument, .suspended rest⟩, next (.suspended rest))
  | _ => none

end Thread

variable (b : Behaviour U) (goOn : Continuation U)

/-- A request in progress goes on by a stretch: what it is then, the replies and the world. -/
def Task.turn (task : Task U) (replies : List Reply) (w : World U) : Task U × List Reply × World U :=
  let r := task.thread.step b goOn replies { w with inbox := task.inbox }
  ({ thread := r.1
     inbox := r.2.2.inbox
     sent := task.thread.sentAfter task.sent
     sights := task.thread.seenAfter replies task.sights }, r.2)

namespace Server

/-- A server to which requests have come. -/
def start (w : World U) (requests : List (Request × Inbox)) : Server U :=
  { world := w, tasks := requests.map fun r => { thread := Thread.serveRequest b r.1, inbox := r.2 } }

/-- A request in progress goes on. -/
def turn (s : Server U) (i : Nat) (task : Task U) : Server U :=
  let r := task.turn b goOn s.replies s.world
  { s with tasks := s.tasks.set i r.1, replies := r.2.1, world := r.2.2 }

/-- A request goes on without the call that it waits for. -/
def expire (s : Server U) (i : Nat) (task : Task U) (call : Adrift) (rest : Thread U WireResponse) : Server U :=
  { s with tasks := s.tasks.set i { task with thread := rest }, adrift := s.adrift ++ [call] }

/-- A call that was given up goes on. -/
def drift (s : Server U) (j : Nat) (call : Adrift) (late : Late) : Server U :=
  { s with
    replies := s.replies.set call.cell late.reply
    adrift := s.adrift.set j ⟨call.cell, late.argument, late.state⟩
    notes := s.notes ++ late.state.notes }

/-- What happens by a choice. Nothing happens when it cannot be made. -/
def step (s : Server U) : Choice U → Server U
  | .turn i =>
    match s.tasks[i]? with
    | some task => s.turn b goOn i task
    | none => s
  | .expire i =>
    match s.tasks[i]? with
    | some task =>
      match task.thread.giveUp? with
      | some (call, rest) => s.expire i task call rest
      | none => s
    | none => s
  | .elsewhere change => { s with world := { s.world with env := change s.world.env } }
  | .drift j late =>
    match s.adrift[j]? with
    | some ⟨cell, argument, .suspended rest⟩ => s.drift j ⟨cell, argument, .suspended rest⟩ late
    | _ => s

/-- What happens by choices, one after the other. -/
def run (s : Server U) (choices : List (Choice U)) : Server U := choices.foldl (step b goOn) s

/-! ## One request -/

variable {b goOn}

variable (b goOn) in
/-- The only request of a server can end in a way, after messages that were sent before. -/
def CanEnd (s : Server U) (sent : List WireResponse) (e : Thread.Ending U WireResponse) : Prop :=
  ∃ choices task, (s.run b goOn choices).tasks = [task] ∧ task.thread = .done e.result ∧
    task.sent = sent ++ e.sent ∧ (s.run b goOn choices).replies = e.replies ∧
    { (s.run b goOn choices).world with inbox := task.inbox } = e.world

variable {s : Server U} {task : Task U} {sent : List WireResponse} {e : Thread.Ending U WireResponse}

theorem CanEnd.of_step (choice : Choice U) (h : (s.step b goOn choice).CanEnd b goOn sent e) :
    s.CanEnd b goOn sent e := by
  obtain ⟨choices, task, hend⟩ := h
  exact ⟨choice :: choices, task, hend⟩

theorem CanEnd.of_turn (hs : s.tasks = [task])
    (h : (s.turn b goOn 0 task).tasks = [(task.turn b goOn s.replies s.world).1] →
      (s.turn b goOn 0 task).CanEnd b goOn sent e) : s.CanEnd b goOn sent e := by
  refine .of_step (.turn 0) ?_
  have hturn : s.step b goOn (.turn 0) = s.turn b goOn 0 task := by simp [step, hs]
  rw [hturn]
  exact h (by simp [turn, hs])

theorem tasks_expire {call : Adrift} {rest : Thread U WireResponse} (hs : s.tasks = [task]) :
    (s.expire 0 task call rest).tasks = [{ task with thread := rest }] := by
  simp [expire, hs]

/-- The only request of a server can go on by itself until it ends, as its thread does alone. -/
theorem canEnd_alone {thread : Thread U WireResponse} {inbox : Inbox} {sights : List Sight}
    (hs : s.tasks = [⟨thread, inbox, sent, sights⟩])
    (hends : (thread.alone b goOn s.replies { s.world with inbox := inbox }).result ≠ .error .unsettled) :
    s.CanEnd b goOn sent (thread.alone b goOn s.replies { s.world with inbox := inbox }) := by
  -- every node of the thread is one choice, but for a call that is given up
  induction thread generalizing s inbox sent sights with
  | done result => exact ⟨[], _, hs, rfl, (List.append_nil _).symm, rfl, rfl⟩
  | turn after next ih => exact .of_turn hs fun htasks => ih _ htasks hends
  | opens next ih => exact .of_turn hs fun htasks => ih _ htasks hends
  | reads cell next ih => exact .of_turn hs fun htasks => ih _ htasks hends
  | sends messages next ih =>
    refine .of_turn hs fun htasks => ?_
    obtain ⟨choices, task, htask, hdone, hsent, hrest⟩ := ih htasks hends
    exact ⟨choices, task, htask, hdone, hsent.trans (List.append_assoc ..), hrest⟩
  | calls cell work argument limited next ih =>
    rw [Thread.alone] at hends ⊢
    cases hended : (work.run b goOn argument (s.replies.getD cell {}) s.world.env).outcome with
    | suspended rest =>
      cases limited with
      | false => exact absurd (by rw [hended]; rfl) hends
      | true =>
        -- the call is given up right after its first stretch
        simp only [hended, Settled.waits, Bool.not_true, Bool.false_eq_true, if_false] at hends ⊢
        refine .of_turn hs fun htasks => .of_step (.expire 0) ?_
        simp only [Task.turn, Thread.step, hended] at htasks
        simp only [step, htasks, List.getElem?_cons_zero, Thread.giveUp?]
        exact ih _ (tasks_expire htasks) hends
    | _ =>
      simp only [hended, Settled.waits, Bool.false_eq_true, if_false] at hends ⊢
      refine .of_turn hs fun htasks => ?_
      simp only [Task.turn, Thread.step, hended] at htasks
      exact ih _ htasks hends

variable (b goOn) in
/-- **A request that has a server to itself is served as the library serves it**, unless it waits for a call that
never settles: there are choices after which it has come to the same, in the same world, and the messages that it
comes to were sent. -/
theorem canEnd_serveRequest (w : World U) (request : Request) (inbox : Inbox)
    (h : (outcome (serveRequest b request inbox) w).1 ≠ .error .unsettled) :
    ∃ choices task, ((start b w [(request, inbox)]).run b goOn choices).tasks = [task] ∧
      task.thread = .done (outcome (serveRequest b request inbox) w).1 ∧
      task.sent = (outcome (serveRequest b request inbox) w).1.toOption.toList ∧
      { ((start b w [(request, inbox)]).run b goOn choices).world with inbox := task.inbox } =
        (outcome (serveRequest b request inbox) w).2 := by
  obtain ⟨made, halone⟩ := Thread.alone_serveRequest b goOn request inbox [] w
  have hends : ((Thread.serveRequest b request).alone b goOn [] { w with inbox := inbox }).result ≠
      .error .unsettled := by rw [halone]; exact h
  obtain ⟨choices, task, htask, hdone, hsent, -, hworld⟩ :=
    canEnd_alone (s := start b w [(request, inbox)]) rfl hends
  refine ⟨choices, task, htask, hdone.trans ?_, hsent.trans ?_, hworld.trans ?_⟩
  · exact congrArg Thread.done (congrArg Thread.Ending.result halone)
  · exact congrArg Thread.Ending.sent halone
  · exact congrArg Thread.Ending.world halone

end Server

end ServerTree
