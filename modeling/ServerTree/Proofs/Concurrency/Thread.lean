import ServerTree.App.Serve
import ServerTree.Proofs.Returns

/-!
# Threads

Requests that are served at the same time take turns: whatever waits lets others go on. A thread is what is
still to be done for one request, as a tree. Its nodes are the stretches of work in which nothing waits, and
each says how it goes on. The replies of all requests lie in one row, where a thread knows them by their
places, and a call of application code gets the reply of its request, not a copy.

A thread without others around it is run to its end. A computation that is split into stretches comes to the
same as the whole.

## Main definitions
- `Work`: a stretch of a call of application code
- `Thread`: what is still to be done for one request
- `Thread.step`: one stretch
- `Thread.alone`: what becomes of a thread without others
- `Thread.Runs`: a thread alone comes to what a computation comes to
-/

namespace ServerTree

variable {U : Type}

/-! ## Calls -/

/-- What a call does next: a function starts, or what is left of one goes on. -/
inductive Work where
  | start (fn : Value)
  | goOn (rest : Nat)

/-- How calls go on that were suspended and are still waited for. -/
abbrev Continuation (U : Type) : Type := Nat → Argument → Reply → Env U → ScopedResult U

/-- A call that was suspended is waited for without end unless there is a limit. -/
def Settled.waits (limited : Bool) : Settled → Bool
  | .suspended _ => !limited
  | _ => false

/-- One stretch of a call. -/
def Work.run (b : Behaviour U) (goOn : Continuation U) (work : Work) (argument : Argument) (reply : Reply)
    (env : Env U) : ScopedResult U :=
  match work with
  | .start fn => b.callScoped fn argument reply env
  | .goOn rest => goOn rest argument reply env

/-! ## Threads -/

/-- What is still to be done for one request. -/
inductive Thread (U : Type) (α : Type) where
  /-- Nothing is left. -/
  | done (result : Except Stop α)
  /-- The library works on the world, without waiting. -/
  | turn (after : World U → World U) (next : World U → Thread U α)
  /-- A new reply is made. -/
  | opens (next : Nat → Thread U α)
  /-- A reply is read. -/
  | reads (cell : Nat) (next : Reply → Thread U α)
  /-- Application code is called with a reply, and waited for. When there is a limit to that, the call can be
  given up while it is suspended. -/
  | calls (cell : Nat) (work : Work) (argument : Argument) (limited : Bool) (next : Settled → Thread U α)
  /-- Messages are sent. -/
  | sends (messages : WireResponse) (next : Thread U α)

namespace Thread

variable {α β : Type}

/-- A sequence. It goes on from where the first thread returns. -/
def bind : Thread U α → (α → Thread U β) → Thread U β
  | .done (.ok a), f => f a
  | .done (.error stop), _ => .done (.error stop)
  | .turn after next, f => .turn after fun w => (next w).bind f
  | .opens next, f => .opens fun cell => (next cell).bind f
  | .reads cell next, f => .reads cell fun reply => (next reply).bind f
  | .calls cell work argument limited next, f =>
    .calls cell work argument limited fun ended => (next ended).bind f
  | .sends messages next, f => .sends messages (next.bind f)

instance : Monad (Thread U) where
  pure a := .done (.ok a)
  bind := bind

/-- A failure as a result. What never settles still does not. -/
def caught : Except Stop α → Except Stop (Attempt α)
  | .ok a => .ok (.ok a)
  | .error (.failed f) => .ok (.error f)
  | .error .unsettled => .error .unsettled

/-- Turns a failure into a result. -/
def attempt : Thread U α → Thread U (Attempt α)
  | .done result => .done (caught result)
  | .turn after next => .turn after fun w => (next w).attempt
  | .opens next => .opens fun cell => (next cell).attempt
  | .reads cell next => .reads cell fun reply => (next reply).attempt
  | .calls cell work argument limited next =>
    .calls cell work argument limited fun ended => (next ended).attempt
  | .sends messages next => .sends messages next.attempt

/-- A computation of the library, in one turn. -/
def act (x : Act U α) : Thread U α := .turn (fun w => (outcome x w).2) fun w => .done (outcome x w).1

/-- A new reply. -/
def openReply : Thread U Nat := .opens fun cell => .done (.ok cell)

/-- The reply in a place. -/
def readReply (cell : Nat) : Thread U Reply := .reads cell fun reply => .done (.ok reply)

/-- A call of application code: how it ends. -/
def call (cell : Nat) (fn : Value) (argument : Argument) (limited : Bool) : Thread U Settled :=
  .calls cell (.start fn) argument limited fun ended => .done (.ok ended)

/-- Sends messages. -/
def send (messages : WireResponse) : Thread U Unit := .sends messages (.done (.ok ()))

/-! ## Stretches -/

variable (b : Behaviour U) (goOn : Continuation U)

/-- The next stretch of a thread: how it goes on, the replies and the world. -/
def step (replies : List Reply) (w : World U) : Thread U α → Thread U α × List Reply × World U
  | .done result => (.done result, replies, w)
  | .turn after next => (next w, replies, after w)
  | .opens next => (next replies.length, replies ++ [{}], w)
  | .reads cell next => (next (replies.getD cell {}), replies, w)
  | .calls cell work argument limited next =>
    let r := work.run b goOn argument (replies.getD cell {}) w.env
    (match r.outcome with
      | .suspended rest => .calls cell (.goOn rest) r.argument limited next
      | ended => next ended,
      replies.set cell r.reply, { w with env := r.env })
  | .sends _ next => (next, replies, w)

/-! ## Threads without others -/

/-- How a thread ends: its result, the replies, the world, and what it has sent. -/
structure Ending (U : Type) (α : Type) where
  result : Except Stop α
  replies : List Reply
  world : World U
  sent : List WireResponse := []

/-- How a sequence ends whose first thread ends in this way. -/
def Ending.bind (e : Ending U α) (f : α → List Reply → World U → Ending U β) : Ending U β :=
  match e.result with
  | .ok a =>
    let rest := f a e.replies e.world
    { rest with sent := e.sent ++ rest.sent }
  | .error stop => { e with result := .error stop }

@[simp] theorem Ending.bind_ok (a : α) (replies : List Reply) (w : World U)
    (f : α → List Reply → World U → Ending U β) :
    Ending.bind { result := .ok a, replies, world := w } f = f a replies w := rfl

@[simp] theorem Ending.bind_error (stop : Stop) (replies : List Reply) (w : World U)
    (f : α → List Reply → World U → Ending U β) :
    Ending.bind { result := .error stop, replies, world := w } f =
      { result := .error stop, replies, world := w } := rfl

/-- What becomes of a thread when nothing else goes on. A suspended call is given up if there is a limit, and
otherwise waited for without end. -/
def alone : Thread U α → List Reply → World U → Ending U α
  | .done result, replies, w => { result, replies, world := w }
  | .turn after next, replies, w => (next w).alone replies (after w)
  | .opens next, replies, w => (next replies.length).alone (replies ++ [{}]) w
  | .reads cell next, replies, w => (next (replies.getD cell {})).alone replies w
  | .calls cell work argument limited next, replies, w =>
    let r := work.run b goOn argument (replies.getD cell {}) w.env
    if r.outcome.waits limited then
      { result := .error .unsettled, replies := replies.set cell r.reply, world := { w with env := r.env } }
    else (next r.outcome).alone (replies.set cell r.reply) { w with env := r.env }
  | .sends messages next, replies, w =>
    let rest := next.alone replies w
    { rest with sent := messages :: rest.sent }

variable {b goOn}

/-- A sequence goes on from where its first thread ends. -/
theorem alone_bind (t : Thread U α) (f : α → Thread U β) (replies : List Reply) (w : World U) :
    (t >>= f).alone b goOn replies w = (t.alone b goOn replies w).bind fun a => (f a).alone b goOn := by
  change (t.bind f).alone b goOn replies w = _
  -- along the first thread, from whatever replies and world its stretches leave
  induction t generalizing replies w with
  | done result => cases result <;> rfl
  | turn after next ih => exact ih w replies (after w)
  | opens next ih => exact ih _ _ w
  | reads cell next ih => exact ih _ replies w
  | calls cell work argument limited next ih =>
    simp only [bind, alone]
    split
    · rfl
    · exact ih _ _ _
  | sends messages next ih =>
    simp only [bind, alone, ih, Ending.bind]
    cases (next.alone b goOn replies w).result <;> rfl

/-- An attempt ends as the thread does, with its failure as a result. -/
theorem alone_attempt (t : Thread U α) (replies : List Reply) (w : World U) :
    t.attempt.alone b goOn replies w =
      { t.alone b goOn replies w with result := caught (t.alone b goOn replies w).result } := by
  induction t generalizing replies w with
  | done result => rfl
  | turn after next ih => exact ih w replies (after w)
  | opens next ih => exact ih _ _ w
  | reads cell next ih => exact ih _ replies w
  | calls cell work argument limited next ih =>
    simp only [attempt, alone]
    split
    · rfl
    · exact ih _ _ _
  | sends messages next ih => simp only [attempt, alone, ih]

@[simp] theorem alone_act (x : Act U α) (replies : List Reply) (w : World U) :
    (act x).alone b goOn replies w = { result := (outcome x w).1, replies, world := (outcome x w).2 } := rfl

/-! ## Computations in stretches -/

variable (b goOn) in
/-- A thread that has no others around it comes to what a computation comes to. It sends nothing, and makes
replies of its own. -/
def Runs (t : Thread U α) (x : Act U α) : Prop :=
  ∀ replies w, ∃ made, t.alone b goOn replies w =
    { result := (outcome x w).1, replies := replies ++ made, world := (outcome x w).2 }

theorem runs_act (x : Act U α) : Runs b goOn (act x) x := fun replies w =>
  ⟨[], by rw [List.append_nil]; rfl⟩

theorem runs_pure (a : α) : Runs b goOn (pure a) (pure a : Act U α) := fun replies w =>
  ⟨[], by rw [List.append_nil]; rfl⟩

/-- A sequence comes to what the sequence of the computations comes to. -/
theorem Runs.bind {t : Thread U α} {x : Act U α} {f : α → Thread U β} {g : α → Act U β}
    (h : Runs b goOn t x) (hf : ∀ a, Runs b goOn (f a) (g a)) : Runs b goOn (t >>= f) (x >>= g) := by
  intro replies w
  obtain ⟨made, hfirst⟩ := h replies w
  rw [alone_bind, hfirst, outcome_bind]
  cases outcome x w with
  | mk result w₁ =>
    cases result with
    | error stop => exact ⟨made, rfl⟩
    | ok a =>
      obtain ⟨more, hrest⟩ := hf a (replies ++ made) w₁
      refine ⟨made ++ more, ?_⟩
      rw [Ending.bind_ok, hrest, List.append_assoc]

/-- An attempt comes to what an attempt at the computation comes to. -/
theorem Runs.attempt {t : Thread U α} {x : Act U α} (h : Runs b goOn t x) :
    Runs b goOn t.attempt (Act.attempt x) := by
  intro replies w
  obtain ⟨made, hrun⟩ := h replies w
  refine ⟨made, ?_⟩
  rw [alone_attempt, hrun, Act.outcome_attempt]
  rcases outcome x w with ⟨(f | _) | a, w₁⟩ <;> rfl

end Thread

end ServerTree
