import ServerTree.Config.Derive
import ServerTree.Decimal.Shortest

/-!
# Rate limiting

Each limited route has a limiter that counts requests for each client in fixed windows. A window opens
at the first request after the previous window has lasted its length. Clients whose window is over are
swept at most once a window.

The limiter is written for any type of times and any type of windows that have the operations of
`TimeScale`: doubles and values when it runs, exact numbers in its theory.

## Main definitions
- `TimeScale`: lengths of time and how they compare with a window
- `Limiter`, `Limiter.sweepDue`, `Limiter.count`: one request of a client
- `Limiter.judge`: whether it is allowed, and how long to wait when it is not
- `RateLimitSpec.check`: all of it, for the settings of a route
- `identityKey`: how clients are told apart
-/

namespace ServerTree

/-- Times of type `τ` and windows of type `ω`. What is no length of time cannot be compared. -/
class TimeScale (τ ω : Type) where
  sub : τ → τ → τ
  /-- Whether a length of time is at least a window. -/
  reaches : τ → ω → Attempt Bool
  /-- Whether a length of time is less than a window. -/
  within : τ → ω → Attempt Bool
  /-- Whether a window has passed since the beginning of time. -/
  passed : ω → τ → Attempt Bool
  /-- Whole seconds, nearly rounded up, until a window is over: `window`, `start`, `now`. -/
  remaining : ω → τ → τ → Attempt Int

/-! ## Doubles and numbers -/

/-- The integer part of a double, when there is one. -/
def Float.integerPart (x : Float) : Attempt Int :=
  if x.isNaN then refuse .notANumber
  else if x.isInf then refuse (.notFinite "cannot convert float infinity to integer")
  else .ok (Decimal.truncated x)

/-- The refusal to compare a double with what is no number. -/
def incomparable {α : Type} (sign : String) (v : Value) : Attempt α :=
  refuse (.wrongType ("'" ++ sign ++ "' not supported between instances of 'float' and '" ++ v.typeName ++ "'"))

namespace Value

/-- Whether a double is at least a number. -/
def atMostFloat (v : Value) (x : Float) : Attempt Bool :=
  match v with
  | .int n => .ok (Decimal.equalsInt x n || Decimal.greaterThanInt x n)
  | .bool b => .ok (decide ((if b then 1.0 else 0.0) ≤ x))
  | .float y => .ok (decide (y ≤ x))
  | .nan _ => .ok false
  | v => incomparable ">=" v

/-- Whether a double is less than a number. -/
def aboveFloat (v : Value) (x : Float) : Attempt Bool :=
  match v with
  | .int n => .ok (Decimal.lessThanInt x n)
  | .bool b => .ok (decide (x < (if b then 1.0 else 0.0)))
  | .float y => .ok (decide (x < y))
  | .nan _ => .ok false
  | v => incomparable "<" v

/-- A number as a double. -/
def asDouble : Value → Attempt Float
  | .int n =>
    let x := Float.ofInt n
    if x.isInf then refuse (.notFinite "int too large to convert to float") else .ok x
  | .bool b => .ok (if b then 1.0 else 0.0)
  | .float x => .ok x
  | .nan _ => .ok (0.0 / 0.0)
  | v => refuse (.wrongType ("unsupported operand type(s) for +: 'float' and '" ++ v.typeName ++ "'"))

end Value

instance : TimeScale Float Value where
  sub := (· - ·)
  reaches x v := v.atMostFloat x
  within x v := v.aboveFloat x
  passed v now := v.atMostFloat (now - (-1.0 / 0.0))
  remaining v start now := do
    let window ← v.asDouble
    Float.integerPart (start + window - now + 0.999)

/-! ## Limiters -/

/-- A client's window: how many requests it has seen and when it opened. -/
structure WindowCount (τ : Type) where
  count : Nat
  start : τ
deriving DecidableEq, Repr

/-- The state of a limiter. -/
structure Limiter (κ τ : Type) where
  clients : List (κ × WindowCount τ) := []
  /-- When clients were last swept. -/
  swept : Option τ := none
deriving Repr

namespace Limiter

variable {κ τ ω : Type} [TimeScale τ ω]

/-- Whether a whole window has passed from `start` to `now`. -/
def isOver (window : ω) (now start : τ) : Attempt Bool :=
  TimeScale.reaches (TimeScale.sub ω now start) window

/-- Whether a sweep is due. The last sweep before the first one is the beginning of time. -/
def sweepDue (window : ω) (now : τ) (l : Limiter κ τ) : Attempt Bool :=
  match l.swept with
  | none => TimeScale.passed window now
  | some s => isOver window now s

/-- The clients whose window is not over. -/
def current (window : ω) (now : τ) : List (κ × WindowCount τ) → Attempt (List (κ × WindowCount τ))
  | [] => .ok []
  | e :: es => do
    let kept ← TimeScale.within (TimeScale.sub ω now e.2.start) window
    let rest ← current window now es
    return if kept then e :: rest else rest

/-- Drops the clients whose window is over, when a sweep is due. -/
def sweep (window : ω) (now : τ) (l : Limiter κ τ) : Attempt (Limiter κ τ) := do
  if ← sweepDue window now l then
    let clients ← current window now l.clients
    return { clients := clients, swept := some now }
  else return l

/-- The window of a client that makes a request now, after that request. -/
def nextCount (window : ω) (now : τ) : Option (WindowCount τ) → Attempt (WindowCount τ)
  | none => do
    -- a window that is over as soon as it opens is opened again
    let _ ← isOver window now now
    return ⟨1, now⟩
  | some w => do
    let ended ← isOver window now w.start
    return if ended then ⟨1, now⟩ else ⟨w.count + 1, w.start⟩

/-- Counts one request of a client. -/
def count [BEq κ] (window : ω) (now : τ) (key : κ) (l : Limiter κ τ) :
    Attempt (WindowCount τ × Limiter κ τ) := do
  let w ← nextCount window now (Assoc.get? key l.clients)
  return (w, { l with clients := Assoc.set key w l.clients })

/-- The seconds that remain of a window, at least one. -/
def retryAfter (window : ω) (now : τ) (w : WindowCount τ) : Attempt Int :=
  (TimeScale.remaining window w.start now).map (max 1)

/-- What a limiter says: whether the request is allowed, and how long to wait. -/
structure Verdict where
  allowed : Bool
  retryAfter : Int
deriving DecidableEq, Repr

/-- Judges a counted request; `exceeds` tells whether a count is over the maximum. -/
def judge (exceeds : Nat → Attempt Bool) (window : ω) (now : τ) (w : WindowCount τ) : Attempt Verdict := do
  let exceeded ← exceeds w.count
  if exceeded then
    let seconds ← retryAfter window now w
    return ⟨false, seconds⟩
  else return ⟨true, 0⟩

/-- Forgets every client. -/
def reset (l : Limiter κ τ) : Limiter κ τ := { l with clients := [] }

end Limiter

/-- Whether a count is over a maximum given as a value. -/
def exceedsMax (max : Value) (count : Nat) : Attempt Bool :=
  match max with
  | .int m => .ok (decide (m < (count : Int)))
  | .bool b => .ok (decide ((if b then 1 else 0) < count))
  | .float x => .ok (Decimal.lessThanInt x count)
  | .nan _ => .ok false
  | v =>
    refuse (.wrongType ("'>' not supported between instances of 'int' and '" ++ v.typeName ++ "'"))

/-- Checks a request against a specification: sweeps, counts and judges. What was done before a step that
fails stays done. -/
def RateLimitSpec.check (spec : RateLimitSpec Value) (now : Float) (key : Value)
    (l : Limiter Value Float) : Attempt Limiter.Verdict × Limiter Value Float :=
  match l.sweep spec.window now with
  | .error f => (.error f, l)
  | .ok l =>
    match key.asKey.bind fun k => l.count spec.window now k with
    | .error f => (.error f, l)
    | .ok (w, l) => (Limiter.judge (exceedsMax spec.max) spec.window now w, l)

/-- How a client is told apart: the first entry of the identifying header when there is one, else the
address of the peer. -/
def identityKey (r : Request) (header : Value) : String :=
  let forwarded : String :=
    match header with
    | .str name =>
      match if name.isEmpty then none else r.headers.get? name with
      | none => ""
      | some raw => Text.strip (String.ofList (Text.cutAt ',' raw.toList).1)
    | _ => ""
  if !forwarded.isEmpty then forwarded
  else
    match r.clientHost with
    | some h => if h.isEmpty then "unknown" else h
    | none => "unknown"

end ServerTree
