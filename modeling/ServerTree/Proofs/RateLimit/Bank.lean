import ServerTree.Pipeline.Handler
import ServerTree.Proofs.Assoc
import ServerTree.Proofs.Keeping
import ServerTree.Proofs.RateLimit.Counter

/-!
# Counting requests over any times

An endpoint counts its requests with the limiter of its number. What it does can be said for any times and
windows: with doubles and values it is what a running application does, with exact numbers it can be
compared with independent counters.

## Main definitions
- `RateLimitSpec.checkAt`, `WrappedHandler.countAt`: one request, over any times
- `maximum?`: the whole number that a maximum stands for

## Main statements
- `outcome_checkLimit`: a running application counts in this way, over doubles
- `countAt_reflects`: over exact times the verdict is that of the counter of the client
-/

namespace ServerTree

variable {τ ω : Type} [TimeScale τ ω]

/-! ## One request -/

/-- Checks a request against a specification, over any times: windows are read as lengths of time. -/
def RateLimitSpec.checkAt (length : Value → ω) (spec : RateLimitSpec Value) (now : τ) (key : Value)
    (l : Limiter Value τ) : Attempt Limiter.Verdict × Limiter Value τ :=
  match l.sweep (length spec.window) now with
  | .error f => (.error f, l)
  | .ok l =>
    match key.asKey.bind fun k => l.count (length spec.window) now k with
    | .error f => (.error f, l)
    | .ok (w, l) => (Limiter.judge (exceedsMax spec.max) (length spec.window) now w, l)

/-- The limiter of a number. -/
def Bank.limiter (bank : Bank τ) (number : Nat) : Limiter Value τ := (Assoc.get? number bank).getD {}

/-- What is said to a request: how long to wait when it is denied. -/
def Limiter.Verdict.wait? (verdict : Limiter.Verdict) : Option Int :=
  if verdict.allowed then none else some verdict.retryAfter

/-- Counts a request with the limiter of an endpoint, over any times. -/
def WrappedHandler.countAt (length : Value → ω) (h : WrappedHandler) (request : Request) (now : τ)
    (bank : Bank τ) : Attempt (Option Int) × Bank τ :=
  match h.config.settings.rateLimit with
  | .none => (.ok none, bank)
  | .rateLimitSpec spec =>
    let r := spec.checkAt length now (.str (identityKey request spec.keyHeader)) (bank.limiter h.number)
    (r.1.map Limiter.Verdict.wait?, Assoc.set h.number r.2 bank)
  | v => (refuse (noAttribute v "key_header"), bank)

/-- A check over doubles is one of these. -/
theorem check_eq_checkAt (spec : RateLimitSpec Value) (now : Float) (key : Value)
    (l : Limiter Value Float) : spec.check now key l = spec.checkAt id now key l := by
  rw [RateLimitSpec.check, RateLimitSpec.checkAt, id]
  cases Limiter.sweep spec.window now l with
  | error f => rfl
  | ok swept =>
    cases hkey : key.asKey.bind fun k => swept.count spec.window now k <;> simp only [hkey]

/-- **A running application counts over doubles**: it moves the limiter of the endpoint, says what the count
says, and does nothing else. -/
theorem outcome_checkLimit {U : Type} (h : WrappedHandler) (request : Request) (w : World U) :
    let r := h.countAt id request w.env.clock w.limiters
    outcome (checkLimit h request) w = (r.1.mapError .failed, { w with limiters := r.2 }) := by
  unfold checkLimit WrappedHandler.countAt
  cases h.config.settings.rateLimit with
  | none => rfl
  | rateLimitSpec spec =>
    -- the limiters are set before it is known whether the check failed
    have hrun : ∀ (verdict : Attempt Limiter.Verdict) (w : World U),
        outcome (do
          let verdict ← Act.ofAttempt verdict
          return if verdict.allowed then none else some verdict.retryAfter : Act U (Option Int)) w =
        ((verdict.map Limiter.Verdict.wait?).mapError .failed, w) := by
      intro verdict w
      cases verdict <;> rfl
    simp only [← check_eq_checkAt]
    exact hrun _ { w with limiters := Assoc.set h.number _ w.limiters }
  | _ => rfl

/-! ## Keys -/

/-- A limiter of texts, with these texts as values. -/
def Limiter.texts (l : Limiter String τ) : Limiter Value τ :=
  { clients := l.clients.map (Prod.map Value.str id), swept := l.swept }

/-! ## Over exact times -/

theorem sweep_texts {window now : ℚ} {l swept : Limiter String ℚ} (h : l.sweep window now = .ok swept) :
    l.texts.sweep window now = .ok swept.texts := by
  have hdue : l.texts.sweepDue window now = l.sweepDue window now := rfl
  rw [Limiter.sweep, Limiter.current_eq] at h ⊢
  rw [hdue]
  cases hswept : l.sweepDue window now with
  | error f => simp [hswept, bind, Except.bind] at h
  | ok due =>
    simp only [hswept, bind, Except.bind] at h ⊢
    cases due with
    | false =>
      obtain rfl : l = swept := by simpa [pure, Except.pure] using h
      rfl
    | true =>
      simp only [if_true, pure, Except.pure, Except.ok.injEq] at h ⊢
      rw [← h, Limiter.texts, Limiter.texts, List.filter_map]
      rfl

theorem count_texts {window : ω} {now : τ} {l next : Limiter String τ} {key : String} {w : WindowCount τ}
    (h : l.count window now key = .ok (w, next)) :
    l.texts.count window now (.str key) = .ok (w, next.texts) := by
  have hfound : Assoc.get? (.str key) l.texts.clients = Assoc.get? key l.clients :=
    Assoc.get?_map Value.beq_str key l.clients
  rw [Limiter.count] at h ⊢
  rw [hfound]
  cases hcount : Limiter.nextCount window now (Assoc.get? key l.clients) with
  | error f => simp [hcount, bind, Except.bind] at h
  | ok counted =>
    simp only [hcount, bind, Except.bind, pure, Except.pure, Except.ok.injEq, Prod.mk.injEq] at h ⊢
    obtain ⟨rfl, rfl⟩ := h
    refine ⟨rfl, ?_⟩
    have hset := Assoc.set_map Value.beq_str id key counted l.clients
    simp only [Limiter.texts, ← hset, id]

/-- The whole number that a maximum stands for. -/
def maximum? : Value → Option Int
  | .int max => some max
  | .bool b => some (if b then 1 else 0)
  | _ => none

theorem exceedsMax_eq {v : Value} {max : Int} (h : maximum? v = some max) (count : Nat) :
    exceedsMax v count = .ok (decide (max < (count : Int))) := by
  cases v with
  | int m =>
    obtain rfl : m = max := Option.some.inj h
    rfl
  | bool b =>
    obtain rfl : (if b then 1 else 0) = max := Option.some.inj h
    cases b <;> simp [exceedsMax]
  | _ => simp [maximum?] at h

/-- Over exact times the verdict on a counted request is whether it is among the first of its window; one
that is denied waits for at least a second. -/
theorem judge_eq {v : Value} {max : Int} (h : maximum? v = some max) (window now : ℚ) (w : WindowCount ℚ) :
    ∃ seconds, 1 ≤ seconds ∧ (Limiter.judge (exceedsMax v) window now w).map Limiter.Verdict.wait? =
      .ok (if (w.count : Int) ≤ max then none else some seconds) := by
  rw [Limiter.judge, exceedsMax_eq h]
  by_cases hcount : (w.count : Int) ≤ max
  · refine ⟨1, le_refl 1, ?_⟩
    rw [if_pos hcount, decide_eq_false (not_lt.mpr hcount)]
    rfl
  · rw [decide_eq_true (not_le.mp hcount)]
    simp only [if_neg hcount]
    exact ⟨_, le_max_left 1 _, rfl⟩

/-- A check of a text is a sweep and then a count, which both succeed over exact times. -/
theorem checkAt_reflects {length : Value → ℚ} {spec : RateLimitSpec Value} {now : ℚ}
    {seen : String → List ℚ} {l : Limiter String ℚ} (h : l.Reflects (length spec.window) now seen)
    (key : String) :
    ∃ next : Limiter String ℚ, spec.checkAt length now (.str key) l.texts =
        (Limiter.judge (exceedsMax spec.max) (length spec.window) now
          (tick (length spec.window) (counterAfter (length spec.window) (seen key)) now), next.texts) ∧
      next.Reflects (length spec.window) now (fun k => if k = key then seen k ++ [now] else seen k) := by
  obtain ⟨swept, hsweep, hswept⟩ := Limiter.sweep_reflects h
  obtain ⟨next, hcount, hnext⟩ := Limiter.count_reflects hswept key
  have hkey : ((Value.str key).asKey.bind fun k => swept.texts.count (length spec.window) now k) =
      swept.texts.count (length spec.window) now (.str key) := rfl
  refine ⟨next, ?_, hnext⟩
  rw [RateLimitSpec.checkAt, sweep_texts hsweep]
  simp only [hkey, count_texts hcount]

/-- **Step lemma**: over exact times, a request to an endpoint is judged by the counter of its client, and
moves no other counter. -/
theorem countAt_reflects {length : Value → ℚ} {h : WrappedHandler} {spec : RateLimitSpec Value}
    (hspec : h.config.settings.rateLimit = .rateLimitSpec spec) {seen : String → List ℚ} {now : ℚ}
    {bank : Bank ℚ} {l : Limiter String ℚ} (hl : bank.limiter h.number = l.texts)
    (hreflects : l.Reflects (length spec.window) now seen) (request : Request) :
    let key := identityKey request spec.keyHeader
    (∃ next : Limiter String ℚ, (h.countAt length request now bank).2.limiter h.number = next.texts ∧
      next.Reflects (length spec.window) now (fun k => if k = key then seen k ++ [now] else seen k)) ∧
    ∀ max, maximum? spec.max = some max → ∃ seconds, 1 ≤ seconds ∧
      (h.countAt length request now bank).1 =
        .ok (if admits max (length spec.window) (seen key) now then none else some seconds) := by
  intro key
  obtain ⟨next, hcheck, hnext⟩ := checkAt_reflects hreflects key
  have hcount : h.countAt length request now bank =
      ((Limiter.judge (exceedsMax spec.max) (length spec.window) now
        (tick (length spec.window) (counterAfter (length spec.window) (seen key)) now)).map
          Limiter.Verdict.wait?, Assoc.set h.number next.texts bank) := by
    rw [WrappedHandler.countAt, hspec]
    simp only [hl, key, hcheck]
  rw [hcount]
  constructor
  · refine ⟨next, ?_, hnext⟩
    rw [Bank.limiter, Assoc.get?_set_self]
    rfl
  · intro max hmax
    obtain ⟨seconds, hseconds, hjudged⟩ := judge_eq hmax (length spec.window) now
      (tick (length spec.window) (counterAfter (length spec.window) (seen key)) now)
    refine ⟨seconds, hseconds, ?_⟩
    simpa only [admits, decide_eq_true_eq] using hjudged

/-- A request to one endpoint leaves the limiters of all others alone. -/
theorem countAt_limiter_of_ne (length : Value → ω) (h : WrappedHandler) (request : Request) (now : τ)
    (bank : Bank τ) {number : Nat} (hne : number ≠ h.number) :
    (h.countAt length request now bank).2.limiter number = bank.limiter number := by
  rw [WrappedHandler.countAt]
  cases h.config.settings.rateLimit with
  | rateLimitSpec spec =>
    simp only [Bank.limiter, Assoc.get?_set_other hne]
  | _ => rfl

end ServerTree
