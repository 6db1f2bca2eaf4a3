import Mathlib.Algebra.Order.Ring.Rat
import Mathlib.Data.List.Induction
import Mathlib.Data.List.Nodup
import Mathlib.Tactic.Linarith
import ServerTree.RateLimit

/-!
# Limiters and independent counters

A limiter keeps the windows of all its clients in one mapping and sweeps it at times that depend on all of
them. Over exact times it is nothing but a row of independent counters, one for each client, that never
forget: what it stores is what the counter says, and what it has dropped is a window that is over, which the
next request of the client would have dropped as well.

## Main definitions
- `tick`, `counterAfter`, `admits`: a counter that is kept for one client alone
- `letThrough`: the requests that a counter has let through
- `Limiter.Reflects`: a limiter agrees with the counters of its clients

## Main statements
- `admits_letThrough`: requests that were denied make no difference to a counter
- `Limiter.sweep_reflects`: sweeping is invisible
- `Limiter.count_reflects`: a request moves the counter of its client and no other
-/

namespace ServerTree

/-- Exact times and exact windows. A wait is cut to whole seconds, as that of doubles is. -/
instance : TimeScale ℚ ℚ where
  sub := (· - ·)
  reaches t window := .ok (decide (window ≤ t))
  within t window := .ok (decide (t < window))
  passed _ _ := .ok true
  remaining window start now :=
    let seconds := start + window - now + 999 / 1000
    .ok (seconds.num.tdiv seconds.den)

/-! ## The counter of one client -/

/-- What a counter says after one more request: a window opens at the first request after the window before
has lasted its length. -/
def tick (window : ℚ) : Option (WindowCount ℚ) → ℚ → WindowCount ℚ
  | none, now => ⟨1, now⟩
  | some w, now => if window ≤ now - w.start then ⟨1, now⟩ else ⟨w.count + 1, w.start⟩

/-- What a counter says after requests at certain times. -/
def counterAfter (window : ℚ) (times : List ℚ) : Option (WindowCount ℚ) :=
  times.foldl (fun w now => some (tick window w now)) none

/-- Whether a counter that has seen requests at certain times lets another one through: it does for the first
ones of a window. -/
def admits (max : Int) (window : ℚ) (earlier : List ℚ) (now : ℚ) : Bool :=
  decide (((tick window (counterAfter window earlier) now).count : Int) ≤ max)

/-- The requests that a counter lets through, after earlier ones. -/
def letThroughAfter (max : Int) (window : ℚ) : List ℚ → List ℚ → List ℚ
  | _, [] => []
  | earlier, now :: times =>
    (if admits max window earlier now then [now] else []) ++ letThroughAfter max window (earlier ++ [now]) times

/-- The requests that a counter lets through. -/
def letThrough (max : Int) (window : ℚ) (times : List ℚ) : List ℚ := letThroughAfter max window [] times

@[simp] theorem counterAfter_nil (window : ℚ) : counterAfter window [] = none := rfl

@[simp] theorem counterAfter_concat (window : ℚ) (times : List ℚ) (now : ℚ) :
    counterAfter window (times ++ [now]) = some (tick window (counterAfter window times) now) := by
  simp [counterAfter]

theorem letThroughAfter_concat (max : Int) (window : ℚ) (earlier times : List ℚ) (now : ℚ) :
    letThroughAfter max window earlier (times ++ [now]) = letThroughAfter max window earlier times ++
      if admits max window (earlier ++ times) now then [now] else [] := by
  induction times generalizing earlier with
  | nil => simp [letThroughAfter]
  | cons time times ih => simp [letThroughAfter, ih]

theorem letThrough_concat (max : Int) (window : ℚ) (times : List ℚ) (now : ℚ) :
    letThrough max window (times ++ [now]) = letThrough max window times ++
      if admits max window times now then [now] else [] := by
  rw [letThrough, letThroughAfter_concat, List.nil_append, letThrough]

/-- A counter has counted at least one request. -/
theorem one_le_count_tick (window : ℚ) (w : Option (WindowCount ℚ)) (now : ℚ) :
    1 ≤ (tick window w now).count := by
  cases w with
  | none => exact Nat.le_refl 1
  | some w =>
    rw [tick]
    split <;> simp

/-! ## Requests that were denied -/

/-- A window that is cut at the maximum. -/
def WindowCount.capped (max : Int) (w : WindowCount ℚ) : WindowCount ℚ := ⟨min w.count max.toNat, w.start⟩

/-- Whether a window is over does not depend on its count, so cutting it changes no more than the count. -/
theorem tick_capped (max : Int) (window : ℚ) (w : Option (WindowCount ℚ)) (now : ℚ) :
    tick window (w.map (WindowCount.capped max)) now =
      ⟨min (tick window w now).count (max.toNat + 1), (tick window w now).start⟩ := by
  cases w with
  | none => simp [tick]
  | some w =>
    by_cases hover : window ≤ now - w.start
    · simp [tick, WindowCount.capped, hover]
    · simp [tick, WindowCount.capped, hover]

/-- A request that is denied leaves a window that is cut at the maximum as it is. -/
theorem capped_of_denied {max : Int} {window now : ℚ} {w : Option (WindowCount ℚ)} (hmax : 1 ≤ max)
    (h : max < (tick window w now).count) :
    w.map (WindowCount.capped max) = some ((tick window w now).capped max) := by
  cases w with
  | none =>
    simp only [tick, Nat.cast_one] at h
    omega
  | some w =>
    by_cases hover : window ≤ now - w.start
    · simp only [tick, hover, if_true, Nat.cast_one] at h
      omega
    · simp only [tick, hover, if_false] at h
      simp only [Option.map_some, WindowCount.capped, tick, hover, if_false, Option.some.injEq,
        WindowCount.mk.injEq, and_true]
      omega

/-- **A counter that only sees what it lets through is in the same window**, and its count is the same up to
the maximum. -/
theorem counterAfter_letThrough {max : Int} (window : ℚ) (times : List ℚ) (hmax : 1 ≤ max) :
    counterAfter window (letThrough max window times) =
      (counterAfter window times).map (WindowCount.capped max) := by
  induction times using List.reverseRecOn with
  | nil => rfl
  | append_singleton times now ih =>
    rw [letThrough_concat, counterAfter_concat, Option.map_some, admits]
    -- a request that is let through leaves the count at most at the maximum, so cutting changes nothing
    by_cases hlet : ((tick window (counterAfter window times) now).count : Int) ≤ max
    · have hcount : min (tick window (counterAfter window times) now).count (max.toNat + 1) =
          min (tick window (counterAfter window times) now).count max.toNat := by omega
      simp only [hlet, decide_true, if_true, counterAfter_concat, ih, tick_capped, hcount]
      rfl
    · simp only [hlet, decide_false, Bool.false_eq_true, if_false, List.append_nil, ih]
      exact capped_of_denied hmax (not_le.mp hlet)

/-- **Requests that were denied make no difference**: whether the next request is let through is decided by
those that were let through. -/
theorem admits_letThrough (max : Int) (window : ℚ) (times : List ℚ) (now : ℚ) :
    admits max window (letThrough max window times) now = admits max window times now := by
  by_cases hmax : 1 ≤ max
  · rw [admits, admits, counterAfter_letThrough window times hmax, tick_capped, decide_eq_decide]
    dsimp only
    omega
  · -- nothing is ever let through
    have hnever : ∀ w, ¬ ((tick window w now).count : Int) ≤ max := by
      intro w
      have hone := one_le_count_tick window w now
      omega
    simp only [admits, hnever]

/-! ## A limiter and the counters of its clients -/

namespace Limiter

variable {κ : Type}

/-- Over exact times windows can always be compared, and what is kept are the windows that are not over. -/
theorem current_eq (window now : ℚ) (clients : List (κ × WindowCount ℚ)) :
    current window now clients = .ok (clients.filter fun e => decide (now - e.2.start < window)) := by
  induction clients with
  | nil => rfl
  | cons e clients ih =>
    rw [current, ih, List.filter_cons]
    rfl

variable [DecidableEq κ] {window before now : ℚ} {seen : κ → List ℚ} {l : Limiter κ ℚ}

/-- A limiter agrees with the counters of its clients, which have seen requests at certain times: what it
stores is what the counter says, and of a client that it does not store the window is over by now. -/
structure Reflects (window now : ℚ) (seen : κ → List ℚ) (l : Limiter κ ℚ) : Prop where
  unique : (l.clients.map Prod.fst).Nodup
  stored : ∀ k w, Assoc.get? k l.clients = some w → counterAfter window (seen k) = some w
  dropped : ∀ k w, Assoc.get? k l.clients = none → counterAfter window (seen k) = some w →
    window ≤ now - w.start

/-- A new limiter agrees with counters that have seen nothing. -/
theorem reflects_empty (window now : ℚ) : Reflects window now (fun _ => []) ({} : Limiter κ ℚ) where
  unique := List.nodup_nil
  stored := by simp [Assoc.get?]
  dropped := by simp

/-- A window that is over stays so. -/
theorem Reflects.mono (h : Reflects window before seen l) (hle : before ≤ now) :
    Reflects window now seen l where
  unique := h.unique
  stored := h.stored
  dropped k w hnone hcounter := by
    have hover := h.dropped k w hnone hcounter
    linarith

/-- What is no key of a mapping is not found in it. -/
theorem get?_eq_none {α : Type} {k : κ} {m : List (κ × α)} (h : k ∉ m.map Prod.fst) :
    Assoc.get? k m = none := by
  induction m with
  | nil => rfl
  | cons e m ih =>
    obtain ⟨hne, hrest⟩ : k ≠ e.1 ∧ k ∉ m.map Prod.fst := by simpa using h
    rw [Assoc.get?, if_neg (by simpa using Ne.symm hne), ih hrest]

/-- What is left of a mapping whose keys differ is found in it as before. -/
theorem get?_filter {α : Type} {m : List (κ × α)} (hunique : (m.map Prod.fst).Nodup) (p : α → Bool)
    (k : κ) : Assoc.get? k (m.filter fun e => p e.2) = (Assoc.get? k m).filter p := by
  induction m with
  | nil => rfl
  | cons e m ih =>
    obtain ⟨hnot, hunique⟩ := List.nodup_cons.mp hunique
    have hrest := ih hunique
    rw [List.filter_cons]
    by_cases hk : e.1 = k
    · subst hk
      rw [get?_eq_none hnot] at hrest
      cases hp : p e.2 with
      | true => simp [Assoc.get?, Option.filter, hp]
      | false => simpa [Assoc.get?, Option.filter, hp] using hrest
    · cases hp : p e.2 with
      | true => simpa [Assoc.get?, hk] using hrest
      | false => simpa [Assoc.get?, hk] using hrest

/-- **Sweeping is invisible**: a limiter still agrees with the same counters. -/
theorem sweep_reflects (h : Reflects window now seen l) :
    ∃ swept, l.sweep window now = .ok swept ∧ Reflects window now seen swept := by
  obtain ⟨due, hdue⟩ : ∃ due, l.sweepDue window now = .ok due := by
    cases hswept : l.swept with
    | none => exact ⟨true, by rw [sweepDue, hswept]; rfl⟩
    | some s => exact ⟨_, by rw [sweepDue, hswept]; rfl⟩
  cases due with
  | false => exact ⟨l, by rw [sweep, hdue]; rfl, h⟩
  | true =>
    refine ⟨⟨_, some now⟩, by rw [sweep, hdue, current_eq]; rfl, ?_, ?_, ?_⟩
    · exact (List.Sublist.map _ List.filter_sublist).nodup h.unique
    · intro k w hw
      rw [get?_filter h.unique (fun w => decide (now - w.start < window))] at hw
      exact h.stored k w (Option.filter_eq_some_iff.mp hw).1
    · intro k w hnone hcounter
      rw [get?_filter h.unique (fun w => decide (now - w.start < window))] at hnone
      -- the client was dropped just now, or was not there
      cases hget : Assoc.get? k l.clients with
      | none => exact h.dropped k w hget hcounter
      | some w' =>
        obtain rfl : w' = w := Option.some.inj ((h.stored k w' hget).symm.trans hcounter)
        rw [hget] at hnone
        simpa using hnone

/-- The next window of a client is what its counter says. -/
theorem nextCount_eq (h : Reflects window now seen l) (key : κ) :
    nextCount window now (Assoc.get? key l.clients) =
      .ok (tick window (counterAfter window (seen key)) now) := by
  cases hget : Assoc.get? key l.clients with
  | some w =>
    rw [h.stored key w hget]
    show Except.ok (if decide (window ≤ now - w.start) = true then _ else _) = _
    simp only [decide_eq_true_eq]
    rfl
  | none =>
    cases hcounter : counterAfter window (seen key) with
    | none => rfl
    | some w =>
      -- what was dropped is over, so that the counter opens a window too
      have hover := h.dropped key w hget hcounter
      rw [tick, if_pos hover]
      rfl

/-- **A request moves the counter of its client and no other.** -/
theorem count_reflects (h : Reflects window now seen l) (key : κ) :
    ∃ next, l.count window now key = .ok (tick window (counterAfter window (seen key)) now, next) ∧
      Reflects window now (fun k => if k = key then seen k ++ [now] else seen k) next := by
  -- the window of the client that counts is stored anew, those of the others are found as before
  refine ⟨_, by rw [count, nextCount_eq h]; rfl, ?_, ?_, ?_⟩
  · rw [Assoc.keys_set]
    split
    · exact h.unique
    · next hnew =>
      rw [← List.concat_eq_append]
      exact h.unique.concat hnew
  · intro k w hw
    by_cases hk : k = key
    · subst hk
      rw [Assoc.get?_set_self] at hw
      rw [if_pos rfl, counterAfter_concat, hw]
    · rw [Assoc.get?_set_other hk] at hw
      rw [if_neg hk]
      exact h.stored k w hw
  · intro k w hnone hcounter
    by_cases hk : k = key
    · subst hk
      rw [Assoc.get?_set_self] at hnone
      cases hnone
    · rw [Assoc.get?_set_other hk] at hnone
      rw [if_neg hk] at hcounter
      exact h.dropped k w hnone hcounter

end Limiter

end ServerTree
