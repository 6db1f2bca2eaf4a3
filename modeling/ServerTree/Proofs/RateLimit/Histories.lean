import Mathlib.Data.Rat.Floor
import ServerTree.Proofs.RateLimit.Bank

/-!
# Histories of checks

A limiter is asked about one client after another. What it says to a further check depends on the checks before it,
over whatever times and windows; over exact ones it is what the counter of the client says.

## Main definitions
- `RateLimitSpec.after`, `RateLimitSpec.verdict`: a limiter after checks, and what it says to a further one
- `checkTimes`: when a client was checked

## Main statements
- `after_reflects`: over exact times, a limiter agrees with the counters of its clients after any checks
- `verdict_eq`: what it says to a further check
-/

namespace ServerTree

section

variable {τ ω : Type} [TimeScale τ ω] (length : Value → ω) (spec : RateLimitSpec Value)

/-- A limiter after checks of clients, each at its time. -/
def RateLimitSpec.after (checks : List (String × τ)) : Limiter Value τ :=
  checks.foldl (fun l check => (spec.checkAt length check.2 (.str check.1) l).2) {}

/-- What a limiter says to a further check. -/
def RateLimitSpec.verdict (checks : List (String × τ)) (key : String) (now : τ) : Attempt Limiter.Verdict :=
  (spec.checkAt length now (.str key) (spec.after length checks)).1

@[simp] theorem after_nil : spec.after length ([] : List (String × τ)) = {} := rfl

@[simp] theorem after_concat (checks : List (String × τ)) (key : String) (now : τ) :
    spec.after length (checks ++ [(key, now)]) =
      (spec.checkAt length now (.str key) (spec.after length checks)).2 := by
  rw [RateLimitSpec.after, List.foldl_append]
  rfl

end

/-! ## The checks of a client -/

/-- The times at which a client was checked. -/
def checkTimes {τ : Type} (key : String) (checks : List (String × τ)) : List τ :=
  (checks.filter fun check => check.1 == key).map Prod.snd

section

variable {τ : Type} (key : String) (checks : List (String × τ))

@[simp] theorem checkTimes_nil : checkTimes key ([] : List (String × τ)) = [] := rfl

@[simp] theorem checkTimes_append (more : List (String × τ)) :
    checkTimes key (checks ++ more) = checkTimes key checks ++ checkTimes key more := by
  rw [checkTimes, List.filter_append, List.map_append]
  rfl

@[simp] theorem checkTimes_cons_self (now : τ) :
    checkTimes key ((key, now) :: checks) = now :: checkTimes key checks := by
  simp [checkTimes]

theorem checkTimes_cons_other {other : String} (h : other ≠ key) (now : τ) :
    checkTimes key ((other, now) :: checks) = checkTimes key checks := by
  simp [checkTimes, h]

theorem checkTimes_eq_nil (h : ∀ check ∈ checks, check.1 ≠ key) : checkTimes key checks = [] := by
  simpa [checkTimes] using h

/-- A further check is one of its client alone. -/
theorem checkTimes_concat (now : τ) :
    (checkTimes · (checks ++ [(key, now)])) =
      fun k => if k = key then checkTimes k checks ++ [now] else checkTimes k checks := by
  funext k
  by_cases hk : k = key
  · subst hk
    simp
  · simp [hk, checkTimes_cons_other k [] (Ne.symm hk)]

end

/-! ## Exact times -/

section

variable {length : Value → ℚ} {spec : RateLimitSpec Value} {checks : List (String × ℚ)} {now : ℚ}

/-- **Run lemma**: after checks at times that do not decrease, a limiter agrees with the counters of its clients.
The induction is on the checks, from the last one. -/
theorem after_reflects (htimes : (checks.map Prod.snd ++ [now]).Pairwise (· ≤ ·)) :
    ∃ l : Limiter String ℚ, spec.after length checks = l.texts ∧
      l.Reflects (length spec.window) now (checkTimes · checks) := by
  induction checks using List.reverseRecOn generalizing now with
  | nil => exact ⟨{}, rfl, Limiter.reflects_empty _ now⟩
  | append_singleton checks check ih =>
    obtain ⟨key, before⟩ := check
    rw [List.map_append] at htimes
    obtain ⟨hearlier, -, hlast⟩ := List.pairwise_append.mp htimes
    have hle : before ≤ now := hlast before (by simp) now (by simp)
    obtain ⟨l, hl, hreflects⟩ := ih hearlier
    obtain ⟨next, hnext, hagrees⟩ := @checkAt_reflects length spec _ _ _ hreflects key
    refine ⟨next, by rw [after_concat, hl, hnext], ?_⟩
    rw [checkTimes_concat]
    exact hagrees.mono hle

/-- What remains at a time of the window in which a request of a client counts, whose earlier requests were at
certain times. -/
def timeLeft (window : ℚ) (earlier : List ℚ) (now : ℚ) : ℚ :=
  (tick window (counterAfter window earlier) now).start + window - now

/-- The wait that a denied request is told: what remains, nearly rounded up, and at least a second. -/
def waitFor (left : ℚ) : Int := max 1 ⌊left + 999 / 1000⌋

theorem retryAfter_eq (window now : ℚ) (w : WindowCount ℚ) :
    Limiter.retryAfter window now w = .ok (waitFor (w.start + window - now)) := by
  have hcut : ∀ y : ℚ, max 1 (y.num.tdiv y.den) = max 1 ⌊y⌋ := by
    intro y
    have hden : (0 : Int) < y.den := Int.natCast_pos.mpr y.den_pos
    rw [Rat.floor_def']
    rcases le_or_gt 0 y.num with hnum | hnum
    · rw [Int.tdiv_eq_ediv_of_nonneg hnum]
    · -- neither way of cutting a negative number comes to a second
      have htdiv : 0 ≤ (-y.num).tdiv y.den := Int.tdiv_nonneg (by omega) hden.le
      rw [Int.neg_tdiv] at htdiv
      have hdiv : y.num / y.den < 0 := Int.ediv_neg_of_neg_of_pos hnum hden
      omega
  exact congrArg Except.ok (hcut _)

/-- **What a limiter says**, over exact times: a check is allowed when it is among the first of the client's window,
and otherwise it is told to wait. -/
theorem verdict_eq {max : Int} (hmax : maximum? spec.max = some max)
    (htimes : (checks.map Prod.snd ++ [now]).Pairwise (· ≤ ·)) (key : String) :
    let window := length spec.window
    let earlier := checkTimes key checks
    spec.verdict length checks key now =
      .ok (if admits max window earlier now then ⟨true, 0⟩
        else ⟨false, waitFor (timeLeft window earlier now)⟩) := by
  intro window earlier
  obtain ⟨l, hl, hreflects⟩ := @after_reflects length spec _ _ htimes
  obtain ⟨next, hcheck, -⟩ := @checkAt_reflects length spec _ _ _ hreflects key
  rw [RateLimitSpec.verdict, hl, hcheck, Limiter.judge, exceedsMax_eq hmax]
  simp only [ok_bind, admits, decide_eq_true_eq]
  by_cases hcount : ((tick window (counterAfter window earlier) now).count : Int) ≤ max
  · rw [if_neg (not_lt.mpr hcount), if_pos hcount]
    rfl
  · rw [if_pos (not_le.mp hcount), if_neg hcount, retryAfter_eq]
    rfl

end

end ServerTree
