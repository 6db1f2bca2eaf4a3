import ServerTree.Proofs.RateLimit.Histories

/-!
# How long a denied client waits

A denied request is told a number of seconds. A request that comes back after them should be let through. The number is
what remains of the window, with 999 thousandths added and then cut, so that it is rounded up unless the remainder is less
than a thousandth: then it falls short, by that remainder.

## Main definitions
- `FallsShort`: the remainders for which the wait is too short
- `RateLimitSpec.AllowsFrom`: the next check of a client is allowed from a time on

## Main statements
- `le_waitFor_iff`: when a wait is long enough
- `admits_concat_denied`: when a client that was denied is let through again
- `waits_are_honest_iff`: when the wait that a limiter tells is honest
-/

namespace ServerTree

/-! ## Rounding up -/

/-- More than a second, and less than a thousandth over whole seconds. -/
def FallsShort (left : ℚ) : Prop := 1 < left ∧ 0 < Int.fract left ∧ Int.fract left < 1 / 1000

theorem one_le_waitFor (left : ℚ) : 1 ≤ waitFor left := le_max_left _ _

/-- A wait is too short by less than a thousandth. -/
theorem lt_waitFor_add (left : ℚ) : left < waitFor left + 1 / 1000 := by
  have hfloor : left + 999 / 1000 < ⌊left + 999 / 1000⌋ + 1 := Int.lt_floor_add_one _
  have hwait : (⌊left + 999 / 1000⌋ : ℚ) ≤ waitFor left := by exact_mod_cast le_max_right 1 _
  linarith

/-- **A wait is long enough** unless what remains is barely more than whole seconds. -/
theorem le_waitFor_iff (left : ℚ) : left ≤ waitFor left ↔ ¬ FallsShort left := by
  have hone : (1 : ℚ) ≤ waitFor left := by exact_mod_cast one_le_waitFor left
  have hcut : (⌊left + 999 / 1000⌋ : ℚ) ≤ waitFor left := by exact_mod_cast le_max_right 1 _
  have hparts : (⌊left⌋ : ℚ) + Int.fract left = left := Int.floor_add_fract left
  constructor
  · rintro hle ⟨hsecond, hpositive, hsmall⟩
    -- nothing of the fraction is left when it is cut
    have hfloor : ⌊left + 999 / 1000⌋ = ⌊left⌋ := by
      rw [Int.floor_eq_iff]
      constructor <;> linarith
    have hwhole : 1 ≤ ⌊left⌋ := Int.le_floor.mpr (by exact_mod_cast hsecond.le)
    rw [waitFor, hfloor, max_eq_right hwhole] at hle
    linarith
  · intro hlong
    by_contra hshort
    have hsecond : 1 < left := by linarith
    have hnonneg : 0 ≤ Int.fract left := Int.fract_nonneg left
    rcases hnonneg.eq_or_lt with hzero | hpositive
    · -- whole seconds
      have hwhole : ⌊left⌋ ≤ ⌊left + 999 / 1000⌋ := Int.floor_le_floor (by linarith)
      have hwhole' : (⌊left⌋ : ℚ) ≤ ⌊left + 999 / 1000⌋ := by exact_mod_cast hwhole
      linarith
    · have hmost : 1 / 1000 ≤ Int.fract left := by
        by_contra hsmall
        exact hlong ⟨hsecond, hpositive, not_le.mp hsmall⟩
      have hnext : ⌊left⌋ + 1 ≤ ⌊left + 999 / 1000⌋ := by
        rw [Int.le_floor]
        push_cast
        linarith
      have hnext' : (⌊left⌋ : ℚ) + 1 ≤ ⌊left + 999 / 1000⌋ := by exact_mod_cast hnext
      have hfract : Int.fract left < 1 := Int.fract_lt_one left
      linarith

/-! ## Coming back -/

/-- **A client that was denied is let through again** when what then remained has passed: being denied opens no window
and keeps none open. -/
theorem admits_concat_denied {max : Int} {window now : ℚ} {earlier : List ℚ} (hmax : 1 ≤ max)
    (hdenied : admits max window earlier now = false) (later : ℚ) :
    admits max window (earlier ++ [now]) later = decide (timeLeft window earlier now ≤ later - now) := by
  rw [admits, decide_eq_false_iff_not, not_le] at hdenied
  rw [admits, counterAfter_concat, decide_eq_decide, timeLeft]
  generalize tick window (counterAfter window earlier) now = w at hdenied ⊢
  have hover : window ≤ later - w.start ↔ w.start + window - now ≤ later - now := by
    constructor <;> intro h <;> linarith
  rw [← hover, tick]
  by_cases hended : window ≤ later - w.start
  · simpa [hended] using hmax
  · simp only [hended, if_false, Nat.cast_add, Nat.cast_one, iff_false, not_le]
    omega

section

variable (length : Value → ℚ) (spec : RateLimitSpec Value)

/-- After certain checks, the next check of a client is allowed if it comes at a certain time or later, whichever others
are checked in between. -/
def RateLimitSpec.AllowsFrom (checks : List (String × ℚ)) (key : String) (since : ℚ) : Prop :=
  ∀ (others : List (String × ℚ)) (later : ℚ), (∀ check ∈ others, check.1 ≠ key) →
    ((checks ++ others).map Prod.snd ++ [later]).Pairwise (· ≤ ·) → since ≤ later →
    spec.verdict length (checks ++ others) key later = .ok ⟨true, 0⟩

variable {length spec} {max : Int} {checks : List (String × ℚ)} {key : String} {now : ℚ} {seconds : Int}

/-- What it means that a limiter allows a check. -/
theorem verdict_allowed (hmax : maximum? spec.max = some max)
    (htimes : (checks.map Prod.snd ++ [now]).Pairwise (· ≤ ·)) :
    spec.verdict length checks key now = .ok ⟨true, 0⟩ ↔
      admits max (length spec.window) (checkTimes key checks) now = true := by
  rw [verdict_eq hmax htimes]
  by_cases hlet : admits max (length spec.window) (checkTimes key checks) now
  · simp [hlet]
  · simp [hlet]

/-- What it means that a limiter denies a check. -/
theorem verdict_denied (hmax : maximum? spec.max = some max)
    (htimes : (checks.map Prod.snd ++ [now]).Pairwise (· ≤ ·)) :
    spec.verdict length checks key now = .ok ⟨false, seconds⟩ ↔
      admits max (length spec.window) (checkTimes key checks) now = false ∧
        seconds = waitFor (timeLeft (length spec.window) (checkTimes key checks) now) := by
  rw [verdict_eq hmax htimes]
  by_cases hlet : admits max (length spec.window) (checkTimes key checks) now
  · simp [hlet]
  · simp [hlet, eq_comm]

/-- After a denied check, the next check of the client is allowed from a time on exactly when what remained has passed by
then. -/
theorem allowsFrom_iff (hmax : maximum? spec.max = some max) (hone : 1 ≤ max)
    (htimes : (checks.map Prod.snd ++ [now]).Pairwise (· ≤ ·))
    (hdenied : admits max (length spec.window) (checkTimes key checks) now = false) {since : ℚ}
    (hsince : now ≤ since) :
    spec.AllowsFrom length (checks ++ [(key, now)]) key since ↔
      timeLeft (length spec.window) (checkTimes key checks) now ≤ since - now := by
  have hnext : ∀ (others : List (String × ℚ)) (later : ℚ), (∀ check ∈ others, check.1 ≠ key) →
      ((checks ++ [(key, now)] ++ others).map Prod.snd ++ [later]).Pairwise (· ≤ ·) →
      (spec.verdict length (checks ++ [(key, now)] ++ others) key later = .ok ⟨true, 0⟩ ↔
        timeLeft (length spec.window) (checkTimes key checks) now ≤ later - now) := by
    intro others later hothers hlater
    have hseen : checkTimes key (checks ++ [(key, now)] ++ others) = checkTimes key checks ++ [now] := by
      simp [checkTimes_eq_nil key others hothers]
    rw [verdict_allowed hmax hlater, hseen, admits_concat_denied hone hdenied, decide_eq_true_eq]
  constructor
  · intro hallows
    have hthen : ((checks ++ [(key, now)] ++ []).map Prod.snd ++ [since]).Pairwise (· ≤ ·) := by
      rw [List.append_nil, List.map_append]
      refine List.pairwise_append.mpr ⟨htimes, List.pairwise_singleton _ _, ?_⟩
      intro before hbefore after hafter
      obtain rfl := List.mem_singleton.mp hafter
      rcases List.mem_append.mp hbefore with hbefore | hbefore
      · exact le_trans ((List.pairwise_append.mp htimes).2.2 before hbefore now (by simp)) hsince
      · obtain rfl := List.mem_singleton.mp hbefore
        exact hsince
    exact (hnext [] since (by simp) hthen).mp (hallows [] since (by simp) hthen le_rfl)
  · intro hpassed others later hothers hlater hle
    exact (hnext others later hothers hlater).mpr (by linarith)

/-- **When a wait is honest.** For every limiter that lets at least one request through, every history of checks and every
check that is denied: it is told to wait for at least a second. A client that comes back after that wait, or any time
later, is let through unless what remained of its window was more than a second and less than a thousandth over whole
seconds, and a thousandth of a second more is always enough. -/
theorem waits_are_honest_iff (hmax : maximum? spec.max = some max) (hone : 1 ≤ max)
    (htimes : (checks.map Prod.snd ++ [now]).Pairwise (· ≤ ·))
    (hdenied : spec.verdict length checks key now = .ok ⟨false, seconds⟩) :
    1 ≤ seconds ∧
      (spec.AllowsFrom length (checks ++ [(key, now)]) key (now + seconds) ↔
        ¬ FallsShort (timeLeft (length spec.window) (checkTimes key checks) now)) ∧
      spec.AllowsFrom length (checks ++ [(key, now)]) key (now + seconds + 1 / 1000) := by
  obtain ⟨hfull, rfl⟩ := (verdict_denied hmax htimes).mp hdenied
  have hwait : (1 : ℚ) ≤ waitFor (timeLeft (length spec.window) (checkTimes key checks) now) := by
    exact_mod_cast one_le_waitFor _
  refine ⟨one_le_waitFor _, ?_, ?_⟩
  · rw [allowsFrom_iff hmax hone htimes hfull (by linarith), add_sub_cancel_left, le_waitFor_iff]
  · rw [allowsFrom_iff hmax hone htimes hfull (by linarith)]
    have hlt := lt_waitFor_add (timeLeft (length spec.window) (checkTimes key checks) now)
    linarith

end

/-- One request in ten seconds: a client that is denied after four of them is told to wait for six, and is then let
through. -/
theorem waits_are_honest_iff_ten :
    let spec : RateLimitSpec Value := ⟨.int 1, .int 10, .none⟩
    let length : Value → ℚ := fun _ => 10
    spec.verdict length [("ada", (0 : ℚ))] "ada" (4 : ℚ) = .ok ⟨false, 6⟩ ∧
      spec.AllowsFrom length [("ada", 0), ("ada", 4)] "ada" 10 := by
  intro spec length
  have htimes : ([("ada", (0 : ℚ))].map Prod.snd ++ [(4 : ℚ)]).Pairwise (· ≤ ·) := by norm_num
  have hleft : timeLeft (length spec.window) (checkTimes "ada" [("ada", (0 : ℚ))]) 4 = 6 := by decide +kernel
  have hdenied : spec.verdict length [("ada", (0 : ℚ))] "ada" (4 : ℚ) = .ok ⟨false, 6⟩ :=
    (verdict_denied rfl htimes).mpr ⟨by decide +kernel, by rw [hleft]; decide +kernel⟩
  have hhonest := (waits_are_honest_iff rfl le_rfl htimes hdenied).2.1.mpr
  rw [hleft] at hhonest
  have hsince := hhonest fun hshort => by simpa using hshort.2.1
  norm_num at hsince
  exact ⟨hdenied, hsince⟩

/-- One request in a little more than a second: a client that is denied at once is told to wait for a second, and is
denied again when it comes back after that. -/
theorem denied_after_wait :
    let spec : RateLimitSpec Value := ⟨.int 1, .int 1, .none⟩
    let length : Value → ℚ := fun _ => 2049 / 2048
    spec.verdict length [("ada", (0 : ℚ))] "ada" (0 : ℚ) = .ok ⟨false, 1⟩ ∧
      spec.verdict length [("ada", (0 : ℚ)), ("ada", 0)] "ada" (1 : ℚ) = .ok ⟨false, 1⟩ := by
  intro spec length
  constructor
  · exact (verdict_denied rfl (by norm_num)).mpr ⟨by decide +kernel, by decide +kernel⟩
  · exact (verdict_denied rfl (by norm_num)).mpr ⟨by decide +kernel, by decide +kernel⟩

end ServerTree
