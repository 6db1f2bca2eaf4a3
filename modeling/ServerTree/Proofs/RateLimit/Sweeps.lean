import Mathlib.Data.List.Chain
import ServerTree.Proofs.RateLimit.Histories

/-!
# Sweeps

A check that comes at least a window after the last sweep drops every window that is over. This keeps a limiter small
however many clients there are: after a check it holds nothing that began two windows before. And it is safe: a window
that is still open is never dropped.

## Main definitions
- `Limiter.sweeps`, `Limiter.afterSweep`: whether a check sweeps, and what is left
- `Limiter.SweptAt`: a limiter that was last swept at a certain time, less than a window ago
- `RateLimitSpec.sweepTimes`: when a limiter was swept in the course of a history

## Main statements
- `checkAt_sweptAt`: what a check does to the time of the last sweep and to the age of the windows
- `after_momentary`: what is stored when windows have no length
- `counterAfter_append_of_open`: a window that is open keeps its beginning and counts on
- `sweeping_invariant`: what holds after every history of checks
-/

namespace ServerTree

namespace Limiter

variable {κ : Type} {window before now last : ℚ} {l : Limiter κ ℚ}

/-! ## One sweep -/

/-- Whether a check sweeps: a window has passed since the last sweep, or there was none. -/
def sweeps (window now : ℚ) (l : Limiter κ ℚ) : Bool := l.swept.all fun last => decide (window ≤ now - last)

/-- What a check leaves before it counts. -/
def afterSweep (window now : ℚ) (l : Limiter κ ℚ) : Limiter κ ℚ :=
  if l.sweeps window now then ⟨l.clients.filter fun e => decide (now - e.2.start < window), some now⟩ else l

theorem sweepDue_eq (window now : ℚ) (l : Limiter κ ℚ) : l.sweepDue window now = .ok (l.sweeps window now) := by
  rw [sweepDue, sweeps]
  cases l.swept with
  | none => rfl
  | some last => rfl

theorem sweep_eq (window now : ℚ) (l : Limiter κ ℚ) : l.sweep window now = .ok (l.afterSweep window now) := by
  rw [sweep, sweepDue_eq, current_eq, afterSweep]
  cases l.sweeps window now <;> rfl

theorem nextCount_eq_tick (window now : ℚ) (w : Option (WindowCount ℚ)) :
    nextCount window now w = .ok (tick window w now) := by
  cases w with
  | none => rfl
  | some w =>
    rw [tick]
    show Except.ok (if decide (window ≤ now - w.start) = true then _ else _) = _
    simp only [decide_eq_true_eq]

/-- A limiter that was last swept at a certain time, less than a window ago. The windows that it holds were open at
that time, or have begun since. -/
structure SweptAt (window now last : ℚ) (l : Limiter κ ℚ) : Prop where
  swept : l.swept = some last
  le_now : last ≤ now
  recent : now - last < window
  begun : ∀ e ∈ l.clients, last - e.2.start < window

/-- What a limiter holds began less than two windows ago. -/
theorem SweptAt.young (h : l.SweptAt window now last) : ∀ e ∈ l.clients, now - e.2.start < 2 * window := by
  intro e he
  have hbegun := h.begun e he
  have hrecent := h.recent
  linarith

/-- The sweep of a check leaves a limiter that was swept less than a window ago: at this very check, or at the sweep
before it. -/
theorem SweptAt.afterSweep (hwindow : 0 < window) (h : ∀ last, l.swept = some last → l.SweptAt window before last)
    (hle : before ≤ now) : ∃ last, (l.afterSweep window now).SweptAt window now last := by
  rw [Limiter.afterSweep]
  by_cases hsweeps : l.sweeps window now = true
  · rw [if_pos hsweeps]
    refine ⟨now, rfl, le_rfl, by linarith, ?_⟩
    intro e he
    simpa using (List.mem_filter.mp he).2
  · rw [if_neg hsweeps]
    -- a check that does not sweep comes less than a window after the last sweep
    obtain ⟨last, hlast⟩ : ∃ last, l.swept = some last := by
      cases hswept : l.swept with
      | none => simp [sweeps, hswept] at hsweeps
      | some last => exact ⟨last, rfl⟩
    have hrecent : now - last < window := by simpa [sweeps, hlast] using hsweeps
    have hbefore := h last hlast
    exact ⟨last, hlast, le_trans hbefore.le_now hle, hrecent, hbefore.begun⟩

/-- Counting a request of a client keeps the beginnings of windows, or lets one begin now. -/
theorem SweptAt.count [BEq κ] (hwindow : 0 < window) (h : l.SweptAt window now last) (key : κ) :
    SweptAt window now last
      { l with clients := Assoc.set key (tick window (Assoc.get? key l.clients) now) l.clients } := by
  refine ⟨h.swept, h.le_now, h.recent, ?_⟩
  have hnow : last - now < window := by
    have hle := h.le_now
    linarith
  have hold : ∀ w ∈ l.clients.map Prod.snd, last - w.start < window := by
    intro w hw
    obtain ⟨e, he, rfl⟩ := List.mem_map.mp hw
    exact h.begun e he
  intro e he
  rcases (Assoc.mem_set he).2 with hcounted | hkept
  · -- the window that counts the request begins now, or is the one that the client had
    rw [hcounted]
    cases hget : Assoc.get? key l.clients with
    | none => exact hnow
    | some w =>
      rw [tick]
      split
      · exact hnow
      · exact hold w (Assoc.snd_mem_of_get? hget)
  · exact hold e.2 hkept

end Limiter

/-! ## Histories -/

section

variable {length : Value → ℚ} {spec : RateLimitSpec Value} {checks : List (String × ℚ)} {key : String}
  {before now last : ℚ} {l : Limiter Value ℚ}

/-- What a check leaves, whatever it says. -/
theorem snd_checkAt (now : ℚ) (key : String) (l : Limiter Value ℚ) :
    let swept := l.afterSweep (length spec.window) now
    (spec.checkAt length now (.str key) l).2 =
      { swept with
        clients := Assoc.set (.str key)
          (tick (length spec.window) (Assoc.get? (.str key) swept.clients) now) swept.clients } := by
  intro swept
  rw [RateLimitSpec.checkAt, Limiter.sweep_eq]
  simp only [Limiter.count, Limiter.nextCount_eq_tick, ok_bind]
  rfl

/-- **Step lemma**: after a check a limiter was swept less than a window ago, and what it holds was open at that
sweep. -/
theorem checkAt_sweptAt (hwindow : 0 < length spec.window) (hle : before ≤ now)
    (h : ∀ last, l.swept = some last → l.SweptAt (length spec.window) before last) (key : String) :
    ∃ last, (spec.checkAt length now (.str key) l).2.SweptAt (length spec.window) now last := by
  obtain ⟨last, hswept⟩ := Limiter.SweptAt.afterSweep hwindow h hle
  refine ⟨last, ?_⟩
  rw [snd_checkAt]
  exact hswept.count hwindow (.str key)

/-- **Run lemma**: it is so after every history of checks. The induction is on the checks, from the last one. -/
theorem after_sweptAt (hwindow : 0 < length spec.window)
    (htimes : (checks.map Prod.snd ++ [now]).Pairwise (· ≤ ·)) (key : String) :
    ∃ last, (spec.after length (checks ++ [(key, now)])).SweptAt (length spec.window) now last := by
  induction checks using List.reverseRecOn generalizing key now with
  | nil =>
    -- the first check sweeps, since nothing was swept before
    have hnever : ∀ last, ({} : Limiter Value ℚ).swept = some last →
        ({} : Limiter Value ℚ).SweptAt (length spec.window) now last := nofun
    exact checkAt_sweptAt hwindow le_rfl hnever key
  | append_singleton checks check ih =>
    obtain ⟨client, before⟩ := check
    rw [List.map_append] at htimes
    obtain ⟨hearlier, -, hlast⟩ := List.pairwise_append.mp htimes
    have hle : before ≤ now := hlast before (by simp) now (by simp)
    obtain ⟨last, hswept⟩ := ih hearlier client
    rw [after_concat]
    apply checkAt_sweptAt hwindow hle _ key
    intro last' hlast'
    obtain rfl : last = last' := Option.some.inj (hswept.swept.symm.trans hlast')
    exact hswept

/-! ### Windows without length -/

/-- A window without length is over at once: a check sweeps, and finds nothing that it keeps. -/
theorem checkAt_momentary (hwindow : length spec.window ≤ 0) (hle : before ≤ now)
    (hclients : ∀ e ∈ l.clients, e.2.start = before) (hswept : ∀ last, l.swept = some last → last = before) (key : String) :
    (spec.checkAt length now (.str key) l).2 = ⟨[(.str key, ⟨1, now⟩)], some now⟩ := by
  have hsweeps : l.sweeps (length spec.window) now = true := by
    cases hlast : l.swept with
    | none => simp [Limiter.sweeps, hlast]
    | some last =>
      have hsince : length spec.window ≤ now - last := by
        rw [hswept last hlast]
        linarith
      simpa [Limiter.sweeps, hlast] using hsince
  have hover : (l.clients.filter fun e => decide (now - e.2.start < length spec.window)) = [] := by
    rw [List.filter_eq_nil_iff]
    intro e he
    have hsince : length spec.window ≤ now - e.2.start := by
      rw [hclients e he]
      linarith
    simpa using hsince
  rw [snd_checkAt, Limiter.afterSweep, if_pos hsweeps, hover]
  rfl

/-- After every history a limiter of windows without length holds the last check alone. -/
theorem after_momentary (hwindow : length spec.window ≤ 0)
    (htimes : (checks.map Prod.snd ++ [now]).Pairwise (· ≤ ·)) (key : String) :
    spec.after length (checks ++ [(key, now)]) = ⟨[(.str key, ⟨1, now⟩)], some now⟩ := by
  induction checks using List.reverseRecOn generalizing key now with
  | nil =>
    have hempty : ∀ e ∈ ({} : Limiter Value ℚ).clients, e.2.start = now := nofun
    have hnever : ∀ last, ({} : Limiter Value ℚ).swept = some last → last = now := nofun
    exact checkAt_momentary hwindow le_rfl hempty hnever key
  | append_singleton checks check ih =>
    obtain ⟨client, before⟩ := check
    rw [List.map_append] at htimes
    obtain ⟨hearlier, -, hlast⟩ := List.pairwise_append.mp htimes
    have hle : before ≤ now := hlast before (by simp) now (by simp)
    rw [after_concat, ih hearlier client]
    apply checkAt_momentary hwindow hle <;> simp

/-! ### When a limiter was swept -/

/-- The times at which checks sweep a limiter. -/
def RateLimitSpec.sweepTimesFrom (length : Value → ℚ) (spec : RateLimitSpec Value) :
    Limiter Value ℚ → List (String × ℚ) → List ℚ
  | _, [] => []
  | l, (key, now) :: checks =>
    (if l.sweeps (length spec.window) now then [now] else []) ++
      spec.sweepTimesFrom length (spec.checkAt length now (.str key) l).2 checks

/-- The times at which a new limiter was swept in the course of checks. -/
def RateLimitSpec.sweepTimes (length : Value → ℚ) (spec : RateLimitSpec Value) (checks : List (String × ℚ)) :
    List ℚ := spec.sweepTimesFrom length {} checks

theorem sweepTimesFrom_concat (l : Limiter Value ℚ) (checks : List (String × ℚ)) (key : String) (now : ℚ) :
    spec.sweepTimesFrom length l (checks ++ [(key, now)]) = spec.sweepTimesFrom length l checks ++
      if (checks.foldl (fun l check => (spec.checkAt length check.2 (.str check.1) l).2) l).sweeps
        (length spec.window) now then [now] else [] := by
  induction checks generalizing l with
  | nil =>
    rw [List.nil_append, RateLimitSpec.sweepTimesFrom, RateLimitSpec.sweepTimesFrom]
    exact List.append_nil _
  | cons check checks ih =>
    rw [List.cons_append, RateLimitSpec.sweepTimesFrom, ih, ← List.append_assoc]
    rfl

theorem sweepTimes_concat (checks : List (String × ℚ)) (key : String) (now : ℚ) :
    spec.sweepTimes length (checks ++ [(key, now)]) = spec.sweepTimes length checks ++
      if (spec.after length checks).sweeps (length spec.window) now then [now] else [] :=
  sweepTimesFrom_concat {} checks key now

/-- The sweep that a limiter remembers is the last one. -/
theorem swept_after (checks : List (String × ℚ)) :
    (spec.after length checks).swept = (spec.sweepTimes length checks).getLast? := by
  induction checks using List.reverseRecOn with
  | nil => rfl
  | append_singleton checks check ih =>
    obtain ⟨key, now⟩ := check
    rw [after_concat, snd_checkAt, sweepTimes_concat, Limiter.afterSweep]
    by_cases hsweeps : (spec.after length checks).sweeps (length spec.window) now
    · simp [hsweeps]
    · simpa [hsweeps] using ih

/-- Between two sweeps in a row lies at least a window. -/
theorem isChain_sweepTimes (checks : List (String × ℚ)) :
    (spec.sweepTimes length checks).IsChain fun earlier later => length spec.window ≤ later - earlier := by
  induction checks using List.reverseRecOn with
  | nil => exact List.IsChain.nil
  | append_singleton checks check ih =>
    obtain ⟨key, now⟩ := check
    rw [sweepTimes_concat]
    split
    · next hsweeps =>
      refine List.isChain_append.mpr ⟨ih, List.isChain_singleton _, ?_⟩
      intro last hlast now' hnow'
      obtain rfl : now = now' := by simpa using hnow'
      -- the check is measured against the sweep that is remembered, which is the last one
      have hremembered : (spec.after length checks).swept = some last := (swept_after checks).trans hlast
      simpa [Limiter.sweeps, hremembered] using hsweeps
    · simpa using ih

/-! ### Windows that are open -/

/-- A window that is open until the end keeps its beginning, and counts every request. -/
theorem counterAfter_append_of_open {window now : ℚ} {w : WindowCount ℚ} {earlier later : List ℚ}
    (h : counterAfter window earlier = some w) (hlater : ∀ time ∈ later, time ≤ now) (hopen : now - w.start < window) :
    counterAfter window (earlier ++ later) = some ⟨w.count + later.length, w.start⟩ := by
  induction later using List.reverseRecOn with
  | nil => simpa using h
  | append_singleton later time ih =>
    have hbefore := ih fun time' htime' => hlater time' (List.mem_append_left _ htime')
    -- the request comes before the window is over
    have hle : time ≤ now := hlater time (by simp)
    have hopen' : ¬ window ≤ time - w.start := by
      intro hover
      linarith
    rw [← List.append_assoc, counterAfter_concat, hbefore, tick, if_neg hopen']
    simp [Nat.add_assoc]

/-- What is found under a text. -/
theorem get?_texts (key : String) (l : Limiter String ℚ) :
    Assoc.get? (.str key) l.texts.clients = Assoc.get? key l.clients :=
  Assoc.get?_map Value.beq_str key l.clients

/-- A window that was stored and is still open is stored, with the requests that were counted since. -/
theorem get?_after_of_open {earlier later : List (String × ℚ)}
    (htimes : ((earlier ++ later).map Prod.snd ++ [now]).Pairwise (· ≤ ·)) {w : WindowCount ℚ}
    (hstored : Assoc.get? (.str key) (spec.after length earlier).clients = some w)
    (hopen : now - w.start < length spec.window) :
    Assoc.get? (.str key) (spec.after length (earlier ++ later)).clients =
      some ⟨w.count + (checkTimes key later).length, w.start⟩ := by
  have hnow : ∀ check ∈ earlier ++ later, check.2 ≤ now := by
    intro check hcheck
    exact (List.pairwise_append.mp htimes).2.2 check.2 (List.mem_map_of_mem hcheck) now (by simp)
  have hearlier : (earlier.map Prod.snd ++ [now]).Pairwise (· ≤ ·) := by
    apply List.Pairwise.sublist _ htimes
    rw [List.map_append, List.append_assoc]
    exact (List.sublist_append_right _ _).append_left _
  obtain ⟨l, hl, hreflects⟩ := @after_reflects length spec _ _ hearlier
  obtain ⟨l', hl', hreflects'⟩ := @after_reflects length spec _ _ htimes
  rw [hl, get?_texts] at hstored
  rw [hl', get?_texts]
  -- the counter of the client goes on in this window
  have hlater : ∀ time ∈ checkTimes key later, time ≤ now := by
    intro time htime
    obtain ⟨check, hcheck, rfl⟩ := List.mem_map.mp htime
    exact hnow check (List.mem_append_right _ (List.mem_filter.mp hcheck).1)
  have hcounter : counterAfter (length spec.window) (checkTimes key (earlier ++ later)) =
      some ⟨w.count + (checkTimes key later).length, w.start⟩ := by
    rw [checkTimes_append]
    exact counterAfter_append_of_open (hreflects.stored key w hstored) hlater hopen
  cases hget : Assoc.get? key l'.clients with
  | none =>
    -- what is dropped is over
    have hover := hreflects'.dropped key _ hget hcounter
    exact absurd hopen (not_lt.mpr hover)
  | some w' => rw [← hcounter, hreflects'.stored key w' hget]

end

/-- **What sweeping keeps true.** After every history of checks at times that do not decrease, whatever the clients:

* if windows have a length, then whatever is stored began less than two windows before the last check, and the last
  sweep is less than a window before it; if they have none, both are of the last check itself;
* the sweep that is remembered is the last one, and from each sweep to the next it is at least a window;
* a window that was stored at any time and is open at the last check is stored, and has counted every request since. -/
theorem sweeping_invariant {length : Value → ℚ} {spec : RateLimitSpec Value} {checks : List (String × ℚ)} {key : String}
    {now : ℚ} (htimes : (checks.map Prod.snd ++ [now]).Pairwise (· ≤ ·)) :
    let window := length spec.window
    let history := checks ++ [(key, now)]
    let l := spec.after length history
    (0 < window → (∀ e ∈ l.clients, now - e.2.start < 2 * window) ∧ ∃ last, l.swept = some last ∧ now - last < window) ∧
      (window ≤ 0 → l.clients = [(.str key, ⟨1, now⟩)] ∧ l.swept = some now) ∧
      (l.swept = (spec.sweepTimes length history).getLast? ∧
        (spec.sweepTimes length history).IsChain fun earlier later => window ≤ later - earlier) ∧
      ∀ earlier later client w, earlier ++ later = history →
        Assoc.get? (.str client) (spec.after length earlier).clients = some w → now - w.start < window →
          Assoc.get? (.str client) l.clients = some ⟨w.count + (checkTimes client later).length, w.start⟩ := by
  intro window history l
  refine ⟨?_, ?_, ⟨swept_after history, isChain_sweepTimes history⟩, ?_⟩
  · intro hwindow
    obtain ⟨last, hswept⟩ := @after_sweptAt length spec _ _ hwindow htimes key
    exact ⟨hswept.young, last, hswept.swept, hswept.recent⟩
  · intro hwindow
    have hlast : l = ⟨[(.str key, ⟨1, now⟩)], some now⟩ := after_momentary hwindow htimes key
    rw [hlast]
    exact ⟨rfl, rfl⟩
  · intro earlier later client w hhistory hstored hopen
    -- the last check comes at the time at which the window is open
    have htimes' : ((earlier ++ later).map Prod.snd ++ [now]).Pairwise (· ≤ ·) := by
      rw [hhistory, List.map_append]
      refine List.pairwise_append.mpr ⟨htimes, List.pairwise_singleton _ _, ?_⟩
      intro time htime now' hnow'
      obtain rfl := List.mem_singleton.mp hnow'
      rcases List.mem_append.mp htime with hbefore | hlast
      · exact (List.pairwise_append.mp htimes).2.2 time hbefore _ (by simp)
      · exact le_of_eq (by simpa using hlast)
    have hsame : spec.after length (earlier ++ later) = l := congrArg _ hhistory
    rw [← hsame]
    exact get?_after_of_open htimes' hstored hopen

/-- Three clients with windows of ten seconds: the check of the third sweeps the first away, whose window is over, and
leaves the second. -/
theorem sweeping_invariant_three :
    let spec : RateLimitSpec Value := ⟨.int 1, .int 10, .none⟩
    let length : Value → ℚ := fun _ => 10
    let l := spec.after length [("ada", (0 : ℚ)), ("grace", 8), ("edsger", 11)]
    Assoc.get? (.str "ada") l.clients = none ∧ Assoc.get? (.str "grace") l.clients = some ⟨1, 8⟩ ∧
      (∀ e ∈ l.clients, 11 - e.2.start < 2 * 10) ∧ ∃ last, l.swept = some last ∧ 11 - last < 10 := by
  intro spec length l
  have htimes : ([("ada", (0 : ℚ)), ("grace", 8)].map Prod.snd ++ [(11 : ℚ)]).Pairwise (· ≤ ·) := by norm_num
  have hinvariant := @sweeping_invariant length spec [("ada", (0 : ℚ)), ("grace", 8)] "edsger" 11 htimes
  refine ⟨by decide +kernel, ?_, hinvariant.1 (by norm_num [length])⟩
  -- the window of the second client was stored at its check, and is open at the last one
  exact hinvariant.2.2.2 [("ada", 0), ("grace", 8)] [("edsger", 11)] "grace" ⟨1, 8⟩ rfl (by decide +kernel)
    (by norm_num [length])

/-- A window without length is stored by the check that it begins with, although it is over by then: at the first check of
a limiter with such windows, what is stored is no younger than two windows. -/
theorem momentary_window_is_stored :
    ¬ ∀ (length : Value → ℚ) (spec : RateLimitSpec Value) (checks : List (String × ℚ)) (key : String) (now : ℚ),
      (checks.map Prod.snd ++ [now]).Pairwise (· ≤ ·) →
        (∀ e ∈ (spec.after length (checks ++ [(key, now)])).clients, now - e.2.start < 2 * length spec.window) ∧
          ∃ last, (spec.after length (checks ++ [(key, now)])).swept = some last ∧ now - last < length spec.window := by
  intro hall
  let spec : RateLimitSpec Value := ⟨.int 1, .int 0, .none⟩
  let length : Value → ℚ := fun _ => 0
  have hstored : spec.after length ([] ++ [("ada", (0 : ℚ))]) = ⟨[(.str "ada", ⟨1, 0⟩)], some 0⟩ :=
    @after_momentary length spec [] 0 le_rfl (List.pairwise_singleton _ _) "ada"
  obtain ⟨hyoung, -⟩ := hall length spec [] "ada" 0 (List.pairwise_singleton _ _)
  rw [hstored] at hyoung
  have hlate : (0 : ℚ) - 0 < 2 * 0 := hyoung _ (List.mem_singleton_self _)
  norm_num at hlate

end ServerTree
