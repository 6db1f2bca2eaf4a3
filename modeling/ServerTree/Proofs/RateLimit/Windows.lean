import ServerTree.App.Boot
import ServerTree.Proofs.Returns
import ServerTree.Proofs.RateLimit.Histories

/-!
# Windows that are accepted

A window is read when an application is built and counted with when it serves. Whatever is positive is accepted, and
with it infinity and what is no number, which are compared without complaint and fail once the seconds that remain are to
be told. With any other window every check has an answer.

## Main definitions
- `Extent`: a length of time as a double has it
- `RateLimitSpec.Answers`: every check of every history is answered
- `Value.isBeyondDoubles`: integers that are too large for a double

## Main statements
- `answers_of_isFinite`: a limiter with a finite window answers every check
- `verdict_of_endless`: what one with a window that never ends says
- `parseWindow_error`: how windows are refused
- `windows_work_iff`: which windows work, and what happens with the others
-/

namespace ServerTree

/-! ## Lengths of time as doubles have them -/

/-- A length of time as a double has it: exact seconds, an infinity, or no number. -/
inductive Extent where
  | finite (seconds : ℚ)
  | infinite (negative : Bool)
  | undefined
deriving DecidableEq

namespace Extent

/-- An extent of so many seconds. -/
def IsFinite (e : Extent) : Prop := ∃ seconds, e = finite seconds

/-- An extent that no seconds reach. -/
def Endless (e : Extent) : Prop := e = infinite false ∨ e = undefined

/-- Whether seconds are at least an extent. -/
def atMost (e : Extent) (t : ℚ) : Bool :=
  match e with
  | finite seconds => decide (seconds ≤ t)
  | infinite negative => negative
  | undefined => false

/-- Whether seconds are less than an extent. -/
def above (e : Extent) (t : ℚ) : Bool :=
  match e with
  | finite seconds => decide (t < seconds)
  | infinite negative => !negative
  | undefined => false

/-- Why an extent has no whole seconds. -/
def refusal : Extent → Refusal
  | undefined => .notANumber
  | _ => .notFinite "cannot convert float infinity to integer"

/-- The value of a double that is finite. -/
def exact (x : Float) : ℚ :=
  match Decimal.Binary.ofBits? x.toBits.toNat with
  | none => 0
  | some (negative, b) => (if negative then -(b.value.1 : ℚ) else b.value.1) / b.value.2

/-- The length of time that a double stands for. -/
def ofFloat (x : Float) : Extent :=
  if x.isNaN then undefined
  else if x.isInf then infinite (decide (x ≤ 0.0))
  else finite (exact x)

end Extent

/-- Exact times, and windows as doubles have them: what is no number compares with nothing. -/
instance : TimeScale ℚ Extent where
  sub := (· - ·)
  reaches t window := .ok (window.atMost t)
  within t window := .ok (window.above t)
  passed window _ := .ok (decide (window ≠ .undefined))
  remaining window start now :=
    match window with
    | .finite seconds => TimeScale.remaining seconds start now
    | window => refuse window.refusal

/-- The length of time of a number. -/
def Value.extent : Value → Extent
  | .int n => .finite n
  | .bool b => .finite (if b then 1 else 0)
  | .float x => .ofFloat x
  | _ => .undefined

/-! ## Windows of so many seconds -/

section

variable {κ : Type} (seconds now : ℚ)

theorem sweepDue_finite (l : Limiter κ ℚ) : l.sweepDue (Extent.finite seconds) now = l.sweepDue seconds now := by
  rw [Limiter.sweepDue, Limiter.sweepDue]
  cases l.swept with
  | none => rfl
  | some s => rfl

theorem current_finite (clients : List (κ × WindowCount ℚ)) :
    Limiter.current (Extent.finite seconds) now clients = Limiter.current seconds now clients := by
  induction clients with
  | nil => rfl
  | cons e clients ih =>
    rw [Limiter.current, Limiter.current, ih]
    rfl

theorem nextCount_finite (w : Option (WindowCount ℚ)) :
    Limiter.nextCount (Extent.finite seconds) now w = Limiter.nextCount seconds now w := by
  cases w with
  | none => rfl
  | some w => rfl

end

section

variable {length : Value → Extent} {spec : RateLimitSpec Value} {seconds : ℚ}

/-- With a window of so many seconds a check is one over exact windows. -/
theorem checkAt_finite (hwindow : length spec.window = .finite seconds) (now : ℚ) (key : Value)
    (l : Limiter Value ℚ) :
    spec.checkAt length now key l = spec.checkAt (fun _ => seconds) now key l := by
  have hsweep : l.sweep (Extent.finite seconds) now = l.sweep seconds now := by
    rw [Limiter.sweep, Limiter.sweep, sweepDue_finite, current_finite]
  have hcount : ∀ (l : Limiter Value ℚ) (k : Value),
      l.count (Extent.finite seconds) now k = l.count seconds now k := by
    intro l k
    rw [Limiter.count, Limiter.count, nextCount_finite]
  rw [RateLimitSpec.checkAt, RateLimitSpec.checkAt, hwindow, hsweep]
  simp only [hcount]
  rfl

theorem verdict_finite (hwindow : length spec.window = .finite seconds) (checks : List (String × ℚ)) (key : String)
    (now : ℚ) : spec.verdict length checks key now = spec.verdict (fun _ => seconds) checks key now := by
  have hafter : spec.after length checks = spec.after (fun _ => seconds) checks := by
    simp only [RateLimitSpec.after, checkAt_finite hwindow]
  rw [RateLimitSpec.verdict, RateLimitSpec.verdict, hafter, checkAt_finite hwindow]

end

/-- A verdict that can be told: yes, or no with a wait of at least a second. -/
def Limiter.Verdict.IsAnswer (verdict : Limiter.Verdict) : Prop :=
  verdict = ⟨true, 0⟩ ∨ ∃ seconds : Int, 1 ≤ seconds ∧ verdict = ⟨false, seconds⟩

/-- Every check is answered, after all checks at times that do not decrease. -/
def RateLimitSpec.Answers (spec : RateLimitSpec Value) : Prop :=
  ∀ (checks : List (String × ℚ)) (key : String) (now : ℚ), (checks.map Prod.snd ++ [now]).Pairwise (· ≤ ·) →
    ∃ verdict, spec.verdict Value.extent checks key now = .ok verdict ∧ verdict.IsAnswer

section

variable {spec : RateLimitSpec Value} {max : Int}

/-- **A limiter with a finite window answers every check.** -/
theorem answers_of_isFinite (hmax : maximum? spec.max = some max) (hwindow : spec.window.extent.IsFinite) :
    spec.Answers := by
  intro checks key now htimes
  obtain ⟨seconds, hseconds⟩ := hwindow
  refine ⟨_, (verdict_finite hseconds checks key now).trans (verdict_eq hmax htimes key), ?_⟩
  split
  · exact .inl rfl
  · exact .inr ⟨_, le_max_left _ _, rfl⟩

/-! ## Windows without an end -/

/-- A limiter has counted all checks of its clients. -/
def Limiter.Tallies (seen : String → List ℚ) (l : Limiter String ℚ) : Prop :=
  ∀ k, ((Assoc.get? k l.clients).map WindowCount.count).getD 0 = (seen k).length

/-- Nothing is swept when no window ends. -/
theorem sweep_endless {κ : Type} {window : Extent} (h : window.Endless) (now : ℚ) (l : Limiter κ ℚ) :
    ∃ swept, l.sweep window now = .ok { l with swept := swept } := by
  obtain ⟨due, hdue, hinfinite⟩ :
      ∃ due, l.sweepDue window now = .ok due ∧ (due = true → window = .infinite false) := by
    rw [Limiter.sweepDue]
    rcases h with rfl | rfl <;> cases l.swept
    · exact ⟨true, rfl, fun _ => rfl⟩
    all_goals exact ⟨false, rfl, fun h => absurd h Bool.false_ne_true⟩
  cases due with
  | false => exact ⟨l.swept, by rw [Limiter.sweep, hdue]; rfl⟩
  | true =>
    obtain rfl := hinfinite rfl
    have hcurrent : ∀ clients : List (κ × WindowCount ℚ),
        Limiter.current (Extent.infinite false) now clients = .ok clients := by
      intro clients
      induction clients with
      | nil => rfl
      | cons e clients ih =>
        rw [Limiter.current, ih]
        rfl
    exact ⟨some now, by rw [Limiter.sweep, hdue, hcurrent]; rfl⟩

/-- A client is counted on when its window does not end. -/
theorem nextCount_endless {window : Extent} (h : window.Endless) (now : ℚ) (w : Option (WindowCount ℚ)) :
    ∃ start, Limiter.nextCount window now w = .ok ⟨(w.map WindowCount.count).getD 0 + 1, start⟩ := by
  have hnever : ∀ start : ℚ, Limiter.isOver window now start = .ok false := by
    rcases h with rfl | rfl <;> exact fun _ => rfl
  cases w with
  | none => exact ⟨now, by rw [Limiter.nextCount, hnever]; rfl⟩
  | some w => exact ⟨w.start, by rw [Limiter.nextCount, hnever]; rfl⟩

/-- **Step lemma**: when no window ends, a check adds one to what is counted for its client, and is judged by the sum. -/
theorem checkAt_tallies {seen : String → List ℚ} {l : Limiter String ℚ} (hwindow : spec.window.extent.Endless)
    (h : l.Tallies seen) (key : String) (now : ℚ) :
    ∃ (start : ℚ) (next : Limiter String ℚ), spec.checkAt Value.extent now (.str key) l.texts =
        (Limiter.judge (exceedsMax spec.max) spec.window.extent now ⟨(seen key).length + 1, start⟩, next.texts) ∧
      next.Tallies fun k => if k = key then seen k ++ [now] else seen k := by
  obtain ⟨swept, hsweep⟩ := sweep_endless hwindow now l.texts
  obtain ⟨start, hnext⟩ := nextCount_endless hwindow now (Assoc.get? key l.clients)
  rw [h key] at hnext
  have hcount : ({ l with swept := swept } : Limiter String ℚ).count spec.window.extent now key =
      .ok (⟨(seen key).length + 1, start⟩,
        ⟨Assoc.set key ⟨(seen key).length + 1, start⟩ l.clients, swept⟩) := by
    rw [Limiter.count, hnext]
    rfl
  have htexts := count_texts hcount
  refine ⟨start, ⟨Assoc.set key ⟨(seen key).length + 1, start⟩ l.clients, swept⟩, ?_, ?_⟩
  · rw [RateLimitSpec.checkAt, hsweep]
    have hkey : ((Value.str key).asKey.bind fun k =>
        ({ l.texts with swept := swept } : Limiter Value ℚ).count spec.window.extent now k) =
        ({ l with swept := swept } : Limiter String ℚ).texts.count spec.window.extent now (.str key) := rfl
    simp only [hkey, htexts]
  · intro k
    rw [Assoc.get?_set]
    by_cases hk : k = key
    · subst hk
      simp
    · simpa [hk] using h k

/-- **Run lemma**: when no window ends, a limiter has counted all checks. -/
theorem after_tallies (hwindow : spec.window.extent.Endless) (checks : List (String × ℚ)) :
    ∃ l : Limiter String ℚ, spec.after Value.extent checks = l.texts ∧ l.Tallies (checkTimes · checks) := by
  induction checks using List.reverseRecOn with
  | nil => exact ⟨{}, rfl, fun _ => rfl⟩
  | append_singleton checks check ih =>
    obtain ⟨key, now⟩ := check
    obtain ⟨l, hl, htallies⟩ := ih
    obtain ⟨start, next, hnext, hcounted⟩ := checkAt_tallies hwindow htallies key now
    refine ⟨next, by rw [after_concat, hl, hnext], ?_⟩
    rwa [checkTimes_concat]

/-- **What a limiter says when no window ends**: it allows as many checks of a client as its maximum, and fails at every
further one. -/
theorem verdict_of_endless (hmax : maximum? spec.max = some max) (hwindow : spec.window.extent.Endless)
    (checks : List (String × ℚ)) (key : String) (now : ℚ) :
    spec.verdict Value.extent checks key now =
      if ((checkTimes key checks).length : Int) < max then .ok ⟨true, 0⟩ else refuse spec.window.extent.refusal := by
  obtain ⟨l, hl, htallies⟩ := after_tallies hwindow checks
  obtain ⟨start, next, hnext, -⟩ := checkAt_tallies hwindow htallies key now
  have hwait : ∀ w : WindowCount ℚ,
      Limiter.retryAfter spec.window.extent now w = refuse spec.window.extent.refusal := by
    intro w
    rcases hwindow with hwindow | hwindow <;> rw [hwindow] <;> rfl
  rw [RateLimitSpec.verdict, hl, hnext, Limiter.judge, exceedsMax_eq hmax, ok_bind, hwait]
  by_cases hroom : ((checkTimes key checks).length : Int) < max
  · have hwithin : ¬ max < ((checkTimes key checks).length + 1 : Nat) := by omega
    simp only [hwithin, decide_false, Bool.false_eq_true, if_false, if_pos hroom]
    rfl
  · have hover : max < ((checkTimes key checks).length + 1 : Nat) := by omega
    simp only [hover, decide_true, if_true, if_neg hroom]
    rfl

/-- No limiter answers every check when its windows do not end. -/
theorem not_answers_of_endless (hmax : maximum? spec.max = some max) (hwindow : spec.window.extent.Endless) :
    ¬ spec.Answers := by
  intro hanswers
  -- a client that asks once more than is allowed, all at one time
  let checks : List (String × ℚ) := List.replicate max.toNat ("", 0)
  have htimes : (checks.map Prod.snd ++ [0]).Pairwise (· ≤ ·) := by
    have hall : checks.map Prod.snd ++ [(0 : ℚ)] = List.replicate (max.toNat + 1) 0 := by
      simp [checks, List.replicate_succ']
    rw [hall]
    exact List.pairwise_replicate.mpr (.inr le_rfl)
  obtain ⟨verdict, hverdict, -⟩ := hanswers checks "" 0 htimes
  have hmany : ¬ ((checkTimes "" checks).length : Int) < max := by
    have hlength : (checkTimes "" checks).length = max.toNat := by simp [checks, checkTimes]
    omega
  rw [verdict_of_endless hmax hwindow, if_neg hmany] at hverdict
  cases hverdict

end

/-! ## Reading windows -/

/-- An integer that is too large for a double. -/
def Value.isBeyondDoubles : Value → Bool
  | .int n => (Float.ofInt n).isInf
  | _ => false

/-- What cannot be shown is refused as a wrong value. -/
theorem shown_error {found : Option Value.Unshowable} {s : String} {f : Fault}
    (h : (match found with
      | some u => refuse u.refusal
      | none => .ok s : Attempt String) = .error f) : f.errorClass = .value := by
  cases found with
  | none => cases h
  | some u =>
    obtain rfl := Except.error.inj h
    cases u <;> rfl

theorem text_error {v : Value} {f : Fault} (h : v.text = .error f) : f.errorClass = .value := shown_error h

theorem quotedText_error {v : Value} {f : Fault} (h : v.quotedText = .error f) : f.errorClass = .value := shown_error h

/-- A phrase that is not read is refused as a wrong value. -/
theorem phrase_error {v : Value} {f : Fault}
    (h : (do
      match phraseSeconds? (← v.text) with
      | some x => return x
      | none => refuse (.unreadableWindow (← v.quotedText)) : Attempt Float) = .error f) :
    f.errorClass = .value := by
  cases htext : v.text with
  | error g =>
    rw [htext] at h
    obtain rfl := Except.error.inj h
    exact text_error htext
  | ok s =>
    rw [htext, ok_bind] at h
    cases hread : phraseSeconds? s with
    | some x => simp [hread, pure, Except.pure] at h
    | none =>
      cases hquoted : v.quotedText with
      | error g =>
        simp only [hread, hquoted] at h
        obtain rfl := Except.error.inj h
        exact quotedText_error hquoted
      | ok shown =>
        simp only [hread, hquoted] at h
        obtain rfl := Except.error.inj h
        rfl

theorem windowSeconds_error {v : Value} {f : Fault} (h : windowSeconds v = .error f) :
    v.isBeyondDoubles = true ∧ f = .refused (.notFinite "int too large to convert to float") ∨
      v.isBeyondDoubles = false ∧ f.errorClass = .value := by
  cases v with
  | int n =>
    simp only [windowSeconds] at h
    split at h
    · next hlarge => exact .inl ⟨hlarge, (Except.error.inj h).symm⟩
    · cases h
  | float x => cases h
  | nan id => cases h
  | _ => exact .inr ⟨rfl, phrase_error h⟩

/-- **How windows are refused**: an integer that is too large for a double as that, and all else as a wrong value. -/
theorem parseWindow_error {v : Value} {f : Fault} (h : parseWindow v = .error f) :
    v.isBeyondDoubles = true ∧ f = .refused (.notFinite "int too large to convert to float") ∨
      v.isBeyondDoubles = false ∧ f.errorClass = .value := by
  rw [parseWindow] at h
  cases hread : windowSeconds v with
  | error g =>
    rw [hread] at h
    obtain rfl := Except.error.inj h
    exact windowSeconds_error hread
  | ok seconds =>
    have hsmall : v.isBeyondDoubles = false := by
      cases v with
      | int n =>
        simp only [windowSeconds] at hread
        split at hread
        · cases hread
        · next hsmall => simpa [Value.isBeyondDoubles] using hsmall
      | _ => rfl
    rw [hread, ok_bind] at h
    split at h
    · cases hquoted : v.quotedText with
      | error g =>
        rw [hquoted] at h
        obtain rfl := Except.error.inj h
        exact .inr ⟨hsmall, quotedText_error hquoted⟩
      | ok shown =>
        rw [hquoted] at h
        obtain rfl := Except.error.inj h
        exact .inr ⟨hsmall, rfl⟩
    · cases h

theorem parseWindow_pos {v : Value} {seconds : Float} (h : parseWindow v = .ok seconds) : ¬ seconds ≤ 0.0 := by
  rw [parseWindow] at h
  cases hread : windowSeconds v with
  | error g => simp [hread, bind, Except.bind] at h
  | ok read =>
    rw [hread, ok_bind] at h
    split at h
    · cases hquoted : v.quotedText <;> simp [hquoted, bind, Except.bind, refuse] at h
    · next hpos =>
      obtain rfl := Except.ok.inj h
      exact hpos

/-- An accepted window is finite, or it does not end. -/
theorem isFinite_or_endless {v : Value} {seconds : Float} (h : parseWindow v = .ok seconds) :
    (Extent.ofFloat seconds).IsFinite ∨ (Extent.ofFloat seconds).Endless := by
  rw [Extent.ofFloat]
  split
  · exact .inr (.inr rfl)
  split
  · rw [decide_eq_false (parseWindow_pos h)]
    exact .inr (.inl rfl)
  · exact .inl ⟨_, rfl⟩

theorem Extent.Endless.not_isFinite {e : Extent} (h : e.Endless) : ¬ e.IsFinite := by
  rintro ⟨seconds, rfl⟩
  rcases h with h | h <;> cases h

/-- The limit that a node declares, when its fields are read: its window has the length of the seconds that were read. -/
theorem ofNode_eq_ok (max : Value) {timeWindow keyHeader name : Value} {seconds : Float}
    (hwindow : parseWindow timeWindow = .ok seconds) (hname : keyHeaderName keyHeader = .ok name) :
    ∃ spec, RateLimitSpec.ofNode max timeWindow keyHeader = .ok spec ∧ spec.max = max ∧
      spec.window.extent = Extent.ofFloat seconds := by
  have hnan : ∀ x : Float, x.isNaN = true → Extent.ofFloat x = .undefined := by
    intro x hx
    rw [Extent.ofFloat, if_pos hx]
  refine ⟨_, by rw [RateLimitSpec.ofNode, hwindow, ok_bind, hname, ok_bind]; rfl, rfl, ?_⟩
  cases timeWindow with
  | nan id =>
    -- what is no number is read as no number of the library's own
    have hread : parseWindow (.nan id) = .ok (0.0 / 0.0) := rfl
    obtain rfl := Except.ok.inj (hread.symm.trans hwindow)
    exact (hnan _ (by decide +kernel)).symm
  | _ =>
    simp only [Value.ofFloat]
    split
    · next hx => exact (hnan seconds hx).symm
    · rfl

/-- **Which windows work.** A window that is accepted gives a limit, and its limiter answers every check of every
history exactly when the window is finite; otherwise it allows as many checks of a client as its maximum and fails at
every further one. A window that is refused is refused as a wrong value, so that the walk of the tree fails with a
mistake of the configuration, unless it is an integer that is too large for a double. -/
theorem windows_work_iff {U : Type} (b : Behaviour U) (c : RouteConfig Value) {max : Value} {bound : Int}
    (hmax : maximum? max = some bound) (timeWindow keyHeader : Value) :
    (∀ seconds name, parseWindow timeWindow = .ok seconds → keyHeaderName keyHeader = .ok name →
      ∃ spec, RateLimitSpec.ofNode max timeWindow keyHeader = .ok spec ∧
        (spec.Answers ↔ (Extent.ofFloat seconds).IsFinite) ∧
        (¬ (Extent.ofFloat seconds).IsFinite → ∀ checks key (now : ℚ), spec.verdict Value.extent checks key now =
          if ((checkTimes key checks).length : Int) < bound then .ok ⟨true, 0⟩
          else refuse (Extent.ofFloat seconds).refusal)) ∧
    ∀ f, parseWindow timeWindow = .error f →
      (f.errorClass = .value ↔ timeWindow.isBeyondDoubles = false) ∧
        ∀ w : World U, outcome (visit b c (.rateLimiter max timeWindow keyHeader)) w =
          (.error (.failed (if timeWindow.isBeyondDoubles then
            .refused (.notFinite "int too large to convert to float") else .refused (.badSetting f.message))), w) := by
  constructor
  · intro seconds name hwindow hname
    obtain ⟨spec, hspec, rfl, hextent⟩ := ofNode_eq_ok max hwindow hname
    have hkind := isFinite_or_endless hwindow
    rw [← hextent] at hkind ⊢
    refine ⟨spec, hspec, ⟨fun hanswers => ?_, answers_of_isFinite hmax⟩, fun hinfinite => ?_⟩
    · exact hkind.resolve_right fun hendless => not_answers_of_endless hmax hendless hanswers
    · exact verdict_of_endless hmax (hkind.resolve_left hinfinite)
  · intro f hwindow
    have hfails : ∀ w : World U, outcome (visit b c (.rateLimiter max timeWindow keyHeader)) w =
        (.error (.failed (settingFailure f)), w) := by
      intro w
      have hnode : RateLimitSpec.ofNode max timeWindow keyHeader = .error f := by
        rw [RateLimitSpec.ofNode, hwindow]
        rfl
      rw [visit, hnode]
      rfl
    rcases parseWindow_error hwindow with ⟨hbeyond, rfl⟩ | ⟨hsmall, hclass⟩
    · rw [hbeyond]
      exact ⟨⟨nofun, nofun⟩, hfails⟩
    · rw [hsmall]
      refine ⟨⟨fun _ => rfl, fun _ => hclass⟩, fun w => ?_⟩
      rw [hfails, settingFailure, if_pos hclass]
      rfl

/-- A minute works, and the walk of a tree stops at a whole number of four hundred digits, but not with a mistake of the
configuration. -/
theorem windows_work_iff_minute :
    (∃ spec, RateLimitSpec.ofNode (.int 1) (.str "1 minute") .none = .ok spec ∧ spec.Answers) ∧
      ∀ w : World Unit, outcome (visit .idle .empty (.rateLimiter (.int 1) (.int (10 ^ 400)) .none)) w =
        (.error (.failed (.refused (.notFinite "int too large to convert to float"))), w) := by
  have hmax : maximum? (.int 1) = some 1 := rfl
  obtain ⟨spec, hspec, hanswers, -⟩ :=
    (windows_work_iff (U := Unit) .idle .empty hmax (.str "1 minute") .none).1 60.0 .none rfl rfl
  have hbeyond : (Float.ofInt (10 ^ 400)).isInf = true := by decide +kernel
  have hrefused : parseWindow (.int (10 ^ 400)) = .error (.refused (.notFinite "int too large to convert to float")) := by
    simp only [parseWindow, windowSeconds, hbeyond, if_true]
    rfl
  have hfails := ((windows_work_iff (U := Unit) .idle .empty hmax (.int (10 ^ 400)) .none).2 _ hrefused).2
  simp only [Value.isBeyondDoubles, hbeyond, if_true] at hfails
  exact ⟨⟨spec, hspec, hanswers.mpr ⟨60, by decide +kernel⟩⟩, hfails⟩

/-- Infinity is accepted as a window, and the second check of a client, which is over the maximum, fails: over
doubles, and over exact times. -/
theorem infinite_window_fails :
    let spec : RateLimitSpec Value := ⟨.int 1, .float (1.0 / 0.0), .none⟩
    RateLimitSpec.ofNode (.int 1) (.float (1.0 / 0.0)) .none = .ok spec ∧
      spec.verdict id [("ada", (0.0 : Float))] "ada" (0.0 : Float) =
        refuse (.notFinite "cannot convert float infinity to integer") ∧
      spec.verdict Value.extent [("ada", (0 : ℚ))] "ada" (0 : ℚ) =
        refuse (.notFinite "cannot convert float infinity to integer") := by
  refine ⟨rfl, rfl, ?_⟩
  have hinfinite : (Value.float (1.0 / 0.0)).extent = .infinite false := by decide +kernel
  rw [verdict_of_endless rfl (.inl hinfinite), hinfinite]
  rfl

end ServerTree
