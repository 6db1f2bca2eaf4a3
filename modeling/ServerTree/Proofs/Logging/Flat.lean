import Mathlib.Tactic.SplitIfs
import ServerTree.Proofs.Serving.Sanitizing
import ServerTree.Proofs.Serving.Wire

/-!
# Texts in one line

A text without control characters stands in one line of a log, whatever reads it. What is prepared for the log has
none of them, and neither have numbers and quoted texts. A message that is put together from such texts and from
others has just the control characters of these others.

## Main definitions
- `IsFlat`: characters without control characters
- `Composed`: texts that are put together from flat ones and from those of a kind

## Main statements
- `isFlat_forLog`: what is prepared for the log is flat
- `isFlat_quoted`: so are quoted texts
- `isFlat_text_of_isNumber`: so are numbers
- `Composed.exists_mem`: a control character of a composed text comes from a text of the kind
-/

namespace ServerTree

open Text

/-- Characters none of which is a control character. -/
def IsFlat (cs : List Char) : Prop := ∀ c ∈ cs, isControl c = false

instance (cs : List Char) : Decidable (IsFlat cs) := List.decidableBAll (fun c => isControl c = false) cs

@[simp] theorem isFlat_nil : IsFlat [] := fun _ hc => nomatch hc

@[simp] theorem isFlat_cons {c : Char} {cs : List Char} : IsFlat (c :: cs) ↔ isControl c = false ∧ IsFlat cs :=
  List.forall_mem_cons

@[simp] theorem isFlat_append {cs ds : List Char} : IsFlat (cs ++ ds) ↔ IsFlat cs ∧ IsFlat ds :=
  List.forall_mem_append

theorem IsFlat.subset {cs ds : List Char} (h : IsFlat ds) (hsub : cs ⊆ ds) : IsFlat cs := fun c hc => h c (hsub hc)

/-! ## Texts for the log -/

/-- **What is prepared for the log is flat.** -/
theorem isFlat_forLog (limit : Int) (s : String) : IsFlat (forLog limit s).toList := by
  rw [forLog, String.toList_ofList]
  refine IsFlat.subset ?_ (takeFirst_isPrefix _ _).subset
  intro c hc
  simpa using (List.mem_filter.mp hc).2

theorem isFlat_of_failureForLog {f : Fault} {logged : String} (h : failureForLog f = .ok logged) :
    IsFlat logged.toList := by
  obtain ⟨text, -, rfl⟩ := exists_of_map_eq_ok h
  exact isFlat_forLog _ _

/-! ## Quoted texts -/

theorem isFlat_hexDigits (width n : Nat) : IsFlat (Text.hexDigits width n) := by
  have hdigit : ∀ n < 16, isControl (hexDigit n) = false := by decide
  induction width generalizing n with
  | zero => exact isFlat_nil
  | succ width ih => simp [Text.hexDigits, ih, hdigit _ (Nat.mod_lt n (by decide))]

/-- What stands for itself is no control character. -/
theorem isControl_of_isPrintable {c : Char} (h : isPrintable c = true) : isControl c = false := by
  rw [isPrintable] at h
  rw [isControl]
  split at h
  · simp only [Bool.and_eq_true, decide_eq_true_eq] at h
    simp only [Bool.or_eq_false_iff, decide_eq_false_iff_not, beq_eq_false_iff_ne]
    omega
  · simp only [Bool.or_eq_false_iff, decide_eq_false_iff_not, beq_eq_false_iff_ne]
    omega

theorem isFlat_quotedPoint {q : Char} (hq : isControl q = false) (n : Nat) : IsFlat (quotedPoint q n) := by
  have hslash : isControl '\\' = false := by decide
  have hescape (letter : Char) (width : Nat) (hletter : isControl letter = false) :
      IsFlat ('\\' :: letter :: Text.hexDigits width n) :=
    isFlat_cons.mpr ⟨hslash, isFlat_cons.mpr ⟨hletter, isFlat_hexDigits width n⟩⟩
  rw [quotedPoint]
  split_ifs with hself hfeed hreturn htab hshown
  · have hc : isControl (Char.ofNat n) = false := by
      rcases hself with h | h
      · rw [h, hq]
      · rw [h, hslash]
    exact isFlat_cons.mpr ⟨hslash, isFlat_cons.mpr ⟨hc, isFlat_nil⟩⟩
  · decide
  · decide
  · decide
  · exact isFlat_cons.mpr ⟨isControl_of_isPrintable hshown, isFlat_nil⟩
  · exact hescape 'x' 2 (by decide)
  · exact hescape 'u' 4 (by decide)
  · exact hescape 'U' 8 (by decide)

/-- **A quoted text is flat**: control characters are written as escapes. -/
theorem isFlat_quoted (s : String) : IsFlat (quoted s).toList := by
  have hquote : isControl (enclosingQuote s.toList) = false := by
    rw [enclosingQuote]
    split <;> decide
  rw [quoted, String.toList_ofList]
  simp only [List.cons_append, isFlat_cons, isFlat_append, isFlat_nil, hquote, and_true, true_and]
  intro c hc
  obtain ⟨n, -, hn⟩ := List.mem_flatMap.mp hc
  exact isFlat_quotedPoint hquote n c hn

theorem isFlat_reservedKeyWarning (k : String) : IsFlat (reservedKeyWarning k).toList := by
  have hfront : IsFlat "Refusing to merge reserved key ".toList := by decide +kernel
  unfold reservedKeyWarning
  rw [String.toList_append]
  exact isFlat_append.mpr ⟨hfront, isFlat_quoted k⟩

/-! ## Numbers -/

theorem isFlat_digitChars (n : Nat) : IsFlat (Decimal.digitChars n) := by
  intro c hc
  have hdigit := Nat.isDigit_of_mem_toDigits (by decide) (by decide) hc
  simp only [Char.isDigit, Bool.and_eq_true, decide_eq_true_eq] at hdigit
  have hlow : 48 ≤ c.toNat := UInt32.le_iff_toNat_le.mp hdigit.1
  have hhigh : c.toNat ≤ 57 := UInt32.le_iff_toNat_le.mp hdigit.2
  rw [isControl]
  simp only [Bool.or_eq_false_iff, decide_eq_false_iff_not, beq_eq_false_iff_ne]
  omega

theorem isFlat_natText (n : Nat) : IsFlat (toString n).toList := by
  rw [Nat.toString_eq_ofList_toDigits, String.toList_ofList]
  exact isFlat_digitChars n

theorem isFlat_intText (i : Int) : IsFlat (toString i).toList := by
  rw [Int.toString_eq_repr, Int.repr_eq_if]
  split
  · exact isFlat_natText _
  · rw [String.toList_append, isFlat_append]
    exact ⟨by decide, isFlat_natText _⟩

theorem isFlat_exponentChars (e : Int) : IsFlat (Decimal.exponentChars e) := by
  have hdigits := isFlat_digitChars e.natAbs
  rw [Decimal.exponentChars]
  refine isFlat_cons.mpr ⟨?_, ?_⟩
  · split <;> decide
  · split
    · exact isFlat_cons.mpr ⟨by decide, hdigits⟩
    · exact hdigits

theorem isFlat_writeDigits (f : Decimal.FloatFormat) (digits : Nat) (exponent : Int) :
    IsFlat (f.writeDigits digits exponent) := by
  have hdigits := isFlat_digitChars digits
  have hzeros (n : Nat) : IsFlat (List.replicate n '0') := fun c hc => by
    rw [List.eq_of_mem_replicate hc]
    decide
  have hpoint : isControl '.' = false := by decide
  have hzero : isControl '0' = false := by decide
  have hletter : isControl 'e' = false := by decide
  rw [Decimal.FloatFormat.writeDigits]
  split
  · split
    · simp [hzero, hpoint, hzeros, hdigits]
    · split
      · simp [hzero, hpoint, hzeros, hdigits]
      · simp only [isFlat_append, isFlat_cons, hpoint, true_and]
        exact ⟨hdigits.subset (List.take_subset _ _), hdigits.subset (List.drop_subset _ _)⟩
  · split
    · exact isFlat_nil
    · next d hd =>
      rw [hd, isFlat_cons] at hdigits
      simp [hdigits.1, hletter, isFlat_exponentChars]
    · next d rest hrest hd =>
      rw [hd, isFlat_cons] at hdigits
      simp [hdigits.1, hdigits.2, hpoint, hletter, isFlat_exponentChars]

/-- A sign in front changes nothing. -/
theorem IsFlat.signed {s : String} (h : IsFlat s.toList) (negative : Prop) [Decidable negative] :
    IsFlat ((if negative then "-" else "") ++ s).toList := by
  have hsign : IsFlat (if negative then "-" else "").toList := by split <;> decide
  rw [String.toList_append]
  exact isFlat_append.mpr ⟨hsign, h⟩

/-- A double is written flat when the special values have flat names. -/
theorem isFlat_write {f : Decimal.FloatFormat} (hnan : IsFlat f.notANumber.toList) (hinf : IsFlat f.infinite.toList)
    (x : Float) : IsFlat (f.write x).toList := by
  simp only [Decimal.FloatFormat.write]
  by_cases hx : x.isNaN = true
  · rwa [if_pos hx]
  · rw [if_neg hx]
    by_cases hx : x.isInf = true
    · rw [if_pos hx]
      exact hinf.signed _
    · rw [if_neg hx]
      cases Decimal.Binary.ofBits? x.toBits.toNat with
      | none => exact IsFlat.signed (by decide) _
      | some b =>
        refine IsFlat.signed ?_ _
        rw [String.toList_ofList]
        exact isFlat_writeDigits _ _ _

/-- So is a double without its fraction. -/
theorem isFlat_roundedWhole (x : Float) : IsFlat (Decimal.roundedWhole x).toList := by
  simp only [Decimal.roundedWhole]
  by_cases hx : x.isNaN = true
  · rw [if_pos hx]
    decide
  · rw [if_neg hx]
    by_cases hx : x.isInf = true
    · rw [if_pos hx]
      exact IsFlat.signed (by decide) _
    · rw [if_neg hx]
      cases Decimal.Binary.ofBits? x.toBits.toNat with
      | none => exact IsFlat.signed (by decide) _
      | some b =>
        refine IsFlat.signed ?_ _
        rw [String.toList_ofList]
        exact isFlat_digitChars _

/-- **The text of a number is flat.** -/
theorem isFlat_text_of_isNumber {v : Value} {s : String} (hv : v.IsNumber) (h : v.text = .ok s) :
    IsFlat s.toList := by
  have hshown : s = v.display := by
    rw [Value.text] at h
    split at h
    · cases h
    · exact (Except.ok.inj h).symm
  rw [hshown, Value.display]
  cases v with
  | int n => exact isFlat_intText n
  | bool x => cases x <;> decide
  | float x => exact isFlat_write (by decide) (by decide) x
  | nan id => exact (by decide : IsFlat "nan".toList)
  | _ => exact hv.elim

/-! ## Messages -/

/-- Texts that are put together from flat texts and from texts of a kind. -/
inductive Composed (own : String → Prop) : String → Prop where
  | flat {s : String} (h : IsFlat s.toList) : Composed own s
  | own {s : String} (h : own s) : Composed own s
  | append {s t : String} (hs : Composed own s) (ht : Composed own t) : Composed own (s ++ t)

theorem Composed.mono {own own' : String → Prop} {s : String} (h : Composed own s) (hown : ∀ t, own t → own' t) :
    Composed own' s := by
  induction h with
  | flat h => exact .flat h
  | own h => exact .own (hown _ h)
  | append _ _ ihs iht => exact .append ihs iht

/-- A control character of a composed text stands in one of the texts of the kind that it is put together from. -/
theorem Composed.exists_mem {own : String → Prop} {s : String} (h : Composed own s) {c : Char} (hc : c ∈ s.toList)
    (hcontrol : isControl c = true) : ∃ t, own t ∧ c ∈ t.toList := by
  induction h with
  | flat h => exact absurd hcontrol (by simp [h c hc])
  | @own s h => exact ⟨s, h, hc⟩
  | append _ _ ihs iht =>
    rw [String.toList_append] at hc
    exact (List.mem_append.mp hc).elim ihs iht

end ServerTree
