import ServerTree.Routing.Segment
import ServerTree.Proofs.Logging.Flat
import ServerTree.Proofs.Serving.Messages

/-!
# What input checks accept

Identifiers, safe texts and texts for the log are told by characters of ASCII. A safe text is one without control
characters, tabs and line breaks apart. An identifier has up to 128 characters of names, but the check overlooks one
line feed at the end. What is prepared for the log is short and flat, and nothing is done to a text that is so already.

## Main definitions
- `IsControlChar`, `IsNameChar`: the characters that are told apart
- `IsIdentifier`: what identifiers are meant to be

## Main statements
- `isValidId_iff`: which texts pass for identifiers
- `forLog_eq_self`: short flat texts are logged as they are
- `input_checks_accept`: what all three accept
- `isValidId_line_feed`: a line feed passes
-/

namespace ServerTree

open Text

/-! ## Characters -/

/-- A control character of ASCII. -/
def IsControlChar (c : Char) : Prop := c.toNat ≤ 0x1F ∨ c.toNat = 0x7F

/-- A letter or digit of ASCII, a dash or a low line. -/
def IsNameChar (c : Char) : Prop :=
  'A' ≤ c ∧ c ≤ 'Z' ∨ 'a' ≤ c ∧ c ≤ 'z' ∨ '0' ≤ c ∧ c ≤ '9' ∨ c = '-' ∨ c = '_'

theorem isControl_iff {c : Char} : isControl c = true ↔ IsControlChar c := by
  simp only [isControl, IsControlChar, Bool.or_eq_true, decide_eq_true_eq, beq_iff_eq]
  omega

theorem isIdentifier_iff {c : Char} : isIdentifier c = true ↔ IsNameChar c := by
  have htest : isIdentifier c = (decide ('A' ≤ c ∧ c ≤ 'Z') || decide ('a' ≤ c) && decide (c ≤ 'z') ||
      decide ('0' ≤ c) && decide (c ≤ '9') || c == '_' || c == '-') := rfl
  simp only [htest, IsNameChar, Bool.or_eq_true, Bool.and_eq_true, decide_eq_true_eq, beq_iff_eq]
  tauto

theorem isUnsafeControl_iff {c : Char} :
    isUnsafeControl c = true ↔ IsControlChar c ∧ c ≠ '\t' ∧ c ≠ '\n' ∧ c ≠ '\r' := by
  have hpoint : ∀ d : Char, c.toNat = d.toNat ↔ c = d := fun d => Char.toNat_inj
  simp only [isUnsafeControl, Bool.and_eq_true, isControl_iff, bne_iff_ne, and_assoc, ne_eq, ← hpoint]
  rfl

theorem not_isNameChar_mark : ¬ IsNameChar mark := by
  rw [← isIdentifier_iff]
  decide

theorem not_isNameChar_line_feed : ¬ IsNameChar '\n' := by
  rw [← isIdentifier_iff]
  decide

/-! ## Identifiers -/

/-- An identifier has 1 to 128 characters, all of them characters of names. -/
structure IsIdentifier (s : String) : Prop where
  nonempty : 1 ≤ size s
  short : size s ≤ 128
  named : ∀ c ∈ s.toList, IsNameChar c

theorem IsIdentifier.not_line_feed {s : String} (h : IsIdentifier s) : '\n' ∉ s.toList :=
  fun hmem => not_isNameChar_line_feed (h.named _ hmem)

/-- The characters of names are code points by themselves, so they may be counted one by one. -/
theorem isIdentifier_ofList_iff {cs : List Char} :
    IsIdentifier (String.ofList cs) ↔ 1 ≤ cs.length ∧ cs.length ≤ 128 ∧ ∀ c ∈ cs, IsNameChar c := by
  have hsize : (∀ c ∈ cs, IsNameChar c) → size (String.ofList cs) = cs.length := by
    intro hnamed
    rw [size, String.toList_ofList]
    exact length_glyphsOf_of_not_mem fun hmark => not_isNameChar_mark (hnamed _ hmark)
  constructor
  · intro h
    have hnamed : ∀ c ∈ cs, IsNameChar c := by simpa using h.named
    exact ⟨hsize hnamed ▸ h.nonempty, hsize hnamed ▸ h.short, hnamed⟩
  · rintro ⟨hnonempty, hshort, hnamed⟩
    exact ⟨by rwa [hsize hnamed], by rwa [hsize hnamed], by simpa using hnamed⟩

/-- **What passes for an identifier** is one, or one with a line feed behind it. -/
theorem isValidId_iff {s : String} :
    isValidId (.str s) = true ↔ IsIdentifier s ∨ ∃ t, IsIdentifier t ∧ s = t ++ "\n" := by
  have hdropped : isValidId (.str s) = true ↔ IsIdentifier (String.ofList (dropFinalNewline s.toList)) := by
    have htest : isValidId (.str s) = (decide (1 ≤ (dropFinalNewline s.toList).length) &&
        decide ((dropFinalNewline s.toList).length ≤ 128) && (dropFinalNewline s.toList).all isIdentifier) := rfl
    rw [htest]
    simp [isIdentifier_ofList_iff, isIdentifier_iff, and_assoc]
  exact hdropped.trans (of_dropFinalNewline_iff fun _ h => h.not_line_feed)

/-! ## Safe texts -/

theorem isSafeText_iff {s : String} :
    isSafeText (.str s) = true ↔ ∀ c ∈ s.toList, IsControlChar c → c = '\t' ∨ c = '\n' ∨ c = '\r' := by
  simp only [isSafeText, Bool.not_eq_true', List.any_eq_false, isUnsafeControl_iff]
  refine forall₂_congr fun c _ => ?_
  tauto

/-! ## Texts for the log -/

theorem isFlat_iff {cs : List Char} : IsFlat cs ↔ ∀ c ∈ cs, ¬ IsControlChar c := by
  simp only [IsFlat, ← isControl_iff, Bool.not_eq_true]

/-- A text for the log has no more code points than its limit. -/
theorem size_forLog_le (limit : Nat) (s : String) : size (forLog limit s) ≤ limit := by
  have hlimit : ¬ (limit : Int) < 0 := by omega
  simp only [forLog, hlimit, if_false, Int.toNat_natCast, size, String.toList_ofList, glyphsOf_takeFirst,
    List.length_take]
  omega

/-- **Short flat texts are logged as they are.** -/
theorem forLog_eq_self {limit : Nat} {s : String} (hflat : IsFlat s.toList) (hshort : size s ≤ limit) :
    forLog limit s = s := by
  have hlimit : ¬ (limit : Int) < 0 := by omega
  have hbreaks : (s.toList.map fun c => if c = '\r' ∨ c = '\n' then ' ' else c) = s.toList := by
    -- line breaks are control characters, so there is none that becomes a blank
    have hsame : ∀ c ∈ s.toList, (if c = '\r' ∨ c = '\n' then ' ' else c) = c := by
      intro c hc
      rw [if_neg]
      rintro (rfl | rfl) <;> exact absurd (hflat _ hc) (by decide)
    rw [List.map_congr_left hsame, List.map_id']
  have hkept : (s.toList.filter fun c => !isControl c) = s.toList := by
    rw [List.filter_eq_self]
    intro c hc
    rw [hflat c hc]
    rfl
  simp only [forLog, hlimit, if_false, Int.toNat_natCast, hbreaks, hkept]
  rw [takeFirst_of_le hshort, String.ofList_toList]

/-- A text for the log is one already. -/
theorem forLog_forLog (limit : Nat) (s : String) : forLog limit (forLog limit s) = forLog limit s :=
  forLog_eq_self (isFlat_forLog limit s) (size_forLog_le limit s)

/-- **What input checks accept.** An identifier passes for one, and so does an identifier with a line feed behind it,
but nothing else. A text is safe exactly when it has no control characters other than tabs, line feeds and carriage
returns. What is prepared for the log is no longer than its limit, has no control characters and is the text itself if
that is so already; in particular it stays as it is when it is prepared again. -/
theorem input_checks_accept (s : String) :
    (isValidId (.str s) = true ↔ IsIdentifier s ∨ ∃ t, IsIdentifier t ∧ s = t ++ "\n") ∧
      (isSafeText (.str s) = true ↔ ∀ c ∈ s.toList, IsControlChar c → c = '\t' ∨ c = '\n' ∨ c = '\r') ∧
      ∀ limit : Nat, ∃ line, (Value.str s).forLog (.int limit) = .ok line ∧ size line ≤ limit ∧
        (∀ c ∈ line.toList, ¬ IsControlChar c) ∧
        (size s ≤ limit → (∀ c ∈ s.toList, ¬ IsControlChar c) → line = s) ∧
        (Value.str line).forLog (.int limit) = .ok line := by
  refine ⟨isValidId_iff, isSafeText_iff, fun limit => ⟨forLog limit s, rfl, size_forLog_le limit s, ?_, ?_, ?_⟩⟩
  · exact isFlat_iff.mp (isFlat_forLog limit s)
  · exact fun hshort hflat => forLog_eq_self (isFlat_iff.mpr hflat) hshort
  · exact congrArg Except.ok (forLog_forLog limit s)

/-- A line feed behind an identifier passes. -/
theorem isValidId_line_feed :
    isValidId (.str "user_42\n") = true ∧ ¬ ∀ s : String, isValidId (.str s) = true ↔ IsIdentifier s := by
  have hpasses : isValidId (.str "user_42\n") = true := by decide
  refine ⟨hpasses, fun hall => ?_⟩
  exact ((hall "user_42\n").mp hpasses).not_line_feed (by decide)

end ServerTree
