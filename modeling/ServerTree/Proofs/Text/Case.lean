import ServerTree.Text.Case
import ServerTree.Text.Points

/-!
# Small letters stay small

A text in small letters has no capital left, whatever script it is written in: no run of the table of small forms
reaches a character that one of its runs leads to, and the capital letter whose small form is two characters does not
come out of it. So taking small letters a second time changes nothing, and names that were compared in small letters
may be compared in small letters again.

## Main definitions
- `CaseRun.misses`: whether a run reaches nothing that another one leads to
- `IsSmall`: a character that is its own small form, wherever it stands

## Main statements
- `lowerRuns_miss`: the runs of small forms lead to characters without small forms
- `isSmall_of_mem_lowerChars`: small letters are small
- `lower_lower`: small letters stay as they are
-/

namespace ServerTree.Text

/-! ## Runs -/

/-- The first code point that a run leads to. -/
def CaseRun.low (r : CaseRun) : Nat := ((r.first : Int) + r.delta).toNat

/-- The last code point that a run leads to. -/
def CaseRun.high (r : CaseRun) : Nat := ((r.last : Int) + r.delta).toNat

/-- Whether a run reaches none of the code points that another one leads to: those lie before it, behind it, or
between the steps that it takes. -/
def CaseRun.misses (r' r : CaseRun) : Bool :=
  Nat.blt r.high r'.first || Nat.blt r'.last r.low ||
    r'.stride == 2 && (r.stride == 2 || r.first == r.last) && (r.low + r'.first) % 2 == 1

/-- **No run of small forms reaches what one of them leads to.** -/
theorem lowerRuns_miss : ∀ r ∈ lowerRuns, ∀ r' ∈ lowerRuns, r'.misses r = true := by
  -- a test of all pairs is evaluated several times faster than the instances for `∀`
  have hall : (lowerRuns.all fun r => lowerRuns.all fun r' => r'.misses r) = true := by decide +kernel
  exact fun r hr => List.all_eq_true.mp (List.all_eq_true.mp hall r hr)

/-- The runs lead to characters, never to the dotted capital, and to one letter of ASCII only. -/
theorem lowerRuns_lead : ∀ r ∈ lowerRuns, 0 ≤ (r.first : Int) + r.delta ∧
    ((r.last : Int) + r.delta < 0xD800 ∨ 0xDFFF < (r.first : Int) + r.delta ∧ (r.last : Int) + r.delta < 0x110000) ∧
    ((r.last : Int) + r.delta < 0x130 ∨ 0x130 < (r.first : Int) + r.delta) ∧
    (128 ≤ (r.first : Int) + r.delta ∨ r.first = r.last ∧ (r.first : Int) + r.delta = 'k'.toNat) := by decide +kernel

variable {r r' : CaseRun} {n m : Nat}

theorem CaseRun.image?_eq_some (h : r.image? n = some m) :
    r.first ≤ n ∧ n ≤ r.last ∧ (n - r.first) % r.stride = 0 ∧ m = ((n : Int) + r.delta).toNat := by
  rw [image?, Option.ite_none_right_eq_some] at h
  obtain ⟨⟨hfirst, hlast, hstep⟩, himage⟩ := h
  exact ⟨hfirst, hlast, hstep, (Option.some.inj himage).symm⟩

/-- What a run leads to has no image under a run that misses it. -/
theorem CaseRun.image?_eq_none_of_misses (hmiss : r'.misses r = true) (hlead : 0 ≤ (r.first : Int) + r.delta)
    (h : r.image? n = some m) : r'.image? m = none := by
  obtain ⟨hfirst, hlast, hstep, rfl⟩ := image?_eq_some h
  simp only [misses, low, high, Bool.or_eq_true, Bool.and_eq_true, Nat.blt_eq, beq_iff_eq] at hmiss
  rw [image?, if_neg]
  rintro ⟨hfirst', hlast', hstep'⟩
  rcases hmiss with (hbefore | hbehind) | ⟨⟨hstride', hstride⟩, hparity⟩
  · omega
  · omega
  · rw [hstride'] at hstep'
    rcases hstride with hstride | hsingle
    · rw [hstride] at hstep
      omega
    · omega

/-! ## Characters -/

/-- A character that is its own small form, wherever it stands. -/
structure IsSmall (c : Char) : Prop where
  not_dotted : c.toNat ≠ 0x130
  kept : lowerChar c = c

theorem IsSmall.not_sigma {c : Char} (h : IsSmall c) : c.toNat ≠ 0x3A3 := by
  intro hsigma
  have hmoved : lowerChar (Char.ofNat 0x3A3) ≠ Char.ofNat 0x3A3 := by decide +kernel
  exact hmoved (by rw [← hsigma, Char.ofNat_toNat, h.kept])

/-- What a run of small forms leads to is small. -/
theorem isSmall_of_image? (hr : r ∈ lowerRuns) (h : r.image? n = some m) : IsSmall (Char.ofNat m) := by
  obtain ⟨hlead, hvalid, hdotted, hascii⟩ := lowerRuns_lead r hr
  have hnone : lowerRuns.findSome? (·.image? m) = none :=
    List.findSome?_eq_none_iff.mpr fun r' hr' => CaseRun.image?_eq_none_of_misses (lowerRuns_miss r hr r' hr') hlead h
  obtain ⟨hfirst, hlast, -, hm⟩ := CaseRun.image?_eq_some h
  have hnat : (Char.ofNat m).toNat = m := toNat_ofNat (by simp only [Nat.isValidChar]; omega)
  refine ⟨by rw [hnat]; omega, ?_⟩
  -- below 128 the table does not say what is small; only the Kelvin sign leads there
  rcases hascii with hbeyond | ⟨hsingle, hk⟩
  · rw [lowerChar, hnat, if_neg (by omega), hnone]
    rfl
  · obtain rfl : m = 'k'.toNat := by omega
    decide

/-- The small form of a character is small, unless it is the capital whose small form is two characters. -/
theorem isSmall_lowerChar {c : Char} (h : c.toNat ≠ 0x130) : IsSmall (lowerChar c) := by
  by_cases hascii : c.toNat < 128
  · have hletters : ∀ k < 128, let d := lowerChar (Char.ofNat k); d.toNat ≠ 0x130 ∧ lowerChar d = d := by decide +kernel
    obtain ⟨hdotted, hkept⟩ := hletters c.toNat hascii
    rw [Char.ofNat_toNat] at hdotted hkept
    exact ⟨hdotted, hkept⟩
  · cases himage : lowerRuns.findSome? (·.image? c.toNat) with
    | none =>
      have hkept : lowerChar c = c := by
        rw [lowerChar, if_neg hascii, himage]
        rfl
      rw [hkept]
      exact ⟨h, hkept⟩
    | some m =>
      obtain ⟨r, hr, hm⟩ := List.exists_of_findSome?_eq_some himage
      rw [lowerChar, if_neg hascii, himage]
      exact isSmall_of_image? hr hm

/-! ## Texts -/

theorem isSmall_of_mem_lowerChars {cs : List Char} {before : List Char} {d : Char} (h : d ∈ lowerChars before cs) :
    IsSmall d := by
  induction cs generalizing before with
  | nil => cases h
  | cons c cs ih =>
    rw [lowerChars, List.mem_append] at h
    rcases h with hhere | hlater
    · split at hhere
      · -- the dotted capital, which becomes a letter and a dot
        have heither : d = 'i' ∨ d = Char.ofNat 0x307 := by simpa using hhere
        rcases heither with rfl | rfl <;> exact ⟨by decide +kernel, by decide +kernel⟩
      · next hdotted =>
        split at hhere
        · -- the sigma, inside a word or at its end
          rw [List.mem_singleton] at hhere
          split at hhere <;> subst hhere <;> exact ⟨by decide +kernel, by decide +kernel⟩
        · rw [List.mem_singleton] at hhere
          exact hhere ▸ isSmall_lowerChar hdotted
    · exact ih hlater

theorem lowerChars_of_isSmall {cs : List Char} (h : ∀ c ∈ cs, IsSmall c) (before : List Char) :
    lowerChars before cs = cs := by
  induction cs generalizing before with
  | nil => rfl
  | cons c cs ih =>
    have hc := h c List.mem_cons_self
    rw [lowerChars, if_neg hc.not_dotted, if_neg hc.not_sigma, hc.kept, List.singleton_append,
      ih fun d hd => h d (List.mem_cons_of_mem _ hd)]

/-- **Small letters stay as they are.** -/
theorem lower_lower (s : String) : lower (lower s) = lower s := by
  have hsmall : ∀ c ∈ (lower s).toList, IsSmall c := by
    intro c hc
    rw [lower, String.toList_ofList] at hc
    exact isSmall_of_mem_lowerChars hc
  rw [lower, lowerChars_of_isSmall hsmall, String.ofList_toList]

end ServerTree.Text
