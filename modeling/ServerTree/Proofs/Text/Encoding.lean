import ServerTree.Text.Case
import ServerTree.Text.Encoding

/-!
# Texts that come back from their bytes

Latin-1 has one byte for each of its characters, so a text and its bytes tell each other; small letters of
Latin-1 texts are in Latin-1 again. UTF-8 has up to four bytes for a code point, and a strict reader finds the
code points that were written, without a gap.

## Main definitions
- `IsLatin1`: a text that has Latin-1 bytes
- `IsUtf8`: bytes in which a strict reader finds the code points of a text

## Main statements
- `latin1?_eq_some_iff`: the bytes of a text are those that it is read from
- `isLatin1_lower`: small letters stay in Latin-1
- `isUtf8_of_utf8?`: a text that is written as UTF-8 is read back
-/

namespace ServerTree.Text

/-! ## Latin-1 -/

/-- A text all of whose characters are in Latin-1. -/
def IsLatin1 (s : String) : Prop := ∀ c ∈ s.toList, c.toNat < 256

-- the characters of the text are tried, not all that there are
instance (s : String) : Decidable (IsLatin1 s) := List.decidableBAll (fun c : Char => c.toNat < 256) s.toList

theorem toNat_ofNat_byte (b : UInt8) : (Char.ofNat b.toNat).toNat = b.toNat := by
  have hb := b.toNat_lt
  apply toNat_ofNat
  simp only [Nat.isValidChar]
  omega

theorem latin1Chars?_eq_some_iff {cs : List Char} {bytes : Bytes} :
    latin1Chars? cs = some bytes ↔ (bytes.map fun b => Char.ofNat b.toNat) = cs := by
  induction cs generalizing bytes with
  | nil =>
    rw [latin1Chars?, Option.some_inj, List.map_eq_nil_iff]
    exact eq_comm
  | cons c cs ih =>
    cases bytes with
    | nil => simp [latin1Chars?]
    | cons b rest =>
      simp only [latin1Chars?, List.map_cons, List.cons.injEq]
      by_cases hc : c.toNat < 256
      · -- a byte and the character that it stands for tell each other
        have hbyte : UInt8.ofNat c.toNat = b ↔ Char.ofNat b.toNat = c := by
          constructor
          · intro h
            rw [← h, UInt8.toNat_ofNat_of_lt' hc, Char.ofNat_toNat]
          · intro h
            rw [← h, toNat_ofNat_byte, UInt8.ofNat_toNat]
        rw [if_pos hc, Option.map_eq_some_iff, ← hbyte, ← ih]
        constructor
        · intro ⟨written, hwritten, hcons⟩
          obtain ⟨hfirst, rfl⟩ := List.cons.inj hcons
          exact ⟨hfirst, hwritten⟩
        · intro ⟨hfirst, hrest⟩
          exact ⟨rest, hrest, by rw [hfirst]⟩
      · simp only [hc, if_false, reduceCtorEq, false_iff, not_and]
        intro h
        have hb := b.toNat_lt
        rw [← h, toNat_ofNat_byte] at hc
        omega

/-- **The Latin-1 bytes of a text** are those that it is read from. -/
theorem latin1?_eq_some_iff {s : String} {bytes : Bytes} :
    latin1? s = some bytes ↔ latin1Decode bytes = s := by
  rw [latin1?, latin1Chars?_eq_some_iff, latin1Decode]
  constructor
  · intro h
    rw [h, String.ofList_toList]
  · intro h
    rw [← h, String.toList_ofList]

/-- A text has Latin-1 bytes when all of its characters have one. -/
theorem IsLatin1.exists_latin1? {s : String} (h : IsLatin1 s) : ∃ bytes, latin1? s = some bytes := by
  have hchars : ∀ {cs : List Char}, (∀ c ∈ cs, c.toNat < 256) → ∃ bytes, latin1Chars? cs = some bytes := by
    intro cs hcs
    induction cs with
    | nil => exact ⟨[], rfl⟩
    | cons c cs ih =>
      obtain ⟨rest, hrest⟩ := ih fun d hd => hcs d (List.mem_cons_of_mem _ hd)
      refine ⟨UInt8.ofNat c.toNat :: rest, ?_⟩
      simp [latin1Chars?, hcs c List.mem_cons_self, hrest]
  exact hchars h

/-! ### Small letters -/

/-- A character of Latin-1 has its small form there. -/
theorem toNat_lowerChar_lt {c : Char} (h : c.toNat < 256) : (lowerChar c).toNat < 256 := by
  have hascii : ∀ n < 128, (Char.ofNat n).toLower.toNat < 256 := by decide +kernel
  -- no run that begins in Latin-1 leads out of it
  have hruns : ∀ r ∈ lowerRuns, r.first < 256 → (r.last : Int) + r.delta < 256 := by decide +kernel
  rw [lowerChar]
  split
  · next hlow => simpa using hascii c.toNat hlow
  · cases himage : lowerRuns.findSome? (·.image? c.toNat) with
    | none => exact h
    | some n =>
      obtain ⟨r, hr, hn⟩ := List.exists_of_findSome?_eq_some himage
      have hrun := hruns r hr
      rw [CaseRun.image?, Option.ite_none_right_eq_some] at hn
      obtain ⟨⟨hfirst, hlast, -⟩, hmoved⟩ := hn
      have hlt : n < 256 := by
        rw [← Option.some.inj hmoved]
        omega
      have hvalid : n.isValidChar := .inl (by omega)
      show (Char.ofNat n).toNat < 256
      rw [toNat_ofNat hvalid]
      exact hlt

theorem lowerChars_lt {cs : List Char} (h : ∀ c ∈ cs, c.toNat < 256) (before : List Char) :
    ∀ c ∈ lowerChars before cs, c.toNat < 256 := by
  induction cs generalizing before with
  | nil => simp [lowerChars]
  | cons c cs ih =>
    have hc := h c List.mem_cons_self
    -- the dotted capital and the sigma, whose small forms are special, are no characters of Latin-1
    have hdotted : c.toNat ≠ 0x130 := by omega
    have hsigma : c.toNat ≠ 0x3A3 := by omega
    intro d hd
    simp only [lowerChars, hdotted, hsigma, if_false, List.singleton_append, List.mem_cons] at hd
    rcases hd with rfl | hrest
    · exact toNat_lowerChar_lt hc
    · exact ih (fun c hc => h c (List.mem_cons_of_mem _ hc)) _ d hrest

/-- **Small letters of Latin-1 texts** are in Latin-1. -/
theorem isLatin1_lower {s : String} (h : IsLatin1 s) : IsLatin1 (lower s) := by
  intro c hc
  rw [lower, String.toList_ofList] at hc
  exact lowerChars_lt h [] c hc

/-! ## UTF-8 -/

/-- Bytes in which a strict reader finds the code points of a text, and nothing that is ill-formed. -/
def IsUtf8 (bytes : Bytes) (s : String) : Prop := utf8Units false bytes = (points s).map some

/-- A continuation byte carries six bits. -/
theorem continuation {m : Nat} (h : m < 0x40) :
    isContinuation (UInt8.ofNat (0x80 + m)) = true ∧ payload (UInt8.ofNat (0x80 + m)) = m := by
  have hbyte : (UInt8.ofNat (0x80 + m)).toNat = 0x80 + m :=
    UInt8.toNat_ofNat_of_lt' (show 0x80 + m < 256 by omega)
  simp only [isContinuation, payload, hbyte, Bool.and_eq_true, decide_eq_true_eq]
  omega

/-- What is written for one code point is read as that code point. -/
theorem utf8Units_utf8Point_append {n : Nat} (hn : n ≤ 0x10FFFF) (hs : isSurrogate n = false) (rest : Bytes) :
    utf8Units false (utf8Point n ++ rest) = some n :: utf8Units false rest := by
  have hbyte : ∀ {k : Nat}, k < 256 → (UInt8.ofNat k).toNat = k := fun h => UInt8.toNat_ofNat_of_lt' h
  simp only [isSurrogate, Bool.and_eq_false_iff, decide_eq_false_iff_not] at hs
  unfold utf8Point
  split
  · next h1 =>
    rw [List.singleton_append, utf8Units.eq_def]
    simp only [hbyte (show n < 256 by omega), h1, if_true]
  split
  · next h1 h2 =>
    have hlead : (UInt8.ofNat (0xC0 + n / 0x40)).toNat = 0xC0 + n / 0x40 := hbyte (by omega)
    obtain ⟨hcont, hload⟩ := continuation (m := n % 0x40) (by omega)
    generalize UInt8.ofNat (0xC0 + n / 0x40) = b at hlead
    rw [List.cons_append, List.singleton_append, utf8Units.eq_def]
    simp only [hlead, hcont, hload, if_true]
    rw [if_neg (by omega), if_pos (by omega)]
    congr 2
    omega
  split
  · next h1 h2 h3 =>
    have hlead : (UInt8.ofNat (0xE0 + n / 0x1000)).toNat = 0xE0 + n / 0x1000 := hbyte (by omega)
    have hsecond : (UInt8.ofNat (0x80 + n / 0x40 % 0x40)).toNat = 0x80 + n / 0x40 % 0x40 := hbyte (by omega)
    obtain ⟨hcont, hload⟩ := continuation (m := n / 0x40 % 0x40) (by omega)
    obtain ⟨hcont', hload'⟩ := continuation (m := n % 0x40) (by omega)
    generalize UInt8.ofNat (0xE0 + n / 0x1000) = b at hlead
    generalize UInt8.ofNat (0x80 + n / 0x40 % 0x40) = c at hsecond hcont hload
    -- this is the shortest form, and of no surrogate
    have hfollow : mayFollowThree false b c = true := by
      simp [mayFollowThree, hcont, ← UInt8.toNat_inj, hlead, hsecond]
      omega
    rw [List.cons_append, List.cons_append, List.singleton_append, utf8Units.eq_def]
    simp only [hlead, hfollow, hcont', hload, hload', Bool.not_true, Bool.false_eq_true, if_false, if_true]
    rw [if_neg (by omega), if_neg (by omega), if_pos (by omega)]
    congr 2
    omega
  · next h1 h2 h3 =>
    have hlead : (UInt8.ofNat (0xF0 + n / 0x40000)).toNat = 0xF0 + n / 0x40000 := hbyte (by omega)
    have hsecond : (UInt8.ofNat (0x80 + n / 0x1000 % 0x40)).toNat = 0x80 + n / 0x1000 % 0x40 := hbyte (by omega)
    obtain ⟨hcont, hload⟩ := continuation (m := n / 0x1000 % 0x40) (by omega)
    obtain ⟨hcont', hload'⟩ := continuation (m := n / 0x40 % 0x40) (by omega)
    obtain ⟨hcont'', hload''⟩ := continuation (m := n % 0x40) (by omega)
    generalize UInt8.ofNat (0xF0 + n / 0x40000) = b at hlead
    generalize UInt8.ofNat (0x80 + n / 0x1000 % 0x40) = c at hsecond hcont hload
    -- this is the shortest form, and of nothing beyond the last code point
    have hfollow : mayFollowFour b c = true := by
      simp [mayFollowFour, hcont, ← UInt8.toNat_inj, hlead, hsecond]
      omega
    rw [List.cons_append, List.cons_append, List.cons_append, List.singleton_append, utf8Units.eq_def]
    simp only [hlead, hfollow, hcont', hcont'', hload, hload', hload'', Bool.not_true, Bool.false_eq_true,
      if_false, if_true]
    rw [if_neg (by omega), if_neg (by omega), if_neg (by omega), if_pos (by omega)]
    congr 2
    omega

/-- No code point of a text is beyond the last one. -/
theorem le_of_mem_pointsOf {cs : List Char} {n : Nat} (h : n ∈ pointsOf cs) : n ≤ 0x10FFFF := by
  have hchar : ∀ c : Char, c.toNat ≤ 0x10FFFF := by
    intro c
    have := c.valid
    simp only [Char.toNat, UInt32.isValidChar, Nat.isValidChar] at *
    omega
  induction cs using pointsOf.induct with
  | case1 => simp [pointsOf] at h
  | case2 c =>
    obtain rfl : n = c.toNat := by simpa [pointsOf] using h
    exact hchar c
  | case3 d r ih =>
    rw [pointsOf, if_pos rfl, List.mem_cons] at h
    rcases h with rfl | hrest
    · -- what a mark tells is below the character after it, or the last code point itself
      have := hchar d
      rw [marked]
      split <;> omega
    · exact ih hrest
  | case4 c d r hc ih =>
    rw [pointsOf, if_neg hc, List.mem_cons] at h
    rcases h with rfl | hrest
    · exact hchar c
    · exact ih hrest

/-- **A text that is written as UTF-8** is read back, code point by code point. -/
theorem isUtf8_of_utf8? {s : String} {bytes : Bytes} (h : utf8? s = some bytes) : IsUtf8 bytes s := by
  have hread : ∀ ns : List Nat, (∀ n ∈ ns, n ≤ 0x10FFFF ∧ isSurrogate n = false) →
      utf8Units false (ns.flatMap utf8Point) = ns.map some := by
    intro ns hns
    induction ns with
    | nil => simp [utf8Units]
    | cons n ns ih =>
      obtain ⟨hn, hs⟩ := hns n List.mem_cons_self
      rw [List.flatMap_cons, utf8Units_utf8Point_append hn hs,
        ih fun m hm => hns m (List.mem_cons_of_mem _ hm), List.map_cons]
  rw [utf8?, Option.ite_none_left_eq_some] at h
  obtain ⟨hnone, hbytes⟩ := h
  rw [IsUtf8, ← Option.some_inj.mp hbytes]
  apply hread
  intro n hn
  refine ⟨le_of_mem_pointsOf hn, ?_⟩
  simp only [Bool.not_eq_true, List.any_eq_false] at hnone
  simpa using hnone n hn

end ServerTree.Text
