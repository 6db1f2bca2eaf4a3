import ServerTree.Sanitize

/-!
# What a sanitized text does not show

A sanitized text matches no sensitive pattern and has no path of a source file in it. A message that is
replaced shows only what it is replaced by; of any other message one line stays, in which neither the marks
that stand for paths nor the points that end a cut text can be part of a match.

## Main definitions
- `Consumes`: the texts that a pattern matches as a whole
- `IsPath`: the path of a source file
- `IsHarmless`: a text without sensitive parts and paths

## Main statements
- `occurs_iff`, `hasPath_iff`: both are searched for at every place
- `isHarmless_sanitizeText`, `isHarmless_of_sanitizeMessage`: sanitized texts are harmless
- `isHarmless_errorStatus`: so is what stands in for the detail of an HTTP error
-/

namespace ServerTree

open Text

/-! ## Parts of texts -/

section Infix

variable {α : Type} {a m x : List α} {c : α}

/-- A part that begins with no element of the first half lies in the second one. -/
theorem infix_of_cons_infix_append (h : c :: x <:+: a ++ m) (hc : c ∉ a) : c :: x <:+: m := by
  induction a with
  | nil => exact h
  | cons d a ih =>
    rcases List.infix_cons_iff.mp h with hfront | hrest
    · have heq : c = d := (List.cons_prefix_cons.mp hfront).1
      exact absurd (heq ▸ List.mem_cons_self) hc
    · exact ih hrest fun ha => hc (List.mem_cons_of_mem d ha)

/-- A part that ends with no element of the second half lies in the first one. -/
theorem infix_of_concat_infix_append (h : x ++ [c] <:+: a ++ m) (hc : c ∉ m) : x ++ [c] <:+: a := by
  have hreversed : (x ++ [c]).reverse <:+: (a ++ m).reverse := List.reverse_infix.mpr h
  rw [List.reverse_append, List.reverse_append] at hreversed
  have hfirst : [c].reverse ++ x.reverse <:+: a.reverse :=
    infix_of_cons_infix_append hreversed fun hm => hc (List.mem_reverse.mp hm)
  rw [← List.reverse_append] at hfirst
  exact List.reverse_infix.mp hfirst

theorem prefix_of_not_mem (h : x <+: a ++ c :: m) (hc : c ∉ x) : x <+: a := by
  induction a generalizing x with
  | nil =>
    cases x with
    | nil => exact List.nil_prefix
    | cons d x =>
      have heq : d = c := (List.cons_prefix_cons.mp h).1
      exact absurd (heq ▸ List.mem_cons_self) hc
  | cons d a ih =>
    cases x with
    | nil => exact List.nil_prefix
    | cons e x =>
      obtain ⟨heq, hrest⟩ := List.cons_prefix_cons.mp h
      exact List.cons_prefix_cons.mpr ⟨heq, ih hrest fun hx => hc (List.mem_cons_of_mem e hx)⟩

/-- A part without the element between two halves lies in one of them. -/
theorem infix_or_infix_of_not_mem (h : x <:+: a ++ c :: m) (hc : c ∉ x) : x <:+: a ∨ x <:+: m := by
  induction a with
  | nil =>
    rcases List.infix_cons_iff.mp h with hfront | hrest
    · exact .inl (prefix_of_not_mem (a := []) hfront hc).isInfix
    · exact .inr hrest
  | cons d a ih =>
    rcases List.infix_cons_iff.mp h with hfront | hrest
    · exact .inl (prefix_of_not_mem (a := d :: a) hfront hc).isInfix
    · exact (ih hrest).imp_left fun ha => ha.trans (List.suffix_cons d a).isInfix

end Infix

/-! ## Patterns -/

namespace Text

/-- The characters of a piece. -/
def Piece.accepts : Piece → Char → Bool
  | .one p | .optional p | .many p => p

/-- The texts that a row of pieces matches as a whole. -/
inductive Consumes : List Piece → List Char → Prop
  | nil : Consumes [] []
  | one {p c ps cs} : p c = true → Consumes ps cs → Consumes (.one p :: ps) (c :: cs)
  | left {p ps cs} : Consumes ps cs → Consumes (.optional p :: ps) cs
  | optional {p c ps cs} : p c = true → Consumes ps cs → Consumes (.optional p :: ps) (c :: cs)
  | last {p c ps cs} : p c = true → Consumes ps cs → Consumes (.many p :: ps) (c :: cs)
  | more {p c ps cs} : p c = true → Consumes (.many p :: ps) cs → Consumes (.many p :: ps) (c :: cs)

/-- A pattern matches in front of a text when it matches some front part as a whole. -/
theorem exists_consumes_of_matchesAt {ps : List Piece} {cs : List Char} (h : matchesAt ps cs = true) :
    ∃ x, x <+: cs ∧ Consumes ps x := by
  fun_induction matchesAt ps cs with
  | case1 cs => exact ⟨[], List.nil_prefix, .nil⟩
  | case2 p ps c cs ih =>
    obtain ⟨hc, hrest⟩ := Bool.and_eq_true_iff.mp h
    obtain ⟨x, hx, hconsumes⟩ := ih hrest
    exact ⟨c :: x, List.cons_prefix_cons.mpr ⟨rfl, hx⟩, .one hc hconsumes⟩
  | case3 p ps => cases h
  | case4 p ps c cs ihtaken ihleft =>
    rcases Bool.or_eq_true_iff.mp h with htaken | hleft
    · obtain ⟨hc, hrest⟩ := Bool.and_eq_true_iff.mp htaken
      obtain ⟨x, hx, hconsumes⟩ := ihtaken hrest
      exact ⟨c :: x, List.cons_prefix_cons.mpr ⟨rfl, hx⟩, .optional hc hconsumes⟩
    · obtain ⟨x, hx, hconsumes⟩ := ihleft hleft
      exact ⟨x, hx, .left hconsumes⟩
  | case5 p ps ih =>
    obtain ⟨x, hx, hconsumes⟩ := ih h
    exact ⟨x, hx, .left hconsumes⟩
  | case6 p ps c cs ihmore ihlast =>
    obtain ⟨hc, hrest⟩ := Bool.and_eq_true_iff.mp h
    rcases Bool.or_eq_true_iff.mp hrest with hmore | hlast
    · obtain ⟨x, hx, hconsumes⟩ := ihmore hmore
      exact ⟨c :: x, List.cons_prefix_cons.mpr ⟨rfl, hx⟩, .more hc hconsumes⟩
    · obtain ⟨x, hx, hconsumes⟩ := ihlast hlast
      exact ⟨c :: x, List.cons_prefix_cons.mpr ⟨rfl, hx⟩, .last hc hconsumes⟩
  | case7 p ps => cases h

theorem Consumes.matchesAt {ps : List Piece} {x : List Char} (h : Consumes ps x) (rest : List Char) :
    matchesAt ps (x ++ rest) = true := by
  induction h with
  | nil => simp [Text.matchesAt]
  | one hc _ ih => simp [Text.matchesAt, hc, ih]
  | @left p ps cs _ ih =>
    cases hrest : cs ++ rest with
    | nil =>
      rw [hrest] at ih
      simp [Text.matchesAt, ih]
    | cons c cs' =>
      rw [hrest] at ih
      simp [Text.matchesAt, ih]
  | optional hc _ ih => simp [Text.matchesAt, hc, ih]
  | last hc _ ih => simp [Text.matchesAt, hc, ih]
  | more hc _ ih => simp [Text.matchesAt, hc, ih]

/-- A pattern occurs in a text when it matches some part as a whole. -/
theorem occurs_iff {ps : List Piece} {cs : List Char} :
    occurs ps cs = true ↔ ∃ x, x <:+: cs ∧ Consumes ps x := by
  constructor
  · intro h
    induction cs with
    | nil =>
      obtain ⟨x, hx, hconsumes⟩ := exists_consumes_of_matchesAt h
      exact ⟨x, hx.isInfix, hconsumes⟩
    | cons c cs ih =>
      rcases Bool.or_eq_true_iff.mp h with hhere | hlater
      · obtain ⟨x, hx, hconsumes⟩ := exists_consumes_of_matchesAt hhere
        exact ⟨x, hx.isInfix, hconsumes⟩
      · obtain ⟨x, hx, hconsumes⟩ := ih hlater
        exact ⟨x, hx.trans (List.suffix_cons c cs).isInfix, hconsumes⟩
  · rintro ⟨x, ⟨before, after, rfl⟩, hconsumes⟩
    rw [List.append_assoc]
    have hhere := hconsumes.matchesAt after
    induction before with
    | nil => cases hcs : x ++ after <;> simp_all [occurs]
    | cons c before ih => exact Bool.or_eq_true_iff.mpr (.inr ih)

/-- What is consumed is accepted, character by character. -/
theorem Consumes.accepted {ps : List Piece} {x : List Char} (h : Consumes ps x) :
    ∀ c ∈ x, ∃ piece ∈ ps, piece.accepts c = true := by
  induction h with
  | nil => simp
  | left _ ih => exact fun c hc => (ih c hc).imp fun _ hpiece => ⟨List.mem_cons_of_mem _ hpiece.1, hpiece.2⟩
  | more hc _ ih => exact List.forall_mem_cons.mpr ⟨⟨_, List.mem_cons_self, hc⟩, ih⟩
  | one hc _ ih | optional hc _ ih | last hc _ ih =>
    refine List.forall_mem_cons.mpr ⟨⟨_, List.mem_cons_self, hc⟩, fun d hd => ?_⟩
    exact (ih d hd).imp fun _ hpiece => ⟨List.mem_cons_of_mem _ hpiece.1, hpiece.2⟩

/-- A piece for one character takes one. -/
theorem Consumes.exists_of_one {ps : List Piece} {p : Char → Bool} {x : List Char} (h : Consumes ps x)
    (hp : .one p ∈ ps) : ∃ c ∈ x, p c = true := by
  induction h with
  | nil => cases hp
  | one hc _ ih =>
    rcases List.mem_cons.mp hp with heq | hp
    · cases heq
      exact ⟨_, List.mem_cons_self, hc⟩
    · exact (ih hp).imp fun _ hd => ⟨List.mem_cons_of_mem _ hd.1, hd.2⟩
  | left _ ih =>
    rcases List.mem_cons.mp hp with heq | hp
    · cases heq
    · exact ih hp
  | optional hc _ ih | last hc _ ih =>
    rcases List.mem_cons.mp hp with heq | hp
    · cases heq
    · exact (ih hp).imp fun _ hd => ⟨List.mem_cons_of_mem _ hd.1, hd.2⟩
  | more hc _ ih => exact (ih hp).imp fun _ hd => ⟨List.mem_cons_of_mem _ hd.1, hd.2⟩

/-- The last piece takes the last character, when it takes one. -/
theorem Consumes.concat {ps : List Piece} {p : Char → Bool} {x : List Char}
    (h : Consumes (ps ++ [.one p]) x) : ∃ y c, x = y ++ [c] ∧ p c = true := by
  generalize hall : ps ++ [.one p] = all at h
  induction h generalizing ps with
  | nil => simp at hall
  | @one q c qs cs hc hrest ih =>
    cases ps with
    | nil =>
      obtain ⟨heq, rfl⟩ := List.cons.inj hall
      cases heq
      cases hrest
      exact ⟨[], c, rfl, hc⟩
    | cons piece ps =>
      obtain ⟨y, d, rfl, hd⟩ := ih (List.cons.inj hall).2
      exact ⟨c :: y, d, rfl, hd⟩
  | @left q qs cs hrest ih =>
    cases ps with
    | nil => cases (List.cons.inj hall).1
    | cons piece ps => exact ih (List.cons.inj hall).2
  | @optional q c qs cs hc hrest ih | @last q c qs cs hc hrest ih =>
    cases ps with
    | nil => cases (List.cons.inj hall).1
    | cons piece ps =>
      obtain ⟨y, d, rfl, hd⟩ := ih (List.cons.inj hall).2
      exact ⟨c :: y, d, rfl, hd⟩
  | @more q c qs cs hc hrest ih =>
    obtain ⟨y, d, rfl, hd⟩ := ih hall
    exact ⟨c :: y, d, rfl, hd⟩

end Text

/-- A text is sensitive when some part of it is what a pattern matches. -/
theorem isSensitive_iff {cs : List Char} :
    isSensitive cs = true ↔ ∃ x ps, x <:+: cs ∧ ps ∈ sensitivePatterns ∧ Consumes ps x := by
  simp only [isSensitive, List.any_eq_true, occurs_iff]
  constructor
  · rintro ⟨ps, hps, x, hx, hconsumes⟩
    exact ⟨x, ps, hx, hps, hconsumes⟩
  · rintro ⟨x, ps, hx, hps, hconsumes⟩
    exact ⟨ps, hps, x, hx, hconsumes⟩

/-- No pattern takes the brackets of a mark. -/
theorem sensitive_rejects_brackets : ∀ ps ∈ sensitivePatterns, ∀ piece ∈ ps,
    piece.accepts '[' = false ∧ piece.accepts ']' = false := by
  decide +kernel

/-- Every pattern ends in a character that is no point. -/
theorem sensitive_ends {ps : List Piece} (h : ps ∈ sensitivePatterns) :
    ∃ init p, ps = init ++ [.one p] ∧ p '.' = false := by
  have hlast : ∀ ps ∈ sensitivePatterns,
      (ps.getLast?.any fun piece => match piece with
        | .one p => !p '.'
        | _ => false) = true := by
    decide
  obtain ⟨piece, hpiece, hpoint⟩ := (Option.any_eq_true _ _).mp (hlast ps h)
  obtain ⟨init, rfl⟩ := List.getLast?_eq_some_iff.mp hpiece
  cases piece with
  | one p => exact ⟨init, p, rfl, by simpa using hpoint⟩
  | _ => cases hpoint

/-! ## Paths -/

/-- The path of a source file. -/
def IsPath (x : List Char) : Prop :=
  ∃ run ending, x = '/' :: (run ++ ending) ∧ run ≠ [] ∧ (∀ c ∈ run, isPathChar c = true) ∧
    ending ∈ sourceEndings

theorem exists_ending_of_afterEnding? {cs r : List Char} (h : afterEnding? cs = some r) :
    ∃ ending ∈ sourceEndings, cs = ending ++ r := by
  obtain ⟨ending, hending, hfound⟩ := List.exists_of_findSome?_eq_some h
  split at hfound
  · obtain rfl := Option.some.inj hfound
    rename_i hprefix
    obtain ⟨rest, rfl⟩ := List.isPrefixOf_iff_prefix.mp hprefix
    exact ⟨ending, hending, by rw [List.drop_left]⟩
  · cases hfound

/-- After a path comes what follows path characters and an ending. -/
theorem exists_run_of_afterPath? {cs r : List Char} (h : afterPath? cs = some r) :
    ∃ run ending, cs = run ++ ending ++ r ∧ run ≠ [] ∧ (∀ c ∈ run, isPathChar c = true) ∧
      ending ∈ sourceEndings := by
  induction cs with
  | nil => cases h
  | cons c cs ih =>
    rw [afterPath?] at h
    split at h
    · rename_i hc
      split at h
      · rename_i r' hlater
        obtain rfl := Option.some.inj h
        obtain ⟨run, ending, rfl, -, hrun, hending⟩ := ih hlater
        exact ⟨c :: run, ending, rfl, List.cons_ne_nil _ _, List.forall_mem_cons.mpr ⟨hc, hrun⟩, hending⟩
      · obtain ⟨ending, hending, rfl⟩ := exists_ending_of_afterEnding? h
        exact ⟨[c], ending, rfl, List.cons_ne_nil _ _, by simpa using hc, hending⟩
    · cases h

theorem afterEnding?_isSome {ending : List Char} (h : ending ∈ sourceEndings) (r : List Char) :
    (afterEnding? (ending ++ r)).isSome = true := by
  rw [afterEnding?, List.findSome?_isSome_iff]
  exact ⟨ending, h, by simp⟩

theorem afterPath?_isSome {run ending : List Char} (hne : run ≠ []) (hrun : ∀ c ∈ run, isPathChar c = true)
    (hending : ending ∈ sourceEndings) (r : List Char) : (afterPath? (run ++ ending ++ r)).isSome = true := by
  induction run with
  | nil => exact absurd rfl hne
  | cons c run ih =>
    obtain ⟨hc, hrun⟩ := List.forall_mem_cons.mp hrun
    rw [List.cons_append, List.cons_append, afterPath?, if_pos hc]
    cases hlater : afterPath? (run ++ ending ++ r) with
    | some r' => rfl
    | none =>
      -- the run is not longer than this, or the search would have gone on
      cases run with
      | nil => exact afterEnding?_isSome hending r
      | cons d run =>
        have hfound := ih (List.cons_ne_nil _ _) hrun
        rw [hlater] at hfound
        cases hfound

/-- A text has a path when some part of it is one. -/
theorem hasPath_iff {cs : List Char} : hasPath cs = true ↔ ∃ x, x <:+: cs ∧ IsPath x := by
  constructor
  · intro h
    induction cs with
    | nil => cases h
    | cons c cs ih =>
      rcases Bool.or_eq_true_iff.mp h with hhere | hlater
      · obtain ⟨hslash, hpath⟩ := Bool.and_eq_true_iff.mp hhere
        obtain rfl : c = '/' := by simpa using hslash
        obtain ⟨r, hr⟩ := Option.isSome_iff_exists.mp hpath
        obtain ⟨run, ending, rfl, hne, hrun, hending⟩ := exists_run_of_afterPath? hr
        exact ⟨'/' :: (run ++ ending), ⟨[], r, rfl⟩, run, ending, rfl, hne, hrun, hending⟩
      · obtain ⟨x, hx, hpath⟩ := ih hlater
        exact ⟨x, hx.trans (List.suffix_cons c cs).isInfix, hpath⟩
  · rintro ⟨x, ⟨before, after, rfl⟩, run, ending, rfl, hne, hrun, hending⟩
    rw [List.append_assoc]
    induction before with
    | nil =>
      have hfound := afterPath?_isSome hne hrun hending after
      simp only [List.nil_append, List.cons_append, hasPath, hfound]
      rfl
    | cons c before ih => exact Bool.or_eq_true_iff.mpr (.inr ih)

/-- A path has no brackets. -/
theorem IsPath.brackets {x : List Char} (h : IsPath x) : '[' ∉ x ∧ ']' ∉ x := by
  obtain ⟨run, ending, rfl, -, hrun, hending⟩ := h
  have hendings : ∀ e ∈ sourceEndings, ∀ c ∈ e, isPathChar c = true := by
    have hall : (sourceEndings.all fun e => e.all isPathChar) = true := by decide
    simpa only [List.all_eq_true] using hall
  have hchars : ∀ c ∈ '/' :: (run ++ ending), isPathChar c = true := by
    refine List.forall_mem_cons.mpr ⟨by decide, fun c hc => ?_⟩
    exact (List.mem_append.mp hc).elim (hrun c) (hendings ending hending c)
  exact ⟨fun h => absurd (hchars _ h) (by decide), fun h => absurd (hchars _ h) (by decide)⟩

/-- A path ends in a letter. -/
theorem IsPath.concat {x : List Char} (h : IsPath x) : ∃ y c, x = y ++ [c] ∧ c ≠ '.' := by
  obtain ⟨run, ending, rfl, -, -, hending⟩ := h
  have hlast : ∀ e ∈ sourceEndings, (e.getLast?.any fun c => c ≠ '.') = true := by decide
  obtain ⟨c, hc, hpoint⟩ := (Option.any_eq_true _ _).mp (hlast ending hending)
  obtain ⟨init, rfl⟩ := List.getLast?_eq_some_iff.mp hc
  exact ⟨'/' :: (run ++ init), c, by simp, by simpa using hpoint⟩

/-! ## Masking -/

/-- What comes after a path is the end of a text. -/
theorem suffix_of_afterPath? {cs r : List Char} (h : afterPath? cs = some r) : r <:+ cs := by
  obtain ⟨run, ending, rfl, -⟩ := exists_run_of_afterPath? h
  exact List.suffix_append _ r

/-- What stands in front of a masked text and has no bracket stands in front of the text. -/
theorem prefix_of_prefix_maskFrom {fuel : Nat} {cs x : List Char} (h : x <+: maskFrom fuel cs)
    (hx : '[' ∉ x) : x <+: cs := by
  induction fuel generalizing cs x with
  | zero => exact h
  | succ fuel ih =>
    cases cs with
    | nil => exact h
    | cons c cs =>
      cases x with
      | nil => exact List.nil_prefix
      | cons d x =>
        have hkept : d :: x <+: c :: maskFrom fuel cs → d :: x <+: c :: cs := fun h => by
          obtain ⟨heq, hrest⟩ := List.cons_prefix_cons.mp h
          exact List.cons_prefix_cons.mpr ⟨heq, ih hrest fun hm => hx (List.mem_cons_of_mem _ hm)⟩
        rw [maskFrom] at h
        split at h
        · split at h
          · have heq : d = '[' := (List.cons_prefix_cons.mp h).1
            exact absurd (heq ▸ List.mem_cons_self) hx
          · exact hkept h
        · exact hkept h

/-- A part of a masked text without brackets is one of the text, or of a mark. -/
theorem infix_of_infix_maskFrom {fuel : Nat} {cs x : List Char} (h : x <:+: maskFrom fuel cs)
    (hopen : '[' ∉ x) (hclose : ']' ∉ x) : x <:+: cs ∨ x <:+: "path".toList := by
  induction fuel generalizing cs with
  | zero => exact .inl h
  | succ fuel ih =>
    cases cs with
    | nil => exact .inl h
    | cons c cs =>
      have hkept : x <:+: c :: maskFrom fuel cs → x <:+: c :: cs ∨ x <:+: "path".toList := by
        intro h
        rcases List.infix_cons_iff.mp h with hfront | hrest
        · have hmasked : x <+: c :: cs := by
            cases x with
            | nil => exact List.nil_prefix
            | cons d x =>
              obtain ⟨heq, hrest⟩ := List.cons_prefix_cons.mp hfront
              have hfront := prefix_of_prefix_maskFrom hrest fun hm => hopen (List.mem_cons_of_mem _ hm)
              exact List.cons_prefix_cons.mpr ⟨heq, hfront⟩
          exact .inl hmasked.isInfix
        · exact (ih hrest).imp_left fun h => h.trans (List.suffix_cons c cs).isInfix
      rw [maskFrom] at h
      split at h
      · split at h
        · rename_i r hr
          -- a part without brackets is inside the mark or behind it
          rcases infix_or_infix_of_not_mem (a := []) h hopen with hnil | hbehind
          · exact .inl (hnil.trans List.nil_infix)
          · rcases infix_or_infix_of_not_mem (a := "path".toList) hbehind hclose with hmark | hrest
            · exact .inr hmark
            · refine (ih hrest).imp_left fun h => ?_
              exact h.trans ((suffix_of_afterPath? hr).trans (List.suffix_cons c cs)).isInfix
        · exact hkept h
      · exact hkept h

/-- A masked text has no path. -/
theorem not_infix_maskFrom {fuel : Nat} {cs x : List Char} (hfuel : cs.length ≤ fuel) (hx : IsPath x) :
    ¬ x <:+: maskFrom fuel cs := by
  obtain ⟨hopen, hclose⟩ := hx.brackets
  obtain ⟨run, ending, rfl, hne, hrun, hending⟩ := hx
  intro h
  induction fuel generalizing cs with
  | zero =>
    obtain rfl : cs = [] := List.length_eq_zero_iff.mp (Nat.le_zero.mp hfuel)
    cases List.infix_nil.mp h
  | succ fuel ih =>
    cases cs with
    | nil => cases List.infix_nil.mp h
    | cons c cs =>
      have hshorter : cs.length ≤ fuel := by simpa using hfuel
      rw [maskFrom] at h
      split at h
      · split at h
        · rename_i r hr
          -- a path begins with a stroke, and a mark has none
          have hbehind := infix_of_cons_infix_append h (by decide)
          exact ih (Nat.le_trans (suffix_of_afterPath? hr).length_le hshorter) hbehind
        · rename_i hnone
          rcases List.infix_cons_iff.mp h with hfront | hrest
          · -- what was masked behind it cannot have been part of a path at this place
            have hmasked := (List.cons_prefix_cons.mp hfront).2
            obtain ⟨after, rfl⟩ :=
              prefix_of_prefix_maskFrom hmasked fun hm => hopen (List.mem_cons_of_mem _ hm)
            have hfound := afterPath?_isSome hne hrun hending after
            rw [hnone] at hfound
            cases hfound
          · exact ih hshorter hrest
      · rename_i hslash
        rcases List.infix_cons_iff.mp h with hfront | hrest
        · exact hslash (List.cons_prefix_cons.mp hfront).1.symm
        · exact ih hshorter hrest

/-! ## Harmless texts -/

/-- A text without sensitive parts and paths. -/
structure IsHarmless (cs : List Char) : Prop where
  sensitive : isSensitive cs = false
  path : hasPath cs = false

/-- A text is harmless when no part of it is what a pattern matches or a path. -/
theorem isHarmless_iff {cs : List Char} : IsHarmless cs ↔
    (∀ ps ∈ sensitivePatterns, ∀ x, Consumes ps x → ¬ x <:+: cs) ∧ ∀ x, IsPath x → ¬ x <:+: cs := by
  have hsensitive : isSensitive cs = false ↔ ∀ ps ∈ sensitivePatterns, ∀ x, Consumes ps x → ¬ x <:+: cs := by
    rw [← Bool.not_eq_true, isSensitive_iff]
    constructor
    · exact fun h ps hps x hconsumes hx => h ⟨x, ps, hx, hps, hconsumes⟩
    · rintro h ⟨x, ps, hx, hps, hconsumes⟩
      exact h ps hps x hconsumes hx
  have hpath : hasPath cs = false ↔ ∀ x, IsPath x → ¬ x <:+: cs := by
    rw [← Bool.not_eq_true, hasPath_iff]
    constructor
    · exact fun h x hpath hx => h ⟨x, hx, hpath⟩
    · rintro h ⟨x, hx, hpath⟩
      exact h x hpath hx
  rw [← hsensitive, ← hpath]
  exact ⟨fun h => ⟨h.sensitive, h.path⟩, fun h => ⟨h.1, h.2⟩⟩

/-- A text is harmless when it is written in letters that are not enough for any pattern, and without
strokes. -/
theorem isHarmless_of_letters (letters : List Char) {cs : List Char}
    (hmissing : (sensitivePatterns.all fun ps => ps.any fun piece => match piece with
      | .one p => letters.all fun c => !p c
      | _ => false) = true)
    (hslash : '/' ∉ letters) (hcs : ∀ c ∈ cs, c ∈ letters) : IsHarmless cs := by
  refine isHarmless_iff.mpr ⟨?_, ?_⟩
  · intro ps hps x hconsumes hx
    obtain ⟨piece, hpiece, hnone⟩ := List.any_eq_true.mp (List.all_eq_true.mp hmissing ps hps)
    cases piece with
    | one p =>
      obtain ⟨c, hc, htaken⟩ := hconsumes.exists_of_one hpiece
      have hrejected := List.all_eq_true.mp hnone c (hcs c (hx.subset hc))
      simp [htaken] at hrejected
    | _ => cases hnone
  · rintro x ⟨run, ending, rfl, -⟩ hx
    exact hslash (hcs '/' (hx.subset List.mem_cons_self))

/-- Masking makes a text that is not sensitive harmless. -/
theorem isHarmless_maskPaths {cs : List Char} (h : isSensitive cs = false) : IsHarmless (maskPaths cs) := by
  refine isHarmless_iff.mpr ⟨?_, fun x hpath => not_infix_maskFrom (Nat.le_refl _) hpath⟩
  intro ps hps x hconsumes hx
  have haccepted := hconsumes.accepted
  have hopen : '[' ∉ x := fun hm => by
    obtain ⟨piece, hpiece, haccepts⟩ := haccepted _ hm
    simp [(sensitive_rejects_brackets ps hps piece hpiece).1] at haccepts
  have hclose : ']' ∉ x := fun hm => by
    obtain ⟨piece, hpiece, haccepts⟩ := haccepted _ hm
    simp [(sensitive_rejects_brackets ps hps piece hpiece).2] at haccepts
  have hmark : IsHarmless "path".toList :=
    isHarmless_of_letters "path".toList (by decide +kernel) (by decide) fun _ hc => hc
  rcases infix_of_infix_maskFrom hx hopen hclose with hx | hx
  · exact absurd (isSensitive_iff.mpr ⟨x, ps, hx, hps, hconsumes⟩) (by simp [h])
  · exact absurd hx ((isHarmless_iff.mp hmark).1 ps hps x hconsumes)

/-- A harmless text stays so when it is cut and points are put after it. -/
theorem IsHarmless.cut {cs front : List Char} (h : IsHarmless cs) (hfront : front <+: cs) :
    IsHarmless (front ++ ['.', '.', '.']) := by
  obtain ⟨hsensitive, hpath⟩ := isHarmless_iff.mp h
  -- what ends in another character than a point is in the part that was kept
  have hkept : ∀ x y c, x = y ++ [c] → c ≠ '.' → x <:+: front ++ ['.', '.', '.'] → x <:+: cs := by
    rintro x y c rfl hc hx
    have hinside := infix_of_concat_infix_append hx (by simpa using hc)
    exact hinside.trans hfront.isInfix
  refine isHarmless_iff.mpr ⟨?_, ?_⟩
  · intro ps hps x hconsumes hx
    obtain ⟨init, p, rfl, hpoint⟩ := sensitive_ends hps
    obtain ⟨y, c, hlast, hc⟩ := hconsumes.concat
    have hne : c ≠ '.' := by
      rintro rfl
      simp [hpoint] at hc
    exact hsensitive _ hps x hconsumes (hkept x y c hlast hne hx)
  · intro x hx hinfix
    obtain ⟨y, c, hlast, hc⟩ := hx.concat
    exact hpath x hx (hkept x y c hlast hc hinfix)

theorem takeFirst_isPrefix (n : Nat) (cs : List Char) : takeFirst n cs <+: cs := by
  have hparts : (glyphsOf cs).take n ++ (glyphsOf cs).drop n = glyphsOf cs := List.take_append_drop n _
  have hflat := congrArg List.flatten hparts
  rw [List.flatten_append, flatten_glyphsOf] at hflat
  exact ⟨_, hflat⟩

/-- **What is shown of a message is harmless**. -/
theorem isHarmless_sanitizeText (message : String) : IsHarmless (sanitizeText message).toList := by
  rw [sanitizeText]
  simp only
  split
  · exact isHarmless_of_letters [] (by decide) (by decide) fun _ hc => hc
  · rename_i hsensitive
    have hmasked := isHarmless_maskPaths (Bool.not_eq_true _ ▸ hsensitive)
    split
    · rw [String.toList_ofList]
      exact hmasked.cut (takeFirst_isPrefix _ _)
    · rw [String.toList_ofList]
      exact hmasked

/-- The message of an error value is harmless, unless it is the fallback. -/
theorem isHarmless_of_sanitizeMessage {error : Value} {fallback text : String}
    (h : sanitizeMessage error fallback = .ok text) : text = fallback ∨ IsHarmless text.toList := by
  rw [sanitizeMessage] at h
  cases htext : errorText? error with
  | error f =>
    rw [htext] at h
    cases h
  | ok text? =>
    rw [htext] at h
    have heq := Except.ok.inj h
    simp only at heq
    split at heq
    · exact .inl heq.symm
    · exact .inr (heq ▸ isHarmless_sanitizeText _)

/-! ## The texts of the library -/

/-- The fixed texts that stand in for what is not shown. -/
def ownTexts : List String :=
  ["Middleware error", "Internal server error", "Request failed", "Middleware timeout", "Too many requests"]

/-- The letters, digits and signs of these texts and of what stands in for the detail of an HTTP error. -/
def ownLetters : List Char := "EIMRTadefilmnoqrstuvwy -0123456789".toList

theorem isHarmless_of_ownLetters {cs : List Char} (h : ∀ c ∈ cs, c ∈ ownLetters) : IsHarmless cs :=
  isHarmless_of_letters ownLetters (by decide +kernel) (by decide) h

/-- A text is in these letters when every one of them is found. -/
theorem mem_ownLetters_of_all {cs : List Char} (h : (cs.all fun c => ownLetters.contains c) = true) :
    ∀ c ∈ cs, c ∈ ownLetters := by
  simpa only [List.all_eq_true, List.contains_iff_mem] using h

theorem isHarmless_of_mem_ownTexts {text : String} (h : text ∈ ownTexts) : IsHarmless text.toList := by
  have hall : (ownTexts.all fun text => text.toList.all fun c => ownLetters.contains c) = true := by
    decide +kernel
  exact isHarmless_of_ownLetters (mem_ownLetters_of_all (List.all_eq_true.mp hall text h))

/-- The digits of a number. -/
theorem mem_ownLetters_of_digit {n : Nat} {c : Char} (h : c ∈ (toString n).toList) : c ∈ ownLetters := by
  have hall : ∀ k < 58, 48 ≤ k → Char.ofNat k ∈ ownLetters := by decide +kernel
  rw [Nat.toString_eq_ofList_toDigits, String.toList_ofList] at h
  have hdigit := Nat.isDigit_of_mem_toDigits (by decide) (by decide) h
  simp only [Char.isDigit, Bool.and_eq_true, decide_eq_true_eq] at hdigit
  have hlow : 48 ≤ c.toNat := UInt32.le_iff_toNat_le.mp hdigit.1
  have hhigh : c.toNat ≤ 57 := UInt32.le_iff_toNat_le.mp hdigit.2
  exact Char.ofNat_toNat c ▸ hall c.toNat (by omega) hlow

/-- What stands in for the detail of an HTTP error is harmless. -/
theorem isHarmless_errorStatus (status : Int) : IsHarmless ("Error " ++ toString status).toList := by
  refine isHarmless_of_ownLetters fun c hc => ?_
  have hsigns : ∀ c ∈ "Error ".toList ++ "-".toList, c ∈ ownLetters :=
    mem_ownLetters_of_all (by decide +kernel)
  rw [String.toList_append, Int.toString_eq_repr, Int.repr_eq_if] at hc
  rcases List.mem_append.mp hc with hword | hnumber
  · exact hsigns c (List.mem_append_left _ hword)
  · split at hnumber
    · exact mem_ownLetters_of_digit hnumber
    · rw [String.toList_append] at hnumber
      rcases List.mem_append.mp hnumber with hsign | hdigits
      · exact hsigns c (List.mem_append_right _ hsign)
      · exact mem_ownLetters_of_digit hdigits

end ServerTree
