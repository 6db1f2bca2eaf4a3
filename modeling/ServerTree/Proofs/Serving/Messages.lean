import ServerTree.Proofs.Serving.Sanitizing

/-!
# The messages that clients see

What becomes of the message of an error on its way to a client is one of two things: the fallback takes its place,
or one short line of it is shown, in which nothing matches a sensitive pattern and no path of a source file stands.
Masking comes after the search for sensitive parts and cutting comes after masking; both change the text, and
neither makes something that was searched for before. A line in this shape is left as it is, a cut one included, so
sanitizing a second time changes nothing.

## Main definitions
- `shortened`: the last step, a text that is cut when it is too long
- `IsSanitized`: lines that sanitizing leaves alone
- `IsShowable`: what a client may see

## Main statements
- `glyphsOf_takeFirst`, `glyphsOf_takeFirst_append`: cutting keeps code points whole
- `sanitizeText_eq_self`: lines in this shape are left alone
- `isSanitized_sanitizeText`: sanitized texts are in this shape
- `sanitized_messages`: what is shown of an error
-/

namespace ServerTree

open Text

/-! ## Code points of cut texts -/

namespace Text

/-- A character that is no mark is a code point by itself. -/
theorem glyphsOf_cons_of_ne {c : Char} (h : c ≠ mark) (cs : List Char) :
    glyphsOf (c :: cs) = [c] :: glyphsOf cs := by
  cases cs with
  | nil => rfl
  | cons d cs => rw [glyphsOf, if_neg h]

/-- Characters that are no marks are code points by themselves. -/
theorem length_glyphsOf_of_not_mem {cs : List Char} (h : mark ∉ cs) : (glyphsOf cs).length = cs.length := by
  induction cs with
  | nil => rfl
  | cons c cs ih =>
    rw [List.mem_cons, not_or] at h
    rw [glyphsOf_cons_of_ne (Ne.symm h.1), List.length_cons, List.length_cons, ih h.2]

theorem takeFirst_of_le {n : Nat} {cs : List Char} (h : (glyphsOf cs).length ≤ n) : takeFirst n cs = cs := by
  rw [takeFirst, List.take_of_length_le h, flatten_glyphsOf]

/-- What is cut off a longer text keeps its code points when something is put after it. -/
theorem glyphsOf_takeFirst_append {n : Nat} {cs : List Char} (h : n < (glyphsOf cs).length) (rest : List Char) :
    glyphsOf (takeFirst n cs ++ rest) = (glyphsOf cs).take n ++ glyphsOf rest := by
  -- the last code point may be a lone mark, which would join with what follows; it is not among the first ones
  fun_induction glyphsOf cs generalizing n with
  | case1 => simp at h
  | case2 c =>
    obtain rfl : n = 0 := by simpa using h
    simp [takeFirst]
  | case3 d r ih =>
    cases n with
    | zero => simp [takeFirst]
    | succ n =>
      have hinside := ih (by simpa using h)
      simp only [takeFirst] at hinside ⊢
      simp [glyphsOf, hinside]
  | case4 c d r hc ih =>
    cases n with
    | zero => simp [takeFirst]
    | succ n =>
      have hinside := ih (by simpa using h)
      simp only [takeFirst] at hinside ⊢
      simp [glyphsOf, hc, glyphsOf_cons_of_ne hc, hinside]

/-- What is cut off a text are its first code points. -/
theorem glyphsOf_takeFirst (n : Nat) (cs : List Char) : glyphsOf (takeFirst n cs) = (glyphsOf cs).take n := by
  by_cases h : n < (glyphsOf cs).length
  · have hcut := glyphsOf_takeFirst_append h []
    rwa [List.append_nil, glyphsOf, List.append_nil] at hcut
  · rw [takeFirst_of_le (by omega), List.take_of_length_le (by omega)]

/-- Cutting it again at the same place gives the same. -/
theorem takeFirst_takeFirst_append {n : Nat} {cs : List Char} (h : n < (glyphsOf cs).length) (rest : List Char) :
    takeFirst n (takeFirst n cs ++ rest) = takeFirst n cs := by
  have hlength : ((glyphsOf cs).take n).length = n := List.length_take_of_le (Nat.le_of_lt h)
  have hfront : (glyphsOf (takeFirst n cs ++ rest)).take n = (glyphsOf cs).take n := by
    rw [glyphsOf_takeFirst_append h, List.take_append_of_le_length (by omega), List.take_take, Nat.min_self]
  exact congrArg List.flatten hfront

theorem length_glyphsOf_takeFirst_append {n : Nat} {cs : List Char} (h : n < (glyphsOf cs).length)
    (rest : List Char) : (glyphsOf (takeFirst n cs ++ rest)).length = n + (glyphsOf rest).length := by
  rw [glyphsOf_takeFirst_append h, List.length_append, List.length_take_of_le (Nat.le_of_lt h)]

theorem not_mem_cutAt (c : Char) (cs : List Char) : c ∉ (cutAt c cs).1 := by
  induction cs with
  | nil => simp [cutAt]
  | cons d cs ih =>
    rw [cutAt]
    split
    · simp
    · next hne => simp [Ne.symm hne, ih]

theorem cutAt_of_not_mem {c : Char} {cs : List Char} (h : c ∉ cs) : (cutAt c cs).1 = cs := by
  rw [cutAt_eq_of_not_mem h]

end Text

/-! ## Cutting -/

/-- A text that is cut when it is too long, with points that tell so. -/
def shortened (cs : List Char) : List Char :=
  if (glyphsOf cs).length > maxMessageLength then takeFirst maxMessageLength cs ++ ['.', '.', '.'] else cs

theorem length_glyphsOf_points : (glyphsOf ['.', '.', '.']).length = 3 := by decide

/-- With the points it has at most three code points more than are shown of a message. -/
theorem length_shortened_le (cs : List Char) : (glyphsOf (shortened cs)).length ≤ maxMessageLength + 3 := by
  unfold shortened
  split
  · next hlong =>
    exact Nat.le_of_eq (length_glyphsOf_takeFirst_append hlong _)
  · omega

/-- A text that was cut is cut at the same place again, and gets the same points. -/
theorem shortened_shortened (cs : List Char) : shortened (shortened cs) = shortened cs := by
  by_cases hlong : (glyphsOf cs).length > maxMessageLength
  · have hcut : shortened cs = takeFirst maxMessageLength cs ++ ['.', '.', '.'] := if_pos hlong
    have hstill : (glyphsOf (shortened cs)).length > maxMessageLength := by
      rw [hcut, length_glyphsOf_takeFirst_append hlong, length_glyphsOf_points]
      omega
    rw [show shortened (shortened cs) = takeFirst maxMessageLength (shortened cs) ++ ['.', '.', '.'] from
      if_pos hstill, hcut, takeFirst_takeFirst_append hlong]
  · rw [show shortened cs = cs from if_neg hlong, show shortened cs = cs from if_neg hlong]

theorem shortened_of_le {cs : List Char} (h : (glyphsOf cs).length ≤ maxMessageLength) : shortened cs = cs :=
  if_neg (by omega)

/-- Nothing but points is put after a text. -/
theorem mem_of_mem_shortened {c : Char} {cs : List Char} (h : c ∈ shortened cs) (hpoint : c ≠ '.') : c ∈ cs := by
  unfold shortened at h
  split at h
  · have hfront : c ∈ takeFirst maxMessageLength cs := by simpa [hpoint] using h
    exact (takeFirst_isPrefix _ cs).subset hfront
  · exact h

theorem IsHarmless.shortened {cs : List Char} (h : IsHarmless cs) : IsHarmless (shortened cs) := by
  unfold ServerTree.shortened
  split
  · exact h.cut (takeFirst_isPrefix _ cs)
  · exact h

/-! ## Masking -/

/-- A text without paths has nothing to mask. -/
theorem maskFrom_eq_self {fuel : Nat} {cs : List Char} (h : hasPath cs = false) : maskFrom fuel cs = cs := by
  induction fuel generalizing cs with
  | zero => rfl
  | succ fuel ih =>
    cases cs with
    | nil => rfl
    | cons c cs =>
      obtain ⟨hhere, hlater⟩ := Bool.or_eq_false_iff.mp h
      rw [maskFrom, ih hlater]
      split
      · next hslash =>
        have hnone : afterPath? cs = none := by simpa [hslash] using hhere
        rw [hnone]
      · rfl

/-- What is in a masked text is of the text or of a mark. -/
theorem mem_of_mem_maskFrom {fuel : Nat} {cs : List Char} {c : Char} (h : c ∈ maskFrom fuel cs)
    (hmark : c ∉ "[path]".toList) : c ∈ cs := by
  induction fuel generalizing cs with
  | zero => exact h
  | succ fuel ih =>
    cases cs with
    | nil => exact h
    | cons d cs =>
      have hkept : c ∈ d :: maskFrom fuel cs → c ∈ d :: cs := fun h =>
        (List.mem_cons.mp h).elim (fun heq => List.mem_cons.mpr (.inl heq)) fun h => List.mem_cons_of_mem d (ih h)
      rw [maskFrom] at h
      split at h
      · split at h
        · next r hr =>
          have hbehind := ih ((List.mem_append.mp h).resolve_left hmark)
          exact List.mem_cons_of_mem d ((suffix_of_afterPath? hr).subset hbehind)
        · exact hkept h
      · exact hkept h

/-! ## Sanitizing -/

/-- A message comes to its first line, masked and cut, or to nothing when this line is sensitive. -/
theorem toList_sanitizeText (message : String) :
    (sanitizeText message).toList =
      if isSensitive (cutAt '\n' message.toList).1 then []
      else shortened (maskPaths (cutAt '\n' message.toList).1) := by
  unfold sanitizeText shortened
  simp only
  split
  · rfl
  · split <;> simp

/-- A line that sanitizing leaves alone: it shows nothing that is searched for, and is short or was cut. -/
structure IsSanitized (cs : List Char) : Prop where
  oneLine : '\n' ∉ cs
  harmless : IsHarmless cs
  short : shortened cs = cs

/-- **Such lines are left alone.** -/
theorem sanitizeText_eq_self {s : String} (h : IsSanitized s.toList) : sanitizeText s = s := by
  apply String.toList_injective
  rw [toList_sanitizeText, cutAt_of_not_mem h.oneLine, h.harmless.sensitive, maskPaths,
    maskFrom_eq_self h.harmless.path]
  exact h.short

/-- **A sanitized text is such a line.** -/
theorem isSanitized_sanitizeText (message : String) : IsSanitized (sanitizeText message).toList := by
  have hharmless := isHarmless_sanitizeText message
  rw [toList_sanitizeText] at hharmless ⊢
  split
  · next hsensitive =>
    rw [if_pos hsensitive] at hharmless
    exact ⟨List.not_mem_nil, hharmless, rfl⟩
  · next hsensitive =>
    rw [if_neg hsensitive] at hharmless
    refine ⟨?_, hharmless, shortened_shortened _⟩
    intro hbreak
    have hmasked := mem_of_mem_shortened hbreak (by decide)
    exact not_mem_cutAt '\n' _ (mem_of_mem_maskFrom hmasked (by decide))

/-! ## What clients may see -/

/-- What a client may see of a message: a line with something in it and of limited length, no part of which is what
a sensitive pattern matches or the path of a source file. -/
structure IsShowable (text : String) : Prop where
  nonempty : text ≠ ""
  oneLine : '\n' ∉ text.toList
  short : size text ≤ 203
  sensitive : ∀ ps ∈ sensitivePatterns, ∀ x, Consumes ps x → ¬ x <:+: text.toList
  path : ∀ x, IsPath x → ¬ x <:+: text.toList

theorem IsShowable.of_isSanitized {text : String} (h : IsSanitized text.toList) (hne : text ≠ "") :
    IsShowable text := by
  obtain ⟨hsensitive, hpath⟩ := isHarmless_iff.mp h.harmless
  refine ⟨hne, h.oneLine, ?_, hsensitive, hpath⟩
  have hlength := length_shortened_le text.toList
  rw [h.short] at hlength
  exact hlength

theorem IsShowable.isSanitized {text : String} (h : IsShowable text) (hshort : size text ≤ maxMessageLength) :
    IsSanitized text.toList :=
  ⟨h.oneLine, isHarmless_iff.mpr ⟨h.sensitive, h.path⟩, shortened_of_le hshort⟩

/-- A message that is left alone is shown, whatever the fallback. -/
theorem sanitizeMessage_of_isSanitized {text : String} (h : IsSanitized text.toList) (hne : text ≠ "")
    (fallback : String) : sanitizeMessage (.str text) fallback = .ok text := by
  have hself := sanitizeText_eq_self h
  simp [sanitizeMessage, errorText?, Except.map, hself, hne]

/-- **What is shown of an error.** Where an error value has a text, its message is the fallback or a text that a
client may see; unless it is the fallback, sanitizing it again gives it back, whatever the fallback is then. Where
it has none (the detail of an HTTP error is no text, or the text of an error cannot be made), there is no message
either. Texts that a client may see and that are not too long are shown as they are. -/
theorem sanitized_messages (error : Value) (fallback : String) :
    (match errorText? error with
      | .error f => sanitizeMessage error fallback = .error f
      | .ok _ => ∃ shown, sanitizeMessage error fallback = .ok shown ∧ (shown = fallback ∨ IsShowable shown) ∧
          (shown ≠ fallback → ∀ other, sanitizeMessage (.str shown) other = .ok shown)) ∧
      ∀ text, IsShowable text → size text ≤ maxMessageLength → sanitizeMessage (.str text) fallback = .ok text := by
  refine ⟨?_, fun text h hshort => sanitizeMessage_of_isSanitized (h.isSanitized hshort) h.nonempty fallback⟩
  cases htext : errorText? error with
  | error f => simp [sanitizeMessage, htext, Except.map]
  | ok text? =>
    have hmessage : sanitizeMessage error fallback =
        .ok (if (sanitizeText (text?.getD "")).isEmpty then fallback else sanitizeText (text?.getD "")) := by
      simp [sanitizeMessage, htext, Except.map]
    have hsanitized := isSanitized_sanitizeText (text?.getD "")
    refine ⟨_, hmessage, ?_⟩
    split
    · exact ⟨.inl rfl, fun hne => absurd rfl hne⟩
    · next hne =>
      have hne : sanitizeText (text?.getD "") ≠ "" := by simpa using hne
      exact ⟨.inr (.of_isSanitized hsanitized hne), fun _ => sanitizeMessage_of_isSanitized hsanitized hne⟩

/-! ### A long message with a path -/

/-- A message that names a file and goes on for a while. -/
def longMessage : String := String.ofList ("failed in /app/users.py: ".toList ++ List.replicate 250 'x')

/-- What is shown of it: the path is masked, and two hundred code points are kept. -/
def longShown : String := String.ofList ("failed in [path]: ".toList ++ List.replicate 182 'x' ++ ['.', '.', '.'])

theorem sanitizeText_longMessage : sanitizeText longMessage = longShown := by
  have hlist : longMessage.toList = "failed in /app/users.py: ".toList ++ List.replicate 250 'x' :=
    String.toList_ofList
  have hline : (cutAt '\n' longMessage.toList).1 = longMessage.toList := by
    rw [hlist]
    decide +kernel
  have hsensitive : isSensitive longMessage.toList = false := by
    rw [hlist]
    decide +kernel
  have hshort : shortened (maskPaths longMessage.toList) = longShown.toList := by
    rw [hlist, show longShown.toList = _ from String.toList_ofList]
    decide +kernel
  apply String.toList_injective
  calc (sanitizeText longMessage).toList
    _ = if isSensitive longMessage.toList then [] else shortened (maskPaths longMessage.toList) := by
      rw [toList_sanitizeText longMessage, hline]
    _ = longShown.toList := (if_neg (by simp [hsensitive])).trans hshort

theorem longShown_ne {s : String} (h : s.toList.length < 200) : longShown ≠ s := by
  have hlength : longShown.toList.length = 203 := by
    rw [show longShown.toList = _ from String.toList_ofList, List.length_append, List.length_append,
      List.length_replicate]
    decide +kernel
  rintro rfl
  omega

/-- The message is masked and cut, and what is left of it is not cut again. -/
theorem sanitized_messages_long :
    sanitizeMessage (.str longMessage) "An error occurred" = .ok longShown ∧ IsShowable longShown ∧
      longShown ≠ "An error occurred" ∧ sanitizeMessage (.str longShown) "Request failed" = .ok longShown ∧
      sanitizeMessage (.str "Too many items") "An error occurred" = .ok "Too many items" := by
  obtain ⟨⟨shown, hmessage, hshowable, hagain⟩, hkept⟩ := sanitized_messages (.str longMessage) "An error occurred"
  have hne : longShown ≠ "An error occurred" := longShown_ne (by decide)
  have hnonempty : longShown ≠ "" := longShown_ne (by decide)
  have hshown : sanitizeMessage (.str longMessage) "An error occurred" = .ok longShown := by
    simp [sanitizeMessage, errorText?, Except.map, sanitizeText_longMessage, hnonempty]
  obtain rfl := Except.ok.inj (hshown.symm.trans hmessage)
  have hplain : IsHarmless "Too many items".toList :=
    isHarmless_of_ownLetters (mem_ownLetters_of_all (by decide +kernel))
  obtain ⟨hsensitive, hpath⟩ := isHarmless_iff.mp hplain
  have hitems : IsShowable "Too many items" := ⟨by decide, by decide, by decide, hsensitive, hpath⟩
  exact ⟨hshown, hshowable.resolve_left hne, hne, hagain hne "Request failed",
    hkept "Too many items" hitems (by decide)⟩

end ServerTree
