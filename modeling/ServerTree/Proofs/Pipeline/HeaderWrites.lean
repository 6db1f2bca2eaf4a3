import Mathlib.Data.List.Pairwise
import ServerTree.Proofs.Pipeline.Leaves
import ServerTree.Proofs.Serving.Wire

/-!
# Headers that are written more than once

Header nodes and calls on a reply write headers one after the other, under names that may be spelled in small and
capital letters. A later value replaces an earlier one that was written under the very same spelling. For the response
a name is that of the content type in any spelling, and of those spellings the one that was written first gives the
value.

So the last value of each header counts when a header is always spelled in the same way. Otherwise the response has
the header more than once, or an earlier content type.

## Main definitions
- `lastWritten`: the value written last for a header, in whatever letters
- `LastWritesWin`: a response has each header once, with the value written last
- `SpelledAlike`: writes that spell each header in one way, and of the content type take the value written last
- `ReplyCall`: what is called on a reply

## Main statements
- `Descriptor.response_eq_ok_iff`: the response after writes
- `lastWritesWin_iff`: when the last write wins
- `LastWritesWin.header?_eq`: reading a header then
- `last_writes_win_iff`: for response trees and for replies
-/

namespace ServerTree

variable {U : Type} {call : Expander U}

/-! ## Writes -/

/-- Whether a name is that of the content type. -/
def namesContentType (name : String) : Bool := Text.lower name == "content-type"

/-- The value written last for a header, in whatever letters. -/
def lastWritten (name : String) (ws : List (String × Value)) : Option Value :=
  ((ws.filter fun w => Text.lower w.1 == Text.lower name).getLast?).map Prod.snd

/-- The value that the content type is taken from: the last one in the letters in which it was written first. -/
def takenContentType (ws : List (String × Value)) : Option Value :=
  (ws.find? fun w => namesContentType w.1).bind fun w => Assoc.get? w.1 (Assoc.ofList ws)

/-- **The last write wins**: a response has each header that was written, once, with the text of the value written last
for it, and the content type written last is its content type. -/
structure LastWritesWin (ws : List (String × Value)) (r : Response Value) : Prop where
  last : ∀ h ∈ r.headers, ∃ name v, h = (.str name, .str v.display) ∧ namesContentType name = false ∧
    lastWritten name ws = some v
  once : r.headers.Pairwise fun h h' => h.1.inSmallLetters ≠ h'.1.inSmallLetters
  carried : ∀ w ∈ ws, namesContentType w.1 = false →
    ∃ h ∈ r.headers, h.1.inSmallLetters = .ok (.str (Text.lower w.1))
  contentType : ∀ v, lastWritten "content-type" ws = some v → r.contentType = v

/-- Writes that spell each header in one way. The content type may be spelled in several ways as long as the value that
is taken for it is the one written last; the `usual` one is taken instead of a value that counts as false. -/
structure SpelledAlike (usual : String) (ws : List (String × Value)) : Prop where
  names : ∀ w ∈ ws, ∀ w' ∈ ws, namesContentType w.1 = false → Text.lower w.1 = Text.lower w'.1 → w.1 = w'.1
  contentType : ∀ v, lastWritten "content-type" ws = some v →
    ((takenContentType ws).getD .none).orElse (.str usual) = v

theorem namesContentType_eq_true_iff {name : String} :
    namesContentType name = true ↔ Text.lower name = Text.lower "content-type" := by
  have hlower : Text.lower "content-type" = "content-type" := by decide +kernel
  rw [hlower]
  exact beq_iff_eq

theorem lastWritten_concat (name : String) (ws : List (String × Value)) (w : String × Value) :
    lastWritten name (ws ++ [w]) =
      if Text.lower w.1 = Text.lower name then some w.2 else lastWritten name ws := by
  by_cases h : Text.lower w.1 = Text.lower name <;> simp [lastWritten, List.filter_append, h]

theorem lastWritten_congr {name name' : String} (h : Text.lower name = Text.lower name') (ws : List (String × Value)) :
    lastWritten name ws = lastWritten name' ws := by
  rw [lastWritten, lastWritten, h]

/-- A header that is spelled in one way was written last where it was last written in this way. -/
theorem lastWritten_eq_get? {name : String} {ws : List (String × Value)}
    (h : ∀ w ∈ ws, Text.lower w.1 = Text.lower name → w.1 = name) :
    lastWritten name ws = Assoc.get? name (Assoc.ofList ws) := by
  -- the last write decides on both sides, so the induction takes it off
  induction ws using List.reverseRecOn with
  | nil => rfl
  | append_singleton ws w ih =>
    have hbefore := ih fun w' hw' => h w' (List.mem_append_left _ hw')
    have hlast := h w (List.mem_append_right _ (List.mem_singleton_self w))
    rw [lastWritten_concat, Assoc.ofList_concat, Assoc.get?_set, hbefore]
    by_cases hname : name = w.1
    · simp [hname]
    · have hlower : ¬ Text.lower w.1 = Text.lower name := fun heq => hname (hlast heq).symm
      simp [hname, hlower]

/-- What is written under names that are texts. -/
def textNamed (ws : List (String × Value)) : List (Value × Value) := ws.map (Prod.map .str id)

theorem ofList_textNamed (ws : List (String × Value)) : Assoc.ofList (textNamed ws) = textNamed (Assoc.ofList ws) :=
  Assoc.ofList_map Value.beq_str id ws

/-! ## The response after writes -/

/-- The content type is taken out of headers in any spelling. -/
theorem splitContentType_textNamed (m : List (String × Value)) :
    splitContentType (textNamed m) =
      .ok (textNamed (m.filter fun e => !namesContentType e.1),
        (m.find? fun e => namesContentType e.1).map Prod.snd) := by
  induction m with
  | nil => rfl
  | cons e m ih =>
    obtain ⟨name, v⟩ := e
    have hsplit : splitContentType (textNamed ((name, v) :: m)) =
        if namesContentType name then
          .ok (textNamed (m.filter fun e => !namesContentType e.1), some v)
        else .ok ((.str name, v) :: textNamed (m.filter fun e => !namesContentType e.1),
          (m.find? fun e => namesContentType e.1).map Prod.snd) := by
      show splitContentType ((.str name, v) :: textNamed m) = _
      rw [splitContentType, Value.inSmallLetters, ok_bind, ih, ok_bind]
      rfl
    rw [hsplit]
    cases hname : namesContentType name <;> simp [hname, textNamed]

/-- The first of the names of the content type is found with the value that was written last under it. -/
theorem find?_ofList_contentType (ws : List (String × Value)) :
    ((Assoc.ofList ws).find? fun e => namesContentType e.1).map Prod.snd = takenContentType ws := by
  -- keys keep the place of their first write and have the value of their last one
  have hkeys : ((Assoc.ofList ws).find? fun e => namesContentType e.1).map Prod.fst =
      (ws.find? fun w => namesContentType w.1).map Prod.fst := by
    have hfind := Assoc.find?_keys_ofList namesContentType ws
    rwa [List.find?_map, List.find?_map] at hfind
  rw [takenContentType]
  cases hm : (Assoc.ofList ws).find? fun e => namesContentType e.1 with
  | none =>
    rw [hm, Option.map_none, eq_comm, Option.map_eq_none_iff] at hkeys
    rw [hkeys]
    rfl
  | some e =>
    rw [hm, Option.map_some, eq_comm, Option.map_eq_some_iff] at hkeys
    obtain ⟨w, hw, hname⟩ := hkeys
    have hvalue : Assoc.get? e.1 (Assoc.ofList ws) = some e.2 :=
      Assoc.get?_of_mem (Assoc.nodup_keys_ofList ws) (List.mem_of_find?_eq_some hm)
    rw [hw, Option.map_some, Option.bind_some, hname, hvalue]

/-- The headers of a response after writes. -/
def shownHeaders (ws : List (String × Value)) : List (Value × Value) :=
  ((Assoc.ofList ws).filter fun e => !namesContentType e.1).map fun e => (.str e.1, .str e.2.display)

/-- **The response after writes.** -/
theorem Descriptor.response_eq_ok_iff {d : Descriptor} {ws : List (String × Value)} {r : Response Value}
    (hd : d.headers = textNamed (Assoc.ofList ws)) :
    d.response = .ok r ↔ ∃ content usual, d.body.asContent = .ok (content, usual) ∧
      (∀ e ∈ Assoc.ofList ws, namesContentType e.1 = false → ∃ text, e.2.text = .ok text) ∧
      r = ⟨content, d.status, ((takenContentType ws).getD .none).orElse (.str usual), shownHeaders ws⟩ := by
  have hshown (shown : List (Value × Value)) :
      headerTexts (textNamed ((Assoc.ofList ws).filter fun e => !namesContentType e.1)) = .ok shown ↔
        (∀ e ∈ Assoc.ofList ws, namesContentType e.1 = false → ∃ text, e.2.text = .ok text) ∧
          shown = shownHeaders ws := by
    rw [headerTexts_eq_ok_iff, textNamed, List.map_map, List.forall_mem_map]
    simp only [List.mem_filter, Bool.not_eq_true', and_imp]
    rfl
  rw [Descriptor.response, hd, splitContentType_textNamed, find?_ofList_contentType, ok_bind]
  constructor
  · intro h
    obtain ⟨⟨content, usual⟩, hcontent, h⟩ := exists_of_bind_eq_ok h
    obtain ⟨shown, hheaders, h⟩ := exists_of_bind_eq_ok h
    obtain ⟨htexts, rfl⟩ := (hshown shown).mp hheaders
    exact ⟨content, usual, hcontent, htexts, (Except.ok.inj h).symm⟩
  · rintro ⟨content, usual, hcontent, htexts, rfl⟩
    simp only [hcontent, ok_bind, (hshown (shownHeaders ws)).mpr ⟨htexts, rfl⟩]
    rfl

/-! ## When the last write wins -/

theorem mem_shownHeaders {ws : List (String × Value)} {h : Value × Value} :
    h ∈ shownHeaders ws ↔ ∃ e ∈ Assoc.ofList ws, namesContentType e.1 = false ∧ h = (.str e.1, .str e.2.display) := by
  simp only [shownHeaders, List.mem_map, List.mem_filter, Bool.not_eq_true', and_assoc]
  exact exists_congr fun e => and_congr_right fun _ => and_congr_right fun _ => eq_comm

/-- A header that was written is shown in the letters of this write. -/
theorem exists_shown_of_mem {ws : List (String × Value)} {w : String × Value} (hw : w ∈ ws)
    (hname : namesContentType w.1 = false) : ∃ h ∈ shownHeaders ws, h.1 = .str w.1 := by
  have hkey : w.1 ∈ (Assoc.ofList ws).map Prod.fst := Assoc.mem_keys_ofList.mpr (List.mem_map_of_mem hw)
  obtain ⟨e, he, hfst⟩ := List.mem_map.mp hkey
  exact ⟨_, mem_shownHeaders.mpr ⟨e, he, hfst ▸ hname, rfl⟩, congrArg Value.str hfst⟩

/-- An entry after writes is that of a write. -/
theorem exists_write_of_mem {ws : List (String × Value)} {e : String × Value} (he : e ∈ Assoc.ofList ws) :
    ∃ w ∈ ws, w.1 = e.1 :=
  List.mem_map.mp (Assoc.mem_keys_ofList.mp (List.mem_map_of_mem he))

/-- Names that differ in their letters alone are those of two headers. -/
theorem names_of_once {ws : List (String × Value)}
    (once : (shownHeaders ws).Pairwise fun h h' => h.1.inSmallLetters ≠ h'.1.inSmallLetters) {w w' : String × Value}
    (hw : w ∈ ws) (hw' : w' ∈ ws) (hname : namesContentType w.1 = false)
    (hlower : Text.lower w.1 = Text.lower w'.1) : w.1 = w'.1 := by
  have hname' : namesContentType w'.1 = false := by rwa [namesContentType, ← hlower]
  obtain ⟨h, hh, hfst⟩ := exists_shown_of_mem hw hname
  obtain ⟨h', hh', hfst'⟩ := exists_shown_of_mem hw' hname'
  -- two spellings would be two headers with one name
  by_contra hne
  have hdiffer : h ≠ h' := by
    rintro rfl
    exact hne (Value.str.inj (hfst.symm.trans hfst'))
  have hsymm : Std.Symm fun h h' : Value × Value => h.1.inSmallLetters ≠ h'.1.inSmallLetters := ⟨fun _ _ => Ne.symm⟩
  refine once.forall hh hh' hdiffer ?_
  rw [hfst, hfst', Value.inSmallLetters, Value.inSmallLetters, hlower]

/-- Headers that are spelled in one way are those of different names. -/
theorem once_of_names {ws : List (String × Value)}
    (names : ∀ w ∈ ws, ∀ w' ∈ ws, namesContentType w.1 = false → Text.lower w.1 = Text.lower w'.1 → w.1 = w'.1) :
    (shownHeaders ws).Pairwise fun h h' => h.1.inSmallLetters ≠ h'.1.inSmallLetters := by
  have hkeys : (Assoc.ofList ws).Pairwise fun e e' => e.1 ≠ e'.1 :=
    List.pairwise_map.mp (Assoc.nodup_keys_ofList ws)
  rw [shownHeaders, List.pairwise_map]
  refine (hkeys.filter _).imp_of_mem ?_
  intro e e' he he' hne hsame
  obtain ⟨he, hname⟩ := List.mem_filter.mp he
  obtain ⟨w, hw, hfst⟩ := exists_write_of_mem he
  obtain ⟨w', hw', hfst'⟩ := exists_write_of_mem (List.mem_filter.mp he').1
  have hlower : Text.lower e.1 = Text.lower e'.1 := Value.str.inj (Except.ok.inj hsame)
  have heq := names w hw w' hw' (by simpa [hfst] using hname) (by rw [hfst, hfst', hlower])
  exact hne (hfst.symm.trans (heq.trans hfst'))

/-- **When the last write wins**: exactly when each header is spelled in one way, and the content type is taken from the
value that was written last. -/
theorem lastWritesWin_iff (ws : List (String × Value)) (content status : Value) (usual : String) :
    LastWritesWin ws ⟨content, status, ((takenContentType ws).getD .none).orElse (.str usual), shownHeaders ws⟩ ↔
      SpelledAlike usual ws := by
  constructor
  · intro h
    exact ⟨fun w hw w' hw' hname hlower => names_of_once h.once hw hw' hname hlower, h.contentType⟩
  · intro h
    refine ⟨?_, once_of_names h.names, ?_, h.contentType⟩
    · intro shown hshown
      obtain ⟨e, he, hname, rfl⟩ := mem_shownHeaders.mp hshown
      refine ⟨e.1, e.2, rfl, hname, ?_⟩
      -- an entry has the value written last in its own spelling, and there is no other spelling
      have halike : ∀ w ∈ ws, Text.lower w.1 = Text.lower e.1 → w.1 = e.1 := by
        intro w hw hlower
        obtain ⟨w', hw', hfst⟩ := exists_write_of_mem he
        exact (h.names w hw w' hw' (by rwa [namesContentType, hlower]) (by rw [hfst, hlower])).trans hfst
      rw [lastWritten_eq_get? halike]
      exact Assoc.get?_of_mem (Assoc.nodup_keys_ofList ws) he
    · intro w hw hname
      obtain ⟨shown, hshown, hfst⟩ := exists_shown_of_mem hw hname
      exact ⟨shown, hshown, by rw [hfst, Value.inSmallLetters]⟩

/-- What was written last for a header is one of the writes. -/
theorem exists_write_of_lastWritten {name : String} {ws : List (String × Value)} {v : Value}
    (h : lastWritten name ws = some v) : ∃ w ∈ ws, Text.lower w.1 = Text.lower name ∧ w.2 = v := by
  obtain ⟨w, hw, rfl⟩ := Option.map_eq_some_iff.mp h
  obtain ⟨hmem, hname⟩ := List.mem_filter.mp (List.mem_of_getLast? hw)
  exact ⟨w, hmem, eq_of_beq hname, rfl⟩

/-- Headers all of which are spelled in one way are spelled alike when no content type counts as false. -/
theorem spelledAlike_of_names {usual : String} {ws : List (String × Value)}
    (names : ∀ w ∈ ws, ∀ w' ∈ ws, Text.lower w.1 = Text.lower w'.1 → w.1 = w'.1)
    (truthy : ∀ w ∈ ws, namesContentType w.1 = true → w.2.truthy = true) : SpelledAlike usual ws := by
  refine ⟨fun w hw w' hw' _ hlower => names w hw w' hw' hlower, fun v hv => ?_⟩
  obtain ⟨last, hlast, hname, rfl⟩ := exists_write_of_lastWritten hv
  have hlastName : namesContentType last.1 = true := namesContentType_eq_true_iff.mpr hname
  -- the first of the content types has the name of the last one, under which that was written last
  have htaken : takenContentType ws = some last.2 := by
    cases hfirst : ws.find? fun w => namesContentType w.1 with
    | none => exact absurd hlastName (List.find?_eq_none.mp hfirst last hlast)
    | some first =>
      have hfirstName := List.find?_some hfirst
      have hlower : Text.lower first.1 = Text.lower "content-type" := namesContentType_eq_true_iff.mp hfirstName
      have hspelled : ∀ w ∈ ws, Text.lower w.1 = Text.lower first.1 → w.1 = first.1 := fun w hw =>
        names w hw first (List.mem_of_find?_eq_some hfirst)
      rw [takenContentType, hfirst, Option.bind_some, ← lastWritten_eq_get? hspelled, lastWritten_congr hlower, hv]
  rw [htaken, Option.getD_some, Value.orElse, truthy last hlast hlastName, if_pos rfl]

/-! ## Reading -/

/-- A header is found when there is one and all of its name have the same value. -/
theorem firstHeader?_eq {name : String} {value : Value} {hs : List (Value × Value)}
    (hvalues : ∀ h ∈ hs, ∃ n, h.1 = .str n ∧ (Text.lower n = name → h.2 = value))
    (hcarried : ∃ h ∈ hs, h.1.inSmallLetters = .ok (.str name)) :
    Response.firstHeader? (.str name) hs = .ok (some value) := by
  induction hs with
  | nil => simp at hcarried
  | cons h hs ih =>
    obtain ⟨⟨n, hn, hvalue⟩, hrest⟩ := List.forall_mem_cons.mp hvalues
    rw [Response.firstHeader?, hn, Value.inSmallLetters, ok_bind, Value.beq_str]
    by_cases hname : Text.lower n = name
    · rw [if_pos (beq_iff_eq.mpr hname), hvalue hname]
      rfl
    · rw [if_neg (by simpa using hname)]
      refine ih hrest ?_
      obtain ⟨h', hh', hlower⟩ := hcarried
      rcases List.mem_cons.mp hh' with rfl | hmem
      · rw [hn, Value.inSmallLetters] at hlower
        exact absurd (Value.str.inj (Except.ok.inj hlower)) hname
      · exact ⟨h', hmem, hlower⟩

/-- Where the last write wins, it is what reading the header in any letters gives. -/
theorem LastWritesWin.header?_eq {ws : List (String × Value)} {r : Response Value} (h : LastWritesWin ws r)
    {name : String} {v : Value} (hname : namesContentType name = false) (hv : lastWritten name ws = some v)
    (fallback : Value) : r.header? (.str name) fallback = .ok (.str v.display) := by
  have hfound : Response.firstHeader? (.str (Text.lower name)) r.headers = .ok (some (.str v.display)) := by
    refine firstHeader?_eq ?_ ?_
    · intro shown hshown
      obtain ⟨n, v', rfl, -, hlast⟩ := h.last shown hshown
      refine ⟨n, rfl, fun hlower => ?_⟩
      rw [lastWritten_congr hlower, hv] at hlast
      rw [Option.some.inj hlast]
    · obtain ⟨w, hw, hlower, -⟩ := exists_write_of_lastWritten hv
      rw [← hlower]
      exact h.carried w hw (by rwa [namesContentType, hlower])
  rw [Response.header?, Value.inSmallLetters, ok_bind, hfound]
  rfl

/-! ## Descriptors after writes -/

/-- The response of a descriptor after writes: there is one when the body can be written and the values have texts, and
the last write wins in it exactly when the writes are spelled alike. -/
structure RendersWrites (ws : List (String × Value)) (d : Descriptor) : Prop where
  rendered : ∀ content, d.body.asContent = .ok content → (∀ w ∈ ws, ∃ text, w.2.text = .ok text) →
    ∃ r, d.response = .ok r
  lastWritesWin_iff : ∀ content usual r, d.body.asContent = .ok (content, usual) → d.response = .ok r →
    (LastWritesWin ws r ↔ SpelledAlike usual ws)

theorem rendersWrites {ws : List (String × Value)} {d : Descriptor} (hd : d.headers = textNamed (Assoc.ofList ws)) :
    RendersWrites ws d where
  rendered := by
    intro content hcontent htexts
    have hentries : ∀ e ∈ Assoc.ofList ws, True ∧ ∃ text, e.2.text = .ok text :=
      Assoc.forall_ofList (P := fun _ => True) (Q := fun v => ∃ text, v.text = .ok text)
        fun w hw => ⟨trivial, htexts w hw⟩
    exact ⟨_, (Descriptor.response_eq_ok_iff hd).mpr
      ⟨content.1, content.2, hcontent, fun e he _ => (hentries e he).2, rfl⟩⟩
  lastWritesWin_iff := by
    intro content usual r hcontent hr
    obtain ⟨content', usual', hcontent', -, rfl⟩ := (Descriptor.response_eq_ok_iff hd).mp hr
    obtain ⟨rfl, rfl⟩ := Prod.mk.inj (Except.ok.inj (hcontent.symm.trans hcontent'))
    exact lastWritesWin_iff ws content d.status usual

/-! ## Header nodes -/

/-- What the leaves of a tree write as headers, in order. -/
def headerWrites (ls : List (Payload Value)) : Attempt (List (Value × Value)) :=
  (ls.mapM Payload.entries).map List.flatten

/-- What header nodes write is among the headers that the leaves say. -/
theorem exists_ofLeaves {ls : List (Payload Value)} {ws : List (String × Value)}
    (h : headerWrites ls = .ok (textNamed ws)) :
    ∃ d, Descriptor.ofLeaves ls = .ok d ∧ d.headers = textNamed (Assoc.ofList ws) := by
  obtain ⟨written, hwritten, hflatten⟩ := exists_of_map_eq_ok h
  rw [Descriptor.ofLeaves, hwritten]
  refine ⟨_, rfl, ?_⟩
  show Assoc.ofList written.flatten = _
  rw [← hflatten, ofList_textNamed]

/-! ## Calls on a reply -/

/-- A call on a reply. Names are texts; values may be anything. -/
inductive ReplyCall where
  | status (code : Value)
  | header (name : String) (value : Value)
  | headers (entries : List (String × Value))
  | send (body : Value)

namespace ReplyCall

/-- The reply after a call. A call that is refused keeps what it has written before. -/
def run (r : Reply) : ReplyCall → Reply
  | .status code => r.setStatus code
  | .header name value => (r.setHeaders (textNamed [(name, value)])).1
  | .headers entries => (r.setHeaders (textNamed entries)).1
  | .send body => r.send body

/-- The entries with the texts of their values, up to the first value that has none. -/
def shown : List (String × Value) → List (String × Value)
  | [] => []
  | (name, value) :: entries =>
    match value.text with
    | .ok text => (name, .str text) :: shown entries
    | .error _ => []

/-- What a call writes. -/
def writes : ReplyCall → List (String × Value)
  | .header name value => shown [(name, value)]
  | .headers entries => shown entries
  | _ => []

end ReplyCall

namespace Reply

/-- A new reply after calls. -/
def after (calls : List ReplyCall) : Reply := calls.foldl ReplyCall.run {}

theorem headers_setHeaders (r : Reply) (entries : List (String × Value)) :
    (r.setHeaders (textNamed entries)).1.descriptor.headers =
      Assoc.update r.descriptor.headers (textNamed (ReplyCall.shown entries)) := by
  induction entries generalizing r with
  | nil => rfl
  | cons e entries ih =>
    obtain ⟨name, value⟩ := e
    show (r.setHeaders ((.str name, value) :: textNamed entries)).1.descriptor.headers = _
    rw [setHeaders, setHeader, ReplyCall.shown]
    cases value.text with
    | error f =>
      -- nothing is written from here on
      rfl
    | ok text =>
      have hset : ({ r with headers := Assoc.set (.str name) text r.headers } : Reply).descriptor.headers =
          Assoc.set (.str name) (.str text) r.descriptor.headers :=
        (Assoc.set_map (f := id) (fun _ _ => rfl) Value.str (Value.str name) text r.headers).symm
      exact (ih _).trans (by rw [hset]; rfl)

/-- **Step lemma**: a call adds what it writes. -/
theorem headers_run (r : Reply) (call : ReplyCall) :
    (call.run r).descriptor.headers = Assoc.update r.descriptor.headers (textNamed call.writes) := by
  cases call with
  | status | send => rfl
  | header name value => exact headers_setHeaders r [(name, value)]
  | headers entries => exact headers_setHeaders r entries

/-- **Run lemma**: the headers of a reply after calls are what they have written. -/
theorem headers_after (calls : List ReplyCall) :
    (after calls).descriptor.headers = textNamed (Assoc.ofList (calls.flatMap ReplyCall.writes)) := by
  rw [← ofList_textNamed]
  induction calls using List.reverseRecOn with
  | nil => rfl
  | append_singleton calls call ih =>
    have hlast : after (calls ++ [call]) = call.run (after calls) := List.foldl_append
    rw [hlast, headers_run, ih, List.flatMap_append, List.flatMap_singleton]
    simp only [textNamed, List.map_append, Assoc.ofList, Assoc.update, List.foldl_append]

end Reply

/-! ## Trees and replies -/

/-- **When the last write of a header wins.** Header nodes anywhere in a response tree and calls on a reply write headers
one after the other. The response has each header once, with the value written last for it in whatever letters, and
the content type written last, exactly when the writes are spelled alike. -/
theorem last_writes_win_iff (call : Expander U) :
    (∀ (v : Value) (ls : List (Payload Value)) (ws : List (String × Value)) (s s' : U),
      Leaves call nestingLimit [v] s ls s' → headerWrites ls = .ok (textNamed ws) →
      ∃ d, outcome (describeResponse call v) s = (.ok d, s') ∧ RendersWrites ws d) ∧
    ∀ calls : List ReplyCall, RendersWrites (calls.flatMap ReplyCall.writes) (Reply.after calls).descriptor := by
  constructor
  · intro v ls ws s s' hls hwrites
    obtain ⟨d, hd, hheaders⟩ := exists_ofLeaves hwrites
    exact ⟨d, (hd ▸ comesTo_describeResponse hls).outcome_eq, rendersWrites hheaders⟩
  · exact fun calls => rendersWrites (Reply.headers_after calls)

/-! ### Headers in one spelling -/

/-- A response with a header that is written again. -/
def rewritingTree : Value :=
  .node .response [.node (.headers (.ofFields [("X-A", .str "1"), ("Content-Type", .str "text/html")])) [],
    .node (.headers (.ofFields [("X-A", .str "2")])) []]

/-- What it writes. -/
def rewrites : List (String × Value) := [("X-A", .str "1"), ("Content-Type", .str "text/html"), ("X-A", .str "2")]

/-- Calls that write the same. -/
def rewritingCalls : List ReplyCall :=
  [.headers [("X-A", .str "1"), ("Content-Type", .str "text/html")], .header "X-A" (.str "2")]

theorem leaves_rewritingTree (s : U) :
    Leaves call nestingLimit [rewritingTree] s
      [.headers (.ofFields [("X-A", .str "1"), ("Content-Type", .str "text/html")]),
        .headers (.ofFields [("X-A", .str "2")])] s :=
  .response .node (.leaf rfl .node (.leaf rfl .node .nil)) .nil

theorem spelledAlike_rewrites (usual : String) : SpelledAlike usual rewrites :=
  spelledAlike_of_names (by decide +kernel) (by simp [rewrites, Value.truthy])

/-- The last value counts, in a tree and on a reply. -/
theorem last_writes_win_iff_rewrites :
    (∃ d r, outcome (describeResponse failing.call rewritingTree) () = (.ok d, ()) ∧ d.response = .ok r ∧
      LastWritesWin rewrites r) ∧
    ∃ r, (Reply.after rewritingCalls).response = .ok r ∧ LastWritesWin rewrites r := by
  obtain ⟨htree, hcalls⟩ := last_writes_win_iff (U := Unit) failing.call
  have htexts : ∀ w ∈ rewrites, ∃ text, w.2.text = .ok text := by
    intro w hw
    exact ⟨w.2.display, by
      simp only [rewrites, List.mem_cons, List.not_mem_nil, or_false] at hw
      rcases hw with rfl | rfl | rfl <;> rfl⟩
  constructor
  · have hleaves : Leaves failing.call nestingLimit [rewritingTree] () _ () := leaves_rewritingTree ()
    obtain ⟨d, hd, hrenders⟩ := htree rewritingTree _ rewrites () () hleaves rfl
    have hbody : d.body.asContent = .ok (.str "", textContentType) := by
      rw [(comesTo_describeResponse hleaves).outcome_eq] at hd
      cases hd
      rfl
    obtain ⟨r, hr⟩ := hrenders.rendered _ hbody htexts
    exact ⟨d, r, hd, hr, (hrenders.lastWritesWin_iff _ _ r hbody hr).mpr (spelledAlike_rewrites _)⟩
  · have hrenders : RendersWrites rewrites (Reply.after rewritingCalls).descriptor := hcalls rewritingCalls
    obtain ⟨r, hr⟩ := hrenders.rendered _ rfl htexts
    exact ⟨r, hr, (hrenders.lastWritesWin_iff _ _ r rfl hr).mpr (spelledAlike_rewrites _)⟩

/-! ### Headers in two spellings -/

/-- A reply whose content type is written in two spellings. -/
def respellingCalls : List ReplyCall :=
  [.header "Content-Type" (.str "text/html"), .header "content-type" (.str "text/css"), .send (.str "x")]

/-- **An earlier content type wins, and a header is sent twice.** The content type written last on the reply is not that
of its response, and a header in two spellings is there with both values. -/
theorem reply_keeps_earlier :
    lastWritten "content-type" (respellingCalls.flatMap ReplyCall.writes) = some (.str "text/css") ∧
      (Reply.after respellingCalls).response = .ok ⟨.str "x", .int 200, .str "text/html", []⟩ ∧
      (Reply.after [.header "X-A" (.str "1"), .header "x-a" (.str "2")]).response =
        .ok ⟨.str "", .int 200, .str textContentType, [(.str "X-A", .str "1"), (.str "x-a", .str "2")]⟩ ∧
      ¬ LastWritesWin (respellingCalls.flatMap ReplyCall.writes) ⟨.str "x", .int 200, .str "text/html", []⟩ := by
  refine ⟨rfl, rfl, rfl, fun h => ?_⟩
  have hlast : Value.str "text/html" = .str "text/css" := h.contentType _ rfl
  exact absurd (Value.str.inj hlast) (by decide)

end ServerTree
