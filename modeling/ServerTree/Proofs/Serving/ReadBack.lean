import Mathlib.Data.List.Induction
import ServerTree.Proofs.Serving.Framing

/-!
# Answers that are read back

A client takes the frame of an answer away again: of the headers it drops the lengths, and takes the content type from
the last one that states it. So it has the response that was sent, with the names of the headers in small letters and
a text as its bytes, as long as the response has no header of its own under a name of the frame.

## Main statements
- `decodeResponse_eq`: what a client makes of the messages
- `answers_are_read_back`: a response comes back
-/

namespace ServerTree

/-- A client takes the content type from the last header that states it. -/
theorem seenContentType_eq (m : StartMessage) :
    seenContentType m.headers = (m.valuesOf "content-type").getLast?.getD textContentType := by
  obtain ⟨status, headers⟩ := m
  -- the last header decides, so the induction takes it off
  induction headers using List.reverseRecOn with
  | nil => rfl
  | append_singleton headers h ih =>
    have hvalues : StartMessage.valuesOf ⟨status, headers ++ [h]⟩ "content-type" =
        StartMessage.valuesOf ⟨status, headers⟩ "content-type" ++
          if Text.latin1Decode h.1 = "content-type" then [Text.latin1Decode h.2] else [] := by
      simp [StartMessage.valuesOf, StartMessage.fields]
    rw [hvalues, seenContentType, List.foldl_append, List.foldl_cons, List.foldl_nil]
    by_cases hname : Text.latin1Decode h.1 = "content-type"
    · simp [hname]
    · simp only [hname, if_false, List.append_nil]
      exact ih

/-- **What a client makes of the messages** of an answer. -/
theorem decodeResponse_eq (start : StartMessage) (content : Bytes) :
    decodeResponse ⟨start, .bytes content⟩ = .ok {
      body := .bytes content
      status := start.status
      contentType := .str ((start.valuesOf "content-type").getLast?.getD textContentType)
      headers := Value.ofPairs (start.fields.filter fun h => h.1 != "content-type" && h.1 != "content-length") } := by
  rw [← seenContentType_eq]
  rfl

variable {r : Response Value} {type : String} {fields : List (String × String)}

/-- What is left when the frame is taken away from headers that have none of its names. -/
theorem filter_framedFields (content : Bytes) (hnames : ∀ h ∈ fields, ¬ NamesFrame h.1) :
    (framedFields true type content fields).filter (fun h => h.1 != "content-type" && h.1 != "content-length") =
      inSmallLetters fields := by
  have hown : (inSmallLetters fields).filter (fun h => h.1 != "content-type" && h.1 != "content-length") =
      inSmallLetters fields := by
    rw [List.filter_eq_self, inSmallLetters, List.forall_mem_map]
    intro h hh
    have hname := hnames h hh
    simp only [NamesFrame, not_or] at hname
    simp [hname]
  simp [framedFields, List.filter_append, hown]

/-- **A response comes back.** When the status permits a body, the body has bytes and no header has a name of the frame,
a response in Latin-1 is sent, and a client reads it back: with its status, its content type, the bytes of its body, and
its headers in order and as often as they are there, with their names in small letters. -/
theorem answers_are_read_back (h : r.IsLatin1 type fields) (hpermitted : bodyAllowedFor r.status = .ok true)
    (hbytes : r.body.HasBytes) (hnames : ∀ e ∈ fields, ¬ NamesFrame e.1) :
    ∃ m content, encodeResponse r false = .ok m ∧ r.body.IsCarriedBy content ∧
      decodeResponse m = .ok ⟨.bytes content, r.status, r.contentType, Value.ofPairs (inSmallLetters fields)⟩ := by
  obtain ⟨content, hpayload, hcarried⟩ := exists_payloadOf h.body hbytes
  obtain ⟨start, hstatus, hfields, hstart⟩ := exists_start content h hpermitted hpayload
  refine ⟨⟨start, .bytes content⟩, content, hstart false, hcarried, ?_⟩
  -- the one content type of the frame is the last one
  have htype : start.valuesOf "content-type" = [type] := by
    have hother := valuesIn_inSmallLetters_eq_nil_iff.mpr fun e he => (not_or.mp (hnames e he)).1
    rw [StartMessage.valuesOf, hfields]
    simp [framedFields, hother]
  rw [decodeResponse_eq, hfields, filter_framedFields content hnames, htype, hstatus, h.contentType]
  rfl

/-! ### Repeated headers -/

/-- A response with a header that is repeated in other letters, and with letters beyond ASCII. -/
def Response.visit : Response Value :=
  ⟨.str "é", .int 201, .str "text/html", Value.ofPairs [("Set-Cookie", "a=1"), ("X-É", "ÿ"), ("set-cookie", "b=2")]⟩

theorem isLatin1_visit :
    Response.visit.IsLatin1 "text/html" [("Set-Cookie", "a=1"), ("X-É", "ÿ"), ("set-cookie", "b=2")] where
  body := trivial
  status := trivial
  contentType := rfl
  headers := rfl
  type_latin1 := by decide +kernel
  fields_latin1 := by decide +kernel

/-- Every header comes back, in small letters. -/
theorem answers_are_read_back_visit :
    ∃ m content, encodeResponse .visit false = .ok m ∧ (Value.str "é").IsCarriedBy content ∧
      decodeResponse m = .ok ⟨.bytes content, .int 201, .str "text/html",
        Value.ofPairs [("set-cookie", "a=1"), ("x-é", "ÿ"), ("set-cookie", "b=2")]⟩ := by
  have hbytes : Response.visit.body.HasBytes := by
    intro s hs
    obtain rfl : "é" = s := Value.str.inj hs
    decide
  have hnames : ∀ e ∈ [("Set-Cookie", "a=1"), ("X-É", "ÿ"), ("set-cookie", "b=2")], ¬ NamesFrame e.1 := by
    simp only [NamesFrame]
    decide +kernel
  have hsmall : inSmallLetters [("Set-Cookie", "a=1"), ("X-É", "ÿ"), ("set-cookie", "b=2")] =
      [("set-cookie", "a=1"), ("x-é", "ÿ"), ("set-cookie", "b=2")] := by decide +kernel
  have h := answers_are_read_back isLatin1_visit rfl hbytes hnames
  rwa [hsmall] at h

end ServerTree
