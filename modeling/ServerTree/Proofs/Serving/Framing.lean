import ServerTree.Proofs.Serving.Wire
import ServerTree.Proofs.Text.Encoding

/-!
# The framing of answers

Two headers frame an answer: the length of its body and the type of what is in it. They are written around the
headers of the response when its status permits a body, and otherwise not at all. What the response itself has
under these names is sent beside them, so an answer is framed exactly when the response leaves them alone.

## Main definitions
- `Response.IsLatin1`: responses whose content type and headers can be sent
- `Value.HasBytes`, `Value.IsCarriedBy`: bodies that can be sent, and what they are sent as
- `StartMessage.fields`, `StartMessage.valuesOf`: the headers of an answer as texts
- `WireResponse.IsFramed`: one length, which is that of the body, and one content type, or neither of them

## Main statements
- `exists_start`: the messages of a response
- `answers_are_framed_iff`: when an answer is framed
-/

namespace ServerTree

/-! ## Responses that can be sent -/

/-- A response as it is declared, of this content type and these header fields, all of which are in Latin-1. -/
structure Response.IsLatin1 (r : Response Value) (type : String) (fields : List (String × String)) : Prop where
  body : r.body.IsContent
  status : r.status.IsNumber
  contentType : r.contentType = .str type
  headers : r.headers = Value.ofPairs fields
  type_latin1 : Text.IsLatin1 type
  fields_latin1 : ∀ h ∈ fields, Text.IsLatin1 h.1 ∧ Text.IsLatin1 h.2

/-- A body that is no text, or a text without lone surrogates. -/
def Value.HasBytes (body : Value) : Prop :=
  ∀ s, body = .str s → (Text.points s).any Text.isSurrogate = false

/-- The bytes that a body is sent as: a text is sent as UTF-8. -/
inductive Value.IsCarriedBy : Value → Bytes → Prop
  | bytes (raw : Bytes) : IsCarriedBy (.bytes raw) raw
  | text {s : String} {raw : Bytes} : Text.IsUtf8 raw s → IsCarriedBy (.str s) raw

/-- A body is sent as bytes that carry it unless it is a text with a lone surrogate. -/
theorem exists_payloadOf {body : Value} (h : body.IsContent) (hbytes : body.HasBytes) :
    ∃ raw, payloadOf body = .ok (.bytes raw) ∧ body.IsCarriedBy raw := by
  cases body with
  | str s =>
    have hwritten : Text.utf8? s = some ((Text.points s).flatMap Text.utf8Point) := by
      simp [Text.utf8?, hbytes s rfl]
    refine ⟨_, ?_, .text (Text.isUtf8_of_utf8? hwritten)⟩
    rw [payloadOf, utf8Bytes, hwritten]
    rfl
  | bytes raw => exact ⟨raw, rfl, .bytes raw⟩
  | _ => exact h.elim

theorem hasBytes_of_payloadOf {body payload : Value} (h : payloadOf body = .ok payload) : body.HasBytes := by
  rintro s rfl
  simp only [payloadOf, utf8Bytes, Text.utf8?] at h
  by_contra hlone
  simp only [Bool.not_eq_false] at hlone
  rw [hlone] at h
  cases h

/-! ## Headers as texts -/

/-- The values of a header among header fields, in order. -/
def valuesIn (name : String) (fields : List (String × String)) : List String :=
  (fields.filter fun h => h.1 == name).map Prod.snd

/-- The headers of an answer as texts. -/
def StartMessage.fields (m : StartMessage) : List (String × String) :=
  m.headers.map fun h => (Text.latin1Decode h.1, Text.latin1Decode h.2)

/-- The values that an answer has for a header. -/
def StartMessage.valuesOf (m : StartMessage) (name : String) : List String := valuesIn name m.fields

/-- Header fields with their names in small letters. -/
def inSmallLetters (fields : List (String × String)) : List (String × String) :=
  fields.map fun h => (Text.lower h.1, h.2)

@[simp] theorem valuesIn_nil (name : String) : valuesIn name [] = [] := rfl

@[simp] theorem valuesIn_append (name : String) (front back : List (String × String)) :
    valuesIn name (front ++ back) = valuesIn name front ++ valuesIn name back := by
  simp [valuesIn]

@[simp] theorem valuesIn_cons (name : String) (h : String × String) (fields : List (String × String)) :
    valuesIn name (h :: fields) = (if h.1 = name then [h.2] else []) ++ valuesIn name fields := by
  by_cases hname : h.1 = name <;> simp [valuesIn, hname]

/-- Header fields have no value for a name exactly when none of them has this name. -/
theorem valuesIn_inSmallLetters_eq_nil_iff {name : String} {fields : List (String × String)} :
    valuesIn name (inSmallLetters fields) = [] ↔ ∀ h ∈ fields, Text.lower h.1 ≠ name := by
  rw [valuesIn, inSmallLetters, List.map_eq_nil_iff, List.filter_eq_nil_iff, List.forall_mem_map]
  simp

/-- The bytes of a text in Latin-1, which are read as that text. -/
theorem exists_latin1 {s : String} (h : Text.IsLatin1 s) :
    ∃ bytes, latin1 s = .ok bytes ∧ Text.latin1Decode bytes = s := by
  obtain ⟨bytes, hbytes⟩ := h.exists_latin1?
  exact ⟨bytes, by rw [latin1, hbytes], Text.latin1?_eq_some_iff.mp hbytes⟩

/-- **Headers in Latin-1 are sent**, each once and in order, with their names in small letters. -/
theorem exists_encodeHeaders {fields : List (String × String)}
    (h : ∀ e ∈ fields, Text.IsLatin1 e.1 ∧ Text.IsLatin1 e.2) :
    ∃ encoded, encodeHeaders ((Value.ofPairs fields).map fun p => .tuple [p.1, p.2]) = .ok encoded ∧
      (encoded.map fun e => (Text.latin1Decode e.1, Text.latin1Decode e.2)) = inSmallLetters fields := by
  induction fields with
  | nil => exact ⟨[], rfl, rfl⟩
  | cons e fields ih =>
    obtain ⟨hname, hvalue⟩ := h e List.mem_cons_self
    obtain ⟨rest, hrest, hread⟩ := ih fun e he => h e (List.mem_cons_of_mem _ he)
    obtain ⟨name, hname, hnameRead⟩ := exists_latin1 (Text.isLatin1_lower hname)
    obtain ⟨value, hvalue, hvalueRead⟩ := exists_latin1 hvalue
    have hpair : (Value.tuple [.str e.1, .str e.2]).asPair = .ok (.str e.1, .str e.2) := rfl
    have hfirst : encodeHeader (.str e.1, .str e.2) = .ok (name, value) := by
      simp only [encodeHeader, Value.inSmallLetters, latin1Value, ok_bind, hname, hvalue]
      rfl
    refine ⟨(name, value) :: rest, ?_, ?_⟩
    · show encodeHeaders (.tuple [.str e.1, .str e.2] ::
        (Value.ofPairs fields).map fun p => .tuple [p.1, p.2]) = _
      rw [encodeHeaders, hpair, ok_bind, hfirst, ok_bind, hrest]
      rfl
    · simp only [List.map_cons, inSmallLetters, hnameRead, hvalueRead, List.cons.injEq, true_and]
      exact hread

/-- Numbers are written in digits, which are in Latin-1. -/
theorem latin1Decode_natText (n : Nat) : Text.latin1Decode (asciiBytes (toString n)) = toString n := by
  have hback : ∀ c ∈ (toString n).toList, Char.ofNat (UInt8.ofNat c.toNat).toNat = c := by
    intro c hc
    rw [Nat.toString_eq_ofList_toDigits, String.toList_ofList] at hc
    have hdigit := Nat.isDigit_of_mem_toDigits (by decide) (by decide) hc
    simp only [Char.isDigit, Bool.and_eq_true, decide_eq_true_eq] at hdigit
    have hhigh : c.toNat ≤ 57 := UInt32.le_iff_toNat_le.mp hdigit.2
    rw [UInt8.toNat_ofNat_of_lt' (show c.toNat < 256 by omega), Char.ofNat_toNat]
  have hchars : (toString n).toList.map ((fun b : UInt8 => Char.ofNat b.toNat) ∘ fun c => UInt8.ofNat c.toNat) =
      (toString n).toList := (List.map_congr_left hback).trans (List.map_id _)
  rw [Text.latin1Decode, asciiBytes, List.map_map, hchars, String.ofList_toList]

/-! ## The messages of a response -/

/-- What is sent around the headers of a response: its content type in front and the length of its body behind, when
there may be a body. -/
def framedFields (permitted : Bool) (type : String) (content : Bytes) (fields : List (String × String)) :
    List (String × String) :=
  (if permitted then [("content-type", type)] else []) ++ inSmallLetters fields ++
    (if permitted then [("content-length", toString content.length)] else [])

variable {r : Response Value} {type : String} {fields : List (String × String)} {permitted : Bool} {content : Bytes}

/-- **The messages of a response** have its status, and its headers in their frame. Whether the request is for the head
decides about the body alone. -/
theorem exists_start (content : Bytes) (h : r.IsLatin1 type fields) (hpermitted : bodyAllowedFor r.status = .ok permitted)
    (hcontent : if permitted then payloadOf r.body = .ok (.bytes content) else content = []) :
    ∃ start : StartMessage, start.status = r.status ∧ start.fields = framedFields permitted type content fields ∧
      ∀ head, encodeResponse r head = .ok ⟨start, .bytes (if head then [] else content)⟩ := by
  obtain ⟨encoded, hencoded, hread⟩ := exists_encodeHeaders h.fields_latin1
  have hheaders : encodeHeaders (r.headers.map fun p => .tuple [p.1, p.2]) = .ok encoded := by
    rw [h.headers, hencoded]
  cases permitted with
  | false =>
    obtain rfl : content = [] := hcontent
    refine ⟨⟨r.status, encoded⟩, rfl, ?_, fun head => ?_⟩
    · simpa [StartMessage.fields, framedFields] using hread
    · rw [encodeResponse_of_not_allowed head hpermitted, hheaders, ite_self]
      rfl
  | true =>
    have hpayload : payloadOf r.body = .ok (.bytes content) := hcontent
    obtain ⟨bytes, hbytes, htype⟩ := exists_latin1 h.type_latin1
    have hlength : contentLength (.bytes content) = .ok content.length := by
      simp [contentLength, Value.length?, Value.iterate]
    refine ⟨⟨r.status, [(asciiBytes "content-type", bytes)] ++ encoded ++
      [(asciiBytes "content-length", asciiBytes (toString content.length))]⟩, rfl, ?_, fun head => ?_⟩
    · have hnames : Text.latin1Decode (asciiBytes "content-type") = "content-type" ∧
          Text.latin1Decode (asciiBytes "content-length") = "content-length" := by decide +kernel
      simp [StartMessage.fields, framedFields, hread, htype, hnames]
      exact latin1Decode_natText content.length
    · rw [encodeResponse_of_allowed head hpermitted, hpayload, h.contentType, latin1Value, hheaders]
      simp only [ok_bind, hbytes, hlength]
      cases head <;> rfl

/-! ## The frame -/

/-- An answer is framed for a body: it has one length, which is that of the body, and one content type. When there may
be no body, it has neither and carries nothing. -/
structure WireResponse.IsFramed (m : WireResponse) (permitted : Bool) (content : Bytes) : Prop where
  length : m.start.valuesOf "content-length" = if permitted then [toString content.length] else []
  contentType : (m.start.valuesOf "content-type").length = if permitted then 1 else 0
  body : permitted = false → m.body = .bytes []

/-- A name of the frame, in whatever letters. -/
def NamesFrame (name : String) : Prop := Text.lower name = "content-type" ∨ Text.lower name = "content-length"

/-- **An answer is framed** exactly when no header of its response has a name of the frame: those that have one are sent
beside the frame. -/
theorem isFramed_iff {m : WireResponse} (hfields : m.start.fields = framedFields permitted type content fields)
    (hbody : permitted = false → m.body = .bytes []) :
    m.IsFramed permitted content ↔ ∀ h ∈ fields, ¬ NamesFrame h.1 := by
  have hlength : m.start.valuesOf "content-length" = valuesIn "content-length" (inSmallLetters fields) ++
      if permitted then [toString content.length] else [] := by
    rw [StartMessage.valuesOf, hfields]
    cases permitted <;> simp [framedFields]
  have htype : m.start.valuesOf "content-type" =
      (if permitted then [type] else []) ++ valuesIn "content-type" (inSmallLetters fields) := by
    rw [StartMessage.valuesOf, hfields]
    cases permitted <;> simp [framedFields]
  -- what the response has under the names of the frame comes on top of what the frame has
  have hnone : (∀ h ∈ fields, ¬ NamesFrame h.1) ↔ valuesIn "content-type" (inSmallLetters fields) = [] ∧
      valuesIn "content-length" (inSmallLetters fields) = [] := by
    simp only [NamesFrame, not_or, valuesIn_inSmallLetters_eq_nil_iff]
    exact ⟨fun h => ⟨fun e he => (h e he).1, fun e he => (h e he).2⟩, fun h e he => ⟨h.1 e he, h.2 e he⟩⟩
  rw [hnone]
  constructor
  · intro h
    have hone := h.length
    have hother := h.contentType
    rw [hlength, List.append_left_eq_self] at hone
    rw [htype, List.length_append] at hother
    refine ⟨List.length_eq_zero_iff.mp ?_, hone⟩
    cases permitted <;> simpa using hother
  · intro ⟨hother, hone⟩
    refine ⟨?_, ?_, hbody⟩
    · rw [hlength, hone, List.nil_append]
    · rw [htype, hother, List.append_nil]
      cases permitted <;> rfl

/-! ## Answers -/

theorem bodyAllowed_eq_false_iff (s : Int) : bodyAllowed s = false ↔ 100 ≤ s ∧ s < 200 ∨ s = 204 ∨ s = 304 := by
  simp only [bodyAllowed, Bool.not_eq_false', Bool.or_eq_true, Bool.and_eq_true, decide_eq_true_eq, beq_iff_eq]
  exact or_assoc

/-- **When answers are framed.** A response in Latin-1 is answered unless its body is needed and has a lone surrogate.
Its start message is the same for all requests, and nothing is sent as the body where the status permits none. The
answer is framed for the body that requests for more than the head are sent exactly when the response has no header of
its own under a name of the frame. -/
theorem answers_are_framed_iff (h : r.IsLatin1 type fields) (head : Bool) :
    ∃ permitted, bodyAllowedFor r.status = .ok permitted ∧
      (∀ s, r.status = .int s → (permitted = false ↔ 100 ≤ s ∧ s < 200 ∨ s = 204 ∨ s = 304)) ∧
      ((∃ m, encodeResponse r head = .ok m) ↔ (permitted = true → r.body.HasBytes)) ∧
      ∀ m, encodeResponse r head = .ok m →
        ∃ content, encodeResponse r false = .ok ⟨m.start, .bytes content⟩ ∧
          m.body = .bytes (if head then [] else content) ∧ (permitted = false → content = []) ∧
          (m.IsFramed permitted content ↔ ∀ h ∈ fields, ¬ NamesFrame h.1) := by
  obtain ⟨permitted, hpermitted⟩ := exists_bodyAllowedFor h.status
  -- the messages, as soon as there are bytes for the body
  have hmessages : (permitted = true → r.body.HasBytes) → ∃ (content : Bytes) (start : StartMessage),
      (permitted = false → content = []) ∧ start.fields = framedFields permitted type content fields ∧
        ∀ head, encodeResponse r head = .ok ⟨start, .bytes (if head then [] else content)⟩ := by
    intro hbytes
    cases permitted with
    | false =>
      obtain ⟨start, -, hfields, hstart⟩ := exists_start [] h hpermitted rfl
      exact ⟨[], start, fun _ => rfl, hfields, hstart⟩
    | true =>
      obtain ⟨content, hcontent, -⟩ := exists_payloadOf h.body (hbytes rfl)
      obtain ⟨start, -, hfields, hstart⟩ := exists_start content h hpermitted hcontent
      exact ⟨content, start, nofun, hfields, hstart⟩
  have hneeded : ∀ m, encodeResponse r head = .ok m → permitted = true → r.body.HasBytes := by
    rintro m hm rfl
    rw [encodeResponse_of_allowed head hpermitted] at hm
    obtain ⟨payload, hpayload, -⟩ := exists_of_bind_eq_ok hm
    exact hasBytes_of_payloadOf hpayload
  refine ⟨permitted, hpermitted, ?_, ⟨fun ⟨m, hm⟩ => hneeded m hm, fun hbytes => ?_⟩, fun m hm => ?_⟩
  · intro s hs
    rw [hs] at hpermitted
    obtain rfl : bodyAllowed s = permitted := Except.ok.inj hpermitted
    exact bodyAllowed_eq_false_iff s
  · obtain ⟨content, start, -, -, hstart⟩ := hmessages hbytes
    exact ⟨_, hstart head⟩
  · obtain ⟨content, start, hnone, hfields, hstart⟩ := hmessages (hneeded m hm)
    obtain rfl : ⟨start, .bytes (if head then [] else content)⟩ = m := Except.ok.inj ((hstart head).symm.trans hm)
    refine ⟨content, hstart false, rfl, hnone, isFramed_iff hfields fun hpermitted => ?_⟩
    rw [hnone hpermitted, ite_self]

/-! ### A header of its own -/

/-- A response with a header that is no part of the frame. -/
def Response.greeting : Response Value := ⟨.str "hi", .int 200, .str textContentType, Value.ofPairs [("X-A", "1")]⟩

theorem isLatin1_greeting : Response.greeting.IsLatin1 textContentType [("X-A", "1")] where
  body := trivial
  status := trivial
  contentType := rfl
  headers := rfl
  type_latin1 := by decide +kernel
  fields_latin1 := by decide +kernel

/-- The answer to a request for its head is framed for the two bytes that other requests are sent. -/
theorem answers_are_framed_iff_greeting :
    ∃ m, encodeResponse .greeting true = .ok m ∧ m.body = .bytes [] ∧ m.IsFramed true (asciiBytes "hi") := by
  obtain ⟨permitted, hpermitted, -, hsent, hframed⟩ := answers_are_framed_iff isLatin1_greeting true
  obtain rfl : true = permitted := Except.ok.inj hpermitted
  have hbytes : Response.greeting.body.HasBytes := by
    intro s hs
    obtain rfl : "hi" = s := Value.str.inj hs
    decide
  obtain ⟨m, hm⟩ := hsent.mpr fun _ => hbytes
  obtain ⟨content, hwhole, hbody, -, hiff⟩ := hframed m hm
  have hcomputed : ∃ start, encodeResponse .greeting false = .ok ⟨start, .bytes (asciiBytes "hi")⟩ := ⟨_, rfl⟩
  obtain ⟨start, hstart⟩ := hcomputed
  obtain rfl : content = asciiBytes "hi" := by
    have hsame := congrArg WireResponse.body (Except.ok.inj (hwhole.symm.trans hstart))
    exact Value.bytes.inj hsame
  refine ⟨m, hm, hbody, hiff.mpr ?_⟩
  simp only [List.mem_singleton, forall_eq, NamesFrame]
  decide +kernel

/-! ### A length of its own -/

/-- A response that states a length. -/
def Response.measured (status : Int) : Response Value :=
  ⟨.str "hi", .int status, .str textContentType, Value.ofPairs [("Content-Length", "5")]⟩

theorem isLatin1_measured (status : Int) :
    (Response.measured status).IsLatin1 textContentType [("Content-Length", "5")] where
  body := trivial
  status := trivial
  contentType := rfl
  headers := rfl
  type_latin1 := by decide +kernel
  fields_latin1 := by decide +kernel

/-- **A stated length is sent beside that of the body**, and also where there is no body. Neither answer is framed. -/
theorem answers_state_lengths :
    (∀ status, (Response.measured status).IsLatin1 textContentType [("Content-Length", "5")]) ∧
      (∃ m, encodeResponse (.measured 200) false = .ok m ∧ m.body = .bytes (asciiBytes "hi") ∧
        m.start.valuesOf "content-length" = ["5", "2"] ∧ ¬ m.IsFramed true (asciiBytes "hi")) ∧
      ∃ m, encodeResponse (.measured 204) false = .ok m ∧ m.body = .bytes [] ∧
        m.start.valuesOf "content-length" = ["5"] ∧ ¬ m.IsFramed false [] := by
  refine ⟨isLatin1_measured, ?_, ?_⟩
  · refine ⟨_, rfl, rfl, by decide +kernel, fun h => ?_⟩
    exact absurd h.length (by decide +kernel)
  · refine ⟨_, rfl, rfl, by decide +kernel, fun h => ?_⟩
    exact absurd h.length (by decide +kernel)

end ServerTree
