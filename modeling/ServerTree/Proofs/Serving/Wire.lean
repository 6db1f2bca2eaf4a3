import ServerTree.App.Outcome
import ServerTree.Proofs.Assoc
import ServerTree.Proofs.Returns

/-!
# What can be put on the wire

A response whose status is a number, whose content type and headers are texts and whose body is a text or
bytes is encoded unless one of its texts cannot be: a header outside Latin-1 or a body with a lone surrogate.
What the library answers itself has no such text in its body.

## Main definitions
- `Encodes`: nothing fails but the encoding of a text
- `Response.IsPlain`, `HttpError.IsPlain`, `Descriptor.IsPlain`: fields of the types that they are declared
  with

## Main statements
- `Response.IsPlain.encodes`: plain responses are encoded
- `Response.IsDocument.encode`: so are all JSON documents, without exception
- `HttpError.IsPlain.envelope`: plain HTTP errors have plain envelopes
- `Descriptor.IsPlain.response`: plain descriptors have plain responses
-/

namespace ServerTree

variable {α β : Type}

/-! ## Texts that cannot be encoded -/

/-- An attempt that fails at most because a text cannot be encoded. -/
def Encodes (x : Attempt α) : Prop :=
  ∀ f, x = .error f → f = .refused .notLatin1 ∨ f = .refused .notEncodable

theorem encodes_ok (a : α) : Encodes (.ok a : Attempt α) := fun _ h => nomatch h

theorem Encodes.bind {x : Attempt α} {f : α → Attempt β} (hx : Encodes x) (hf : ∀ a, Encodes (f a)) :
    Encodes (x >>= f) := by
  cases x with
  | ok a => exact hf a
  | error e => exact fun e' h => hx e' (congrArg Except.error (Except.error.inj h))

theorem encodes_latin1 (s : String) : Encodes (latin1 s) := by
  unfold latin1
  cases Text.latin1? s with
  | some bytes => exact encodes_ok bytes
  | none => exact fun f h => .inl (Except.error.inj h).symm

theorem encodes_utf8Bytes (s : String) : Encodes (utf8Bytes s) := by
  unfold utf8Bytes
  cases Text.utf8? s with
  | some bytes => exact encodes_ok bytes
  | none => exact fun f h => .inr (Except.error.inj h).symm

/-! ## Responses -/

/-- A number. -/
def Value.IsNumber : Value → Prop
  | .int _ | .bool _ | .float _ | .nan _ => True
  | _ => False

/-- A text or bytes. -/
def Value.IsContent : Value → Prop
  | .str _ | .bytes _ => True
  | _ => False

/-- A pair of texts. -/
def IsTextPair (h : Value × Value) : Prop := ∃ name value, h = (.str name, .str value)

/-- A response whose fields are of the types that they are declared with. -/
structure Response.IsPlain (r : Response Value) : Prop where
  body : r.body.IsContent
  status : r.status.IsNumber
  contentType : ∃ s, r.contentType = .str s
  headers : ∀ h ∈ r.headers, IsTextPair h

theorem exists_bodyAllowedFor {status : Value} (h : status.IsNumber) :
    ∃ allowed, bodyAllowedFor status = .ok allowed := by
  cases status with
  | int s => exact ⟨_, rfl⟩
  | bool x => exact ⟨_, rfl⟩
  | float x => exact ⟨_, rfl⟩
  | nan s => exact ⟨_, rfl⟩
  | _ => exact h.elim

/-- The messages of a response whose status permits a body. -/
theorem encodeResponse_of_allowed {r : Response Value} (head : Bool)
    (h : bodyAllowedFor r.status = .ok true) :
    encodeResponse r head = (do
      let body ← payloadOf r.body
      let contentType ← latin1Value r.contentType
      let headers ← encodeHeaders (r.headers.map fun p => .tuple [p.1, p.2])
      let n ← contentLength body
      return ⟨⟨r.status, [(asciiBytes "content-type", contentType)] ++ headers ++
        [(asciiBytes "content-length", asciiBytes (toString n))]⟩, if head then .bytes [] else body⟩) := by
  have hstatus : (Value.response r).part "status" = .ok r.status := rfl
  have htype : (Value.response r).part "content_type" = .ok r.contentType := rfl
  have hheaders : (Value.response r).part "headers" = .ok (Value.ofPairTuple r.headers) := rfl
  have hfields : (Value.ofPairTuple r.headers).iterate =
      .ok (r.headers.map fun p => .tuple [p.1, p.2]) := rfl
  have hcontent : contentOf (.response r) = payloadOf r.body := rfl
  simp only [encodeResponse, encodeAnswer, hstatus, htype, hheaders, hfields, hcontent, h, ok_bind, if_true]
  cases payloadOf r.body with
  | error f => rfl
  | ok body =>
    cases latin1Value r.contentType with
    | error f => rfl
    | ok contentType =>
      cases encodeHeaders (r.headers.map fun p => .tuple [p.1, p.2]) with
      | error f => rfl
      | ok headers =>
        simp only [ok_bind]
        cases contentLength body with
        | error f => rfl
        | ok n => rfl

/-- The messages of a response whose status permits no body. -/
theorem encodeResponse_of_not_allowed {r : Response Value} (head : Bool)
    (h : bodyAllowedFor r.status = .ok false) :
    encodeResponse r head = (do
      let headers ← encodeHeaders (r.headers.map fun p => .tuple [p.1, p.2])
      return ⟨⟨r.status, headers⟩, .bytes []⟩) := by
  have hstatus : (Value.response r).part "status" = .ok r.status := rfl
  have hheaders : (Value.response r).part "headers" = .ok (Value.ofPairTuple r.headers) := rfl
  have hfields : (Value.ofPairTuple r.headers).iterate =
      .ok (r.headers.map fun p => .tuple [p.1, p.2]) := rfl
  simp only [encodeResponse, encodeAnswer, hstatus, hheaders, hfields, h, ok_bind]
  cases encodeHeaders (r.headers.map fun p => .tuple [p.1, p.2]) with
  | error f => rfl
  | ok headers =>
    simp only [ok_bind, Bool.false_eq_true, if_false, List.nil_append, List.append_nil, ite_self]

/-- Pairs of texts are encoded in order, one header for each. -/
theorem encodes_encodeHeaders {headers : List (Value × Value)} (h : ∀ p ∈ headers, IsTextPair p) :
    Encodes (encodeHeaders (headers.map fun p => .tuple [p.1, p.2])) := by
  induction headers with
  | nil => exact encodes_ok []
  | cons p headers ih =>
    obtain ⟨name, value, rfl⟩ := h p List.mem_cons_self
    have hhead : Encodes (encodeHeader (.str name, .str value)) := by
      simp only [encodeHeader, Value.inSmallLetters, latin1Value, ok_bind]
      exact (encodes_latin1 _).bind fun n => (encodes_latin1 value).bind fun v => encodes_ok (n, v)
    have hrest := ih fun p hp => h p (List.mem_cons_of_mem _ hp)
    have hpair : (Value.tuple [.str name, .str value]).asPair = .ok (.str name, .str value) := rfl
    simp only [List.map_cons, encodeHeaders, hpair, ok_bind]
    exact hhead.bind fun e => hrest.bind fun es => encodes_ok (e :: es)

theorem encodes_payloadOf {body : Value} (h : body.IsContent) : Encodes (payloadOf body) := by
  cases body with
  | str s =>
    have hs := encodes_utf8Bytes s
    rw [payloadOf]
    cases hbytes : utf8Bytes s with
    | ok bytes => exact encodes_ok _
    | error f =>
      intro f' h'
      obtain rfl := Except.error.inj h'
      exact hs f hbytes
  | bytes raw => exact encodes_ok _
  | _ => exact h.elim

/-- What a text or bytes is sent as are bytes. -/
theorem bytes_of_payloadOf {body payload : Value} (h : body.IsContent) (hp : payloadOf body = .ok payload) :
    ∃ raw, payload = .bytes raw := by
  cases body with
  | str s =>
    rw [payloadOf] at hp
    cases hbytes : utf8Bytes s with
    | ok raw =>
      rw [hbytes] at hp
      exact ⟨raw, (Except.ok.inj hp).symm⟩
    | error f =>
      rw [hbytes] at hp
      cases hp
  | bytes raw => exact ⟨raw, (Except.ok.inj hp).symm⟩
  | _ => exact h.elim

/-- **A plain response is encoded**, unless one of its texts cannot be. -/
theorem Response.IsPlain.encodes {r : Response Value} (h : r.IsPlain) (head : Bool) :
    Encodes (encodeResponse r head) := by
  obtain ⟨allowed, hallowed⟩ := exists_bodyAllowedFor h.status
  have hheaders := encodes_encodeHeaders h.headers
  cases allowed with
  | false =>
    rw [encodeResponse_of_not_allowed head hallowed]
    exact hheaders.bind fun headers => encodes_ok _
  | true =>
    rw [encodeResponse_of_allowed head hallowed]
    obtain ⟨contentType, hcontentType⟩ := h.contentType
    rw [hcontentType]
    cases hbody : payloadOf r.body with
    | error f =>
      intro f' hf'
      obtain rfl : f = f' := Except.error.inj hf'
      exact encodes_payloadOf h.body f hbody
    | ok body =>
      obtain ⟨raw, rfl⟩ := bytes_of_payloadOf h.body hbody
      -- the length of bytes is known
      exact (encodes_latin1 contentType).bind fun bytes => hheaders.bind fun headers => encodes_ok _

/-! ## Documents -/

/-- A text in ASCII, as the body of a JSON document is whatever its texts are. -/
def IsAscii (cs : List Char) : Prop := ∀ c ∈ cs, c.toNat < 128

@[simp] theorem isAscii_nil : IsAscii [] := fun _ hc => nomatch hc

@[simp] theorem isAscii_cons {c : Char} {cs : List Char} :
    IsAscii (c :: cs) ↔ c.toNat < 128 ∧ IsAscii cs := List.forall_mem_cons

@[simp] theorem isAscii_append {cs ds : List Char} : IsAscii (cs ++ ds) ↔ IsAscii cs ∧ IsAscii ds :=
  List.forall_mem_append

theorem isAscii_hexDigits (width n : Nat) : IsAscii (Text.hexDigits width n) := by
  have hdigit : ∀ n < 16, (Text.hexDigit n).toNat < 128 := by decide
  induction width generalizing n with
  | zero => exact isAscii_nil
  | succ width ih => simp [Text.hexDigits, ih, hdigit _ (Nat.mod_lt n (by decide))]

theorem isAscii_unitEscape (n : Nat) : IsAscii (Json.unitEscape n) := by
  simp [Json.unitEscape, isAscii_hexDigits]

theorem isAscii_stringPoint (n : Nat) : IsAscii (Json.stringPoint n) := by
  have hpair : ∀ c : Char, c.toNat < 128 → IsAscii ['\\', c] := fun c hc =>
    isAscii_cons.mpr ⟨by decide, isAscii_cons.mpr ⟨hc, isAscii_nil⟩⟩
  unfold Json.stringPoint
  -- seven characters have an escape of their own, and all that is not visible has one by its number
  iterate 7
    split
    · exact hpair _ (by decide)
  split
  · rename_i hvisible
    have hn : (Char.ofNat n).toNat = n := Text.toNat_ofNat (.inl (by omega))
    exact isAscii_cons.mpr ⟨by omega, isAscii_nil⟩
  split
  · exact isAscii_unitEscape n
  · exact isAscii_append.mpr ⟨isAscii_unitEscape _, isAscii_unitEscape _⟩

/-- A JSON string is in ASCII, whatever it is the string of. -/
theorem isAscii_string (s : String) : IsAscii (Json.string s) := by
  have hpoints : IsAscii ((Text.points s).flatMap Json.stringPoint) := by
    intro c hc
    obtain ⟨n, -, hn⟩ := List.mem_flatMap.mp hc
    exact isAscii_stringPoint n c hn
  simp [Json.string, hpoints]

/-- What is in ASCII is its own code points. -/
theorem pointsOf_of_isAscii {cs : List Char} (h : IsAscii cs) : Text.pointsOf cs = cs.map Char.toNat := by
  -- only a mark holds what is no character, and a mark is not in ASCII
  have hmark : ∀ c ∈ cs, c ≠ Text.mark := by
    rintro c hc rfl
    exact absurd (h _ hc) (by decide)
  clear h
  induction cs using Text.pointsOf.induct with
  | case1 => rfl
  | case2 c => rfl
  | case3 d r => exact absurd rfl (hmark _ List.mem_cons_self)
  | case4 c d r hc ih =>
    rw [Text.pointsOf, if_neg hc, ih fun c' hc' => hmark c' (List.mem_cons_of_mem _ hc')]
    rfl

theorem exists_utf8Bytes {cs : List Char} (h : IsAscii cs) :
    ∃ raw, utf8Bytes (String.ofList cs) = .ok raw := by
  have hnone : (Text.points (String.ofList cs)).any Text.isSurrogate = false := by
    rw [Text.points, String.toList_ofList, pointsOf_of_isAscii h, List.any_eq_false]
    intro n hn
    obtain ⟨c, hc, rfl⟩ := List.mem_map.mp hn
    have hsmall := h c hc
    simp only [Text.isSurrogate, Bool.and_eq_true, decide_eq_true_eq, not_and]
    omega
  unfold utf8Bytes Text.utf8?
  rw [hnone]
  exact ⟨_, rfl⟩

/-- A JSON document as a response. -/
structure Response.IsDocument (r : Response Value) : Prop where
  body : ∃ cs, r.body = .str (String.ofList cs) ∧ IsAscii cs
  status : r.status.IsNumber
  contentType : r.contentType = .str jsonContentType
  headers : r.headers = []

/-- **A JSON document is encoded**, whatever stands in it. -/
theorem Response.IsDocument.encode {r : Response Value} (h : r.IsDocument) (head : Bool) :
    ∃ messages, encodeResponse r head = .ok messages := by
  obtain ⟨allowed, hallowed⟩ := exists_bodyAllowedFor h.status
  cases allowed with
  | false =>
    rw [encodeResponse_of_not_allowed head hallowed, h.headers]
    exact ⟨_, rfl⟩
  | true =>
    obtain ⟨cs, hbody, hascii⟩ := h.body
    obtain ⟨raw, hraw⟩ := exists_utf8Bytes hascii
    have hpayload : payloadOf r.body = .ok (.bytes raw) := by
      rw [hbody, payloadOf, hraw]
      rfl
    have htype : ∃ bytes, latin1 jsonContentType = .ok bytes := ⟨_, rfl⟩
    obtain ⟨bytes, hbytes⟩ := htype
    rw [encodeResponse_of_allowed head hallowed, hpayload, h.contentType, h.headers, latin1Value, hbytes]
    exact ⟨_, rfl⟩

/-- The JSON response of an error is its envelope. -/
theorem jsonResponse_error (status : Value) (message : String) :
    jsonResponse (.ofFields [("error", .str message)]) status = .ok (errorResponse status message []) := by
  have hkey : Json.string "error" ++ ":".toList = "\"error\":".toList := by decide
  simp only [jsonResponse, Json.write, Json.writtenDepth, Value.ofFields, List.map_cons, List.map_nil,
    Json.chars, Json.charsEntries, Json.keyText, Json.compact, hkey, ok_bind]
  rfl

/-- What an error shows when debugging, as a document. -/
theorem write_debug (shown message stack : String) : ∃ cs,
    Json.write (.ofFields [("error", .str shown),
      ("details", .ofFields [("message", .str message), ("stack", .str stack)])]) =
        .ok (String.ofList cs) ∧ IsAscii cs := by
  simp only [Json.write, Json.writtenDepth, Value.ofFields, List.map_cons, List.map_nil, Json.chars,
    Json.charsEntries, Json.keyText, Json.compact, Json.separated, ok_bind, pure, Except.pure, Except.map]
  refine ⟨_, rfl, ?_⟩
  simp [isAscii_string]

/-- The envelope of a text is a document. -/
theorem isDocument_errorResponse (status : Int) (message : String) :
    (errorResponse (.int status) message []).IsDocument where
  body := by
    refine ⟨_, rfl, ?_⟩
    simp [isAscii_string]
  status := trivial
  contentType := rfl
  headers := rfl

/-! ## HTTP errors -/

/-- An HTTP error whose fields are of the types that it is declared with. The values of headers are only
shown. -/
structure HttpError.IsPlain (e : HttpError Value) : Prop where
  status : e.status.IsNumber
  shown : ∃ text, e.status.text = .ok text
  detail : ∃ s, e.detail = .str s
  headers : ∀ h ∈ e.headers, (∃ name, h.1 = .str name) ∧ ∃ text, h.2.text = .ok text

/-- Headers are shown when each of their values can be. -/
theorem exists_headerTexts {headers : List (Value × Value)}
    (h : ∀ e ∈ headers, (∃ name, e.1 = .str name) ∧ ∃ text, e.2.text = .ok text) :
    ∃ shown, headerTexts headers = .ok shown ∧ ∀ e ∈ shown, IsTextPair e := by
  induction headers with
  | nil => exact ⟨[], rfl, fun e he => nomatch he⟩
  | cons e headers ih =>
    obtain ⟨key, value⟩ := e
    obtain ⟨⟨name, rfl⟩, text, htext⟩ := h _ List.mem_cons_self
    obtain ⟨shown, hshown, hpairs⟩ := ih fun e he => h e (List.mem_cons_of_mem _ he)
    refine ⟨(.str name, .str text) :: shown, ?_, List.forall_mem_cons.mpr ⟨⟨name, text, rfl⟩, hpairs⟩⟩
    simp only at htext
    rw [headerTexts, htext, hshown]
    rfl

/-- Texts are keys. -/
theorem mapM_asKey {headers : List (Value × Value)} (h : ∀ e ∈ headers, ∃ name, e.1 = .str name) :
    (headers.mapM fun e => e.1.asKey.map fun k => (k, e.2)) = .ok headers := by
  induction headers with
  | nil => rfl
  | cons e headers ih =>
    obtain ⟨key, value⟩ := e
    obtain ⟨name, rfl⟩ := h _ List.mem_cons_self
    rw [List.mapM_cons, ih fun e he => h e (List.mem_cons_of_mem _ he)]
    rfl

/-- **A plain HTTP error has a plain envelope**, of its status. -/
theorem HttpError.IsPlain.envelope {e : HttpError Value} (h : e.IsPlain) :
    ∃ r, e.envelope = .ok r ∧ r.IsPlain := by
  obtain ⟨status, hstatus⟩ := h.shown
  obtain ⟨detail, hdetail⟩ := h.detail
  have hsanitized : ∃ shown, sanitizeFailure (.http e) ("Error " ++ status) = .ok shown := by
    rw [sanitizeFailure, sanitizeMessage, errorText?, hdetail]
    exact ⟨_, rfl⟩
  obtain ⟨shown, hshown⟩ := hsanitized
  -- repeated names are merged, which invents no entry
  have hentries := Assoc.forall_ofList (P := fun k : Value => ∃ name, k = .str name)
    (Q := fun v : Value => ∃ text, v.text = .ok text) h.headers
  obtain ⟨headers, hheaders, hpairs⟩ := exists_headerTexts hentries
  refine ⟨{ errorResponse e.status shown [] with headers := headers }, ?_,
    ⟨trivial, h.status, ⟨_, rfl⟩, hpairs⟩⟩
  have hkeys := mapM_asKey fun entry hentry => (h.headers entry hentry).1
  simp only [HttpError.envelope, errorEnvelope, hstatus, hshown, jsonResponse_error, hkeys, hheaders, ok_bind]
  rfl

/-- The envelope of an HTTP error shows its status and what is left of its detail. -/
theorem shown_of_envelope {e : HttpError Value} {r : Response Value} (h : e.envelope = .ok r) :
    ∃ status text headers, e.status.text = .ok status ∧
      sanitizeFailure (.http e) ("Error " ++ status) = .ok text ∧
        r = { errorResponse e.status text [] with headers := headers } := by
  obtain ⟨status, hstatus, h⟩ := exists_of_bind_eq_ok h
  obtain ⟨text, htext, h⟩ := exists_of_bind_eq_ok h
  rw [errorEnvelope, jsonResponse_error, ok_bind] at h
  obtain ⟨keyed, -, h⟩ := exists_of_bind_eq_ok h
  obtain ⟨headers, -, h⟩ := exists_of_bind_eq_ok h
  exact ⟨status, text, headers, hstatus, htext, (Except.ok.inj h).symm⟩

/-! ## Descriptors -/

/-- A descriptor whose status is a number, whose headers have texts for names, and whose content type is a
text unless it is missing. -/
structure Descriptor.IsPlain (d : Descriptor) : Prop where
  status : d.status.IsNumber
  headers : ∀ h ∈ d.headers, ∃ name, h.1 = .str name ∧
    (Text.lower name = "content-type" → h.2.truthy = false ∨ ∃ s, h.2 = .str s)

/-- Of the headers of a plain descriptor, the ones that are no content type have texts for names. -/
theorem splitContentType_plain {fields headers : List (Value × Value)} {contentType : Option Value}
    (h : ∀ e ∈ fields, ∃ name, e.1 = .str name ∧
      (Text.lower name = "content-type" → e.2.truthy = false ∨ ∃ s, e.2 = .str s))
    (hsplit : splitContentType fields = .ok (headers, contentType)) :
    (∀ e ∈ headers, ∃ name, e.1 = .str name) ∧
      ∀ v, contentType = some v → v.truthy = false ∨ ∃ s, v = .str s := by
  induction fields generalizing headers contentType with
  | nil =>
    obtain ⟨rfl, rfl⟩ := Prod.mk.inj (Except.ok.inj hsplit)
    exact ⟨(fun e he => nomatch he), fun v hv => nomatch hv⟩
  | cons e fields ih =>
    obtain ⟨key, value⟩ := e
    obtain ⟨name, rfl, hname⟩ := h _ List.mem_cons_self
    simp only [splitContentType, Value.inSmallLetters, ok_bind] at hsplit
    obtain ⟨⟨headers', contentType'⟩, hrest, hsplit⟩ := exists_of_bind_eq_ok hsplit
    obtain ⟨hheaders, hcontentType⟩ := ih (fun e he => h e (List.mem_cons_of_mem _ he)) hrest
    by_cases hsame : (Value.str (Text.lower name) == .str "content-type") = true
    · rw [if_pos hsame] at hsplit
      obtain ⟨rfl, rfl⟩ := Prod.mk.inj (Except.ok.inj hsplit)
      refine ⟨hheaders, fun v hv => ?_⟩
      obtain rfl := Option.some.inj hv
      exact hname (eq_of_beq ((Value.beq_str _ _).symm.trans hsame))
    · rw [if_neg hsame] at hsplit
      obtain ⟨rfl, rfl⟩ := Prod.mk.inj (Except.ok.inj hsplit)
      exact ⟨List.forall_mem_cons.mpr ⟨⟨name, rfl⟩, hheaders⟩, hcontentType⟩

/-- What a body is sent as is a text or bytes. -/
theorem isContent_of_asContent {body content : Value} {usual : String}
    (h : body.asContent = .ok (content, usual)) : content.IsContent := by
  have hwritten : ∀ v : Value, (do
      let s ← Json.write v
      return (Value.str s, jsonContentType) : Attempt (Value × String)) = .ok (content, usual) →
        content.IsContent := by
    intro v hv
    obtain ⟨s, -, hv⟩ := exists_of_bind_eq_ok hv
    obtain ⟨rfl, -⟩ := Prod.mk.inj (Except.ok.inj hv)
    trivial
  cases body with
  | none | str s | bytes raw =>
    obtain ⟨rfl, -⟩ := Prod.mk.inj (Except.ok.inj h)
    trivial
  | _ => exact hwritten _ h

/-- The text of a value is how it is displayed. -/
theorem eq_display_of_text {v : Value} {text : String} (h : v.text = .ok text) : text = v.display := by
  unfold Value.text at h
  split at h
  · cases h
  · exact (Except.ok.inj h).symm

/-- Headers are shown when their values have texts. -/
theorem headerTexts_eq_ok_iff {headers shown : List (Value × Value)} :
    headerTexts headers = .ok shown ↔
      (∀ h ∈ headers, ∃ text, h.2.text = .ok text) ∧ shown = headers.map fun h => (h.1, .str h.2.display) := by
  induction headers generalizing shown with
  | nil => simp [headerTexts, eq_comm]
  | cons h headers ih =>
    obtain ⟨k, v⟩ := h
    rw [headerTexts, List.forall_mem_cons]
    cases htext : v.text with
    | error f => simp [bind, Except.bind]
    | ok text =>
      obtain rfl := eq_display_of_text htext
      have hfirst : ∃ text, (Except.ok v.display : Attempt String) = .ok text := ⟨_, rfl⟩
      simp only [ok_bind, hfirst, true_and, List.map_cons]
      constructor
      · intro h
        obtain ⟨rest, hrest, h⟩ := exists_of_bind_eq_ok h
        obtain ⟨htexts, rfl⟩ := ih.mp hrest
        exact ⟨htexts, (Except.ok.inj h).symm⟩
      · rintro ⟨htexts, rfl⟩
        rw [ih.mpr ⟨htexts, rfl⟩]
        rfl

/-- The names of headers stay when their values are shown as texts. -/
theorem textPairs_of_headerTexts {headers shown : List (Value × Value)}
    (h : ∀ e ∈ headers, ∃ name, e.1 = .str name) (hshown : headerTexts headers = .ok shown) :
    ∀ e ∈ shown, IsTextPair e := by
  obtain ⟨-, rfl⟩ := headerTexts_eq_ok_iff.mp hshown
  intro e he
  obtain ⟨e', he', rfl⟩ := List.mem_map.mp he
  obtain ⟨name, hname⟩ := h e' he'
  exact ⟨name, e'.2.display, by rw [hname]⟩

/-- **The response of a plain descriptor is plain**, whatever its body and the values of its headers are. -/
theorem Descriptor.IsPlain.response {d : Descriptor} {r : Response Value} (h : d.IsPlain)
    (hr : d.response = .ok r) : r.IsPlain := by
  obtain ⟨⟨headers, contentType⟩, hsplit, hr⟩ := exists_of_bind_eq_ok hr
  obtain ⟨⟨content, usual⟩, hbody, hr⟩ := exists_of_bind_eq_ok hr
  obtain ⟨shown, hshown, hr⟩ := exists_of_bind_eq_ok hr
  obtain rfl := Except.ok.inj hr
  obtain ⟨hnames, hcontentType⟩ := splitContentType_plain h.headers hsplit
  refine ⟨isContent_of_asContent hbody, h.status, ?_, textPairs_of_headerTexts hnames hshown⟩
  -- a content type that counts as false gives way to the usual one
  cases contentType with
  | none => exact ⟨usual, rfl⟩
  | some v =>
    simp only [Option.getD_some, Value.orElse]
    split
    · next htruthy => exact (hcontentType v rfl).resolve_left (by simp [htruthy])
    · exact ⟨usual, rfl⟩

/-! ## Results of handlers -/

/-- A reply whose status is a number and whose headers have texts for names. -/
structure Reply.IsPlain (r : Reply) : Prop where
  status : r.status.IsNumber
  headers : ∀ h ∈ r.headers, ∃ name, h.1 = .str name

theorem Reply.IsPlain.descriptor {r : Reply} (h : r.IsPlain) : r.descriptor.IsPlain where
  status := h.status
  headers := by
    intro e he
    obtain ⟨entry, hentry, rfl⟩ := List.mem_map.mp he
    obtain ⟨name, hname⟩ := h.headers entry hentry
    exact ⟨name, hname, fun _ => .inr ⟨entry.2, rfl⟩⟩

/-- **The response of a handler's result is plain** when the reply, a response that it returns, and what its
response tree says are. Plain values may be anything. -/
theorem isPlain_of_renderResult {U : Type} {call : Expander U} {result : Value} {reply : Reply} {user : U}
    {r : Response Value} (hreply : reply.IsPlain) (hresponse : ∀ r', result = .response r' → r'.IsPlain)
    (htree : ∀ d, (outcome (describeResponse call result) user).1 = .ok d → d.IsPlain)
    (h : (outcome (renderResult call result reply) user).1 = .ok r) : r.IsPlain := by
  have hofAttempt : ∀ {x : Attempt (Response Value)} {user : U},
      (outcome (Expand.ofAttempt x : Expand U (Response Value)) user).1 = .ok r → x = .ok r := by
    intro x user hx
    cases x with
    | ok r' => exact congrArg Except.ok (Except.ok.inj hx)
    | error f => cases hx
  have hdocument : ∀ {v : Value}, jsonResponse v reply.status = .ok r → r.IsPlain := by
    intro v hv
    obtain ⟨s, -, rfl⟩ := exists_of_map_eq_ok hv
    exact ⟨trivial, hreply.status, ⟨_, rfl⟩, fun e he => nomatch he⟩
  have hcontent : ∀ {v : Value}, v.IsContent → (Response.plain v reply.status).IsPlain :=
    fun hv => ⟨hv, hreply.status, ⟨_, rfl⟩, fun e he => nomatch he⟩
  -- a reply that was sent goes first, whatever the handler returned
  unfold renderResult at h
  split at h
  · exact hreply.descriptor.response (hofAttempt h)
  · split at h
    · obtain rfl := Except.ok.inj h
      exact ⟨trivial, trivial, ⟨_, rfl⟩, fun e he => nomatch he⟩
    · obtain rfl := Except.ok.inj h
      exact hresponse _ rfl
    · split at h
      · rw [outcome_bind] at h
        cases hd : outcome (describeResponse call result) user with
        | mk described user' =>
          rw [hd] at h
          cases described with
          | error f => cases h
          | ok d => exact (htree d (congrArg Prod.fst hd)).response (hofAttempt h)
      · split at h
        · obtain rfl := Except.ok.inj h
          exact hcontent trivial
        · obtain rfl := Except.ok.inj h
          exact hcontent trivial
        · exact hdocument (hofAttempt h)

end ServerTree
