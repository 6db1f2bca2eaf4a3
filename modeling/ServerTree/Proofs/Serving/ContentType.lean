import ServerTree.App.Client
import ServerTree.Proofs.Http.Fields
import ServerTree.Proofs.Serving.Framing

/-!
# The content type of a client's JSON

JSON brings its content type, and the caller's headers are written over it. A header is written over another one only when
both are spelled alike, while an application reads the first one of a name in any spelling. So what the caller says of the
content type counts exactly when the name is in small letters.

## Main definitions
- `ClientRequest.arrival`: the request as it arrives, with JSON under any method

## Main statements
- `fields_of_encodeHeaders`: what is sent are the headers with their names in small letters
- `contentType_of_json`: which content type arrives with JSON
-/

namespace ServerTree

/-! ## Headers that are sent -/

theorem latin1Decode_of_latin1 {s : String} {bytes : Bytes} (h : latin1 s = .ok bytes) : Text.latin1Decode bytes = s := by
  rw [latin1] at h
  split at h
  · next hbytes =>
    obtain rfl := Except.ok.inj h
    exact Text.latin1?_eq_some_iff.mp hbytes
  · cases h

theorem field_of_encodeHeader {name value : String} {encoded : Bytes × Bytes}
    (h : encodeHeader (.str name, .str value) = .ok encoded) :
    (Text.latin1Decode encoded.1, Text.latin1Decode encoded.2) = (Text.lower name, value) := by
  simp only [encodeHeader, Value.inSmallLetters, latin1Value, ok_bind] at h
  obtain ⟨bytes, hname, h⟩ := exists_of_bind_eq_ok h
  obtain ⟨content, hvalue, h⟩ := exists_of_bind_eq_ok h
  obtain rfl : (bytes, content) = encoded := Except.ok.inj h
  rw [latin1Decode_of_latin1 hname, latin1Decode_of_latin1 hvalue]

/-- **What is sent** are the headers in their order, with their names in small letters. -/
theorem fields_of_encodeHeaders {fields : List (String × String)} {encoded : List (Bytes × Bytes)}
    (h : encodeHeaders (fields.map fun h => .tuple [.str h.1, .str h.2]) = .ok encoded) :
    (Headers.mk encoded).pairs = inSmallLetters fields := by
  induction fields generalizing encoded with
  | nil =>
    obtain rfl : [] = encoded := Except.ok.inj h
    rfl
  | cons field fields ih =>
    have hpair : (Value.tuple [.str field.1, .str field.2]).asPair = .ok (.str field.1, .str field.2) := rfl
    rw [List.map_cons, encodeHeaders, hpair, ok_bind] at h
    obtain ⟨first, hfirst, h⟩ := exists_of_bind_eq_ok h
    obtain ⟨rest, hrest, h⟩ := exists_of_bind_eq_ok h
    obtain rfl : first :: rest = encoded := Except.ok.inj h
    have hback := ih hrest
    simp only [Headers.pairs, inSmallLetters, List.map_cons, List.cons.injEq] at hback ⊢
    exact ⟨field_of_encodeHeader hfirst, hback⟩

/-! ## Requests with JSON -/

namespace ClientRequest

/-- The request as it arrives, and its body, where the method is not asked whether it has one. -/
def arrival (c : ClientRequest) : Attempt (Request × Bytes) := do
  let (headers, body) ← c.content
  let cut := Text.cutAt '?' c.path.toList
  let raw ← encodeHeaders (headers.map fun h => .tuple [.str h.1, .str h.2])
  let _ ← latin1 (String.ofList cut.1)
  let query ← latin1 (String.ofList (cut.2.getD []))
  return ({
    method := Text.upper c.method
    path := String.ofList cut.1
    headers := ⟨raw⟩
    query := ⟨query⟩
    server := some ("testserver", 80)
    client := c.address }, body)

theorem request_eq (c : ClientRequest) : c.request = c.checkBody.bind fun _ => c.arrival := rfl

variable {c : ClientRequest} {v : Value} {r : Request} {body : Bytes}

/-- With JSON the caller's headers are written over the content type of JSON. -/
theorem headers_of_json {headers : List (String × String)} (hjson : c.json = some v) (hgiven : v ≠ .none)
    (h : c.content = .ok (headers, body)) :
    headers = Assoc.update [("content-type", "application/json")] c.headers := by
  rw [content, hjson, Option.getD_some] at h
  split at h
  · contradiction
  · obtain ⟨text, -, hsent⟩ := exists_of_bind_eq_ok h
    exact (Prod.mk.inj (Except.ok.inj hsent)).1.symm

/-- The headers that arrive with JSON are those in small letters. -/
theorem pairs_of_json (hjson : c.json = some v) (hgiven : v ≠ .none) (h : c.arrival = .ok (r, body)) :
    r.headers.pairs = inSmallLetters (Assoc.update [("content-type", "application/json")] c.headers) := by
  obtain ⟨⟨headers, written⟩, hcontent, hrest⟩ := exists_of_bind_eq_ok h
  obtain ⟨raw, hraw, hrest⟩ := exists_of_bind_eq_ok hrest
  obtain ⟨_, -, hrest⟩ := exists_of_bind_eq_ok hrest
  obtain ⟨query, -, hrest⟩ := exists_of_bind_eq_ok hrest
  obtain ⟨rfl, -⟩ := Prod.mk.inj (Except.ok.inj hrest)
  rw [headers_of_json hjson hgiven hcontent] at hraw
  exact fields_of_encodeHeaders hraw

/-- The content type that arrives with JSON is the one that the caller writes last under its name in small letters. -/
theorem contentType_eq_getLast? (hjson : c.json = some v) (hgiven : v ≠ .none) (h : c.arrival = .ok (r, body)) :
    r.contentType = some ((Assoc.values "content-type" c.headers).getLast?.getD "application/json") := by
  obtain ⟨w, m, hfields⟩ := Assoc.exists_update_cons "content-type" "application/json" [] c.headers
  have hlast : some w = (Assoc.values "content-type" c.headers).getLast?.or (some "application/json") := by
    have hget := Assoc.get?_update_eq "content-type" [("content-type", "application/json")] c.headers
    simpa [hfields, Assoc.get?] using hget
  have hlower : Text.lower "content-type" = "content-type" := by decide
  -- it is the first header that arrives, whatever else there is of its name
  have hfirst : r.contentType = some w := by
    rw [Request.contentType, Headers.get?_eq_first?, Headers.first?, pairs_of_json hjson hgiven h, hfields, hlower]
    simp [inSmallLetters, hlower]
  rw [hfirst, hlast]
  cases (Assoc.values "content-type" c.headers).getLast? <;> rfl

end ClientRequest

/-- **The content type that arrives with JSON** is `application/json` when the caller names none, and what the caller says when
the name is spelled in small letters. Spelled otherwise, it does not count. -/
theorem contentType_of_json {c : ClientRequest} {v : Value} {r : Request} {body : Bytes} (hjson : c.json = some v)
    (hgiven : v ≠ .none) (h : c.arrival = .ok (r, body)) :
    ((∀ field ∈ c.headers, Text.lower field.1 ≠ "content-type") → r.contentType = some "application/json") ∧
      ∀ name value, (c.headers.filter fun field => Text.lower field.1 == "content-type") = [(name, value)] →
        r.contentType = some (if name = "content-type" then value else "application/json") := by
  rw [ClientRequest.contentType_eq_getLast? hjson hgiven h]
  have hlower : Text.lower "content-type" = "content-type" := by decide
  -- the name in small letters is one of its spellings
  have hvalues : Assoc.values "content-type" c.headers =
      Assoc.values "content-type" (c.headers.filter fun field => Text.lower field.1 == "content-type") := by
    simp only [Assoc.values, List.filter_filter]
    congr 1
    refine List.filter_congr fun field _ => ?_
    by_cases hname : field.1 = "content-type" <;> simp [hname, hlower]
  constructor
  · intro hnone
    have hempty : (c.headers.filter fun field => Text.lower field.1 == "content-type") = [] := by
      simpa [List.filter_eq_nil_iff] using hnone
    rw [hvalues, hempty]
    rfl
  · intro name value hone
    rw [hvalues, hone]
    by_cases hname : name = "content-type" <;> simp [Assoc.values, hname]

/-- A request with JSON that says it is plain text, under a spelling of the name. -/
def ClientRequest.plain (spelled : String) : ClientRequest where
  method := "POST"
  path := "/notes?draft=1"
  headers := [("X-Test", "1"), (spelled, "text/plain")]
  json := some (.bool true)

theorem contentType_of_json_plain :
    ∃ r body, (ClientRequest.plain "content-type").json = some (.bool true) ∧ Value.bool true ≠ .none ∧
      (ClientRequest.plain "content-type").arrival = .ok (r, body) ∧
      ((ClientRequest.plain "content-type").headers.filter fun field => Text.lower field.1 == "content-type") =
        [("content-type", "text/plain")] ∧
      r.contentType = some "text/plain" := by
  obtain ⟨⟨r, body⟩, hsent⟩ : ∃ arriving, (ClientRequest.plain "content-type").arrival = .ok arriving := ⟨_, by rfl⟩
  have hjson : (ClientRequest.plain "content-type").json = some (.bool true) := rfl
  have hone : ((ClientRequest.plain "content-type").headers.filter fun field => Text.lower field.1 == "content-type") =
      [("content-type", "text/plain")] := by decide
  exact ⟨r, body, hjson, nofun, hsent, hone, (contentType_of_json hjson nofun hsent).2 _ _ hone⟩

/-- A caller who spells the name with capitals says what is not read. -/
theorem capitals_do_not_count :
    (∃ r body, (ClientRequest.plain "Content-Type").request = .ok (r, body) ∧ r.contentType = some "application/json") ∧
    ¬ ∀ (c : ClientRequest) (v : Value) (r : Request) (body : Bytes) (name value : String), c.json = some v → v ≠ .none →
      c.request = .ok (r, body) → (c.headers.filter fun field => Text.lower field.1 == "content-type") = [(name, value)] →
      r.contentType = some value := by
  obtain ⟨⟨r, body⟩, hsent⟩ : ∃ arriving, (ClientRequest.plain "Content-Type").request = .ok arriving := ⟨_, by rfl⟩
  have hjson : (ClientRequest.plain "Content-Type").json = some (.bool true) := rfl
  have hone : ((ClientRequest.plain "Content-Type").headers.filter fun field => Text.lower field.1 == "content-type") =
      [("Content-Type", "text/plain")] := by decide
  have hread : r.contentType = some "application/json" := ClientRequest.contentType_eq_getLast? hjson nofun hsent
  refine ⟨⟨r, body, hsent, hread⟩, ?_⟩
  intro hall
  have hplain := hall _ _ r body _ _ hjson nofun hsent hone
  simp [hread] at hplain

end ServerTree
