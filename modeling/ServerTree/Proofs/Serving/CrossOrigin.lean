import ServerTree.Proofs.Serving.HttpErrors

/-!
# Who may read a response

The cross-origin middleware adds its headers to the response that comes back to it. A response that is made of
a failure does not come back to it: what the router, the decoder of the body or a function of the engine
raises, or a text that cannot be encoded, is answered outside of all middleware, without these headers.

## Main definitions
- `WireResponse.Allows`: the messages have the headers that let an origin read them
- `Failure.Silent`: a failure that brings no such header of its own

## Main statements
- `allows_iff_encodes`: a response with the headers is sent with them unless it cannot be encoded
- `silent_of_delivery`: the response of a failure is sent without them
- `allowed_origin_reads`: for an allowed origin, all together
-/

namespace ServerTree

variable {U : Type} {b : Behaviour U} {w w' : World U}

open Act

/-! ## Headers on the wire -/

/-- The name of the header that says which origin may read a response, as it is sent. -/
def allowOriginName : Bytes := asciiBytes "access-control-allow-origin"

/-- The messages of a response let an origin read it: they have the headers for the value that the origin is
answered with. -/
structure WireResponse.Allows (m : WireResponse) (value : String) : Prop where
  origin : ∃ bytes, latin1 value = .ok bytes ∧ (allowOriginName, bytes) ∈ m.start.headers
  vary : value ≠ "*" → (asciiBytes "vary", asciiBytes "Origin") ∈ m.start.headers

/-- The messages of a response do not say who may read it. -/
def WireResponse.Silent (m : WireResponse) : Prop := ∀ e ∈ m.start.headers, e.1 ≠ allowOriginName

theorem WireResponse.Silent.not_allows {m : WireResponse} (h : m.Silent) (value : String) :
    ¬ m.Allows value := by
  intro hallows
  obtain ⟨bytes, -, hmem⟩ := hallows.origin
  exact h _ hmem rfl

/-- A name is sent as that of the header which says who may read a response. -/
def Value.NamesOrigin (name : Value) : Prop := name.inSmallLetters.bind latin1Value = .ok allowOriginName

/-- Every header is encoded, and nothing else is. -/
theorem mem_of_encodeHeaders {headers : List (Value × Value)} {encoded : List (Bytes × Bytes)}
    (h : encodeHeaders (headers.map fun p => .tuple [p.1, p.2]) = .ok encoded) :
    (∀ p ∈ headers, ∃ e ∈ encoded, encodeHeader p = .ok e) ∧
      ∀ e ∈ encoded, ∃ p ∈ headers, encodeHeader p = .ok e := by
  induction headers generalizing encoded with
  | nil =>
    obtain rfl : [] = encoded := Except.ok.inj h
    simp
  | cons first headers ih =>
    have hpair : (Value.tuple [first.1, first.2]).asPair = .ok first := rfl
    rw [List.map_cons, encodeHeaders, hpair, ok_bind] at h
    obtain ⟨e, he, h⟩ := exists_of_bind_eq_ok h
    obtain ⟨rest, hrest, h⟩ := exists_of_bind_eq_ok h
    obtain rfl : e :: rest = encoded := Except.ok.inj h
    obtain ⟨hin, hout⟩ := ih hrest
    constructor
    · refine List.forall_mem_cons.mpr ⟨⟨e, List.mem_cons_self, he⟩, fun p hp => ?_⟩
      obtain ⟨e', hmem, he'⟩ := hin p hp
      exact ⟨e', List.mem_cons_of_mem _ hmem, he'⟩
    · refine List.forall_mem_cons.mpr ⟨⟨first, List.mem_cons_self, he⟩, fun e' hmem => ?_⟩
      obtain ⟨p, hp, he'⟩ := hout e' hmem
      exact ⟨p, List.mem_cons_of_mem _ hp, he'⟩

/-- A response that is encoded has a status that says whether there is a body. -/
theorem exists_bodyAllowedFor_of_encodes {r : Response Value} {head : Bool} {m : WireResponse}
    (h : encodeResponse r head = .ok m) : ∃ allowed, bodyAllowedFor r.status = .ok allowed := by
  obtain ⟨status, hstatus, h⟩ := exists_of_bind_eq_ok h
  obtain rfl : r.status = status := Except.ok.inj hstatus
  obtain ⟨allowed, hallowed, -⟩ := exists_of_bind_eq_ok h
  exact ⟨allowed, hallowed⟩

/-- The headers of a start message are those of the response and, when its status permits a body, those that
describe it. -/
theorem headers_of_encodeResponse {r : Response Value} {head : Bool} {m : WireResponse}
    (h : encodeResponse r head = .ok m) :
    (∀ p ∈ r.headers, ∃ e ∈ m.start.headers, encodeHeader p = .ok e) ∧
      ∀ e ∈ m.start.headers, (∃ p ∈ r.headers, encodeHeader p = .ok e) ∨
        e.1 = asciiBytes "content-type" ∨ e.1 = asciiBytes "content-length" := by
  obtain ⟨allowed, hallowed⟩ := exists_bodyAllowedFor_of_encodes h
  cases allowed with
  | false =>
    rw [encodeResponse_of_not_allowed head hallowed] at h
    obtain ⟨encoded, hencoded, h⟩ := exists_of_bind_eq_ok h
    obtain rfl := Except.ok.inj h
    obtain ⟨hin, hout⟩ := mem_of_encodeHeaders hencoded
    exact ⟨hin, fun e he => .inl (hout e he)⟩
  | true =>
    rw [encodeResponse_of_allowed head hallowed] at h
    obtain ⟨body, -, h⟩ := exists_of_bind_eq_ok h
    obtain ⟨contentType, -, h⟩ := exists_of_bind_eq_ok h
    obtain ⟨encoded, hencoded, h⟩ := exists_of_bind_eq_ok h
    obtain ⟨n, -, h⟩ := exists_of_bind_eq_ok h
    obtain rfl := Except.ok.inj h
    obtain ⟨hin, hout⟩ := mem_of_encodeHeaders hencoded
    constructor
    · intro p hp
      obtain ⟨e, he, hp⟩ := hin p hp
      exact ⟨e, by simp [he], hp⟩
    · intro e he
      -- the content type stands in front, the length behind
      rcases List.mem_append.mp he with hfront | hlast
      · rcases List.mem_append.mp hfront with hfirst | hmid
        · exact .inr (.inl (by rw [List.mem_singleton.mp hfirst]))
        · exact .inl (hout e hmid)
      · exact .inr (.inr (by rw [List.mem_singleton.mp hlast]))

/-- **With the headers of a value** a response is sent so that its origin may read it. -/
theorem allows_of_encodes {r : Response Value} {value : String} {head : Bool} {m : WireResponse}
    (hheaders : ∀ p ∈ Value.ofPairs (corsHeaders value), p ∈ r.headers) (h : encodeResponse r head = .ok m) :
    m.Allows value := by
  obtain ⟨hin, -⟩ := headers_of_encodeResponse h
  constructor
  · obtain ⟨e, he, hencoded⟩ := hin _ (hheaders (.str "Access-Control-Allow-Origin", .str value)
      (by simp [Value.ofPairs, corsHeaders]))
    have horigin : encodeHeader (.str "Access-Control-Allow-Origin", .str value) =
        (do return (allowOriginName, ← latin1 value)) := rfl
    rw [horigin] at hencoded
    obtain ⟨bytes, hbytes, hencoded⟩ := exists_of_bind_eq_ok hencoded
    obtain rfl := Except.ok.inj hencoded
    exact ⟨bytes, hbytes, he⟩
  · intro hstar
    obtain ⟨e, he, hencoded⟩ := hin _ (hheaders (.str "Vary", .str "Origin")
      (by simp [Value.ofPairs, corsHeaders, hstar]))
    have hvary : encodeHeader (.str "Vary", .str "Origin") =
        .ok (asciiBytes "vary", asciiBytes "Origin") := rfl
    rw [hvary] at hencoded
    obtain rfl := Except.ok.inj hencoded
    exact he

/-- Without a header of that name it is sent without one. -/
theorem silent_of_encodes {r : Response Value} {head : Bool} {m : WireResponse}
    (hheaders : ∀ p ∈ r.headers, ¬ p.1.NamesOrigin) (h : encodeResponse r head = .ok m) : m.Silent := by
  intro e he hname
  obtain ⟨-, hout⟩ := headers_of_encodeResponse h
  rcases hout e he with ⟨p, hp, hencoded⟩ | htype | hlength
  · refine hheaders p hp ?_
    obtain ⟨name, hsmall, hencoded⟩ := exists_of_bind_eq_ok hencoded
    obtain ⟨shown, hshown, hencoded⟩ := exists_of_bind_eq_ok hencoded
    obtain ⟨text, -, hencoded⟩ := exists_of_bind_eq_ok hencoded
    obtain rfl := Except.ok.inj hencoded
    rw [Value.NamesOrigin, hsmall, ← hname]
    exact hshown
  · exact absurd (hname.symm.trans htype) (by decide)
  · exact absurd (hname.symm.trans hlength) (by decide)

/-! ## The responses of failures -/

/-- A failure brings no header that says who may read its response. -/
def Failure.Silent (f : Fault) : Prop := ∀ e, f = .http e → ∀ h ∈ e.headers, ¬ h.1.NamesOrigin

/-- Headers keep their names when their values become texts. -/
theorem map_fst_of_headerTexts {headers shown : List (Value × Value)} (h : headerTexts headers = .ok shown) :
    shown.map Prod.fst = headers.map Prod.fst := by
  obtain ⟨-, rfl⟩ := headerTexts_eq_ok_iff.mp h
  rw [List.map_map]
  rfl

/-- Names that can be keys are what they were. -/
theorem mapM_asKey_eq {headers keyed : List (Value × Value)}
    (h : (headers.mapM fun e => e.1.asKey.map fun k => (k, e.2)) = .ok keyed) : keyed = headers := by
  induction headers generalizing keyed with
  | nil => exact (Except.ok.inj h).symm
  | cons p headers ih =>
    rw [List.mapM_cons] at h
    obtain ⟨first, hfirst, h⟩ := exists_of_bind_eq_ok h
    obtain ⟨rest, hrest, h⟩ := exists_of_bind_eq_ok h
    obtain rfl := Except.ok.inj h
    have hsame : first = p := by
      rw [Value.asKey] at hfirst
      split at hfirst
      · cases hfirst
      · exact (Except.ok.inj hfirst).symm
    rw [hsame, ih hrest]

/-- An internal error has no headers. -/
theorem headers_internalAnswer {debug : Bool} {f : Fault} {r : Response Value}
    (h : internalAnswer debug f = .ok r) : r.headers = [] := by
  cases debug with
  | false =>
    obtain rfl := Except.ok.inj h
    rfl
  | true =>
    obtain ⟨body, -, hjson⟩ := exists_of_bind_eq_ok h
    obtain ⟨text, -, rfl⟩ := exists_of_map_eq_ok hjson
    rfl

/-- The response of a silent failure is silent. -/
theorem headers_failureAnswer {debug : Bool} {f : Fault} {r : Response Value} (hsilent : f.Silent)
    (h : failureAnswer debug f = .ok r) : ∀ p ∈ r.headers, ¬ p.1.NamesOrigin := by
  have hinternal : internalAnswer debug f = .ok r → ∀ p ∈ r.headers, ¬ p.1.NamesOrigin := by
    intro hr p hp
    rw [headers_internalAnswer hr] at hp
    exact nomatch hp
  cases f with
  | raised form arguments attributes id => exact hinternal h
  | refused refusal => exact hinternal h
  | http e =>
    obtain ⟨status, -, h⟩ := exists_of_bind_eq_ok h
    obtain ⟨shown, -, h⟩ := exists_of_bind_eq_ok h
    rw [errorEnvelope, jsonResponse_error, ok_bind] at h
    obtain ⟨keyed, hkeyed, h⟩ := exists_of_bind_eq_ok h
    obtain ⟨headers, htexts, h⟩ := exists_of_bind_eq_ok h
    obtain rfl := Except.ok.inj h
    intro p hp
    -- the name is that of a header of the error, of which repeated ones are merged
    have hname : p.1 ∈ (Assoc.ofList e.headers).map Prod.fst := by
      rw [← mapM_asKey_eq hkeyed, ← map_fst_of_headerTexts htexts]
      exact List.mem_map_of_mem hp
    obtain ⟨q, hq, hsame⟩ := List.mem_map.mp hname
    have hkeys := Assoc.forall_ofList (P := fun k : Value => ¬ k.NamesOrigin) (Q := fun _ : Value => True)
      (fun q hq => ⟨hsilent e rfl q hq, trivial⟩) q hq
    rw [← hsame]
    exact hkeys.1

/-! ## What is sent -/

/-- What is sent for a response is the response, or an internal error when it cannot be encoded. -/
theorem encodes_of_sentOf {debug head : Bool} {r : Response Value} {sent : Sent}
    (h : sentOf debug head (.response r) = .ok sent) :
    encodeResponse r head = .ok sent.messages ∨
      ∃ r', r'.headers = [] ∧ encodeResponse r' head = .ok sent.messages := by
  rw [sentOf] at h
  split at h
  · next messages hmessages =>
    obtain rfl := Except.ok.inj h
    exact .inl hmessages
  · split at h
    · obtain ⟨r', hr', h⟩ := exists_of_bind_eq_ok h
      obtain ⟨messages, hmessages, h⟩ := exists_of_bind_eq_ok h
      obtain rfl := Except.ok.inj h
      exact .inr ⟨r', headers_internalAnswer hr', hmessages⟩
    · cases h

/-- **With the headers, an origin may read what is sent** unless the response cannot be encoded. -/
theorem allows_iff_of_delivery {debug head : Bool} {r : Response Value} {value : String} {sent : Sent}
    (hheaders : ∀ p ∈ Value.ofPairs (corsHeaders value), p ∈ r.headers)
    (h : delivery debug head (.ok (.response r)) = .ok sent) :
    sent.messages.Allows value ↔ encodeResponse r head = .ok sent.messages := by
  rw [delivery, answerOf, ok_bind] at h
  refine ⟨fun hallows => ?_, allows_of_encodes hheaders⟩
  rcases encodes_of_sentOf h with hencodes | ⟨r', hnone, hencodes⟩
  · exact hencodes
  · exact absurd hallows ((silent_of_encodes (by simp [hnone]) hencodes).not_allows value)

/-- What is sent for a response that does not say who may read it does not say so either. -/
theorem silent_of_sentOf {debug head : Bool} {r : Response Value} {sent : Sent}
    (hheaders : ∀ p ∈ r.headers, ¬ p.1.NamesOrigin) (h : sentOf debug head (.response r) = .ok sent) :
    sent.messages.Silent := by
  rcases encodes_of_sentOf h with hencodes | ⟨r', hnone, hencodes⟩
  · exact silent_of_encodes hheaders hencodes
  · exact silent_of_encodes (by simp [hnone]) hencodes

/-- **No origin may read the response of a failure.** -/
theorem silent_of_delivery {debug head : Bool} {f : Fault} {sent : Sent} (hsilent : f.Silent)
    (h : delivery debug head (.error f) = .ok sent) : sent.messages.Silent := by
  obtain ⟨answer, hanswer, h⟩ := exists_of_bind_eq_ok h
  cases hr : failureAnswer debug f with
  | error f' =>
    rw [answerOf, hr] at hanswer
    cases hanswer
  | ok r =>
    rw [answerOf, hr] at hanswer
    obtain rfl : .response r = answer := Except.ok.inj hanswer
    exact silent_of_sentOf (headers_failureAnswer hsilent hr) h

/-! ## The middleware -/

section

variable {spec : CorsSpec Value} {maxAge : Value} {next : Next U} {request : Request} {origin value : String}

/-- A preflight request from an allowed origin goes no further. -/
theorem outcome_corsServe_preflight (horigin : request.headers.get? "origin" = some origin)
    (hallowed : spec.allowedOrigin origin = .ok (some value)) (hpreflight : isPreflight request = true) :
    outcome (corsServe b spec maxAge next request) w =
      (((preflightResponse spec maxAge request value).map .response).mapError .failed, w) := by
  simp only [corsServe, horigin, outcome_bind, outcome_ofAttempt, hallowed, Except.mapError, hpreflight,
    if_true]
  cases preflightResponse spec maxAge request value <;> rfl

/-- The response to any other request from an allowed origin gets the headers. -/
theorem outcome_corsServe_response (horigin : request.headers.get? "origin" = some origin)
    (hallowed : spec.allowedOrigin origin = .ok (some value)) (hpreflight : isPreflight request = false)
    {r : Response Value} (h : outcome (next request) w = (.ok (.response r), w')) :
    outcome (corsServe b spec maxAge next request) w = (.ok (.response (addCorsHeaders r value)), w') := by
  simp only [corsServe, horigin, outcome_bind, outcome_ofAttempt, hallowed, Except.mapError, hpreflight,
    Bool.false_eq_true, if_false, h]
  rfl

end

theorem mem_addCorsHeaders {r : Response Value} {value : String} {p : Value × Value}
    (h : p ∈ Value.ofPairs (corsHeaders value)) : p ∈ (addCorsHeaders r value).headers :=
  List.mem_append_right _ h

/-- The answer to a preflight request has the headers. -/
theorem mem_preflightResponse {spec : CorsSpec Value} {maxAge : Value} {request : Request} {value : String}
    {r : Response Value} (h : preflightResponse spec maxAge request value = .ok r) {p : Value × Value}
    (hp : p ∈ Value.ofPairs (corsHeaders value)) : p ∈ r.headers := by
  obtain ⟨methods, -, h⟩ := exists_of_bind_eq_ok h
  obtain ⟨seconds, -, h⟩ := exists_of_bind_eq_ok h
  obtain rfl := Except.ok.inj h
  -- whatever is added comes behind them
  split <;> simp [Response.withHeader, mem_addCorsHeaders hp]

/-- What may stand between methods is text. -/
theorem silent_of_textRow {vs : List Value} {i : Nat} {f : Fault} (h : textRow i vs = .error f) :
    f.Silent := by
  induction vs generalizing i with
  | nil => cases h
  | cons v vs ih =>
    cases v with
    | str s =>
      rw [textRow] at h
      cases hrow : textRow (i + 1) vs with
      | ok row =>
        rw [hrow] at h
        cases h
      | error f' =>
        rw [hrow] at h
        obtain rfl := Except.error.inj h
        exact ih hrow
    | _ =>
      obtain rfl := Except.error.inj h
      exact fun e he => nomatch he

/-- A preflight request that is not answered is refused. -/
theorem silent_of_preflightResponse {spec : CorsSpec Value} {maxAge : Value} {request : Request}
    {value : String} {f : Fault} (h : preflightResponse spec maxAge request value = .error f) : f.Silent := by
  rw [preflightResponse] at h
  cases hrow : textRow 0 spec.methods with
  | error f' =>
    rw [hrow] at h
    obtain rfl := Except.error.inj h
    exact silent_of_textRow hrow
  | ok row =>
    rw [hrow, ok_bind, Value.text] at h
    cases hshow : maxAge.unshowable? true with
    | none =>
      rw [hshow] at h
      cases h
    | some u =>
      rw [hshow] at h
      obtain rfl := Except.error.inj h
      intro e he
      cases he

/-! ## Requests -/

theorem App.middleware_freeze (app : App) : app.freeze.middleware = app.middleware := by
  rw [App.freeze]
  split <;> rfl

/-- The messages that are sent for what the middleware and the router come to. -/
def sentFor (debug head : Bool) (served : Attempt Value) : Except Stop WireResponse :=
  ((delivery debug head served).map Sent.messages).mapError .failed

theorem sentFor_eq_ok {debug head : Bool} {served : Attempt Value} {m : WireResponse} :
    sentFor debug head served = .ok m ↔ ∃ d, delivery debug head served = .ok d ∧ d.messages = m := by
  rw [sentFor]
  cases delivery debug head served <;> simp [Except.map, Except.mapError]

/-- What is sent for a request is sent for what its middleware and the router come to. -/
theorem fst_serveRequest_eq_sentFor {request : Request} (inbox : Inbox) (served : Attempt Value) :
    let opened : World U := { w with app := w.app.freeze, inbox := inbox }
    let arrived : Request := { request with maxBodySize := opened.app.config.bodyLimit }
    (outcome (serveThrough b w.app.middleware (dispatch b) arrived) opened).1 = served.mapError .failed →
      (outcome (serveRequest b request inbox) w).1 =
        sentFor opened.app.config.debug.truthy (request.method == "HEAD") served := by
  intro opened arrived h
  have hserved : Returns (attempt (serveThrough b opened.app.middleware (dispatch b) arrived)) opened served
      (outcome (serveThrough b w.app.middleware (dispatch b) arrived) opened).2 := by
    rw [App.middleware_freeze, Returns, outcome_attempt, ← Prod.eta (outcome _ opened), h]
    cases served <;> rfl
  exact fst_outcome_serveRequest b request inbox w served hserved

/-- A response with the headers is sent, and its origin may read it, exactly when it can be encoded. -/
theorem allows_iff_encodes {debug head : Bool} {r : Response Value} {value : String} {m : WireResponse}
    (hheaders : ∀ p ∈ Value.ofPairs (corsHeaders value), p ∈ r.headers) :
    sentFor debug head (.ok (.response r)) = .ok m ∧ m.Allows value ↔ encodeResponse r head = .ok m := by
  constructor
  · rintro ⟨hsent, hallows⟩
    obtain ⟨d, hd, rfl⟩ := sentFor_eq_ok.mp hsent
    exact (allows_iff_of_delivery hheaders hd).mp hallows
  · intro hencodes
    have hdelivered : delivery debug head (.ok (.response r)) = .ok ⟨.response r, m⟩ := by
      rw [encodeResponse] at hencodes
      rw [delivery, answerOf, ok_bind, sentOf, hencodes]
    exact ⟨sentFor_eq_ok.mpr ⟨_, hdelivered, rfl⟩, allows_of_encodes hheaders hencodes⟩

/-- An answered preflight request is sent so that its origin may read it, exactly when it can be encoded. -/
theorem allows_iff_of_preflight {debug head : Bool} {spec : CorsSpec Value} {maxAge : Value}
    {request : Request} {value : String} {m : WireResponse} :
    sentFor debug head ((preflightResponse spec maxAge request value).map .response) = .ok m ∧ m.Allows value ↔
      ∃ r, preflightResponse spec maxAge request value = .ok r ∧ encodeResponse r head = .ok m := by
  cases hanswer : preflightResponse spec maxAge request value with
  | ok r =>
    simp only [Except.ok.injEq, exists_eq_left']
    apply allows_iff_encodes
    exact fun p hp => mem_preflightResponse hanswer hp
  | error f =>
    refine iff_of_false ?_ (by simp)
    rintro ⟨hm, hallows⟩
    obtain ⟨d, hd, rfl⟩ := sentFor_eq_ok.mp hm
    have hsilent := silent_of_delivery (silent_of_preflightResponse hanswer) hd
    exact hsilent.not_allows value hallows

variable (b)

/-- The middleware around another answers a request with what comes out of this one, to which it passes a
request in some world. -/
def AnswersWith (front : List EngineMiddleware) (inner : Next U) (request : Request) (w : World U)
    (passed : Request) (v : World U) : Prop :=
  (outcome (serveThrough b front inner request) w).1 = (outcome (inner passed) v).1

/-- **Who may read what is sent to an allowed origin.** Where the cross-origin middleware stands outermost, or
what is around it answers with what comes out of it, a response that comes back to it is sent so that the
origin may read it, exactly when it can be encoded. So is the answer to a preflight request. What is raised
behind the middleware does not come back: its response is sent, but the origin may not read it. The router, the
decoder of the body and the functions of the engine raise what they do outside of the stages of a route. -/
theorem allowed_origin_reads (request passed : Request) (inbox : Inbox) (w v : World U)
    {spec : CorsSpec Value} {maxAge : Value} {front rest : List EngineMiddleware} {origin value : String}
    (hchain : w.app.middleware = front ++ .cors spec maxAge :: rest) :
    let opened : World U := { w with app := w.app.freeze, inbox := inbox }
    let arrived : Request := { request with maxBodySize := opened.app.config.bodyLimit }
    let behind := outcome (serveThrough b rest (dispatch b) passed) v
    let sent := (outcome (serveRequest b request inbox) w).1
    let head := request.method == "HEAD"
    AnswersWith b front (serveThrough b (.cors spec maxAge :: rest) (dispatch b)) arrived opened passed v →
    passed.headers.get? "origin" = some origin → spec.allowedOrigin origin = .ok (some value) →
      (isPreflight passed = true → ∀ m, (sent = .ok m ∧ m.Allows value) ↔
        ∃ r, preflightResponse spec maxAge passed value = .ok r ∧ encodeResponse r head = .ok m) ∧
      (isPreflight passed = false → ∀ r v', behind = (.ok (.response r), v') →
        ∀ m, (sent = .ok m ∧ m.Allows value) ↔ encodeResponse (addCorsHeaders r value) head = .ok m) ∧
      (isPreflight passed = false → ∀ f v', behind = (.error (.failed f), v') → f.Silent →
        ∀ m, sent = .ok m → m.Silent) ∧
      ∀ f v', RaisedOutside b rest passed v f v' → behind = (.error (.failed f), v') := by
  intro opened arrived behind sent head hfront horigin hallowed
  have hsent : ∀ (served : Attempt Value) {v' : World U},
      outcome (corsServe b spec maxAge (serveThrough b rest (dispatch b)) passed) v =
        (served.mapError .failed, v') → sent = sentFor opened.app.config.debug.truthy head served := by
    intro served v' h
    refine fst_serveRequest_eq_sentFor inbox served ?_
    rw [hchain, serveThrough, List.foldr_append]
    exact hfront.trans (congrArg Prod.fst h)
  refine ⟨fun hpreflight m => ?_, fun hpreflight r v' hbehind m => ?_,
    fun hpreflight f v' hbehind hsilent m hm => ?_, fun f v' hraised => hraised.comes_out⟩
  · rw [hsent _ (outcome_corsServe_preflight horigin hallowed hpreflight)]
    exact allows_iff_of_preflight
  · rw [hsent (.ok (.response (addCorsHeaders r value)))
      (outcome_corsServe_response horigin hallowed hpreflight hbehind)]
    exact allows_iff_encodes fun p hp => mem_addCorsHeaders hp
  · have hpasses : spec.Passes passed := by
      intro other hother
      obtain rfl : origin = other := Option.some.inj (horigin.symm.trans hother)
      exact ⟨some value, hallowed, .inr hpreflight⟩
    rw [hsent (.error f) (outcome_corsServe hpasses hbehind)] at hm
    obtain ⟨d, hd, rfl⟩ := sentFor_eq_ok.mp hm
    exact silent_of_delivery hsilent hd

/-- An HTTP error with fields of the types that it is declared with can be answered. -/
theorem TypedError.isPlain_error (e : TypedError) : e.error.IsPlain where
  status := trivial
  shown := ⟨_, e.text_status⟩
  detail := ⟨_, rfl⟩
  headers h hh := by
    obtain ⟨p, -, rfl⟩ := List.mem_map.mp hh
    exact ⟨⟨_, rfl⟩, _, rfl⟩

/-- An application with one route, which lets any origin read its responses. -/
def openToAll : World Unit where
  env := { user := () }
  app := (App.route { middleware := [.cors .standard App.corsMaxAge], corsEnabled := true } "GET" "/x"
    (.wrapped ⟨.func ⟨"handler", 0, false⟩, .empty, .int 30, "GET /x", ⟨"GET /x", none⟩, 0⟩) .none .none).1

/-- A request from another origin. -/
def requestFrom (origin path : String) : Request :=
  { path := path, headers := ⟨[(asciiBytes "origin", asciiBytes origin)]⟩ }

/-- The response of its route is sent so that the origin may read it. -/
theorem allowed_origin_reads_route :
    openToAll.app.middleware = [.cors .standard App.corsMaxAge] ∧
      (requestFrom "https://a.test" "/x").headers.get? "origin" = some "https://a.test" ∧
      CorsSpec.standard.allowedOrigin "https://a.test" = .ok (some "*") ∧
      ∃ m, (outcome (serveRequest .idle (requestFrom "https://a.test" "/x") {}) openToAll).1 = .ok m ∧ m.Allows "*" := by
  refine ⟨rfl, rfl, rfl, ?_⟩
  have hchain : openToAll.app.middleware = [] ++ .cors .standard App.corsMaxAge :: [] := rfl
  obtain ⟨v, hreplied⟩ : ∃ v, outcome (serveThrough .idle [] (dispatch .idle)
      { requestFrom "https://a.test" "/x" with maxBodySize := .atMost 16777216 })
      { openToAll with app := openToAll.app.freeze } = (.ok (.response .empty), v) := ⟨_, rfl⟩
  obtain ⟨-, hanswered, -⟩ := allowed_origin_reads .idle (requestFrom "https://a.test" "/x")
    { requestFrom "https://a.test" "/x" with maxBodySize := .atMost 16777216 } {} openToAll
    { openToAll with app := openToAll.app.freeze } hchain rfl rfl rfl
  exact ⟨_, (hanswered rfl .empty v hreplied _).mpr rfl⟩

/-- The response to a request that no route takes is not, although the origin is allowed: the router raises
behind the middleware. -/
theorem serveRequest_unreadable :
    openToAll.app.middleware = [.cors .standard App.corsMaxAge] ∧
      (requestFrom "https://a.test" "/missing").headers.get? "origin" = some "https://a.test" ∧
      CorsSpec.standard.allowedOrigin "https://a.test" = .ok (some "*") ∧
      openToAll.app.router.match? "GET" "/missing" = .error .notFound ∧
      ∃ m, (outcome (serveRequest .idle (requestFrom "https://a.test" "/missing") {}) openToAll).1 = .ok m ∧
        ¬ m.Allows "*" := by
  refine ⟨rfl, rfl, rfl, rfl, ?_⟩
  have hpasses : CorsSpec.standard.Passes
      { requestFrom "https://a.test" "/missing" with maxBodySize := openToAll.app.freeze.config.bodyLimit } :=
    fun _ _ => ⟨some "*", rfl, .inr rfl⟩
  have hraised : RaisedOutside .idle openToAll.app.middleware
      { requestFrom "https://a.test" "/missing" with maxBodySize := openToAll.app.freeze.config.bodyLimit }
      { openToAll with app := openToAll.app.freeze } (.http Miss.notFound.httpError)
      { openToAll with app := openToAll.app.freeze } := .cors hpasses (.router rfl rfl)
  let missing : TypedError := ⟨.notFound, 404, "Not Found", [], by decide, by decide⟩
  have hplain : IsPlainServed false (.error (.http Miss.notFound.httpError)) := missing.isPlain_error
  obtain ⟨sent, hsent⟩ := exists_delivery false hplain
  refine ⟨sent.messages, ?_, (silent_of_delivery ?_ hsent).not_allows "*"⟩
  · refine (fst_serveRequest_eq_sentFor {} (.error (.http Miss.notFound.httpError))
      (congrArg Prod.fst hraised.comes_out)).trans ?_
    exact sentFor_eq_ok.mpr ⟨sent, hsent, rfl⟩
  · rintro e he h hh
    obtain rfl := Failure.http.inj he
    exact nomatch hh

end ServerTree
