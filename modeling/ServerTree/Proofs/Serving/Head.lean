import ServerTree.Proofs.Pipeline.Replies
import ServerTree.Proofs.Routing.Fallback
import ServerTree.Proofs.Serving.CrossOrigin

/-!
# Requests for HEAD

What is sent for HEAD differs from what is sent for GET by the body alone, which is left out after the start message
was made with its length. Where no route is for HEAD, the router says the same to both. A request for HEAD is therefore
answered as the same request for GET is, without the body, when the endpoint gives both the same response.

## Main definitions
- `Router.lookup`: what a router says to a request
- `RouteMatch.answerTo`: what the endpoint of a route says to a request
- `WireResponse.withoutBody`: the messages of an answer without its body

## Main statements
- `sentFor_head`: what is sent for HEAD
- `fst_serveRequest_bare`: what is sent where no middleware is around the router
- `head_mirrors_get`: requests for HEAD are answered as those for GET
-/

namespace ServerTree

variable {U : Type}

/-! ## Messages without a body -/

/-- The messages of an answer without its body. -/
def WireResponse.withoutBody (m : WireResponse) : WireResponse := { m with body := .bytes [] }

/-- Sequences differ as their rests do. -/
theorem bind_eq_map_bind {α β γ : Type} {x : Attempt α} {f : α → Attempt γ} {f' : α → Attempt β} {g : β → γ}
    (h : ∀ a, f a = (f' a).map g) : (x >>= f) = (x >>= f').map g := by
  cases x with
  | error e => rfl
  | ok a => exact h a

/-- The body is left out when everything else is done. -/
theorem encodeAnswer_head (answer : Value) :
    encodeAnswer answer true = (encodeAnswer answer false).map WireResponse.withoutBody := by
  unfold encodeAnswer
  refine bind_eq_map_bind fun status => bind_eq_map_bind fun allowed => ?_
  -- whether there is a body is decided by the status
  cases allowed with
  | true =>
    simp only [if_true]
    refine bind_eq_map_bind fun body => bind_eq_map_bind fun text => bind_eq_map_bind fun bytes => ?_
    refine bind_eq_map_bind fun contentType => bind_eq_map_bind fun headers => bind_eq_map_bind fun fields => ?_
    exact bind_eq_map_bind fun encoded => bind_eq_map_bind fun n => bind_eq_map_bind fun length => rfl
  | false =>
    simp only [Bool.false_eq_true, if_false, ok_bind]
    exact bind_eq_map_bind fun headers => bind_eq_map_bind fun fields => bind_eq_map_bind fun encoded => rfl

/-- What is sent for an answer is sent without the body for HEAD, and so is an internal error in its place. -/
theorem sentOf_head (debug : Bool) (answer : Value) :
    (sentOf debug true answer).map Sent.messages =
      ((sentOf debug false answer).map Sent.messages).map WireResponse.withoutBody := by
  rw [sentOf, sentOf, encodeAnswer_head]
  cases encodeAnswer answer false with
  | ok messages => rfl
  | error f =>
    have hfails : (Except.error f : Attempt WireResponse).map WireResponse.withoutBody = .error f := rfl
    rw [hfails]
    by_cases hclass : f.errorClass = .unicodeEncode
    · simp only [hclass, if_true]
      cases internalAnswer debug f with
      | error e => rfl
      | ok r =>
        simp only [ok_bind, encodeResponse, encodeAnswer_head (.response r)]
        cases encodeAnswer (.response r) false <;> rfl
    · simp only [hclass, if_false]
      rfl

/-- **What is sent for HEAD** is what is sent for any other method, without the body. -/
theorem sentFor_head (debug : Bool) (served : Attempt Value) :
    sentFor debug true served = (sentFor debug false served).map WireResponse.withoutBody := by
  rw [sentFor, sentFor, delivery, delivery]
  cases answerOf debug served with
  | error f => rfl
  | ok answer =>
    rw [ok_bind, ok_bind, sentOf_head]
    cases sentOf debug false answer <;> rfl

/-! ## Requests without middleware around the router -/

/-- What a router says to a request: its route, or the failure that it is answered with. -/
def Router.lookup (router : Router Registered) (method path : String) : Attempt (RouteMatch Registered) :=
  if router.isTooDeepFor method path then refuse .tooDeep
  else (router.match? method path).mapError fun miss => .http miss.httpError

/-- A router without a route for HEAD says the same to HEAD as to GET. -/
theorem Router.lookup_head {router : Router Registered} (h : router.trie.Lacks "HEAD") (path : String) :
    router.lookup "HEAD" path = router.lookup "GET" path := by
  rw [lookup, lookup, match?_head h, isTooDeepFor_head h]

/-- What a router fails with can be answered. -/
theorem Router.isPlainFailure_of_lookup {router : Router Registered} {method path : String} {f : Fault} (debug : Bool)
    (h : router.lookup method path = .error f) : IsPlainFailure debug f := by
  rw [lookup] at h
  split at h
  · obtain rfl := Except.error.inj h
    exact fun _ => ⟨_, rfl⟩
  · cases hmatch : router.match? method path with
    | ok found =>
      rw [hmatch] at h
      cases h
    | error miss =>
      rw [hmatch] at h
      obtain rfl := Except.error.inj h
      obtain ⟨e, he⟩ := TypedError.exists_of_miss miss
      show IsPlainFailure debug (.http miss.httpError)
      rw [← he]
      exact e.isPlain_error

/-- Calls what serves a route. -/
def Endpoint.answer (b : Behaviour U) : Endpoint → Next U
  | .wrapped w => w.serve b
  | .custom fn => callEngine (b.callEndpoint fn) nothingNext

/-- What the endpoint of a route says to a request that arrives with messages. -/
def RouteMatch.answerTo (found : RouteMatch Registered) (b : Behaviour U) (request : Request) (inbox : Inbox)
    (w : World U) : Except Stop Value :=
  (outcome (found.route.endpoint.endpoint.answer b
    { request with maxBodySize := w.app.freeze.config.bodyLimit, pathParams := found.params })
      { w with app := w.app.freeze, inbox := inbox }).1

/-- A request is passed to the endpoint of its route. -/
theorem fst_outcome_dispatch (b : Behaviour U) (request : Request) (w : World U) :
    (outcome (dispatch b request) w).1 = match w.app.router.lookup request.method request.path with
      | .error f => .error (.failed f)
      | .ok found =>
        (outcome (found.route.endpoint.endpoint.answer b { request with pathParams := found.params }) w).1 := by
  rw [dispatch, Act.outcome_get_bind, Router.lookup]
  cases hdeep : w.app.router.isTooDeepFor request.method request.path with
  | true => rfl
  | false =>
    simp only [Bool.false_eq_true, if_false]
    cases w.app.router.match? request.method request.path with
    | error miss => rfl
    | ok found =>
      obtain ⟨⟨path, methods, ⟨endpoint, schema, name⟩, serial⟩, params⟩ := found
      cases endpoint <;> rfl

theorem App.lookup_freeze (app : App) (method path : String) :
    app.freeze.router.lookup method path = app.router.lookup method path := by
  rw [App.freeze]
  split <;> rfl

/-- **What is sent where no middleware is around the router**: what it fails with is answered, and otherwise what the
endpoint of the route says. -/
theorem fst_serveRequest_bare {b : Behaviour U} {request : Request} {w : World U} (bare : w.app.middleware = [])
    (inbox : Inbox) (served : Attempt Value)
    (h : match w.app.router.lookup request.method request.path with
      | .error f => served = .error f
      | .ok found => found.answerTo b request inbox w = served.mapError .failed) :
    (outcome (serveRequest b request inbox) w).1 =
      sentFor w.app.freeze.config.debug.truthy (request.method == "HEAD") served := by
  refine fst_serveRequest_eq_sentFor inbox served ?_
  rw [bare, serveThrough, List.foldr_nil, fst_outcome_dispatch]
  simp only [App.lookup_freeze]
  cases hlookup : w.app.router.lookup request.method request.path with
  | error f =>
    rw [hlookup] at h
    rw [h]
    rfl
  | ok found =>
    rw [hlookup] at h
    exact h

/-! ## HEAD beside GET -/

/-- A request for HEAD and one for GET of the same path. They arrive in worlds with the same application, which has no
route for HEAD and no middleware around its router. -/
structure HeadBesideGet (head get : Request) (w v : World U) : Prop where
  headMethod : head.method = "HEAD"
  getMethod : get.method = "GET"
  samePath : head.path = get.path
  sameApp : v.app.freeze = w.app.freeze
  lacks : w.app.router.trie.Lacks "HEAD"
  bare : w.app.middleware = []

namespace HeadBesideGet

variable {head get : Request} {w v : World U}

theorem bare_get (h : HeadBesideGet head get w v) : v.app.middleware = [] := by
  rw [← App.middleware_freeze, h.sameApp, App.middleware_freeze, h.bare]

/-- The router says to both what it says to GET. -/
theorem lookup_eq (h : HeadBesideGet head get w v) :
    w.app.router.lookup head.method head.path = w.app.router.lookup "GET" get.path ∧
      v.app.router.lookup get.method get.path = w.app.router.lookup "GET" get.path := by
  constructor
  · rw [h.headMethod, h.samePath, Router.lookup_head h.lacks]
  · rw [h.getMethod, ← App.lookup_freeze v.app, h.sameApp, App.lookup_freeze]

/-- Both are sent the same thing: what the router fails with, or the response of the route. -/
theorem exists_served {b : Behaviour U} {i j : Inbox} {r : Response Value} (h : HeadBesideGet head get w v)
    (answers : ∀ found, w.app.router.lookup "GET" get.path = .ok found →
      found.answerTo b head i w = .ok (.response r) ∧ found.answerTo b get j v = .ok (.response r)) :
    ∃ served, (outcome (serveRequest b head i) w).1 = sentFor w.app.freeze.config.debug.truthy true served ∧
      (outcome (serveRequest b get j) v).1 = sentFor w.app.freeze.config.debug.truthy false served ∧
      ((∀ found, w.app.router.lookup "GET" get.path = .ok found → r.IsPlain) →
        IsPlainServed w.app.freeze.config.debug.truthy served) := by
  have hhead : (head.method == "HEAD") = true := by rw [h.headMethod]; rfl
  have hget : (get.method == "HEAD") = false := by rw [h.getMethod]; rfl
  cases hlookup : w.app.router.lookup "GET" get.path with
  | error f =>
    refine ⟨.error f, ?_, ?_, fun _ => Router.isPlainFailure_of_lookup _ hlookup⟩
    · rw [← hhead]
      exact fst_serveRequest_bare h.bare i _ (by rw [h.lookup_eq.1, hlookup])
    · rw [← hget, ← h.sameApp]
      exact fst_serveRequest_bare h.bare_get j _ (by rw [h.lookup_eq.2, hlookup])
  | ok found =>
    obtain ⟨hheadAnswer, hgetAnswer⟩ := answers found hlookup
    refine ⟨.ok (.response r), ?_, ?_, fun plain => ⟨r, rfl, plain found rfl⟩⟩
    · rw [← hhead]
      refine fst_serveRequest_bare h.bare i _ ?_
      rw [h.lookup_eq.1, hlookup]
      exact hheadAnswer
    · rw [← hget, ← h.sameApp]
      refine fst_serveRequest_bare h.bare_get j _ ?_
      rw [h.lookup_eq.2, hlookup]
      exact hgetAnswer

end HeadBesideGet

/-- **Requests for HEAD are answered as those for GET.** A router without a route for HEAD, such as any for which none
was ever asked for, finds for HEAD what it finds for GET, or misses both in the same way. Where no middleware is around
it and the endpoint of the route says the same response to both, what is sent for HEAD is what is sent for GET without
the body. For a plain response, and where there is no route, something is sent. -/
theorem head_mirrors_get :
    (∀ (E : Type) (router : Router E), router.BuiltWithout "HEAD" → router.trie.Lacks "HEAD") ∧
    (∀ (E : Type) (router : Router E), router.trie.Lacks "HEAD" → ∀ path,
      router.match? "HEAD" path = router.match? "GET" path) ∧
    ∀ (U : Type) (b : Behaviour U) (head get : Request) (i j : Inbox) (w v : World U) (r : Response Value),
      HeadBesideGet head get w v →
      (∀ found, w.app.router.lookup "GET" get.path = .ok found →
        found.answerTo b head i w = .ok (.response r) ∧ found.answerTo b get j v = .ok (.response r)) →
      (outcome (serveRequest b head i) w).1 =
          (outcome (serveRequest b get j) v).1.map WireResponse.withoutBody ∧
        ((∀ found, w.app.router.lookup "GET" get.path = .ok found → r.IsPlain) →
          ∃ messages, (outcome (serveRequest b get j) v).1 = .ok messages ∧
            (outcome (serveRequest b head i) w).1 = .ok messages.withoutBody) := by
  refine ⟨fun E router h => h.lacks, fun E router h path => Router.match?_head h path, ?_⟩
  intro U b head get i j w v r h answers
  obtain ⟨served, hhead, hget, hplain⟩ := h.exists_served answers
  have hsent : (outcome (serveRequest b head i) w).1 =
      (outcome (serveRequest b get j) v).1.map WireResponse.withoutBody := by
    rw [hhead, hget, sentFor_head]
  refine ⟨hsent, fun plain => ?_⟩
  obtain ⟨sent, hdelivery⟩ := exists_delivery false (hplain plain)
  have hmessages : (outcome (serveRequest b get j) v).1 = .ok sent.messages :=
    hget.trans (sentFor_eq_ok.mpr ⟨sent, hdelivery, rfl⟩)
  refine ⟨sent.messages, hmessages, ?_⟩
  rw [hsent, hmessages]
  rfl

/-- An application whose only route is for GET. -/
def greeting : World Unit where
  env := { user := () }
  app := (App.route {} "GET" "/x" (.wrapped granted) .none .none).1

/-- It greets a request for HEAD without saying a word. -/
theorem head_mirrors_get_greeting :
    greeting.app.router.trie.Lacks "HEAD" ∧
      greeting.app.router.match? "HEAD" "/x" = greeting.app.router.match? "GET" "/x" ∧
      HeadBesideGet { method := "HEAD", path := "/x" } { method := "GET", path := "/x" } greeting greeting ∧
      ∃ messages : WireResponse,
        (outcome (serveRequest (writing [] [] (.returned (.str "hi"))) { method := "GET", path := "/x" } {})
          greeting).1 = .ok messages ∧
        (outcome (serveRequest (writing [] [] (.returned (.str "hi"))) { method := "HEAD", path := "/x" } {})
          greeting).1 = .ok messages.withoutBody := by
  obtain ⟨hbuilt, hmatch, hserved⟩ := head_mirrors_get
  have hlacks : greeting.app.router.trie.Lacks "HEAD" :=
    hbuilt Registered greeting.app.router (.add .new (by decide) "/x" _)
  have hbeside : HeadBesideGet { method := "HEAD", path := "/x" } { method := "GET", path := "/x" } greeting greeting :=
    ⟨rfl, rfl, rfl, rfl, hlacks, rfl⟩
  have hlookup : greeting.app.router.lookup "GET" "/x" =
      .ok ⟨⟨"/x", ["GET"], ⟨.wrapped granted, .none, .none⟩, 0⟩, []⟩ := rfl
  have hplain : (⟨.str "hi", .int 200, .str textContentType, []⟩ : Response Value).IsPlain :=
    ⟨trivial, trivial, ⟨_, rfl⟩, fun e he => nomatch he⟩
  refine ⟨hlacks, hmatch Registered greeting.app.router hlacks "/x", hbeside, ?_⟩
  obtain ⟨-, hanswered⟩ := hserved Unit (writing [] [] (.returned (.str "hi"))) _ _ {} {} greeting greeting
    ⟨.str "hi", .int 200, .str textContentType, []⟩ hbeside (by
      intro found hfound
      obtain rfl := Except.ok.inj (hlookup.symm.trans hfound)
      exact ⟨rfl, rfl⟩)
  exact hanswered fun _ _ => hplain

end ServerTree
