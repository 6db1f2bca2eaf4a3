import ServerTree.Proofs.Pipeline.HeaderWrites
import ServerTree.Proofs.Pipeline.Recognition
import ServerTree.Proofs.Serving.HttpErrors

/-!
# What is called on a reply

All stages of a request have one reply. Middleware that lets the request go on and the handler call it one after the
other, and what it says after all calls is what the leaves of a response tree say that has a node for each of them.

A reply that was sent is the response, so it makes no difference then whether calls are made or the tree is returned,
and none what the handler returns or raises. A reply that was not sent is looked at for its status alone: the headers
that were set on it are not those of a response that is made from a plain result.

## Main definitions
- `replyTree`: the response tree with a node for each call
- `ChainWrites`, `WrappedHandler.StagesWrite`: the stages of a request make calls on its reply
- `Value.IsPlainResult`: results of handlers that are no responses of any kind

## Main statements
- `ofLeaves_replyTree`: the tree says what the calls say
- `WrappedHandler.StagesWrite.outcome_serve`: a request ends as its handler does with the reply after all calls
- `sent_replies_are_trees`: a reply that was sent and the tree of its calls have the same response
- `plain_results_keep_headers_iff`: when the response of a plain result has what was set on the reply
-/

namespace ServerTree

variable {U : Type} {call : Expander U}

/-! ## Calls -/

namespace ReplyCall

/-- The status that a call sets. -/
def status? : ReplyCall → Option Value
  | .status code => some code
  | _ => none

/-- The body that a call sends. -/
def body? : ReplyCall → Option Value
  | .send body => some body
  | _ => none

/-- The values of a call that writes headers are texts. -/
def HasTexts : ReplyCall → Prop
  | .header _ value => ∃ text, value = .str text
  | .headers entries => ∀ e ∈ entries, ∃ text, e.2 = .str text
  | _ => True

/-- The leaf of a response tree that says what a call says. -/
def leaf : ReplyCall → Payload Value
  | .status code => .status code
  | .header name value => .headers (.ofFields [(name, value)])
  | .headers entries => .headers (.ofFields entries)
  | .send body => .body body

/-- Texts are written as they are. -/
theorem shown_of_texts {entries : List (String × Value)} (h : ∀ e ∈ entries, ∃ text, e.2 = .str text) :
    shown entries = entries := by
  induction entries with
  | nil => rfl
  | cons e entries ih =>
    obtain ⟨⟨text, htext⟩, hrest⟩ := List.forall_mem_cons.mp h
    obtain ⟨name, value⟩ := e
    obtain rfl : value = .str text := htext
    show (name, .str text) :: shown entries = _
    rw [ih hrest]

/-- The leaf of a call writes what the call writes. -/
theorem entries_leaf {c : ReplyCall} (h : c.HasTexts) : c.leaf.entries = .ok (textNamed c.writes) := by
  cases c with
  | status | send => rfl
  | header name value =>
    obtain ⟨text, rfl⟩ := h
    rfl
  | headers entries =>
    rw [writes, shown_of_texts h]
    rfl

end ReplyCall

/-- The status set last, or the usual one. -/
def lastStatus (calls : List ReplyCall) : Value := (calls.filterMap ReplyCall.status?).getLastD (.int 200)

namespace Reply

/-- Setting headers changes nothing else. -/
theorem exists_setHeaders (r : Reply) (entries : List (Value × Value)) :
    ∃ headers, (r.setHeaders entries).1 = { r with headers := headers } := by
  induction entries generalizing r with
  | nil => exact ⟨r.headers, rfl⟩
  | cons e entries ih =>
    obtain ⟨name, value⟩ := e
    rw [setHeaders, setHeader]
    cases value.text with
    | error f => exact ⟨r.headers, rfl⟩
    | ok text =>
      cases name.asKey with
      | error f => exact ⟨r.headers, rfl⟩
      | ok key => exact ih { r with headers := Assoc.set key text r.headers }

/-- **Step lemma**: of status and body a call changes those that it sets. -/
theorem run_eq (r : Reply) (c : ReplyCall) :
    (c.run r).status = c.status?.getD r.status ∧ (c.run r).body = c.body?.getD r.body ∧
      (c.run r).sent = (r.sent || c.body?.isSome) := by
  cases c with
  | status code => exact ⟨rfl, rfl, (Bool.or_false _).symm⟩
  | send body => exact ⟨rfl, rfl, (Bool.or_true _).symm⟩
  | header name value =>
    obtain ⟨headers, h⟩ := r.exists_setHeaders (textNamed [(name, value)])
    rw [ReplyCall.run, h]
    exact ⟨rfl, rfl, (Bool.or_false _).symm⟩
  | headers entries =>
    obtain ⟨headers, h⟩ := r.exists_setHeaders (textNamed entries)
    rw [ReplyCall.run, h]
    exact ⟨rfl, rfl, (Bool.or_false _).symm⟩

/-- **Run lemma**: after calls the last status and the last body count, and it was sent if any call did. -/
theorem after_eq (calls : List ReplyCall) :
    (after calls).status = lastStatus calls ∧ (after calls).body = (calls.filterMap ReplyCall.body?).getLastD .none ∧
      (after calls).sent = calls.any fun c => c.body?.isSome := by
  induction calls using List.reverseRecOn with
  | nil => exact ⟨rfl, rfl, rfl⟩
  | append_singleton calls c ih =>
    have hlast : after (calls ++ [c]) = c.run (after calls) := List.foldl_append
    obtain ⟨hstatus, hbody, hsent⟩ := run_eq (after calls) c
    rw [hlast, hstatus, hbody, hsent, ih.1, ih.2.1, ih.2.2, lastStatus, lastStatus]
    refine ⟨?_, ?_, ?_⟩
    · cases hc : c.status? <;> simp [List.filterMap_append, hc]
    · cases hc : c.body? <;> simp [List.filterMap_append, hc]
    · simp

theorem sent_after_iff (calls : List ReplyCall) : (after calls).sent = true ↔ ∃ body, .send body ∈ calls := by
  rw [(after_eq calls).2.2, List.any_eq_true]
  constructor
  · rintro ⟨c, hc, hsome⟩
    cases c with
    | send body => exact ⟨body, hc⟩
    | _ => cases hsome
  · rintro ⟨body, hmem⟩
    exact ⟨_, hmem, rfl⟩

end Reply

/-! ## The tree of calls -/

/-- A response tree with a node for each call, in the same order. -/
def replyTree (calls : List ReplyCall) : Value := .node .response (calls.map fun c => .node c.leaf [])

theorem leaves_nodes (n : Nat) (ls : List (Payload Value)) (hls : ∀ p ∈ ls, p.isLeaf = true) (s : U) :
    Leaves call (n + 1) (ls.map fun p => .node p []) s ls s := by
  induction ls with
  | nil => exact .nil
  | cons p ls ih =>
    obtain ⟨hp, hrest⟩ := List.forall_mem_cons.mp hls
    exact .leaf hp .node (ih hrest)

theorem leaves_replyTree (calls : List ReplyCall) (s : U) :
    Leaves call nestingLimit [replyTree calls] s (calls.map ReplyCall.leaf) s := by
  have hleaves : ∀ p ∈ calls.map ReplyCall.leaf, p.isLeaf = true := by
    intro p hp
    obtain ⟨c, -, rfl⟩ := List.mem_map.mp hp
    cases c <;> rfl
  have hnodes : Leaves call 959 ((calls.map ReplyCall.leaf).map fun p => .node p []) s
      (calls.map ReplyCall.leaf) s := leaves_nodes 958 (calls.map ReplyCall.leaf) hleaves s
  rw [List.map_map] at hnodes
  rw [← List.append_nil (calls.map ReplyCall.leaf)]
  exact .response .node hnodes .nil

theorem mapM_entries_leaf {calls : List ReplyCall} (h : ∀ c ∈ calls, c.HasTexts) :
    (calls.map ReplyCall.leaf).mapM Payload.entries = .ok (calls.map fun c => textNamed c.writes) := by
  induction calls with
  | nil => rfl
  | cons c calls ih =>
    obtain ⟨hc, hrest⟩ := List.forall_mem_cons.mp h
    rw [List.map_cons, List.mapM_cons, ReplyCall.entries_leaf hc, ih hrest]
    rfl

/-- **The tree says what the calls say.** -/
theorem ofLeaves_replyTree {calls : List ReplyCall} (h : ∀ c ∈ calls, c.HasTexts) :
    Descriptor.ofLeaves (calls.map ReplyCall.leaf) = .ok (Reply.after calls).descriptor := by
  have hheaders : (Reply.after calls).descriptor.headers =
      Assoc.ofList (calls.map fun c => textNamed c.writes).flatten := by
    rw [Reply.headers_after, ← ofList_textNamed, textNamed, List.map_flatMap, List.flatMap_def]
    rfl
  have hstatus : (calls.map ReplyCall.leaf).filterMap Payload.status? = calls.filterMap ReplyCall.status? := by
    rw [List.filterMap_map]
    exact List.filterMap_congr fun c _ => by cases c <;> rfl
  have hbody : (calls.map ReplyCall.leaf).filterMap Payload.body? = calls.filterMap ReplyCall.body? := by
    rw [List.filterMap_map]
    exact List.filterMap_congr fun c _ => by cases c <;> rfl
  have hnoError : (calls.map ReplyCall.leaf).any Payload.isErr = false := by
    rw [List.any_map, List.any_eq_false]
    intro c _
    cases c <;> simp [ReplyCall.leaf, Payload.isErr]
  obtain ⟨hlast, hsent, -⟩ := Reply.after_eq calls
  rw [Descriptor.ofLeaves, mapM_entries_leaf h, hstatus, hbody, hnoError]
  show Except.ok (Descriptor.mk _ _ _ _) = .ok (Reply.after calls).descriptor
  rw [← hheaders, ← hsent, ← lastStatus, ← hlast]
  rfl

/-! ## The response of a reply -/

theorem Expand.outcome_ofAttempt {α : Type} (a : Attempt α) (s : U) :
    outcome (Expand.ofAttempt a : Expand U α) s = (a, s) := by
  cases a <;> rfl

/-- A reply that was sent is the response of any result. -/
theorem outcome_renderResult_sent {reply : Reply} (hsent : reply.sent = true) (result : Value) (s : U) :
    outcome (renderResult call result reply) s = (reply.response, s) := by
  unfold renderResult
  rw [if_pos hsent]
  exact Expand.outcome_ofAttempt reply.response s

/-- The tree of calls has the response of the reply after them. -/
theorem outcome_renderResult_replyTree {calls : List ReplyCall} (h : ∀ c ∈ calls, c.HasTexts) {reply : Reply}
    (unsent : reply.sent = false) (s : U) :
    outcome (renderResult call (replyTree calls) reply) s = ((Reply.after calls).response, s) := by
  have hdescribed : outcome (describeResponse call (replyTree calls)) s =
      (.ok (Reply.after calls).descriptor, s) :=
    (ofLeaves_replyTree h ▸ comesTo_describeResponse (leaves_replyTree calls s)).outcome_eq
  rw [renderResult_of_isResponseNode call rfl unsent, outcome_bind, hdescribed]
  exact Expand.outcome_ofAttempt _ s

/-- A result of a handler that is no response of any kind. -/
def Value.IsPlainResult (v : Value) : Prop :=
  v ≠ .none ∧ (∀ r, v ≠ .response r) ∧ isResponseNode v = false

/-- A plain result is rendered with the status of the reply, and without its headers. -/
theorem renderResult_plain {v content : Value} {usual : String} (hplain : v.IsPlainResult)
    (hcontent : v.asContent = .ok (content, usual)) {reply : Reply} (unsent : reply.sent = false) :
    renderResult call v reply = pure ⟨content, reply.status, .str usual, []⟩ := by
  obtain ⟨hnone, hresponse, hnode⟩ := hplain
  have hjson {v : Value} (h : (do
      let s ← Json.write v
      return (.str s, jsonContentType)) = Except.ok (content, usual)) :
      jsonResponse v reply.status = .ok ⟨content, reply.status, .str usual, []⟩ := by
    obtain ⟨text, htext, heq⟩ := exists_of_bind_eq_ok h
    cases heq
    rw [jsonResponse, htext]
    rfl
  unfold renderResult
  rw [if_neg (by simp [unsent])]
  cases v with
  | none => exact absurd rfl hnone
  | response r => exact absurd rfl (hresponse r)
  | str | bytes =>
    cases hcontent
    rfl
  | _ =>
    simp only [hnode, Bool.false_eq_true, if_false]
    rw [hjson hcontent]
    rfl

/-! ## Stages that call the reply -/

variable (b : Behaviour U)

open Act

/-- All middleware of a chain lets a request go on, with these calls on the reply. -/
inductive ChainWrites (timeout : Value) :
    List (ScopedMiddleware Value) → Visit → World U → List ReplyCall → Visit → World U → Prop where
  | nil {v : Visit} {w : World U} : ChainWrites timeout [] v w [] v w
  | cons {m : ScopedMiddleware Value} {ms : List (ScopedMiddleware Value)} {v v₁ v' : Visit} {w w₁ w' : World U}
      {own rest : List ReplyCall} (goesOn : Returns (runMiddleware b timeout m v) w (.proceed v₁) w₁)
      (writes : v₁.reply = own.foldl ReplyCall.run v.reply) (behind : ChainWrites timeout ms v₁ w₁ rest v' w') :
      ChainWrites timeout (m :: ms) v w (own ++ rest) v' w'

/-- A request comes to the handler of its route, and the stages make these calls on the reply up to where the handler
ends. -/
inductive WrappedHandler.StagesWrite (h : WrappedHandler) (request : Request) (w : World U) :
    List ReplyCall → Settled → World U → Prop where
  | intro {body : Value} {v : Visit} {w₁ w₂ w₃ w' : World U} {before own : List ReplyCall} {ended : Settled}
      {reply : Reply} (counted : Returns (checkLimit h request) w none w₁)
      (decoded : Returns (receiveValue request) w₁ body w₂)
      (chain : ChainWrites b h.timeout h.config.middleware ⟨coreFields h request body w₂.env.log.effective, {}⟩ w₂
        before v w₃)
      (ends : Returns (callStage b h.handler (.context v.fields) v.reply) w₃ (ended, reply) w')
      (writes : reply = own.foldl ReplyCall.run v.reply) :
      StagesWrite h request w (before ++ own) ended w'

variable {b}

/-- A chain that lets a request go on leaves the reply as all calls of its middleware do. -/
theorem ChainWrites.returns {timeout : Value} {ms : List (ScopedMiddleware Value)} {v v' : Visit} {w w' : World U}
    {calls : List ReplyCall} (h : ChainWrites b timeout ms v w calls v' w') :
    Returns (runChain b timeout ms v) w (.proceed v') w' ∧ v'.reply = calls.foldl ReplyCall.run v.reply := by
  induction h with
  | nil => exact ⟨rfl, rfl⟩
  | cons goesOn writes _ ih =>
    refine ⟨?_, ?_⟩
    · rw [runChain, goesOn.bind_iff]
      exact ih.1
    · rw [List.foldl_append, ← writes]
      exact ih.2

/-- **A request ends as its handler does** with the reply after all calls. -/
theorem WrappedHandler.StagesWrite.outcome_serve {h : WrappedHandler} {request : Request} {w w' : World U}
    {calls : List ReplyCall} {ended : Settled} (hrun : h.StagesWrite b request w calls ended w') :
    outcome (h.serve b request) w =
      outcome (do return .response (← concludeHandler b h (Reply.after calls) ended)) w' := by
  cases hrun with
  | @intro body v w₁ w₂ w₃ _ before own _ reply counted decoded chain ends writes =>
    obtain ⟨hchain, hreply⟩ := chain.returns
    obtain rfl : reply = Reply.after (before ++ own) := by
      rw [writes, hreply, Reply.after, List.foldl_append]
    have hstages : outcome (h.serve b request) w =
        outcome (h.runStages b request body w₂.env.log.effective) w₂ := by
      rw [WrappedHandler.serve_eq, outcome_bind, counted]
      simp only
      rw [outcome_bind, decoded]
      rfl
    rw [hstages, runStages_eq, outcome_bind, hchain]
    simp only [finish]
    rw [outcome_bind, runHandler_eq, outcome_bind, ends, outcome_bind]

/-! ## Replies that were sent -/

/-- The answer of a request whose response is that of a reply. -/
def Reply.answer (r : Reply) : Except Stop Value := (r.response.map Value.response).mapError .failed

/-- A request whose handler comes to the response of a reply is answered with it. -/
theorem outcome_response_bind {x : Act U (Response Value)} {w w' : World U} {reply : Reply}
    (h : outcome x w = (reply.response.mapError .failed, w')) :
    outcome (do return Value.response (← x)) w = (reply.answer, w') := by
  rw [outcome_bind, h, Reply.answer]
  cases reply.response <;> rfl

/-- A reply that was sent is the answer, whether the handler returns then or raises. -/
theorem WrappedHandler.StagesWrite.serve_sent {h : WrappedHandler} {request : Request} {w w' : World U}
    {calls : List ReplyCall} {ended : Settled} (hrun : h.StagesWrite b request w calls ended w')
    (hsent : (Reply.after calls).sent = true) (hends : ∀ rest, ended ≠ .suspended rest) :
    (outcome (h.serve b request) w).1 = (Reply.after calls).answer := by
  rw [hrun.outcome_serve]
  cases ended with
  | returned result =>
    simp only [concludeHandler]
    rw [outcome_response_bind (outcome_expand (outcome_renderResult_sent hsent result w'.env.user))]
  | raised f =>
    obtain ⟨w₁, hfailed⟩ := exists_outcome_handlerFailed h.route hsent f w'
    simp only [concludeHandler]
    rw [outcome_response_bind hfailed]
  | suspended rest => exact absurd rfl (hends rest)

/-- A handler that returns the tree of calls has their reply answered, when no reply was sent. -/
theorem WrappedHandler.StagesWrite.serve_tree {h : WrappedHandler} {request : Request} {w w' : World U}
    {others calls : List ReplyCall} (hrun : h.StagesWrite b request w others (.returned (replyTree calls)) w')
    (unsent : (Reply.after others).sent = false) (htexts : ∀ c ∈ calls, c.HasTexts) :
    (outcome (h.serve b request) w).1 = (Reply.after calls).answer := by
  rw [hrun.outcome_serve]
  simp only [concludeHandler]
  rw [outcome_response_bind (outcome_expand (outcome_renderResult_replyTree htexts unsent w'.env.user))]

theorem unsent_of_calls {calls : List ReplyCall} (h : ∀ body, .send body ∉ calls) :
    (Reply.after calls).sent = false := by
  rw [Bool.eq_false_iff, Ne, Reply.sent_after_iff]
  rintro ⟨body, hmem⟩
  exact h body hmem

/-- **A reply that was sent and the response tree of its calls have the same response.** It is the answer of every
request whose stages have made these calls, whatever its handler returns or raises, and of every request without a
reply whose handler returns the tree. -/
theorem sent_replies_are_trees {calls : List ReplyCall} (hsent : ∃ body, .send body ∈ calls) :
    ((∀ c ∈ calls, c.HasTexts) → ∀ (U : Type) (call : Expander U) (result : Value) (other : Reply) (s : U),
      other.sent = false →
      outcome (renderResult call result (Reply.after calls)) s = ((Reply.after calls).response, s) ∧
        outcome (renderResult call (replyTree calls) other) s = ((Reply.after calls).response, s)) ∧
    (∀ (U : Type) (b : Behaviour U) (h : WrappedHandler) (request : Request) (w w' : World U) (ended : Settled),
      h.StagesWrite b request w calls ended w' → (∀ rest, ended ≠ .suspended rest) →
      (outcome (h.serve b request) w).1 = (Reply.after calls).answer) ∧
    ((∀ c ∈ calls, c.HasTexts) → ∀ (U : Type) (b : Behaviour U) (h : WrappedHandler) (request : Request)
      (w w' : World U) (others : List ReplyCall),
      h.StagesWrite b request w others (.returned (replyTree calls)) w' → (∀ body, .send body ∉ others) →
      (outcome (h.serve b request) w).1 = (Reply.after calls).answer) := by
  have hreply : (Reply.after calls).sent = true := (Reply.sent_after_iff calls).mpr hsent
  refine ⟨?_, ?_, ?_⟩
  · intro htexts U call result other s unsent
    exact ⟨outcome_renderResult_sent hreply result s, outcome_renderResult_replyTree htexts unsent s⟩
  · intro U b h request w w' ended hrun hends
    exact hrun.serve_sent hreply hends
  · intro htexts U b h request w w' others hrun hothers
    exact hrun.serve_tree (unsent_of_calls hothers) htexts

/-! ### A reply that is sent before a failure -/

/-- A middleware and a handler that make calls on the reply; the middleware returns nothing, and the handler ends in one
way. -/
def writing (before own : List ReplyCall) (ended : Settled) : Behaviour Unit :=
  { Behaviour.idle with
    handle := fun fn argument reply env =>
      if fn.name = "guard" then ⟨.returned .none, argument, before.foldl ReplyCall.run reply, env⟩
      else ⟨ended, argument, own.foldl ReplyCall.run reply, env⟩ }

/-- A world in which an empty body was read. -/
def withoutBody : World Unit := { env := { user := () }, inbox := { cached := some [] } }

theorem stagesWrite_writing (before own : List ReplyCall) (ended : Settled) :
    granted.StagesWrite (writing before own ended) {} withoutBody (before ++ own) ended withoutBody := by
  let fields : Fields := coreFields granted {} .none withoutBody.env.log.effective
  have hchain : ChainWrites (writing before own ended) granted.timeout granted.config.middleware ⟨fields, {}⟩
      withoutBody (before ++ []) ⟨fields, Reply.after before⟩ withoutBody := .cons rfl rfl .nil
  rw [List.append_nil] at hchain
  exact .intro rfl rfl hchain rfl rfl

/-- Calls of which the last one sends the reply. -/
def jobCalls : List ReplyCall := [.status (.int 202), .header "X-Job" (.str "7"), .send (.str "queued")]

/-- The handler raises after it has sent what the middleware has begun, and elsewhere it returns the tree. -/
theorem sent_replies_are_trees_job :
    (∃ body, ReplyCall.send body ∈ jobCalls) ∧ (∀ c ∈ jobCalls, c.HasTexts) ∧
      (Reply.after jobCalls).answer =
        .ok (.response ⟨.str "queued", .int 202, .str textContentType, [(.str "X-Job", .str "7")]⟩) ∧
      outcome (renderResult failing.call (replyTree jobCalls) {}) () = ((Reply.after jobCalls).response, ()) ∧
      (outcome (granted.serve (writing [.status (.int 202), .header "X-Job" (.str "7")] [.send (.str "queued")]
        (.raised (.refused (.wrongType "late")))) {}) withoutBody).1 = (Reply.after jobCalls).answer ∧
      (outcome (granted.serve (writing [.status (.int 500)] [] (.returned (replyTree jobCalls))) {}) withoutBody).1 =
        (Reply.after jobCalls).answer := by
  have hsent : ∃ body, ReplyCall.send body ∈ jobCalls := ⟨.str "queued", by simp [jobCalls]⟩
  have htexts : ∀ c ∈ jobCalls, c.HasTexts := by simp [jobCalls, ReplyCall.HasTexts]
  obtain ⟨hrendered, hended, htree⟩ := sent_replies_are_trees hsent
  refine ⟨hsent, htexts, rfl, (hrendered htexts Unit failing.call .none {} () rfl).2, ?_, ?_⟩
  · exact hended Unit _ granted {} withoutBody withoutBody _ (stagesWrite_writing _ [.send (.str "queued")] _) (by simp)
  · exact htree htexts Unit _ granted {} withoutBody withoutBody _ (stagesWrite_writing [.status (.int 500)] [] _)
      (by simp)

/-! ## Replies that were not sent -/

/-- A response without headers has what was written exactly when that is its content type and nothing else. -/
theorem lastWritesWin_bare_iff {writes : List (String × Value)} {content status contentType : Value} :
    LastWritesWin writes ⟨content, status, contentType, []⟩ ↔ (∀ x ∈ writes, namesContentType x.1 = true) ∧
      ∀ value, lastWritten "content-type" writes = some value → value = contentType := by
  constructor
  · intro hwin
    refine ⟨fun x hx => ?_, fun value hvalue => (hwin.contentType value hvalue).symm⟩
    -- a header of any other name would be one of the response, which has none
    by_contra hname
    obtain ⟨shown, hshown, -⟩ := hwin.carried x hx (by simpa using hname)
    exact List.not_mem_nil hshown
  · rintro ⟨hnames, hlast⟩
    exact {
      last := fun _ hshown => absurd hshown List.not_mem_nil
      once := List.Pairwise.nil
      carried := fun x hx hname => absurd hname (by simp [hnames x hx])
      contentType := fun value hvalue => (hlast value hvalue).symm }

/-- **When the response of a plain result has what was set on the reply.** The last status is always its status. It has
the headers that were set exactly when all of them are content types of which the last one is the usual one of the
result; any other header is lost. -/
theorem plain_results_keep_headers_iff {h : WrappedHandler} {request : Request} {w w' : World U}
    {calls : List ReplyCall} {v content : Value} {usual : String}
    (hrun : h.StagesWrite b request w calls (.returned v) w') (hunsent : ∀ body, .send body ∉ calls)
    (hplain : v.IsPlainResult) (hcontent : v.asContent = .ok (content, usual)) :
    let writes := calls.flatMap ReplyCall.writes
    let r : Response Value := ⟨content, lastStatus calls, .str usual, []⟩
    outcome (h.serve b request) w = (.ok (.response r), w') ∧
      (LastWritesWin writes r ↔ (∀ x ∈ writes, namesContentType x.1 = true) ∧
        ∀ value, lastWritten "content-type" writes = some value → value = .str usual) := by
  intro writes r
  have hrendered : outcome (renderResult b.expand v (Reply.after calls)) w'.env.user = (.ok r, w'.env.user) := by
    rw [renderResult_plain hplain hcontent (unsent_of_calls hunsent), (Reply.after_eq calls).1]
    rfl
  constructor
  · rw [hrun.outcome_serve, concludeHandler, outcome_bind, outcome_expand hrendered]
    rfl
  · exact lastWritesWin_bare_iff

/-- A status that a middleware has set is that of a text. -/
theorem plain_results_keep_headers_iff_created :
    outcome (granted.serve (writing [.status (.int 201)] [] (.returned (.str "hi"))) {}) withoutBody =
        (.ok (.response ⟨.str "hi", .int 201, .str textContentType, []⟩), withoutBody) ∧
      LastWritesWin [] ⟨.str "hi", .int 201, .str textContentType, []⟩ := by
  have hplain : (Value.str "hi").IsPlainResult := ⟨by simp, by simp, rfl⟩
  obtain ⟨hserved, hkept⟩ := plain_results_keep_headers_iff
    (stagesWrite_writing [.status (.int 201)] [] (.returned (.str "hi"))) (by simp) hplain rfl
  exact ⟨hserved, hkept.mpr ⟨by simp [ReplyCall.writes], fun value hvalue => nomatch hvalue⟩⟩

/-- **A header is lost.** A handler that sets one and returns a text is answered without it. -/
theorem plain_result_loses_header :
    (outcome (granted.serve (writing [] [.header "X-A" (.str "1")] (.returned (.str "hi"))) {}) withoutBody).1 =
        .ok (.response ⟨.str "hi", .int 200, .str textContentType, []⟩) ∧
      lastWritten "X-A" ([ReplyCall.header "X-A" (.str "1")].flatMap ReplyCall.writes) = some (.str "1") ∧
      ¬ LastWritesWin ([ReplyCall.header "X-A" (.str "1")].flatMap ReplyCall.writes)
        ⟨.str "hi", .int 200, .str textContentType, []⟩ := by
  refine ⟨rfl, rfl, fun hwin => ?_⟩
  have hwritten : ("X-A", Value.str "1") ∈ [ReplyCall.header "X-A" (.str "1")].flatMap ReplyCall.writes :=
    List.mem_singleton_self _
  obtain ⟨shown, hshown, -⟩ := hwin.carried _ hwritten (by decide +kernel)
  cases hshown

end ServerTree
