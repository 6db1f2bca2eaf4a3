import ServerTree.Proofs.Serving.Likeness

/-!
# Reading a body again and again

Whoever serves a request may read its body: engine functions, as often as they like, and the stages of a route.
All of them read from the same messages, and what was received does not come again. A body is settled when it
is kept, when it arrives whole within the limit, or when its declared length is refused before anything is
received. Every read then gives the same answer. Otherwise some read gives a part of the body, or one that is
over the limit: after a refusal the next read goes on behind the piece that was too much, and a peer that goes
away ends the body.

## Main definitions
- `wholeBody?`: the complete body of a row of messages
- `Request.Settled`: an inbox gives every reader one answer
- `readAll`: copies of a request read its body in turn
- `Behaviour.PassesCopies`: engine functions pass on nothing but copies of the request that they are given

## Main statements
- `Request.Settled.read`: what one read does with a settled body
- `returned_mem_readAll`: of enough reads one returns
- `bodies_are_whole_iff`: when no read of a body gives a part of it
-/

namespace ServerTree

/-! ## Complete bodies -/

/-- The complete body: all pieces up to the one that no other follows. There is none when the peer goes away
before. -/
def wholeBody? : List Incoming → Option Bytes
  | [] => none
  | .disconnect :: _ => none
  | .chunk b more :: r => if more then (wholeBody? r).map (b ++ ·) else some b

/-- A number of bytes is within the limit of a request. -/
def Request.Fits (r : Request) (n : Int) : Prop := Inbox.checkSize r.maxBodySize n = .ok ()

/-- A read of a body that gives no part of it: it gives a complete body within the limit, or fails. -/
def Request.IsWhole (r : Request) (pending : List Incoming) : Attempt Bytes → Prop
  | .ok bytes => wholeBody? pending = some bytes ∧ r.Fits bytes.length
  | .error _ => True

/-- Every read of a body gives one answer: the body is kept, or it arrives whole within the limit, or its
declared length is refused. -/
inductive Request.Settled (r : Request) : Inbox → Attempt Bytes → Prop
  | kept (pending : List Incoming) (bytes : Bytes) : r.Settled ⟨pending, some bytes⟩ (.ok bytes)
  | whole {pending : List Incoming} {bytes : Bytes} :
    r.Fits (r.contentLength.getD 0) → wholeBody? pending = some bytes → r.Fits bytes.length →
      r.Settled ⟨pending, none⟩ (.ok bytes)
  | refused (pending : List Incoming) {f : Fault} :
    Inbox.checkSize r.maxBodySize (r.contentLength.getD 0) = .error f →
      r.Settled ⟨pending, none⟩ (.error f)

/-! ## Receiving -/

theorem checkSize_eq_ok {limit : SizeLimit} {n : Int} :
    Inbox.checkSize limit n = .ok () ↔ Inbox.isOver limit n = .ok false := by
  unfold Inbox.checkSize
  cases Inbox.isOver limit n with
  | error f => simp [bind, Except.bind]
  | ok exceeds => cases exceeds <;> simp [bind, Except.bind, pure, Except.pure]

/-- What is less than a number within the limit is within it. -/
theorem checkSize_mono {limit : SizeLimit} {m n : Int} (h : Inbox.checkSize limit n = .ok ()) (hle : m ≤ n) :
    Inbox.checkSize limit m = .ok () := by
  rw [checkSize_eq_ok] at h ⊢
  cases limit with
  | unlimited => rfl
  | incomparable typeName => cases h
  | atMost l =>
    have hn : ¬ l < n := by simpa [Inbox.isOver] using h
    have hm : ¬ l < m := fun hlt => hn (Int.lt_of_lt_of_le hlt hle)
    simp [Inbox.isOver, hm]

/-- A body that arrives whole within the limit is received. -/
theorem receive_whole {limit : SizeLimit} {pending : List Incoming} {whole : Bytes}
    (h : wholeBody? pending = some whole) (size : Nat) (acc : Bytes)
    (hfits : Inbox.checkSize limit ((size + whole.length : Nat) : Int) = .ok ()) :
    ∃ rest, Inbox.receive limit size acc pending = (.ok (acc ++ whole), rest) := by
  induction pending generalizing whole size acc with
  | nil => cases h
  | cons message pending ih =>
    cases message with
    | disconnect => cases h
    | chunk b more =>
      -- the pieces so far are within the limit, since all of them together are
      have hpiece (hle : b.length ≤ whole.length) :
          (if b.isEmpty then .ok () else Inbox.checkSize limit ((size + b.length : Nat) : Int)) = .ok () := by
        split
        · rfl
        · exact checkSize_mono hfits (by omega)
      cases more with
      | false =>
        obtain rfl : b = whole := by simpa [wholeBody?] using h
        rw [Inbox.receive, hpiece (Nat.le_refl _)]
        exact ⟨_, rfl⟩
      | true =>
        obtain ⟨rest, hrest, rfl⟩ : ∃ rest, wholeBody? pending = some rest ∧ b ++ rest = whole := by
          simpa [wholeBody?] using h
        rw [List.length_append, ← Nat.add_assoc] at hfits
        obtain ⟨left, hleft⟩ := ih hrest (size + b.length) (acc ++ b) hfits
        rw [Inbox.receive, hpiece (by simp)]
        exact ⟨left, by rw [← List.append_assoc]; exact hleft⟩

/-- A refusal leaves fewer messages to receive. -/
theorem length_lt_of_receive_error {limit : SizeLimit} {size : Nat} {acc : Bytes}
    {pending left : List Incoming} {f : Fault} (h : Inbox.receive limit size acc pending = (.error f, left)) :
    left.length < pending.length := by
  induction pending generalizing size acc with
  | nil => cases h
  | cons message pending ih =>
    cases message with
    | disconnect => cases h
    | chunk b more =>
      rw [Inbox.receive] at h
      split at h
      · obtain rfl : pending = left := congrArg Prod.snd h
        exact Nat.lt_succ_self _
      · cases more with
        | false => cases h
        | true => exact Nat.lt_succ_of_lt (ih h)

/-! ## Reading -/

/-- **Step lemma**: a read of a settled body gives its answer and leaves it settled. -/
theorem Request.Settled.read {r : Request} {inbox : Inbox} {answer : Attempt Bytes}
    (h : r.Settled inbox answer) : (r.body inbox).1 = answer ∧ r.Settled (r.body inbox).2 answer := by
  cases h with
  | kept pending bytes => exact ⟨rfl, .kept pending bytes⟩
  | @whole pending bytes hdeclared hwhole hfits =>
    have hsize : Inbox.checkSize r.maxBodySize ((0 + bytes.length : Nat) : Int) = .ok () := by
      rwa [Nat.zero_add]
    obtain ⟨rest, hreceive⟩ := receive_whole hwhole 0 [] hsize
    have hbody : r.body ⟨pending, none⟩ = (.ok bytes, ⟨rest, some bytes⟩) := by
      have hchecked : Inbox.checkSize r.maxBodySize (r.contentLength.getD 0) = .ok () := hdeclared
      simp [Request.body, Inbox.body, hchecked, hreceive]
    rw [hbody]
    exact ⟨rfl, .kept rest bytes⟩
  | @refused pending f hrefused =>
    have hbody : r.body ⟨pending, none⟩ = (.error f, ⟨pending, none⟩) := by
      simp [Request.body, Inbox.body, hrefused]
    rw [hbody]
    exact ⟨rfl, .refused pending hrefused⟩

/-- Copies of a request, with parameters of their own, read its body in turn. Gives what each of them gets. -/
def readAll (r : Request) : List (List (String × String)) → Inbox → List (Attempt Bytes)
  | [], _ => []
  | params :: copies, inbox =>
    let read := { r with pathParams := params }.body inbox
    read.1 :: readAll r copies read.2

/-- **Run lemma**: all reads of a settled body give its answer. -/
theorem Request.Settled.readAll_eq {r : Request} {inbox : Inbox} {answer : Attempt Bytes}
    (h : r.Settled inbox answer) (copies : List (List (String × String))) :
    readAll r copies inbox = copies.map fun _ => answer := by
  induction copies generalizing inbox with
  | nil => rfl
  | cons params copies ih =>
    obtain ⟨hanswer, hsettled⟩ := h.read
    show (r.body inbox).1 :: readAll r copies (r.body inbox).2 = _
    rw [hanswer, ih hsettled, List.map_cons]

/-- When the declared length is not refused, of enough reads one returns: each refusal takes a message. -/
theorem returned_mem_readAll {r : Request} (hdeclared : r.Fits (r.contentLength.getD 0))
    (pending : List Incoming) : ∃ copies bytes, .ok bytes ∈ readAll r copies ⟨pending, none⟩ := by
  have hread : r.body ⟨pending, none⟩ = match Inbox.receive r.maxBodySize 0 [] pending with
      | (.ok bytes, left) => (.ok bytes, ⟨left, some bytes⟩)
      | (.error f, left) => (.error f, ⟨left, none⟩) := by
    have hchecked : Inbox.checkSize r.maxBodySize (r.contentLength.getD 0) = .ok () := hdeclared
    simp only [Request.body, Inbox.body, hchecked]
    obtain ⟨_ | _, left⟩ := Inbox.receive r.maxBodySize 0 [] pending <;> rfl
  cases hreceive : Inbox.receive r.maxBodySize 0 [] pending with
  | mk result left =>
    rw [hreceive] at hread
    cases result with
    | ok bytes =>
      refine ⟨[[]], bytes, ?_⟩
      show _ ∈ (r.body ⟨pending, none⟩).1 :: _
      rw [hread]
      exact List.mem_cons_self ..
    | error f =>
      have hfewer : left.length < pending.length := length_lt_of_receive_error hreceive
      obtain ⟨copies, bytes, hmem⟩ := returned_mem_readAll hdeclared left
      refine ⟨[] :: copies, bytes, ?_⟩
      show _ ∈ (r.body ⟨pending, none⟩).1 :: readAll r copies (r.body ⟨pending, none⟩).2
      rw [hread]
      exact List.mem_cons_of_mem _ hmem
termination_by pending.length

/-! ## Serving -/

variable {U : Type}

/-- A request is a copy of another one, with parameters of its own. -/
def Request.HasCopy (r r' : Request) : Prop := ∃ params, r' = { r with pathParams := params }

theorem Request.HasCopy.trans {r r' r'' : Request} (h : r.HasCopy r') (h' : r'.HasCopy r'') : r.HasCopy r'' := by
  obtain ⟨_, rfl⟩ := h
  obtain ⟨params, rfl⟩ := h'
  exact ⟨params, rfl⟩

/-- Engine functions pass on and read nothing but copies of the request that they are given. -/
def Behaviour.PassesCopies (b : Behaviour U) : Prop :=
  ∀ fn request env, (b.around fn request env).Passes request.HasCopy ∧
    (b.endpoint fn request env).Passes request.HasCopy

/-- Two inboxes are settled with the same answer. -/
def SettledAlike (r : Request) (answer : Attempt Bytes) (_ : App) (i j : Inbox) : Prop :=
  r.Settled i answer ∧ r.Settled j answer

theorem kept_settledAlike {b : Behaviour U} (hb : b.PassesCopies) (r : Request) (answer : Attempt Bytes) :
    Kept b (SettledAlike r answer) r.HasCopy where
  params params hcopy := hcopy.trans ⟨params, rfl⟩
  around fn env hcopy := (hb fn _ env).1.mono fun _ => hcopy.trans
  endpoint fn env hcopy := (hb fn _ env).2.mono fun _ => hcopy.trans
  reads := by
    rintro _ ⟨params, rfl⟩ app i j ⟨hi, hj⟩
    obtain ⟨hanswer, hleft⟩ := hi.read
    obtain ⟨hanswer', hleft'⟩ := hj.read
    exact ⟨hanswer.trans hanswer'.symm, hleft, hleft'⟩

theorem App.freeze_config (app : App) : app.freeze.config = app.config := by
  unfold App.freeze
  split <;> rfl

/-- **No read of a body gives a part of it** exactly when the body is settled from the start: it arrives whole
within the limit, or its declared length is refused. All of a run then depends on what arrives only by the one
answer that every read gives: a request is served from its messages as it is from a body that is kept already,
wherever and however often its engine functions and the stages of its route read it. -/
theorem bodies_are_whole_iff (request : Request) (pending : List Incoming) :
    ((∀ copies, ∀ answer ∈ readAll request copies ⟨pending, none⟩, request.IsWhole pending answer) ↔
      ∃ answer, request.Settled ⟨pending, none⟩ answer) ∧
    ∀ (U : Type) (b : Behaviour U) (w : World U) (i j : Inbox) (answer : Attempt Bytes),
      b.PassesCopies →
      { request with maxBodySize := w.app.config.bodyLimit }.Settled i answer →
      { request with maxBodySize := w.app.config.bodyLimit }.Settled j answer →
      (outcome (serveRequest b request i) w).1 = (outcome (serveRequest b request j) w).1 ∧
        ∃ inbox, (outcome (serveRequest b request j) w).2 =
          { (outcome (serveRequest b request i) w).2 with inbox := inbox } := by
  refine ⟨⟨fun hwhole => ?_, ?_⟩, ?_⟩
  · cases hdeclared : Inbox.checkSize request.maxBodySize (request.contentLength.getD 0) with
    | error f => exact ⟨_, .refused pending hdeclared⟩
    | ok _ =>
      -- of enough reads one returns, and what it returns is the complete body
      obtain ⟨copies, bytes, hmem⟩ := returned_mem_readAll hdeclared pending
      obtain ⟨hbody, hfits⟩ := hwhole copies _ hmem
      exact ⟨_, .whole hdeclared hbody hfits⟩
  · rintro ⟨answer, hsettled⟩ copies given hgiven
    rw [hsettled.readAll_eq] at hgiven
    obtain ⟨-, -, rfl⟩ := List.mem_map.mp hgiven
    cases hsettled with
    | whole hdeclared hbody hfits => exact ⟨hbody, hfits⟩
    | refused _ hrefused => trivial
  · intro U b w i j answer hb hi hj
    let limited : Request := { request with maxBodySize := w.app.config.bodyLimit }
    have hkept : Kept b (SettledAlike limited answer) limited.HasCopy := kept_settledAlike hb limited answer
    have hlimited : limited.HasCopy { request with maxBodySize := w.app.freeze.config.bodyLimit } := by
      rw [App.freeze_config]
      exact ⟨request.pathParams, rfl⟩
    have hserved := Act.alike_serveBy hkept (Act.alike_dispatch hkept) w.app.freeze hlimited
      { w with app := w.app.freeze, inbox := i } { w with app := w.app.freeze, inbox := j } ⟨j, rfl, hi, hj⟩
    rw [outcome_serveRequest_eq, outcome_serveRequest_eq]
    obtain ⟨inbox, hworld, -⟩ := hserved.snd
    exact ⟨hserved.fst_eq, inbox, hworld⟩

/-- Four bytes arrive in a first piece and two more in a second one, where three are allowed: the first read is
refused, and the second one gives the two bytes that are left. -/
theorem readAll_gives_part :
    ¬ ∀ answer ∈ readAll { maxBodySize := .atMost 3 } [[], []]
        ⟨[.chunk [97, 98, 99, 100] true, .chunk [101, 102] false], none⟩,
      { maxBodySize := .atMost 3 : Request }.IsWhole
        [.chunk [97, 98, 99, 100] true, .chunk [101, 102] false] answer := by
  have hreads : readAll { maxBodySize := .atMost 3 } [[], []]
      ⟨[.chunk [97, 98, 99, 100] true, .chunk [101, 102] false], none⟩ =
        [.error (.http .tooLarge), .ok [101, 102]] := rfl
  intro h
  obtain ⟨hbody, -⟩ := h (.ok [101, 102]) (by simp [hreads])
  cases hbody

end ServerTree
