import ServerTree.Proofs.Serving.Bodies

/-!
# The bound of a body

A body arrives in pieces, and any of them may be empty. Its declared length is tested before anything is received, and
the number of bytes so far after every piece that has some. All of these tests together come to one for the declared
length and one for the whole body, so how it is cut into pieces makes no difference.

A body without bytes is never tested but for its declared length. Only a bound below zero would refuse it, and a
declared length that is below zero too gets it past this bound.

## Main definitions
- `inPieces`: the messages of a body in pieces
- `Within`: a number of bytes is within a bound, if there is one
- `boundedAnswer`: what reading a body within a bound is to give
- `readAnswer`: what it gives

## Main statements
- `receive_inPieces`: receiving comes to one test of the whole body
- `body_is_bounded_iff`: when a body is read exactly within its bound
-/

namespace ServerTree

/-! ## Bounds -/

/-- The messages of a body in pieces: another one follows each of them but the last. -/
def inPieces (pieces : List Bytes) (last : Bytes) : List Incoming :=
  pieces.map (fun piece => .chunk piece true) ++ [.chunk last false]

/-- The limit that is a bound, or none. -/
def SizeLimit.ofBound : Option Int → SizeLimit
  | none => .unlimited
  | some most => .atMost most

/-- A number of bytes is within a bound, if there is one. -/
def Within (bound : Option Int) (n : Int) : Prop := ∀ most ∈ bound, n ≤ most

instance (bound : Option Int) (n : Int) : Decidable (Within bound n) :=
  inferInstanceAs (Decidable (∀ most ∈ bound, n ≤ most))

/-- **What reading is to give**: the whole body when both its declared length and its number of bytes are within the
bound, and otherwise a refusal. -/
def boundedAnswer (bound : Option Int) (declared : Int) (whole : Bytes) : Attempt Bytes :=
  if Within bound declared ∧ Within bound whole.length then .ok whole else .error (.http .tooLarge)

theorem Within.mono {bound : Option Int} {m n : Int} (h : Within bound n) (hle : m ≤ n) : Within bound m :=
  fun most hmost => Int.le_trans hle (h most hmost)

theorem checkSize_ofBound (bound : Option Int) (n : Int) :
    Inbox.checkSize (.ofBound bound) n = if Within bound n then .ok () else .error (.http .tooLarge) := by
  cases bound with
  | none => rfl
  | some most =>
    by_cases h : n ≤ most
    · simp [Inbox.checkSize, Inbox.isOver, SizeLimit.ofBound, Within, h, bind, Except.bind, pure, Except.pure]
    · simp [Inbox.checkSize, Inbox.isOver, SizeLimit.ofBound, Within, h, bind, Except.bind]

/-! ## Receiving -/

/-- What is received of a body after so many bytes: all of it, unless it has bytes and is over the bound with them. -/
def receivedAnswer (bound : Option Int) (size : Nat) (acc whole : Bytes) : Attempt Bytes :=
  if whole = [] ∨ Within bound (size + whole.length : Nat) then .ok (acc ++ whole) else .error (.http .tooLarge)

/-- A piece that is within the bound leaves the test to what follows: the bytes with it are no fewer. -/
theorem receivedAnswer_after {bound : Option Int} {size : Nat} {acc piece whole : Bytes}
    (hwithin : Within bound (size + piece.length : Nat)) :
    receivedAnswer bound (size + piece.length) (acc ++ piece) whole = receivedAnswer bound size acc (piece ++ whole) := by
  unfold receivedAnswer
  rw [List.length_append, ← Nat.add_assoc, List.append_assoc]
  by_cases hempty : whole = []
  · subst hempty
    rw [if_pos (.inl rfl), if_pos (.inr hwithin)]
  · have hnonempty : piece ++ whole ≠ [] := fun h => hempty (List.append_eq_nil_iff.mp h).2
    simp only [hempty, hnonempty, false_or]

/-- A piece that is over the bound decides the test of the whole. -/
theorem receivedAnswer_over {bound : Option Int} {size : Nat} {acc piece whole : Bytes} (hpiece : piece ≠ [])
    (hover : ¬ Within bound (size + piece.length : Nat)) :
    receivedAnswer bound size acc (piece ++ whole) = .error (.http .tooLarge) := by
  refine if_neg ?_
  rintro (hempty | hwithin)
  · exact hpiece (List.append_eq_nil_iff.mp hempty).1
  · exact hover (hwithin.mono (by rw [List.length_append]; omega))

/-- An empty piece is received without a test. -/
theorem receive_empty (limit : SizeLimit) (size : Nat) (acc : Bytes) (more : Bool) (r : List Incoming) :
    Inbox.receive limit size acc (.chunk [] more :: r) =
      if more then Inbox.receive limit size acc r else (.ok acc, r) := by
  simp [Inbox.receive]

/-- After a piece that has bytes their number so far is tested. -/
theorem receive_piece (bound : Option Int) (size : Nat) (acc : Bytes) {piece : Bytes} (h : piece ≠ []) (more : Bool)
    (r : List Incoming) :
    Inbox.receive (.ofBound bound) size acc (.chunk piece more :: r) =
      if Within bound (size + piece.length : Nat) then
        if more then Inbox.receive (.ofBound bound) (size + piece.length) (acc ++ piece) r else (.ok (acc ++ piece), r)
      else (.error (.http .tooLarge), r) := by
  have hempty : piece.isEmpty = false := by simpa using h
  rw [Inbox.receive, hempty, checkSize_ofBound]
  by_cases hwithin : Within bound (size + piece.length : Nat)
  · simp only [if_pos hwithin, Bool.false_eq_true, if_false]
  · simp only [if_neg hwithin, Bool.false_eq_true, if_false]

/-- **Receiving a body comes to one test of all its bytes**, however it is cut into pieces. Of what comes behind it
nothing is received. The induction is on the pieces: those before have passed their tests, and these are no harder than
the test of the whole. -/
theorem receive_inPieces (bound : Option Int) (pieces : List Bytes) (last : Bytes) (rest : List Incoming) (size : Nat)
    (acc : Bytes) :
    ∃ left, Inbox.receive (.ofBound bound) size acc (inPieces pieces last ++ rest) =
        (receivedAnswer bound size acc (pieces.flatten ++ last), left) ∧
      ∀ bytes, receivedAnswer bound size acc (pieces.flatten ++ last) = .ok bytes → left = rest := by
  induction pieces generalizing size acc with
  | nil =>
    show ∃ left, Inbox.receive (.ofBound bound) size acc (.chunk last false :: rest) =
      (receivedAnswer bound size acc last, left) ∧ _
    by_cases hempty : last = []
    · subst hempty
      exact ⟨rest, by simp [receive_empty, receivedAnswer], fun _ _ => rfl⟩
    · refine ⟨rest, ?_, fun _ _ => rfl⟩
      rw [receive_piece bound size acc hempty, receivedAnswer]
      simp only [hempty, false_or, Bool.false_eq_true, if_false]
      split <;> rfl
  | cons piece pieces ih =>
    show ∃ left, Inbox.receive (.ofBound bound) size acc (.chunk piece true :: (inPieces pieces last ++ rest)) =
      (receivedAnswer bound size acc (piece ++ pieces.flatten ++ last), left) ∧
        ∀ bytes, receivedAnswer bound size acc (piece ++ pieces.flatten ++ last) = .ok bytes → left = rest
    rw [List.append_assoc]
    by_cases hempty : piece = []
    · subst hempty
      rw [receive_empty]
      exact ih size acc
    · rw [receive_piece bound size acc hempty]
      by_cases hwithin : Within bound (size + piece.length : Nat)
      · rw [if_pos hwithin, ← receivedAnswer_after hwithin]
        exact ih (size + piece.length) (acc ++ piece)
      · rw [if_neg hwithin, receivedAnswer_over hempty hwithin]
        exact ⟨_, rfl, fun _ h => nomatch h⟩

/-! ## Reading -/

/-- What the first read gives: the declared length is tested, and of the bytes only that there are some within the
bound. -/
def readAnswer (bound : Option Int) (declared : Int) (whole : Bytes) : Attempt Bytes :=
  if Within bound declared ∧ (whole = [] ∨ Within bound whole.length) then .ok whole else .error (.http .tooLarge)

theorem eq_of_readAnswer {bound : Option Int} {declared : Int} {whole bytes : Bytes}
    (h : readAnswer bound declared whole = .ok bytes) : bytes = whole := by
  unfold readAnswer at h
  split at h
  · exact (Except.ok.inj h).symm
  · cases h

/-- A body without bytes is the only one whose size may go untested. -/
theorem readAnswer_eq_iff (bound : Option Int) (declared : Int) (whole : Bytes) :
    readAnswer bound declared whole = boundedAnswer bound declared whole ↔
      (whole = [] → Within bound declared → Within bound 0) := by
  unfold readAnswer boundedAnswer
  by_cases hdeclared : Within bound declared
  · by_cases hempty : whole = []
    · subst hempty
      by_cases hzero : Within bound 0 <;> simp [hdeclared, hzero]
    · simp [hempty]
  · simp [hdeclared]

/-- **The first read of a body in pieces**: its answer depends on the pieces only by all their bytes, and what it
returns is kept. -/
theorem body_inPieces (r : Request) (bound : Option Int) (pieces : List Bytes) (last : Bytes) (rest : List Incoming) :
    ({ r with maxBodySize := .ofBound bound }.body ⟨inPieces pieces last ++ rest, none⟩).1 =
        readAnswer bound (r.contentLength.getD 0) (pieces.flatten ++ last) ∧
      ∀ bytes, ({ r with maxBodySize := .ofBound bound }.body ⟨inPieces pieces last ++ rest, none⟩).1 = .ok bytes →
        ({ r with maxBodySize := .ofBound bound }.body ⟨inPieces pieces last ++ rest, none⟩).2 =
          ⟨rest, some bytes⟩ := by
  have hlength : { r with maxBodySize := .ofBound bound : Request }.contentLength = r.contentLength := rfl
  obtain ⟨left, hreceive, hleft⟩ := receive_inPieces bound pieces last rest 0 []
  unfold Request.body Inbox.body
  simp only [hlength, checkSize_ofBound, hreceive]
  by_cases hdeclared : Within bound (r.contentLength.getD 0)
  · have hanswer : readAnswer bound (r.contentLength.getD 0) (pieces.flatten ++ last) =
        receivedAnswer bound 0 [] (pieces.flatten ++ last) := by
      simp only [readAnswer, receivedAnswer, hdeclared, true_and, Nat.zero_add, List.nil_append]
    rw [hanswer, if_pos hdeclared]
    cases hreceived : receivedAnswer bound 0 [] (pieces.flatten ++ last) with
    | error f => exact ⟨rfl, fun _ h => nomatch h⟩
    | ok bytes =>
      obtain rfl : left = rest := hleft bytes hreceived
      exact ⟨rfl, fun _ h => by rw [Except.ok.inj h]⟩
  · have hanswer : readAnswer bound (r.contentLength.getD 0) (pieces.flatten ++ last) = .error (.http .tooLarge) :=
      if_neg fun h => hdeclared h.1
    rw [hanswer, if_neg hdeclared]
    exact ⟨rfl, fun _ h => nomatch h⟩

/-- **A body is read exactly within its bound** unless it has no bytes and a declared length gets it past a bound below
zero. The first read gives all of it or a refusal, and which of them is decided by its bytes and not by how they are
cut into pieces. After it returned every read of the request or of a copy gives the same bytes and receives nothing. -/
theorem body_is_bounded_iff (r : Request) (bound : Option Int) (pieces : List Bytes) (last : Bytes)
    (rest : List Incoming) :
    let limited : Request := { r with maxBodySize := .ofBound bound }
    let declared := r.contentLength.getD 0
    let whole := pieces.flatten ++ last
    let first := limited.body ⟨inPieces pieces last ++ rest, none⟩
    (first.1 = boundedAnswer bound declared whole ↔ (whole = [] → Within bound declared → Within bound 0)) ∧
      first.1 = readAnswer bound declared whole ∧
      (∀ pieces' last' rest', pieces'.flatten ++ last' = whole →
        (limited.body ⟨inPieces pieces' last' ++ rest', none⟩).1 = first.1) ∧
      ∀ bytes, first.1 = .ok bytes →
        bytes = whole ∧ first.2 = ⟨rest, some whole⟩ ∧
          (∀ params, { limited with pathParams := params }.body first.2 = (.ok whole, first.2)) ∧
          ∀ copies, readAll limited copies first.2 = copies.map fun _ => .ok whole := by
  intro limited declared whole first
  obtain ⟨hfirst, hkept⟩ : first.1 = readAnswer bound declared whole ∧
      ∀ bytes, first.1 = .ok bytes → first.2 = ⟨rest, some bytes⟩ := body_inPieces r bound pieces last rest
  refine ⟨by rw [hfirst]; exact readAnswer_eq_iff bound declared whole, hfirst, ?_, ?_⟩
  · intro pieces' last' rest' hwhole
    have hother := (body_inPieces r bound pieces' last' rest').1
    rw [hwhole] at hother
    rw [hfirst]
    exact hother
  · intro bytes hreturned
    obtain rfl : bytes = whole := eq_of_readAnswer (hfirst ▸ hreturned)
    rw [hkept _ hreturned]
    exact ⟨rfl, rfl, fun _ => rfl, (Request.Settled.kept rest _).readAll_eq⟩

/-- Five bytes in three pieces, one of them empty, are within a bound of five. -/
theorem body_is_bounded_iff_hello :
    let limited : Request := { maxBodySize := .ofBound (some 5) }
    let first := limited.body ⟨inPieces [[104, 101], []] [108, 108, 111] ++ [.disconnect], none⟩
    first = (.ok [104, 101, 108, 108, 111], ⟨[.disconnect], some [104, 101, 108, 108, 111]⟩) ∧
      (limited.body ⟨inPieces [] [104, 101, 108, 108, 111] ++ [], none⟩).1 = first.1 ∧
      readAll limited [[("id", "7")], []] first.2 =
        [.ok [104, 101, 108, 108, 111], .ok [104, 101, 108, 108, 111]] := by
  intro limited first
  obtain ⟨-, hread, hcut, hkept⟩ := body_is_bounded_iff {} (some 5) [[104, 101], []] [108, 108, 111] [.disconnect]
  have hreturned : first.1 = .ok [104, 101, 108, 108, 111] := hread.trans rfl
  obtain ⟨-, hleft, -, hcopies⟩ := hkept _ hreturned
  exact ⟨Prod.ext hreturned hleft, hcut [] [104, 101, 108, 108, 111] [] rfl, hcopies _⟩

/-- A request that declares a length of minus one. -/
def minusOneDeclared : Request := { headers := ⟨[(asciiBytes "content-length", asciiBytes "-1")]⟩ }

/-- A body without bytes is over a bound of minus one, but where its declared length is not it is read. -/
theorem empty_body_passes_bound_below_zero :
    ({ minusOneDeclared with maxBodySize := .ofBound (some (-1)) }.body ⟨inPieces [] [] ++ [], none⟩).1 ≠
      boundedAnswer (some (-1)) (minusOneDeclared.contentLength.getD 0) [] := by
  have hdeclared : minusOneDeclared.contentLength = some (-1) := by decide
  have hread := (body_inPieces minusOneDeclared (some (-1)) [] [] []).1
  rw [hdeclared] at hread
  rw [hread, hdeclared, Ne, List.flatten_nil, List.nil_append, readAnswer_eq_iff]
  decide

end ServerTree
