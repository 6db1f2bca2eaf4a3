import ServerTree.Pipeline.Respond
import ServerTree.Proofs.Node.Expansion

/-!
# The leaves of response trees

A response tree says what its leaves say, in the order in which they stand, however they are grouped. Response nodes,
rows and composites only hold others; what stands below a leaf, or below a node of any other kind, is not looked at.
Of several statuses and of several bodies the last one counts, an error is both, and headers are written one mapping
after the other.

Composites are application code: what they return may depend on its state, and they may change it. Their leaves are
those that they are found to have in their turn. They must come to an end within the calls that are allowed, and a tree
is described as deep as trees may be nested.

## Main definitions
- `ResolvesTo`: what a value is resolved to, within a number of calls
- `Leaves`: the leaves of a row of trees, in order
- `Descriptor.ofLeaves`: what leaves say together
- `Expand.ComesTo`: a computation comes to a result

## Main statements
- `foldlM_applyLeaf`: taking leaves one by one is what they say together
- `comesTo_applyTrees`: describing a row of trees takes its leaves one by one
- `exists_leaves_of_applyTrees`: what is described has leaves
- `trees_say_what_leaves_say`: what describing a tree comes to
-/

namespace ServerTree

variable {U : Type} {call : Expander U}

/-! ## What leaves say -/

namespace Payload

/-- Whether a node is a leaf of a response tree. -/
def isLeaf : Payload Value → Bool
  | .status _ | .body _ | .headers _ | .err .. => true
  | _ => false

/-- The body of an error: its message, and its details if it has any. -/
def errorBody (message : Value) : Value → Value
  | .none => .ofFields [("error", message)]
  | details => .ofFields [("error", message), ("details", details)]

/-- The status that a leaf sets. -/
def status? : Payload Value → Option Value
  | .status code | .err code _ _ => some code
  | _ => none

/-- The body that a leaf sets. -/
def body? : Payload Value → Option Value
  | .body data => some data
  | .err _ message details => some (errorBody message details)
  | _ => none

/-- The headers that a leaf writes, which must be a mapping or the entries of one. -/
def entries : Payload Value → Attempt (List (Value × Value))
  | .headers h => asEntries h
  | _ => .ok []

/-- Whether a leaf is an error. -/
def isErr : Payload Value → Bool
  | .err .. => true
  | _ => false

end Payload

namespace Descriptor

/-- What leaves say after what has been said already. Headers that cannot be written are refused. -/
def extend (d : Descriptor) (leaves : List (Payload Value)) : Attempt Descriptor :=
  (leaves.mapM Payload.entries).map fun written =>
    { status := (leaves.filterMap Payload.status?).getLastD d.status
      headers := Assoc.update d.headers written.flatten
      body := (leaves.filterMap Payload.body?).getLastD d.body
      isError := d.isError || leaves.any Payload.isErr }

/-- **What leaves say**: the last status and the last body, those of errors included, all headers, where a later one
replaces an earlier one under the same key, and whether there was an error. -/
def ofLeaves (leaves : List (Payload Value)) : Attempt Descriptor :=
  (leaves.mapM Payload.entries).map fun written =>
    { status := (leaves.filterMap Payload.status?).getLastD (.int 200)
      headers := Assoc.ofList written.flatten
      body := (leaves.filterMap Payload.body?).getLastD .none
      isError := leaves.any Payload.isErr }

theorem extend_empty (leaves : List (Payload Value)) : Descriptor.extend {} leaves = ofLeaves leaves := rfl

/-- A leaf is taken into account when its headers can be written. -/
theorem applyLeaf_eq (d : Descriptor) (p : Payload Value) :
    d.applyLeaf p = p.entries.map fun written =>
      { status := p.status?.getD d.status
        headers := Assoc.update d.headers written
        body := p.body?.getD d.body
        isError := d.isError || p.isErr } := by
  cases p with
  | headers h =>
    rw [applyLeaf, Payload.entries]
    cases asEntries h with
    | error f => rfl
    | ok es => simp [Except.map, bind, Except.bind, pure, Except.pure, Payload.status?, Payload.body?, Payload.isErr]
  | err code message details =>
    -- the details are looked at for the body
    cases details <;> simp [applyLeaf, Payload.entries, Except.map, Payload.status?, Payload.body?, Payload.isErr,
      Payload.errorBody, Assoc.update]
  | _ => simp [applyLeaf, Payload.entries, Except.map, Payload.status?, Payload.body?, Payload.isErr, Assoc.update]

theorem extend_nil (d : Descriptor) : d.extend [] = .ok d := by
  simp [extend, Except.map, pure, Except.pure, Assoc.update]

/-- What a leaf says comes before what the others say. -/
theorem extend_cons (d : Descriptor) (p : Payload Value) (leaves : List (Payload Value)) :
    d.extend (p :: leaves) = d.applyLeaf p >>= fun d' => d'.extend leaves := by
  rw [applyLeaf_eq, extend, List.mapM_cons, List.filterMap_cons, List.filterMap_cons]
  cases p.entries with
  | error f => rfl
  | ok written =>
    simp only [extend]
    cases leaves.mapM Payload.entries with
    | error f => rfl
    | ok rest =>
      cases p.status? <;> cases p.body? <;>
        simp [Except.map, bind, Except.bind, pure, Except.pure, Assoc.update, Bool.or_assoc, List.getLast?_cons]

/-- **Taking leaves one by one** is what they say together. -/
theorem foldlM_applyLeaf (d : Descriptor) (leaves : List (Payload Value)) :
    leaves.foldlM applyLeaf d = d.extend leaves := by
  induction leaves generalizing d with
  | nil => exact (extend_nil d).symm
  | cons p leaves ih =>
    rw [List.foldlM_cons, extend_cons]
    cases d.applyLeaf p with
    | error f => rfl
    | ok d' => exact ih d'

/-- What the first leaves of a row say comes before what the others say. -/
theorem extend_append (d : Descriptor) (first rest : List (Payload Value)) :
    d.extend (first ++ rest) = d.extend first >>= fun d' => d'.extend rest := by
  simp only [← foldlM_applyLeaf, List.foldlM_append]

end Descriptor

/-! ## What values are resolved to -/

/-- What a value is resolved to when a number of calls is allowed: from a state of application code, and with the state
that the calls leave. The children of a composite that was called go to the node that it comes to. -/
inductive ResolvesTo (call : Expander U) : Nat → Value → U → Resolved → U → Prop where
  | node {n : Nat} {p : Payload Value} {children : List Value} {s : U} :
      ResolvesTo call n (.node p children) s (.node p children) s
  | list {n : Nat} {xs : List Value} {s : U} : ResolvesTo call n (.list xs) s (.items xs) s
  | tuple {n : Nat} {xs : List Value} {s : U} : ResolvesTo call n (.tuple xs) s (.items xs) s
  | leaf {n : Nat} {v : Value} {s : U} (leaf : v.isLeaf = true) : ResolvesTo call n v s .nothing s
  | element {n : Nat} {type : Value} {props : List (Value × Value)} {children : List Value} {v : Value} {r : Resolved}
      {s s₁ s' : U} (returned : outcome (callComposite call type props children) s = (.ok v, s₁))
      (rest : ResolvesTo call n v s₁ r s') :
      ResolvesTo call (n + 1) (.element type props children) s (r.adopt children) s'

/-- **Resolving a value** returns what it is resolved to. The induction is on the calls that are allowed. -/
theorem outcome_resolveWithin_iff {n : Nat} {v : Value} {r : Resolved} {s s' : U} :
    outcome (resolveWithin call n v) s = (.ok r, s') ↔ ResolvesTo call n v s r s' := by
  constructor
  · intro h
    induction n generalizing v r s s' with
    | zero =>
      cases v with
      | node | list | tuple =>
        cases h
        constructor
      | element => cases h
      | _ =>
        cases h
        exact .leaf rfl
    | succ n ih =>
      cases v with
      | node | list | tuple =>
        cases h
        constructor
      | element type props children =>
        obtain ⟨w, s₁, hreturned, h⟩ := outcome_bind_eq_ok_iff.mp h
        obtain ⟨r', s₂, hrest, h⟩ := outcome_bind_eq_ok_iff.mp h
        cases h
        exact .element hreturned (ih hrest)
      | _ =>
        cases h
        exact .leaf rfl
  · intro h
    induction h with
    | node | list | tuple => rw [resolveWithin, outcome_pure]
    | @leaf n v s leaf =>
      cases v with
      | node | list | tuple | element => cases leaf
      | _ => cases n <;> rfl
    | element returned _ ih =>
      rw [resolveWithin]
      exact outcome_bind_eq_ok_iff.mpr ⟨_, _, returned, outcome_bind_eq_ok_iff.mpr ⟨_, _, ih, rfl⟩⟩

/-- A value is resolved to one thing. -/
theorem ResolvesTo.unique {n : Nat} {v : Value} {r r' : Resolved} {s t t' : U} (h : ResolvesTo call n v s r t)
    (h' : ResolvesTo call n v s r' t') : r = r' ∧ t = t' := by
  have hsame := (outcome_resolveWithin_iff.mpr h).symm.trans (outcome_resolveWithin_iff.mpr h')
  rwa [Prod.mk.injEq, Except.ok.injEq] at hsame

/-! ## The leaves of trees -/

/-- The leaf that a node is, if it is one. -/
def Payload.ownLeaves (p : Payload Value) : List (Payload Value) := if p.isLeaf then [p] else []

/-- The leaves of a row of trees that are nested at most so deep, in order, from one state of application code to
another. Rows and response nodes hold others, and so do composites by what they are resolved to; no other node has its
children looked at. -/
inductive Leaves (call : Expander U) : Nat → List Value → U → List (Payload Value) → U → Prop where
  | nil {n : Nat} {s : U} : Leaves call n [] s [] s
  | nothing {n : Nat} {v : Value} {vs : List Value} {ls : List (Payload Value)} {s s₁ s' : U}
      (resolves : ResolvesTo call maxExpansions v s .nothing s₁) (rest : Leaves call (n + 1) vs s₁ ls s') :
      Leaves call (n + 1) (v :: vs) s ls s'
  | row {n : Nat} {v : Value} {xs vs : List Value} {inner ls : List (Payload Value)} {s s₁ s₂ s' : U}
      (resolves : ResolvesTo call maxExpansions v s (.items xs) s₁) (inside : Leaves call n xs s₁ inner s₂)
      (rest : Leaves call (n + 1) vs s₂ ls s') : Leaves call (n + 1) (v :: vs) s (inner ++ ls) s'
  | response {n : Nat} {v : Value} {children vs : List Value} {inner ls : List (Payload Value)} {s s₁ s₂ s' : U}
      (resolves : ResolvesTo call maxExpansions v s (.node .response children) s₁)
      (inside : Leaves call n children s₁ inner s₂) (rest : Leaves call (n + 1) vs s₂ ls s') :
      Leaves call (n + 1) (v :: vs) s (inner ++ ls) s'
  | closed {n : Nat} {v : Value} {p : Payload Value} {children vs : List Value} {ls : List (Payload Value)}
      {s s₁ s' : U} (resolves : ResolvesTo call maxExpansions v s (.node p children) s₁) (closed : p ≠ .response)
      (rest : Leaves call (n + 1) vs s₁ ls s') : Leaves call (n + 1) (v :: vs) s (p.ownLeaves ++ ls) s'

/-- A leaf is the first of the leaves of a row that begins with it. -/
theorem Leaves.leaf {n : Nat} {v : Value} {p : Payload Value} {children vs : List Value} {ls : List (Payload Value)}
    {s s₁ s' : U} (leaf : p.isLeaf = true) (resolves : ResolvesTo call maxExpansions v s (.node p children) s₁)
    (rest : Leaves call (n + 1) vs s₁ ls s') : Leaves call (n + 1) (v :: vs) s (p :: ls) s' := by
  have hclosed : p ≠ .response := by
    rintro rfl
    cases leaf
  have hown : p.ownLeaves = [p] := if_pos leaf
  have hcons := Leaves.closed resolves hclosed rest
  rwa [hown] at hcons

/-- A tree has one row of leaves, however deep it may be nested. -/
theorem Leaves.unique {n m : Nat} {vs : List Value} {ls ls' : List (Payload Value)} {s t t' : U}
    (h : Leaves call n vs s ls t) (h' : Leaves call m vs s ls' t') : ls' = ls ∧ t' = t := by
  -- the first value of a row is resolved to one thing, which tells how both go on
  induction h generalizing m ls' t' with
  | nil =>
    cases h'
    exact ⟨rfl, rfl⟩
  | nothing resolves _ ih =>
    cases h' with
    | nothing resolves' rest' =>
      obtain ⟨-, rfl⟩ := resolves.unique resolves'
      exact ih rest'
    | row resolves' | response resolves' | closed resolves' => cases (resolves.unique resolves').1
  | row resolves _ _ ihInside ihRest =>
    cases h' with
    | row resolves' inside' rest' =>
      obtain ⟨hsame, rfl⟩ := resolves.unique resolves'
      cases hsame
      obtain ⟨rfl, rfl⟩ := ihInside inside'
      obtain ⟨rfl, rfl⟩ := ihRest rest'
      exact ⟨rfl, rfl⟩
    | nothing resolves' | response resolves' | closed resolves' => cases (resolves.unique resolves').1
  | response resolves _ _ ihInside ihRest =>
    cases h' with
    | response resolves' inside' rest' =>
      obtain ⟨hsame, rfl⟩ := resolves.unique resolves'
      cases hsame
      obtain ⟨rfl, rfl⟩ := ihInside inside'
      obtain ⟨rfl, rfl⟩ := ihRest rest'
      exact ⟨rfl, rfl⟩
    | closed resolves' closed' =>
      cases (resolves.unique resolves').1
      exact absurd rfl closed'
    | nothing resolves' | row resolves' => cases (resolves.unique resolves').1
  | closed resolves closed _ ih =>
    cases h' with
    | closed resolves' _ rest' =>
      obtain ⟨hsame, rfl⟩ := resolves.unique resolves'
      cases hsame
      obtain ⟨rfl, rfl⟩ := ih rest'
      exact ⟨rfl, rfl⟩
    | response resolves' =>
      cases (resolves.unique resolves').1
      exact absurd rfl closed
    | nothing resolves' | row resolves' => cases (resolves.unique resolves').1

/-! ## Describing trees -/

/-- A computation comes to a result; where this is a value, it leaves a state. -/
def Expand.ComesTo {α : Type} (x : Expand U α) (s : U) (result : Attempt α) (s' : U) : Prop :=
  ∃ t, outcome x s = (result, t) ∧ ∀ a, result = .ok a → t = s'

namespace Expand

variable {α β : Type}

theorem comesTo_pure (a : α) (s : U) : ComesTo (pure a : Expand U α) s (.ok a) s :=
  ⟨s, rfl, fun _ _ => rfl⟩

theorem comesTo_ofAttempt (a : Attempt α) (s : U) : ComesTo (ofAttempt a : Expand U α) s a s := by
  cases a with
  | error f => exact ⟨s, rfl, fun _ _ => rfl⟩
  | ok a => exact comesTo_pure a s

theorem ComesTo.outcome_eq {x : Expand U α} {a : α} {s s' : U} (h : ComesTo x s (.ok a) s') :
    outcome x s = (.ok a, s') := by
  obtain ⟨t, hx, ht⟩ := h
  rw [hx, ht a rfl]

/-- A sequence comes to what its parts come to. -/
theorem ComesTo.bind {x : Expand U α} {f : α → Expand U β} {r : Attempt α} {g : α → Attempt β} {s s₁ s' : U}
    (hx : ComesTo x s r s₁) (hf : ∀ a, ComesTo (f a) s₁ (g a) s') : ComesTo (x >>= f) s (r >>= g) s' := by
  obtain ⟨t, hx, ht⟩ := hx
  cases r with
  | error e => exact ⟨t, by rw [outcome_bind, hx]; rfl, fun _ h => nomatch h⟩
  | ok a =>
    obtain rfl := ht a rfl
    obtain ⟨t', hf, ht'⟩ := hf a
    exact ⟨t', by rw [outcome_bind, hx]; exact hf, ht'⟩

end Expand

open Expand

/-- A node that holds no others is described by itself. -/
theorem applyLeaf_of_closed (d : Descriptor) {p : Payload Value} (closed : p ≠ .response) :
    d.applyLeaf p = d.extend p.ownLeaves := by
  rw [← Descriptor.foldlM_applyLeaf]
  cases p with
  | response => exact absurd rfl closed
  | status | body | headers | err => simp [Payload.ownLeaves, Payload.isLeaf]
  | _ => rfl

/-- What is done with a value when it is resolved. -/
def applyResolved (call : Expander U) (n : Nat) (d : Descriptor) : Resolved → Expand U Descriptor
  | .nothing => return d
  | .items xs => applyTrees call n xs d
  | .node .response children => applyTrees call n children d
  | .node p _ => Expand.ofAttempt (d.applyLeaf p)

theorem applyTree_succ (call : Expander U) (n : Nat) (v : Value) (d : Descriptor) :
    applyTree call (n + 1) v d = resolve call v >>= applyResolved call n d := by
  rw [applyTree]
  rfl

/-- Describing a value goes on with what it is resolved to. -/
theorem outcome_applyTree {v : Value} {r : Resolved} {s s₁ : U} (h : ResolvesTo call maxExpansions v s r s₁) (n : Nat)
    (d : Descriptor) : outcome (applyTree call (n + 1) v d) s = outcome (applyResolved call n d r) s₁ := by
  rw [applyTree_succ, outcome_bind, resolve, outcome_resolveWithin_iff.mpr h]

theorem comesTo_applyResolved_of_closed {p : Payload Value} (closed : p ≠ .response) (children : List Value)
    (n : Nat) (d : Descriptor) (s : U) :
    ComesTo (applyResolved call n d (.node p children)) s (d.extend p.ownLeaves) s := by
  have hleaf : applyResolved call n d (.node p children) = Expand.ofAttempt (d.applyLeaf p) := by
    cases p with
    | response => exact absurd rfl closed
    | _ => rfl
  rw [hleaf, applyLeaf_of_closed d closed]
  exact comesTo_ofAttempt _ s

/-- Describing a row takes its first tree before the others. -/
theorem applyTrees_cons (call : Expander U) (n : Nat) (v : Value) (vs : List Value) (d : Descriptor) :
    applyTrees call n (v :: vs) d = applyTree call n v d >>= applyTrees call n vs := by
  rw [applyTrees]

/-- A row is described by the leaves of its first tree and those of the others. -/
theorem comesTo_applyTrees_append {n : Nat} {v : Value} {vs : List Value} {d : Descriptor}
    {inner ls : List (Payload Value)} {s s₁ s' : U} (hv : ComesTo (applyTree call n v d) s (d.extend inner) s₁)
    (hvs : ∀ d', ComesTo (applyTrees call n vs d') s₁ (d'.extend ls) s') :
    ComesTo (applyTrees call n (v :: vs) d) s (d.extend (inner ++ ls)) s' := by
  rw [applyTrees_cons, Descriptor.extend_append]
  exact hv.bind hvs

/-- **Describing a row of trees takes their leaves one by one.** The induction is on the leaves. -/
theorem comesTo_applyTrees {n : Nat} {vs : List Value} {ls : List (Payload Value)} {s s' : U}
    (h : Leaves call n vs s ls s') (d : Descriptor) : ComesTo (applyTrees call n vs d) s (d.extend ls) s' := by
  induction h generalizing d with
  | @nil n s =>
    rw [applyTrees, Descriptor.extend_nil]
    exact comesTo_pure d s
  | @nothing n v vs ls s s₁ s' resolves _ ih =>
    show ComesTo (applyTrees call (n + 1) (v :: vs) d) s (d.extend ([] ++ ls)) s'
    refine comesTo_applyTrees_append ?_ ih
    rw [Descriptor.extend_nil, ComesTo, outcome_applyTree resolves]
    exact comesTo_pure d s₁
  | row resolves _ _ ihInside ihRest | response resolves _ _ ihInside ihRest =>
    refine comesTo_applyTrees_append ?_ ihRest
    rw [ComesTo, outcome_applyTree resolves]
    exact ihInside d
  | closed resolves closed _ ih =>
    refine comesTo_applyTrees_append ?_ ih
    rw [ComesTo, outcome_applyTree resolves]
    exact comesTo_applyResolved_of_closed closed _ _ d _

/-- A tree by itself is described as a row of one. -/
theorem outcome_applyTree_singleton (n : Nat) (v : Value) (d : Descriptor) (s : U) :
    outcome (applyTree call n v d) s = outcome (applyTrees call n [v] d) s := by
  rw [applyTrees_cons, outcome_bind]
  cases outcome (applyTree call n v d) s with
  | mk result s' =>
    cases result with
    | error f => rfl
    | ok d' =>
      simp only [applyTrees]
      rfl

/-! ## What is described -/

/-- **What is described has leaves.** The induction is on the nesting, and inside on the row. -/
theorem exists_leaves_of_applyTrees {n : Nat} {vs : List Value} {d d' : Descriptor} {s s' : U}
    (h : outcome (applyTrees call n vs d) s = (.ok d', s')) : ∃ ls, Leaves call n vs s ls s' := by
  induction n using Nat.strongRecOn generalizing vs d d' s s' with
  | ind n ihDeeper =>
    induction vs generalizing d d' s s' with
    | nil =>
      rw [applyTrees] at h
      cases h
      exact ⟨[], .nil⟩
    | cons v vs ihRow =>
      rw [applyTrees_cons] at h
      obtain ⟨d₁, s₂, hv, hvs⟩ := outcome_bind_eq_ok_iff.mp h
      obtain ⟨ls, hrest⟩ := ihRow hvs
      cases n with
      | zero =>
        rw [applyTree] at hv
        cases hv
      | succ n =>
        rw [applyTree_succ] at hv
        obtain ⟨r, s₁, hresolve, hv⟩ := outcome_bind_eq_ok_iff.mp hv
        have hresolves := outcome_resolveWithin_iff.mp hresolve
        -- rows and response nodes have been described one step deeper
        cases r with
        | nothing =>
          cases hv
          exact ⟨ls, .nothing hresolves hrest⟩
        | items xs =>
          obtain ⟨inner, hinside⟩ := ihDeeper n (Nat.lt_succ_self n) hv
          exact ⟨inner ++ ls, .row hresolves hinside hrest⟩
        | node p children =>
          by_cases hp : p = .response
          · subst hp
            obtain ⟨inner, hinside⟩ := ihDeeper n (Nat.lt_succ_self n) hv
            exact ⟨inner ++ ls, .response hresolves hinside hrest⟩
          · have hclosed : ComesTo (applyResolved call n d (.node p children)) s₁ (d.extend p.ownLeaves) s₁ :=
              comesTo_applyResolved_of_closed hp children n d s₁
            obtain ⟨t, hcomes, ht⟩ := hclosed
            obtain ⟨hd, rfl⟩ := Prod.mk.inj (hcomes.symm.trans hv)
            obtain rfl := ht d₁ hd
            exact ⟨p.ownLeaves ++ ls, .closed hresolves hp hrest⟩

/-- What can be written is taken into account. -/
theorem exists_extend_eq_ok {ls : List (Payload Value)} (h : ∀ p ∈ ls, ∃ written, p.entries = .ok written)
    (d : Descriptor) : ∃ d', d.extend ls = .ok d' := by
  induction ls generalizing d with
  | nil => exact ⟨d, d.extend_nil⟩
  | cons p ls ih =>
    obtain ⟨written, hp⟩ := h p List.mem_cons_self
    rw [Descriptor.extend_cons, Descriptor.applyLeaf_eq, hp]
    exact ih (fun q hq => h q (List.mem_cons_of_mem p hq)) _

/-- A row is described, or nested too deep, as its first tree and the rest of it are. -/
theorem leaves_or_tooDeep_cons {v : Value} {vs : List Value} {inner ls : List (Payload Value)} {d : Descriptor}
    {s s₁ s' : U}
    (hv : ∀ m, (∃ d', outcome (applyTree call (m + 1) v d) s = (.ok d', s₁)) ∧
        (Leaves call (m + 1) vs s₁ ls s' → Leaves call (m + 1) (v :: vs) s (inner ++ ls) s') ∨
      (outcome (applyTree call (m + 1) v d) s).1 = .error (.refused .tooDeep))
    (hvs : ∀ m d', Leaves call m vs s₁ ls s' ∨
      (outcome (applyTrees call m vs d') s₁).1 = .error (.refused .tooDeep))
    (m : Nat) :
    Leaves call m (v :: vs) s (inner ++ ls) s' ∨
      (outcome (applyTrees call m (v :: vs) d) s).1 = .error (.refused .tooDeep) := by
  rw [applyTrees_cons, outcome_bind]
  cases m with
  | zero =>
    apply Or.inr
    rw [applyTree]
    rfl
  | succ m =>
    rcases hv m with ⟨⟨d', hd'⟩, hcons⟩ | hdeep
    · rw [hd']
      exact (hvs (m + 1) d').imp_left hcons
    · apply Or.inr
      cases houtcome : outcome (applyTree call (m + 1) v d) s with
      | mk result t =>
        obtain rfl : result = .error (.refused .tooDeep) := by rwa [houtcome] at hdeep
        rfl

/-- **A tree that has leaves is described, or it is nested too deep**, unless headers in it cannot be written. The
induction is on the leaves. -/
theorem leaves_or_tooDeep {n : Nat} {vs : List Value} {ls : List (Payload Value)} {s s' : U}
    (h : Leaves call n vs s ls s') (hwritten : ∀ p ∈ ls, ∃ written, p.entries = .ok written) (m : Nat)
    (d : Descriptor) :
    Leaves call m vs s ls s' ∨ (outcome (applyTrees call m vs d) s).1 = .error (.refused .tooDeep) := by
  induction h generalizing m d with
  | nil => exact .inl .nil
  | @nothing n v vs ls s s₁ s' resolves _ ih =>
    show Leaves call m (v :: vs) s ([] ++ ls) s' ∨ _
    refine leaves_or_tooDeep_cons (fun m => .inl ⟨⟨d, ?_⟩, .nothing resolves⟩) (ih hwritten) m
    rw [outcome_applyTree resolves]
    rfl
  | row resolves _ _ ihInside ihRest =>
    obtain ⟨hinner, hls⟩ := List.forall_mem_append.mp hwritten
    obtain ⟨d', hd'⟩ := exists_extend_eq_ok hinner d
    refine leaves_or_tooDeep_cons (fun m => ?_) (ihRest hls) m
    rw [outcome_applyTree resolves]
    refine (ihInside hinner m d).imp_left fun hinside => ⟨⟨d', ?_⟩, .row resolves hinside⟩
    exact (hd' ▸ comesTo_applyTrees hinside d).outcome_eq
  | response resolves _ _ ihInside ihRest =>
    obtain ⟨hinner, hls⟩ := List.forall_mem_append.mp hwritten
    obtain ⟨d', hd'⟩ := exists_extend_eq_ok hinner d
    refine leaves_or_tooDeep_cons (fun m => ?_) (ihRest hls) m
    rw [outcome_applyTree resolves]
    refine (ihInside hinner m d).imp_left fun hinside => ⟨⟨d', ?_⟩, .response resolves hinside⟩
    exact (hd' ▸ comesTo_applyTrees hinside d).outcome_eq
  | closed resolves closed _ ih =>
    obtain ⟨hown, hls⟩ := List.forall_mem_append.mp hwritten
    obtain ⟨d', hd'⟩ := exists_extend_eq_ok hown d
    refine leaves_or_tooDeep_cons (fun m => .inl ⟨⟨d', ?_⟩, .closed resolves closed⟩) (ih hls) m
    rw [outcome_applyTree resolves]
    exact (hd' ▸ comesTo_applyResolved_of_closed closed _ m d _).outcome_eq

/-! ## Response trees -/

/-- A tree is described by its leaves. -/
theorem comesTo_describeResponse {v : Value} {ls : List (Payload Value)} {s s' : U}
    (h : Leaves call nestingLimit [v] s ls s') : ComesTo (describeResponse call v) s (Descriptor.ofLeaves ls) s' := by
  rw [ComesTo, describeResponse, outcome_applyTree_singleton, ← Descriptor.extend_empty]
  exact comesTo_applyTrees h {}

/-- **A response tree says what its leaves say.** A tree that has leaves, within the limits of calls and of nesting,
is described by them alone, and only such trees are described; what else is done is what the composites do. A tree
has the same leaves wherever the limit of nesting is, and one that is nested deeper than is allowed is refused for
that, unless headers in it cannot be written. -/
theorem trees_say_what_leaves_say (call : Expander U) (v : Value) (s : U) :
    (∀ ls s', Leaves call nestingLimit [v] s ls s' →
      ComesTo (describeResponse call v) s (Descriptor.ofLeaves ls) s') ∧
    (∀ d s', outcome (describeResponse call v) s = (.ok d, s') → ∃ ls, Leaves call nestingLimit [v] s ls s') ∧
    ∀ n ls s', Leaves call n [v] s ls s' →
      (∀ m ls' t, Leaves call m [v] s ls' t → ls' = ls ∧ t = s') ∧
      ((∀ p ∈ ls, ∃ written, p.entries = .ok written) → ¬ Leaves call nestingLimit [v] s ls s' →
        (outcome (describeResponse call v) s).1 = .error (.refused .tooDeep)) := by
  have hrow : outcome (describeResponse call v) s = outcome (applyTrees call nestingLimit [v] {}) s :=
    outcome_applyTree_singleton nestingLimit v {} s
  refine ⟨fun ls s' hls => comesTo_describeResponse hls, ?_, ?_⟩
  · intro d s' hd
    rw [hrow] at hd
    exact exists_leaves_of_applyTrees hd
  · intro n ls s' hls
    refine ⟨fun m ls' t hls' => hls.unique hls', fun hwritten hdeep => ?_⟩
    rw [hrow]
    exact (leaves_or_tooDeep hls hwritten nestingLimit {}).resolve_left hdeep

/-! ### A tree with an error in it -/

/-- A composite that returns a row, with a status and an error. -/
def failing : Composites := fun _ _ _ =>
  .list [.node (.status (.int 201)) [.node (.body (.str "ignored")) []],
    .node (.err (.int 422) (.str "Invalid") .none) []]

/-- A response with headers, the composite's element and headers again. -/
def failingTree : Value :=
  .node .response [.node (.headers (.ofFields [("A", .str "1"), ("B", .str "1")])) [],
    .element (.func ⟨"Failing", 0, false⟩) [] [], .str "text", .node (.headers (.ofFields [("A", .str "2")])) []]

theorem leaves_failingTree (s : U) : Leaves failing.call nestingLimit [failingTree] s
    [.headers (.ofFields [("A", .str "1"), ("B", .str "1")]), .status (.int 201),
      .err (.int 422) (.str "Invalid") .none, .headers (.ofFields [("A", .str "2")])] s := by
  have hcomposite : ResolvesTo failing.call maxExpansions (.element (.func ⟨"Failing", 0, false⟩) [] []) s
      (.items [.node (.status (.int 201)) [.node (.body (.str "ignored")) []],
        .node (.err (.int 422) (.str "Invalid") .none) []]) s :=
    .element (n := 99) rfl .list
  have hrow : Leaves failing.call 958 [.node (.status (.int 201)) [.node (.body (.str "ignored")) []],
      .node (.err (.int 422) (.str "Invalid") .none) []] s
      [.status (.int 201), .err (.int 422) (.str "Invalid") .none] s :=
    .leaf rfl .node (.leaf rfl .node .nil)
  have hlast : Leaves failing.call 959 [.str "text", .node (.headers (.ofFields [("A", .str "2")])) []] s
      [.headers (.ofFields [("A", .str "2")])] s :=
    .nothing (.leaf rfl) (.leaf rfl .node .nil)
  exact .response .node (.leaf rfl .node (.row hcomposite hrow hlast)) .nil

/-- The error is the last of the statuses and the only body, and the second header mapping replaces a value of the
first one. -/
theorem trees_say_what_leaves_say_failing :
    Leaves failing.call nestingLimit [failingTree] ()
      [.headers (.ofFields [("A", .str "1"), ("B", .str "1")]), .status (.int 201),
        .err (.int 422) (.str "Invalid") .none, .headers (.ofFields [("A", .str "2")])] () ∧
      outcome (describeResponse failing.call failingTree) () =
        (.ok { status := .int 422, headers := [(.str "A", .str "2"), (.str "B", .str "1")],
               body := .ofFields [("error", .str "Invalid")], isError := true }, ()) :=
  ⟨leaves_failingTree (), ((trees_say_what_leaves_say failing.call failingTree ()).1 _ _ (leaves_failingTree ())).outcome_eq⟩

/-! ### Trees beyond the limits -/

/-- A composite that counts down before it returns a status. -/
def countdown : Composites := fun f _ _ =>
  if f.id = 0 then .node (.status (.int 201)) [] else .element (.func ⟨"Countdown", f.id - 1, false⟩) [] []

/-- An element of it, with a number of calls to go after its own. -/
def countdownFrom (n : Nat) : Value := .element (.func ⟨"Countdown", n, false⟩) [] []

theorem returned_countdownFrom (n : Nat) (s : U) :
    outcome (callComposite countdown.call (.func ⟨"Countdown", n + 1, false⟩) [] []) s =
      (.ok (countdownFrom n), s) := rfl

theorem resolvesTo_countdownFrom (n : Nat) (s : U) :
    ResolvesTo countdown.call (n + 1) (countdownFrom n) s (.node (.status (.int 201)) []) s := by
  induction n with
  | zero =>
    have hlast : outcome (callComposite countdown.call (.func ⟨"Countdown", 0, false⟩) [] []) s =
        (.ok (.node (.status (.int 201)) []), s) := rfl
    exact ResolvesTo.element hlast .node
  | succ n ih => exact ResolvesTo.element (returned_countdownFrom n s) ih

theorem resolveWithin_countdownFrom {n m : Nat} (h : n ≤ m) (s : U) :
    outcome (resolveWithin countdown.call n (countdownFrom m)) s =
      (.error (.refused (.endlessComposite "Countdown" maxExpansions)), s) := by
  induction n generalizing m with
  | zero => rfl
  | succ n ih =>
    obtain ⟨m, rfl⟩ : ∃ k, m = k + 1 := ⟨m - 1, by omega⟩
    rw [countdownFrom, resolveWithin, outcome_bind, returned_countdownFrom]
    simp only [outcome_bind, ih (Nat.le_of_succ_le_succ h)]

/-- A value in rows, one in another. -/
def nestedIn : Nat → Value → Value
  | 0, v => v
  | n + 1, v => .list [nestedIn n v]

theorem leaves_nestedIn (n : Nat) {p : Payload Value} (hp : p.isLeaf = true) (s : U) :
    Leaves call (n + 1) [nestedIn n (.node p [])] s [p] s := by
  induction n with
  | zero => exact .leaf hp .node .nil
  | succ n ih => exact .row .list ih .nil

theorem applyTree_nestedIn (n : Nat) (v : Value) (d : Descriptor) (s : U) :
    outcome (applyTree call n (nestedIn n v) d) s = (.error (.refused .tooDeep), s) := by
  induction n with
  | zero =>
    rw [applyTree]
    rfl
  | succ n ih =>
    rw [nestedIn, outcome_applyTree .list]
    exact (outcome_applyTree_singleton n _ d s).symm.trans ih

/-- **How a status is grouped makes a difference beyond the limits.** A status that a hundred and one calls of
composites lead to is refused, and so is one in nine hundred and sixty rows; by itself it is the status of the
response. -/
theorem describeResponse_refuses_deep :
    ResolvesTo countdown.call 101 (countdownFrom 100) () (.node (.status (.int 201)) []) () ∧
      outcome (describeResponse countdown.call (countdownFrom 100)) () =
        (.error (.refused (.endlessComposite "Countdown" 100)), ()) ∧
      Leaves countdown.call 961 [nestedIn 960 (.node (.status (.int 201)) [])] () [.status (.int 201)] () ∧
      outcome (describeResponse countdown.call (nestedIn 960 (.node (.status (.int 201)) []))) () =
        (.error (.refused .tooDeep), ()) ∧
      outcome (describeResponse countdown.call (.node (.status (.int 201)) [])) () =
        (.ok { status := .int 201 }, ()) := by
  refine ⟨resolvesTo_countdownFrom 100 (), ?_, leaves_nestedIn 960 rfl (), applyTree_nestedIn 960 _ {} (), ?_⟩
  · rw [describeResponse, nestingLimit, applyTree_succ, outcome_bind, resolve,
      resolveWithin_countdownFrom (show maxExpansions ≤ 100 by decide)]
    rfl
  · rw [describeResponse, nestingLimit, outcome_applyTree .node]
    rfl

end ServerTree
