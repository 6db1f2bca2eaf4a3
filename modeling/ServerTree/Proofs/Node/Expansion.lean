import ServerTree.Node.Resolve
import ServerTree.Proofs.Returns

/-!
# What values stand for

When composites are functions of their properties and children alone, what a value stands for can be said
without counting calls: calls are followed until a node, a row or nothing is left. Resolving a value agrees
with it, and fails where there are too many calls or where one of them cannot be made.

## Main definitions
- `Composites`: composites that are pure functions
- `Expands`: what a value stands for
- `Calls`: what a number of calls leads to
- `Endless`: calls of composites lead to further ones for ever

## Main statements
- `Expands.unique`: values stand for one thing
- `exists_outcome_resolveWithin`: what resolving a value comes to
- `Endless.not_miscalls`: all calls for an endless value can be made
-/

namespace ServerTree

variable {U : Type}

/-! ## Pure composites -/

/-- Composites that are functions of their properties and children. -/
abbrev Composites : Type := Func → List (String × Value) → Option (List Value) → Value

namespace Composites

/-- Calls of them leave the state of application code alone. -/
def call (g : Composites) : Expander U := fun f named children => pure (g f named children)

/-- What the composite of an element returns, unless it cannot be called. -/
def returned (g : Composites) (type : Value) (props : List (Value × Value)) (children : List Value) :
    Attempt Value :=
  (outcome (callComposite (g.call : Expander Unit) type props children) ()).1

theorem outcome_callComposite (g : Composites) (type : Value) (props : List (Value × Value))
    (children : List Value) (s : U) :
    outcome (callComposite g.call type props children) s = (g.returned type props children, s) := by
  rw [returned]
  cases type with
  | func f =>
    simp only [callComposite]
    -- every property must be named
    split <;> rfl
  | _ => rfl

end Composites

variable {g : Composites}

/-! ## Calls -/

/-- Values that no composite is called for, and that are neither nodes nor rows. -/
def Value.isLeaf : Value → Bool
  | .node .. | .list _ | .tuple _ | .element .. => false
  | _ => true

/-- What a value stands for: the node, the row or nothing that calls of composites end in. The children of
those that were called go to the node. -/
inductive Expands (g : Composites) : Value → Resolved → Prop where
  | node {p : Payload Value} {children : List Value} : Expands g (.node p children) (.node p children)
  | list {xs : List Value} : Expands g (.list xs) (.items xs)
  | tuple {xs : List Value} : Expands g (.tuple xs) (.items xs)
  | leaf {v : Value} (leaf : v.isLeaf = true) : Expands g v .nothing
  | call {type : Value} {props : List (Value × Value)} {children : List Value} {v : Value} {r : Resolved}
      (returned : g.returned type props children = .ok v) (rest : Expands g v r) :
      Expands g (.element type props children) (r.adopt children)

/-- A number of calls, one for what the other has returned, lead from one value to another. -/
inductive Calls (g : Composites) : Nat → Value → Value → Prop where
  | none {v : Value} : Calls g 0 v v
  | more {n : Nat} {type : Value} {props : List (Value × Value)} {children : List Value} {v w : Value}
      (returned : g.returned type props children = .ok v) (rest : Calls g n v w) :
      Calls g (n + 1) (.element type props children) w

/-- Calls of composites lead to further ones for ever. -/
def Endless (g : Composites) (v : Value) : Prop := ∀ n, ∃ w, Calls g n v w

/-- A value stands for one thing. -/
theorem Expands.unique {v : Value} {r r' : Resolved} (h : Expands g v r) (h' : Expands g v r') : r = r' := by
  induction h generalizing r' with
  | node =>
    cases h' with
    | node => rfl
    | leaf hleaf => cases hleaf
  | list =>
    cases h' with
    | list => rfl
    | leaf hleaf => cases hleaf
  | tuple =>
    cases h' with
    | tuple => rfl
    | leaf hleaf => cases hleaf
  | leaf hleaf =>
    cases h' with
    | leaf _ => rfl
    | _ => cases hleaf
  | call returned _ ih =>
    cases h' with
    | leaf hleaf => cases hleaf
    | call returned' rest' =>
      obtain rfl := Except.ok.inj (returned.symm.trans returned')
      rw [ih rest']

/-- Where one more call leads on, it is made for what the others lead to. -/
theorem Calls.last {n : Nat} {v w w' : Value} (h : Calls g n v w) (h' : Calls g (n + 1) v w') :
    ∃ type props children, w = .element type props children ∧ g.returned type props children = .ok w' := by
  induction h generalizing w' with
  | none =>
    cases h' with
    | more returned rest =>
      cases rest
      exact ⟨_, _, _, rfl, returned⟩
  | more returned _ ih =>
    cases h' with
    | more returned' rest' =>
      obtain rfl := Except.ok.inj (returned.symm.trans returned')
      exact ih rest'

/-- What stands for something is not endless: the induction is on the calls that lead there. -/
theorem Expands.not_endless {v : Value} {r : Resolved} (h : Expands g v r) : ¬ Endless g v := by
  intro hendless
  induction h with
  | call returned _ ih =>
    apply ih
    intro n
    obtain ⟨w, hw⟩ := hendless (n + 1)
    cases hw with
    | more returned' rest =>
      obtain rfl := Except.ok.inj (returned.symm.trans returned')
      exact ⟨w, rest⟩
  | leaf hleaf =>
    obtain ⟨w, hw⟩ := hendless 1
    cases hw
    cases hleaf
  | _ =>
    obtain ⟨w, hw⟩ := hendless 1
    cases hw

/-! ## Resolving -/

/-- A number of calls leads to an element that there is no call left for. -/
inductive RunsOut (g : Composites) (n : Nat) (v : Value) : Fault → Prop where
  | intro {type : Value} {props : List (Value × Value)} {children : List Value}
      (calls : Calls g n v (.element type props children)) :
      RunsOut g n v (.refused (.endlessComposite type.functionName maxExpansions))

/-- Calls lead to an element whose composite cannot be called. -/
inductive Miscalls (g : Composites) (v : Value) : Fault → Prop where
  | intro {n : Nat} {type : Value} {props : List (Value × Value)} {children : List Value} {f : Fault}
      (calls : Calls g n v (.element type props children))
      (refused : g.returned type props children = .error f) : Miscalls g v f

/-- What resolving a value with a number of calls may come to: what it stands for, or a failure where the calls
run out or one cannot be made. -/
def Resolves (g : Composites) (n : Nat) (v : Value) : Attempt Resolved → Prop
  | .ok r => Expands g v r
  | .error f => RunsOut g n v f ∨ Miscalls g v f

/-- One more call comes before what resolving the returned value comes to. -/
theorem Resolves.more {n : Nat} {type : Value} {props : List (Value × Value)} {children : List Value} {v : Value}
    {result : Attempt Resolved} (hreturned : g.returned type props children = .ok v)
    (h : Resolves g n v result) :
    Resolves g (n + 1) (.element type props children) (result.map (Resolved.adopt children)) := by
  cases result with
  | ok r => exact .call hreturned h
  | error f =>
    rcases h with hout | ⟨calls, refused⟩
    · cases hout with
      | intro calls => exact .inl ⟨.more hreturned calls⟩
    · exact .inr ⟨.more hreturned calls, refused⟩

theorem resolveWithin_leaf {call : Expander U} {v : Value} (h : v.isLeaf = true) (n : Nat) :
    resolveWithin call n v = pure .nothing := by
  cases v with
  | node | list | tuple | element => cases h
  | _ => cases n <;> rfl

/-- **Resolving a value** leaves the state alone, and comes to what the value stands for unless the calls run out
or one cannot be made. The induction is on the number of calls. -/
theorem exists_outcome_resolveWithin (g : Composites) (n : Nat) (v : Value) (s : U) :
    ∃ result, outcome (resolveWithin g.call n v) s = (result, s) ∧ Resolves g n v result := by
  induction n generalizing v with
  | zero =>
    cases v with
    | node p children => exact ⟨_, rfl, .node⟩
    | list xs => exact ⟨_, rfl, .list⟩
    | tuple xs => exact ⟨_, rfl, .tuple⟩
    | element type props children => exact ⟨_, rfl, .inl ⟨.none⟩⟩
    | _ =>
      rw [resolveWithin_leaf rfl]
      exact ⟨_, rfl, .leaf rfl⟩
  | succ n ih =>
    cases v with
    | node p children => exact ⟨_, rfl, .node⟩
    | list xs => exact ⟨_, rfl, .list⟩
    | tuple xs => exact ⟨_, rfl, .tuple⟩
    | element type props children =>
      rw [resolveWithin, outcome_bind, g.outcome_callComposite]
      cases hreturned : g.returned type props children with
      | error f => exact ⟨_, rfl, .inr ⟨.none, hreturned⟩⟩
      | ok v =>
        obtain ⟨result, hresult, hresolves⟩ := ih v
        refine ⟨result.map (Resolved.adopt children), ?_, hresolves.more hreturned⟩
        simp only [outcome_bind, hresult]
        cases result <;> rfl
    | _ =>
      rw [resolveWithin_leaf rfl]
      exact ⟨_, rfl, .leaf rfl⟩

/-- Where calls never end, each of them can be made. -/
theorem Endless.not_miscalls {v : Value} {f : Fault} (h : Endless g v) : ¬ Miscalls g v f := by
  rintro ⟨calls, refused⟩
  -- a call that cannot be made would be the last one
  obtain ⟨w, hw⟩ := h (_ + 1)
  obtain ⟨type, props, children, helement, hreturned⟩ := calls.last hw
  obtain ⟨rfl, rfl, rfl⟩ := Value.element.inj helement
  cases refused.symm.trans hreturned

end ServerTree
