import ServerTree.App.World
import ServerTree.Proofs.Node.Expansion

/-!
# Traversals

Trees are walked, collected and described in the same way: a value is resolved, a row is gone through one step
deeper, and so are the children of a node after the node itself was dealt with. What is traversed may have no
end, through calls, through rows or through children. A traversal that does not bottom out is stopped, and what
stops it is the nesting, or something that it has come to: a value whose calls run out, or one that fails.

## Main definitions
- `Traversal`: what a traversal does with nodes
- `Traverses`: what becomes of a traversal with a bound on the nesting
- `BottomsOut`: a row has an end
- `Shallow`: a row is nested at most so deep, apart from values that stand for nothing at all
- `FailsAt`: how a value fails by itself
- `Stopped`: what stops a traversal, other than the nesting

## Main statements
- `Traversal.Steps.traverses`: a function that goes on as a traversal does is one
- `Traverses.bottomsOut`: what returns has an end
- `Traverses.cause`, `Traverses.cause_of_shallow`: what stops a traversal
-/

namespace ServerTree

/-- What a traversal does with nodes. -/
structure Traversal where
  /-- Whether it goes on to the children of a node. -/
  opens : Payload Value → Bool
  /-- How much deeper than a node its children are. -/
  depth : Payload Value → Nat
  /-- How it can fail at a node. -/
  fails : Payload Value → Stop → Prop
  depth_pos : ∀ p, 0 < depth p

variable {g : Composites} {t : Traversal}

/-! ## With a bound -/

/-- What becomes of a traversal of a row with a bound on the nesting: it comes to its end, or is stopped. -/
inductive Traverses (g : Composites) (t : Traversal) : Nat → List Value → Option Stop → Prop where
  | nil {n : Nat} : Traverses g t n [] none
  | tooDeep {v : Value} {vs : List Value} :
      Traverses g t 0 (v :: vs) (some (.failed (.refused .tooDeep)))
  | unresolved {n : Nat} {v : Value} {vs : List Value} {f : Fault}
      (unresolved : Resolves g maxExpansions v (.error f)) : Traverses g t (n + 1) (v :: vs) (some (.failed f))
  | nothing {n : Nat} {v : Value} {vs : List Value} {result : Option Stop} (expands : Expands g v .nothing)
      (rest : Traverses g t (n + 1) vs result) : Traverses g t (n + 1) (v :: vs) result
  | splice {n : Nat} {v : Value} {xs vs : List Value} {result : Option Stop} (expands : Expands g v (.items xs))
      (inside : Traverses g t n xs none) (rest : Traverses g t (n + 1) vs result) :
      Traverses g t (n + 1) (v :: vs) result
  | spliceStops {n : Nat} {v : Value} {xs vs : List Value} {e : Stop} (expands : Expands g v (.items xs))
      (inside : Traverses g t n xs (some e)) : Traverses g t (n + 1) (v :: vs) (some e)
  | fails {n : Nat} {v : Value} {p : Payload Value} {children vs : List Value} {e : Stop}
      (expands : Expands g v (.node p children)) (fails : t.fails p e) :
      Traverses g t (n + 1) (v :: vs) (some e)
  | closed {n : Nat} {v : Value} {p : Payload Value} {children vs : List Value} {result : Option Stop}
      (expands : Expands g v (.node p children)) (closed : t.opens p = false)
      (rest : Traverses g t (n + 1) vs result) : Traverses g t (n + 1) (v :: vs) result
  | node {n : Nat} {v : Value} {p : Payload Value} {children vs : List Value} {result : Option Stop}
      (expands : Expands g v (.node p children)) (opened : t.opens p = true)
      (inside : Traverses g t (n + 1 - t.depth p) children none) (rest : Traverses g t (n + 1) vs result) :
      Traverses g t (n + 1) (v :: vs) result
  | nodeStops {n : Nat} {v : Value} {p : Payload Value} {children vs : List Value} {e : Stop}
      (expands : Expands g v (.node p children)) (opened : t.opens p = true)
      (inside : Traverses g t (n + 1 - t.depth p) children (some e)) :
      Traverses g t (n + 1) (v :: vs) (some e)

/-- The rest of a row is traversed after its first value. -/
theorem Traverses.cons {n : Nat} {v : Value} {vs : List Value} {result : Option Stop}
    (h : Traverses g t n [v] none) (h' : Traverses g t n vs result) : Traverses g t n (v :: vs) result := by
  cases h with
  | nothing expands _ => exact .nothing expands h'
  | splice expands inside _ => exact .splice expands inside h'
  | closed expands closed _ => exact .closed expands closed h'
  | node expands opened inside _ => exact .node expands opened inside h'

/-- It is not when the first value stops the traversal. -/
theorem Traverses.stops {n : Nat} {v : Value} {vs : List Value} {e : Stop} (h : Traverses g t n [v] (some e)) :
    Traverses g t n (v :: vs) (some e) := by
  cases h with
  | tooDeep => exact .tooDeep
  | unresolved unresolved => exact .unresolved unresolved
  | spliceStops expands inside => exact .spliceStops expands inside
  | fails expands fails => exact .fails expands fails
  | nodeStops expands opened inside => exact .nodeStops expands opened inside
  | nothing _ rest | splice _ _ rest | closed _ _ rest | node _ _ _ rest => cases rest

/-- What a value is resolved to, and what becomes of it then, with a bound that was not reached. -/
inductive Traversal.Next (g : Composites) (t : Traversal) (row : Nat → List Value → Option Stop → Prop) (n : Nat)
    (v : Value) : Option Stop → Prop where
  | unresolved {f : Fault} (unresolved : Resolves g maxExpansions v (.error f)) :
      Next g t row n v (some (.failed f))
  | nothing (expands : Expands g v .nothing) : Next g t row n v none
  | items {xs : List Value} {result : Option Stop} (expands : Expands g v (.items xs)) (inside : row n xs result) :
      Next g t row n v result
  | fails {p : Payload Value} {children : List Value} {e : Stop} (expands : Expands g v (.node p children))
      (fails : t.fails p e) : Next g t row n v (some e)
  | closed {p : Payload Value} {children : List Value} (expands : Expands g v (.node p children))
      (closed : t.opens p = false) : Next g t row n v none
  | node {p : Payload Value} {children : List Value} {result : Option Stop}
      (expands : Expands g v (.node p children)) (opened : t.opens p = true)
      (inside : row (n + 1 - t.depth p) children result) : Next g t row n v result

/-- Functions on trees and on rows, given by what becomes of them, go on as a traversal does. -/
structure Traversal.Steps (g : Composites) (t : Traversal) (tree : Nat → Value → Option Stop → Prop)
    (row : Nat → List Value → Option Stop → Prop) : Prop where
  zero : ∀ {v result}, tree 0 v result → result = some (.failed (.refused .tooDeep))
  succ : ∀ {n v result}, tree (n + 1) v result → t.Next g row n v result
  nil : ∀ {n result}, row n [] result → result = none
  cons : ∀ {n v vs result}, row n (v :: vs) result →
    (tree n v none ∧ row n vs result) ∨ ∃ e, result = some e ∧ tree n v (some e)

namespace Traversal.Steps

variable {tree : Nat → Value → Option Stop → Prop} {row : Nat → List Value → Option Stop → Prop}

/-- Along a row, when its values are traversed. -/
theorem traverses_row (h : t.Steps g tree row) {n : Nat}
    (htree : ∀ {v result}, tree n v result → Traverses g t n [v] result) {vs : List Value}
    {result : Option Stop} (hrow : row n vs result) : Traverses g t n vs result := by
  induction vs with
  | nil =>
    obtain rfl := h.nil hrow
    exact .nil
  | cons v vs ih =>
    rcases h.cons hrow with ⟨hv, hvs⟩ | ⟨e, rfl, hv⟩
    · exact (htree hv).cons (ih hvs)
    · exact (htree hv).stops

/-- **What goes on as a traversal does is one.** The induction is on the bound, which is less for rows and for
children than for what they stand in. -/
theorem traverses (h : t.Steps g tree row) {n : Nat} {v : Value} {result : Option Stop}
    (htree : tree n v result) : Traverses g t n [v] result := by
  induction n using Nat.strongRecOn generalizing v result with
  | ind n ih =>
    cases n with
    | zero =>
      obtain rfl := h.zero htree
      exact .tooDeep
    | succ n =>
      have hinside : ∀ {m vs result}, m < n + 1 → row m vs result → Traverses g t m vs result :=
        fun hm hrow => h.traverses_row (ih _ hm) hrow
      cases h.succ htree with
      | unresolved unresolved => exact .unresolved unresolved
      | nothing expands => exact .nothing expands .nil
      | items expands inside =>
        have hxs := hinside (Nat.lt_succ_self n) inside
        cases result with
        | none => exact .splice expands hxs .nil
        | some e => exact .spliceStops expands hxs
      | fails expands fails => exact .fails expands fails
      | closed expands closed => exact .closed expands closed .nil
      | node expands opened inside =>
        have hchildren := hinside (Nat.sub_lt (Nat.succ_pos n) (t.depth_pos _)) inside
        cases result with
        | none => exact .node expands opened hchildren .nil
        | some e => exact .nodeStops expands opened hchildren

end Traversal.Steps

/-! ## Without a bound -/

/-- A row has an end: its values stand for something, and so do those that a traversal goes on to. -/
inductive BottomsOut (g : Composites) (t : Traversal) : List Value → Prop where
  | nil : BottomsOut g t []
  | nothing {v : Value} {vs : List Value} (expands : Expands g v .nothing) (rest : BottomsOut g t vs) :
      BottomsOut g t (v :: vs)
  | splice {v : Value} {xs vs : List Value} (expands : Expands g v (.items xs)) (inside : BottomsOut g t xs)
      (rest : BottomsOut g t vs) : BottomsOut g t (v :: vs)
  | closed {v : Value} {p : Payload Value} {children vs : List Value} (expands : Expands g v (.node p children))
      (closed : t.opens p = false) (rest : BottomsOut g t vs) : BottomsOut g t (v :: vs)
  | node {v : Value} {p : Payload Value} {children vs : List Value} (expands : Expands g v (.node p children))
      (opened : t.opens p = true) (inside : BottomsOut g t children) (rest : BottomsOut g t vs) :
      BottomsOut g t (v :: vs)

/-- **What returns has an end.** -/
theorem Traverses.bottomsOut {n : Nat} {vs : List Value} (h : Traverses g t n vs none) : BottomsOut g t vs := by
  generalize hresult : none = result at h
  induction h with
  | nil => exact .nil
  | nothing expands _ ih => exact .nothing expands (ih hresult)
  | splice expands _ _ ihInside ihRest => exact .splice expands (ihInside rfl) (ihRest hresult)
  | closed expands closed _ ih => exact .closed expands closed (ih hresult)
  | node expands opened _ _ ihInside ihRest => exact .node expands opened (ihInside rfl) (ihRest hresult)
  | tooDeep | unresolved | spliceStops | fails | nodeStops => cases hresult

/-- The values that a traversal of a row may come to. -/
inductive Reached (g : Composites) (t : Traversal) : List Value → Value → Prop where
  | here {v : Value} {vs : List Value} : Reached g t (v :: vs) v
  | later {v u : Value} {vs : List Value} (rest : Reached g t vs u) : Reached g t (v :: vs) u
  | inside {v u : Value} {xs vs : List Value} (expands : Expands g v (.items xs)) (inside : Reached g t xs u) :
      Reached g t (v :: vs) u
  | child {v u : Value} {p : Payload Value} {children vs : List Value}
      (expands : Expands g v (.node p children)) (opened : t.opens p = true)
      (inside : Reached g t children u) : Reached g t (v :: vs) u

/-- How a value fails by itself. -/
inductive FailsAt (g : Composites) (t : Traversal) (u : Value) : Stop → Prop where
  /-- A composite cannot be called. -/
  | miscalls {f : Fault} (miscalls : Miscalls g u f) : FailsAt g t u (.failed f)
  /-- The traversal fails at the node. -/
  | node {p : Payload Value} {children : List Value} {e : Stop} (expands : Expands g u (.node p children))
      (fails : t.fails p e) : FailsAt g t u e

/-- What stops a traversal at a value. -/
inductive StoppedAt (g : Composites) (t : Traversal) (u : Value) : Stop → Prop where
  /-- The calls of composites run out. -/
  | runsOut {f : Fault} (runsOut : RunsOut g maxExpansions u f) : StoppedAt g t u (.failed f)
  | fails {e : Stop} (fails : FailsAt g t u e) : StoppedAt g t u e

/-- What stops a traversal at a value that it has come to. -/
def Stopped (g : Composites) (t : Traversal) (vs : List Value) (e : Stop) : Prop :=
  ∃ u, Reached g t vs u ∧ StoppedAt g t u e

/-- What stops a traversal of a part of a row stops that of the row. -/
theorem Stopped.mono {vs vs' : List Value} {e : Stop} (h : Stopped g t vs e)
    (hreached : ∀ u, Reached g t vs u → Reached g t vs' u) : Stopped g t vs' e := by
  obtain ⟨u, hu, he⟩ := h
  exact ⟨u, hreached u hu, he⟩

/-- A value that cannot be resolved stops a traversal. -/
theorem Stopped.of_unresolved {v : Value} {vs : List Value} {f : Fault}
    (h : Resolves g maxExpansions v (.error f)) : Stopped g t (v :: vs) (.failed f) := by
  rcases h with hout | hmiscalls
  · exact ⟨v, .here, .runsOut hout⟩
  · exact ⟨v, .here, .fails (.miscalls hmiscalls)⟩

/-- **What stops a traversal** is the nesting, or something at a value that it has come to. -/
theorem Traverses.cause {n : Nat} {vs : List Value} {e : Stop} (h : Traverses g t n vs (some e)) :
    e = .failed (.refused .tooDeep) ∨ Stopped g t vs e := by
  generalize hresult : some e = result at h
  -- what stops the traversal of a part is passed on by what the part stands in
  induction h with
  | nil => cases hresult
  | tooDeep => exact .inl (Option.some.inj hresult)
  | unresolved unresolved =>
    obtain rfl := Option.some.inj hresult
    exact .inr (.of_unresolved unresolved)
  | fails expands fails =>
    obtain rfl := Option.some.inj hresult
    exact .inr ⟨_, .here, .fails (.node expands fails)⟩
  | nothing _ _ ih => exact (ih hresult).imp_right fun h => h.mono fun _ => .later
  | splice _ _ _ _ ih => exact (ih hresult).imp_right fun h => h.mono fun _ => .later
  | closed _ _ _ ih => exact (ih hresult).imp_right fun h => h.mono fun _ => .later
  | node _ _ _ _ _ ih => exact (ih hresult).imp_right fun h => h.mono fun _ => .later
  | spliceStops expands _ ih => exact (ih hresult).imp_right fun h => h.mono fun _ => .inside expands
  | nodeStops expands opened _ ih => exact (ih hresult).imp_right fun h => h.mono fun _ => .child expands opened

/-! ## Shallow rows -/

/-- A row is nested at most so deep. A value that stands for nothing at all, since its calls have no end or one of
them cannot be made, ends a row here: no traversal gets beyond it. -/
inductive Shallow (g : Composites) (t : Traversal) : Nat → List Value → Prop where
  | nil {n : Nat} : Shallow g t n []
  | endless {n : Nat} {v : Value} {vs : List Value} (endless : ∀ r, ¬ Expands g v r) : Shallow g t (n + 1) (v :: vs)
  | nothing {n : Nat} {v : Value} {vs : List Value} (expands : Expands g v .nothing)
      (rest : Shallow g t (n + 1) vs) : Shallow g t (n + 1) (v :: vs)
  | splice {n : Nat} {v : Value} {xs vs : List Value} (expands : Expands g v (.items xs))
      (inside : Shallow g t n xs) (rest : Shallow g t (n + 1) vs) : Shallow g t (n + 1) (v :: vs)
  | node {n : Nat} {v : Value} {p : Payload Value} {children vs : List Value}
      (expands : Expands g v (.node p children))
      (inside : t.opens p = true → Shallow g t (n + 1 - t.depth p) children)
      (rest : Shallow g t (n + 1) vs) : Shallow g t (n + 1) (v :: vs)

namespace Shallow

variable {n : Nat} {v : Value} {vs : List Value}

/-- After a value that stands for something. -/
theorem rest_of_expands (h : Shallow g t (n + 1) (v :: vs)) {r : Resolved} (hexpands : Expands g v r) :
    Shallow g t (n + 1) vs := by
  cases h with
  | endless endless => exact absurd hexpands (endless r)
  | nothing _ rest | splice _ _ rest | node _ _ rest => exact rest

theorem inside_of_expands (h : Shallow g t (n + 1) (v :: vs)) {xs : List Value}
    (hexpands : Expands g v (.items xs)) : Shallow g t n xs := by
  cases h with
  | endless endless => exact absurd hexpands (endless _)
  | splice expands inside _ =>
    obtain rfl := Resolved.items.inj (expands.unique hexpands)
    exact inside
  | nothing expands _ | node expands _ _ => cases expands.unique hexpands

theorem children_of_expands (h : Shallow g t (n + 1) (v :: vs)) {p : Payload Value} {children : List Value}
    (hexpands : Expands g v (.node p children)) (hopened : t.opens p = true) :
    Shallow g t (n + 1 - t.depth p) children := by
  cases h with
  | endless endless => exact absurd hexpands (endless _)
  | node expands inside _ =>
    obtain ⟨rfl, rfl⟩ := Resolved.node.inj (expands.unique hexpands)
    exact inside hopened
  | nothing expands _ | splice expands _ _ => cases expands.unique hexpands

end Shallow

/-- **What stops a traversal of a shallow row** is something at a value that it has come to. -/
theorem Traverses.cause_of_shallow {n : Nat} {vs : List Value} {e : Stop} (h : Traverses g t n vs (some e))
    (hshallow : Shallow g t n vs) : Stopped g t vs e := by
  generalize hresult : some e = result at h
  induction h with
  | nil => cases hresult
  -- the bound is reached by no row that is nested at most so deep
  | tooDeep => cases hshallow
  | unresolved unresolved =>
    obtain rfl := Option.some.inj hresult
    exact .of_unresolved unresolved
  | fails expands fails =>
    obtain rfl := Option.some.inj hresult
    exact ⟨_, .here, .fails (.node expands fails)⟩
  | nothing expands _ ih | closed expands _ _ ih | splice expands _ _ _ ih | node expands _ _ _ _ ih =>
    exact (ih (hshallow.rest_of_expands expands) hresult).mono fun _ => .later
  | spliceStops expands _ ih =>
    exact (ih (hshallow.inside_of_expands expands) hresult).mono fun _ => .inside expands
  | nodeStops expands opened _ ih =>
    exact (ih (hshallow.children_of_expands expands opened) hresult).mono fun _ => .child expands opened

end ServerTree
