import ServerTree.Routing.Router
import ServerTree.Proofs.Assoc
import ServerTree.Proofs.Routing.Pattern

/-!
# What a registration does to a trie

A trie is known by what is found at the end of each row of edges: the routes there, and the labels of the
edges that go on from there. A registration either finds a parameter under another name on its way and
leaves everything as it was, or it enters its route at the end of its own edges, labels those of its edges
that had no label, and touches nothing else.

## Main definitions
- `Trie.follow`, `Trie.table`, `Trie.labels`: what is found at the end of a row of edges
- `Trie.clash?`: the parameter of a pattern that has another name in the trie

## Main statements
- `insert_refusal`: why a registration is refused
- `table_follow_insert`, `labels_insert`: what it changes
-/

namespace ServerTree

variable {E : Type}

namespace Trie

/-! ## What is found in a trie -/

/-- The routes of a node itself. -/
def table : Trie E → MethodTable E
  | .node routes _ _ _ => routes

/-- What an edge leads to: to a node without routes where there is no such edge. An edge for the rest leads
to a node that has its routes and nothing below. -/
def child : Edge → Trie E → Trie E
  | .fixed text, .node _ children _ _ => (Assoc.get? text children).getD empty
  | .param, .node _ _ param _ => (param.map fun edge => edge.2.2).getD empty
  | .rest, .node _ _ _ catchAll => .node ((catchAll.map Prod.snd).getD []) [] none none

/-- The name and the converter of an edge, where it is there and has any. -/
def label : Edge → Trie E → Option (String × Converter)
  | .fixed _, _ => none
  | .param, .node _ _ param _ => param.map fun edge => (edge.1, edge.2.1)
  | .rest, .node _ _ _ catchAll => catchAll.map fun edge => (edge.1, .rest)

/-- The node at the end of a row of edges. -/
def follow : List Edge → Trie E → Trie E
  | [], t => t
  | e :: es, t => follow es (child e t)

/-- The labels of all edges of a trie. -/
def labels (t : Trie E) : Labels := fun before e => label e (follow before t)

@[simp] theorem table_empty : table (empty : Trie E) = [] := rfl

@[simp] theorem label_empty (e : Edge) : label e (empty : Trie E) = none := by cases e <;> rfl

@[simp] theorem child_empty (e : Edge) : child e (empty : Trie E) = empty := by cases e <;> rfl

@[simp] theorem follow_empty (es : List Edge) : follow es (empty : Trie E) = empty := by
  induction es with
  | nil => rfl
  | cons e es ih => rw [follow, child_empty, ih]

/-! ## Entering a route in a table -/

/-- A route is entered exactly when its methods are distinct and none of them is taken. -/
theorem register_refusal_eq_none_iff (route : Route E) (ms : List String) (table : MethodTable E) :
    (register route ms table).2 = none ↔ ms.Nodup ∧ ∀ m ∈ ms, Assoc.get? m table = none := by
  induction ms generalizing table with
  | nil => simp [register]
  | cons m ms ih =>
    cases hm : Assoc.get? m table with
    | some taken => simp [register, hm]
    | none =>
      simp only [register, hm, ih, List.nodup_cons, Assoc.get?_set, List.mem_cons,
        forall_eq_or_imp, true_and]
      constructor
      · rintro ⟨hnodup, hfree⟩
        -- the head is in the table by now, so the methods behind it must be others
        have hnotin : m ∉ ms := fun h => by simpa using hfree m h
        refine ⟨⟨hnotin, hnodup⟩, fun m' h => ?_⟩
        have hne : m' ≠ m := fun heq => hnotin (heq ▸ h)
        simpa [hne] using hfree m' h
      · rintro ⟨⟨hnotin, hnodup⟩, hfree⟩
        refine ⟨hnodup, fun m' h => ?_⟩
        have hne : m' ≠ m := fun heq => hnotin (heq ▸ h)
        simpa [hne] using hfree m' h

/-- A route that was entered is found under its methods, and no other method is touched. -/
theorem get?_register {route : Route E} {ms : List String} {table : MethodTable E}
    (h : (register route ms table).2 = none) (m : String) :
    Assoc.get? m (register route ms table).1 = if m ∈ ms then some route else Assoc.get? m table := by
  induction ms generalizing table with
  | nil => rfl
  | cons m' ms ih =>
    cases hm : Assoc.get? m' table with
    | some taken => simp [register, hm] at h
    | none =>
      simp only [register, hm] at h ⊢
      rw [ih h, Assoc.get?_set]
      by_cases hin : m ∈ ms
      · simp [hin]
      · by_cases heq : m = m' <;> simp [hin, heq]

/-! ## One edge of a registration -/

/-- A segment is a parameter that has another name in the trie: its own name, and the one that is taken. -/
def headClash? (s : Segment) (t : Trie E) : Option (String × String) :=
  match s with
  | .param _ _ .rest => none
  | .param _ name _ =>
    (label .param t).bind fun l => if l.1 = name then none else some (name, l.1)
  | .fixed _ => none

/-- The first parameter of a pattern that has another name in the trie. -/
def clash? : List Segment → Trie E → Option (String × String)
  | [], _ => none
  | s :: segments, t =>
    match headClash? s t with
    | some names => some names
    | none => if s.edge = .rest then none else clash? segments (child s.edge t)

theorem insert_of_headClash {s : Segment} {t : Trie E} {names : String × String}
    (h : headClash? s t = some names) (route : Route E) (segments : List Segment) :
    insert route (s :: segments) t = (t, some (.parameterClash route.path names.1 names.2)) := by
  obtain ⟨routes, children, param, catchAll⟩ := t
  cases s with
  | fixed text => simp [headClash?] at h
  | param written name converter =>
    cases converter with
    | rest => simp [headClash?] at h
    | text | digits =>
      cases param with
      | none => simp [headClash?, label] at h
      | some edge =>
        obtain ⟨taken, first, next⟩ := edge
        by_cases heq : taken = name
        · simp [headClash?, label, heq] at h
        · simp only [headClash?, label, Option.map_some, Option.bind_some, heq, if_false,
            Option.some.injEq] at h
          subst h
          simp [insert, heq]

/-- The first edge of a registration: what is below it gets the rest of the pattern, and it is labelled if
it was not. Nothing else of the node changes. -/
theorem insert_cons {s : Segment} {t : Trie E} (h : headClash? s t = none) (route : Route E)
    (segments : List Segment) :
    (insert route (s :: segments) t).2 = (insert route (tailOf s segments) (child s.edge t)).2 ∧
    table (insert route (s :: segments) t).1 = table t ∧
    (∀ e, child e (insert route (s :: segments) t).1 =
      if e = s.edge then (insert route (tailOf s segments) (child e t)).1 else child e t) ∧
    (∀ e, label e (insert route (s :: segments) t).1 =
      if e = s.edge then (label e t).or s.label? else label e t) := by
  obtain ⟨routes, children, param, catchAll⟩ := t
  -- the cases are those of the insertion: which of the three kinds of edges the segment takes
  cases s with
  | fixed text =>
    refine ⟨rfl, rfl, fun e => ?_, fun e => ?_⟩
    · cases e with
      | fixed text' =>
        simp only [insert, child, Segment.edge, tailOf, Assoc.get?_set, Edge.fixed.injEq]
        by_cases heq : text' = text <;> simp [heq]
      | param => rfl
      | rest => rfl
    · cases e with
      | fixed text' => simp [label, Segment.label?]
      | param => rfl
      | rest => rfl
  | param written name converter =>
    cases converter with
    | rest =>
      cases catchAll with
      | none => exact ⟨rfl, rfl, fun e => by cases e <;> rfl, fun e => by cases e <;> rfl⟩
      | some edge => exact ⟨rfl, rfl, fun e => by cases e <;> rfl, fun e => by cases e <;> rfl⟩
    | text | digits =>
      cases param with
      | none => exact ⟨rfl, rfl, fun e => by cases e <;> rfl, fun e => by cases e <;> rfl⟩
      | some edge =>
        obtain ⟨taken, first, next⟩ := edge
        have hname : taken = name := by
          by_cases heq : taken = name
          · exact heq
          · simp [headClash?, label, heq] at h
        subst hname
        -- an edge that is there keeps its converter, whatever the segment says
        simp only [insert, if_true]
        exact ⟨rfl, rfl, fun e => by cases e <;> rfl, fun e => by cases e <;> rfl⟩

/-! ## A whole registration -/

theorem clash?_cons_of_none {s : Segment} {t : Trie E} (h : headClash? s t = none)
    (segments : List Segment) :
    clash? (s :: segments) t = clash? (tailOf s segments) (child s.edge t) := by
  by_cases hr : s.edge = .rest <;> simp [clash?, tailOf, h, hr]

theorem clash?_cons_of_some {s : Segment} {t : Trie E} {names : String × String}
    (h : headClash? s t = some names) (segments : List Segment) :
    clash? (s :: segments) t = some names := by
  simp [clash?, h]

/-- A registration is refused for the first parameter that has another name, or else by the table at the
end of its edges. -/
theorem insert_refusal (route : Route E) (segments : List Segment) (t : Trie E) :
    (insert route segments t).2 =
      match clash? segments t with
      | some names => some (.parameterClash route.path names.1 names.2)
      | none => (register route route.methods (table (follow (edgesOf segments) t))).2 := by
  induction segments using tailOf_induction generalizing t with
  | nil => cases t; rfl
  | cons s segments ih =>
    cases h : headClash? s t with
    | some names => rw [insert_of_headClash h, clash?_cons_of_some h]
    | none =>
      rw [(insert_cons h route segments).1, ih, clash?_cons_of_none h, edgesOf_cons, follow]

/-- The routes at the end of a row of edges after a registration: the new one is there at the end of its
own edges, unless a parameter had another name. -/
theorem table_follow_insert (route : Route E) (segments : List Segment) (t : Trie E) (es : List Edge) :
    table (follow es (insert route segments t).1) =
      if es = edgesOf segments ∧ clash? segments t = none then
        (register route route.methods (table (follow es t))).1
      else table (follow es t) := by
  induction segments using tailOf_induction generalizing t es with
  | nil =>
    obtain ⟨routes, children, param, catchAll⟩ := t
    cases es with
    | nil => simp [insert, follow, table, edgesOf, clash?]
    | cons e es => cases e <;> simp [insert, follow, child, edgesOf]
  | cons s segments ih =>
    cases h : headClash? s t with
    | some names => simp [insert_of_headClash h, clash?_cons_of_some h]
    | none =>
      obtain ⟨-, htable, hchild, -⟩ := insert_cons h route segments
      rw [clash?_cons_of_none h, edgesOf_cons]
      cases es with
      | nil => simpa [follow] using htable
      | cons e es =>
        -- below the first edge of the pattern `ih` applies; what is below other edges did not change
        simp only [follow, hchild, List.cons.injEq]
        by_cases he : e = s.edge
        · subst he
          simpa using ih (child s.edge t) es
        · simp [he]

/-- The labels after a registration: its own edges are labelled where they were not. -/
theorem labels_insert {segments : List Segment} {t : Trie E} (h : clash? segments t = none)
    (route : Route E) (before : List Edge) (e : Edge) :
    labels (insert route segments t).1 before e =
      (labels t before e).or (labelAt segments before e) := by
  induction segments using tailOf_induction generalizing t before with
  | nil =>
    obtain ⟨routes, children, param, catchAll⟩ := t
    cases before with
    | nil => cases e <;> simp [labels, insert, follow, label, labelAt]
    | cons b before => cases b <;> simp [labels, insert, follow, child, labelAt]
  | cons s segments ih =>
    have hhead : headClash? s t = none := by
      cases hc : headClash? s t with
      | none => rfl
      | some names => rw [clash?_cons_of_some hc] at h; exact absurd h (by simp)
    rw [clash?_cons_of_none hhead] at h
    -- an edge at the node itself is labelled by the first segment, all others by the rest of the pattern
    obtain ⟨-, -, hchild, hlabel⟩ := insert_cons hhead route segments
    rw [labelAt_cons]
    cases before with
    | nil =>
      simp only [labels, follow, hlabel]
      by_cases he : e = s.edge
      · simp [he]
      · simp [he, Ne.symm he]
    | cons b before =>
      simp only [labels, follow, hchild]
      by_cases hb : b = s.edge
      · subst hb
        simpa [labels] using ih h before
      · simp [hb, Ne.symm hb]

end Trie

end ServerTree
