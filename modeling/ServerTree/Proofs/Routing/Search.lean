import ServerTree.Proofs.Routing.Trie

/-!
# What a search finds

A search backs out of every edge below which nothing answers. What it ends with is still simple to say:
among all rows of edges that accept the path and end in a table that answers, it takes the least in the
order in which edges are tried, compared at the first position where two of them differ.

## Main definitions
- `Trie.Accepts`: a row of edges that accepts a path and ends in a table that answers

## Main statements
- `find_sound`: a search ends with the least of these
- `find_eq_none_iff`: a search fails only when there is none
-/

namespace ServerTree

variable {E : Type}

/-- One edge is tried before another. -/
def Edge.Precedes (e e' : Edge) : Prop := e.rank < e'.rank

theorem Edge.fixed_precedes_param (text : String) : Edge.Precedes (.fixed text) .param :=
  Nat.zero_lt_one

theorem Edge.fixed_precedes_rest (text : String) : Edge.Precedes (.fixed text) .rest :=
  Nat.zero_lt_two

theorem Edge.param_precedes_rest : Edge.Precedes .param .rest := Nat.one_lt_two

namespace Trie

/-- A row of edges accepts a path, with the given bindings, and its table answers. A search without a
method takes every edge for the rest. -/
structure Accepts (t : Trie E) (method : Option String) (parts : List String) (es : List Edge)
    (bs : List (String × String)) : Prop where
  bindings : bindingsAlong t.labels es parts = some bs
  answers : answers (table (follow es t)) method = true ∨ method = none ∧ es.getLast? = some .rest

/-! ## One step of a search -/

/-- An empty table answers nothing. -/
@[simp] theorem answers_nil (method : Option String) : answers ([] : MethodTable E) method = false := by
  cases method <;> simp [answers, serving, Assoc.get?]

/-- Nothing is found where no route is. -/
@[simp] theorem find_empty (method : Option String) (parts : List String)
    (params : List (String × String)) : find method parts params (empty : Trie E) = none := by
  cases parts with
  | nil => simp [empty, find]
  | cons part parts => simp [empty, find, Assoc.get?]

/-- What a search finds by way of the parameter edge. -/
def viaParam (method : Option String) (part : String) (parts : List String)
    (params : List (String × String)) (t : Trie E) : Option (MethodTable E × List (String × String)) :=
  (label .param t).bind fun l =>
    if l.2.accepts part then find method parts (Assoc.set l.1 part params) (child .param t) else none

/-- What a search finds by way of the edge for the rest. -/
def viaRest (method : Option String) (part : String) (parts : List String)
    (params : List (String × String)) (t : Trie E) : Option (MethodTable E × List (String × String)) :=
  (label .rest t).bind fun l =>
    if method.isNone || answers (table (child .rest t)) method then
      some (table (child .rest t), Assoc.set l.1 (Text.join "/" (part :: parts)) params)
    else none

/-- A search at a node without children tries the parameter edge and then the edge for the rest. -/
theorem find_cons_childless (method : Option String) (part : String) (parts : List String)
    (params : List (String × String)) (routes : MethodTable E)
    (param : Option (String × Converter × Trie E)) (catchAll : Option (String × MethodTable E)) :
    find method (part :: parts) params (.node routes [] param catchAll) =
      (viaParam method part parts params (.node routes [] param catchAll)).or
        (viaRest method part parts params (.node routes [] param catchAll)) := by
  simp only [find, Assoc.get?]
  cases param with
  | none => cases catchAll <;> simp [viaParam, viaRest, label, child, table]
  | some edge =>
    obtain ⟨name, converter, next⟩ := edge
    simp only [viaParam, label, child, Option.map_some, Option.bind_some, Option.getD_some]
    cases (if converter.accepts part = true then find method parts (Assoc.set name part params) next
      else none) with
    | some r => rfl
    | none => cases catchAll <;> simp [viaRest, label, child, table]

/-- A search tries the three edges of a node one after the other. -/
theorem find_cons (method : Option String) (part : String) (parts : List String)
    (params : List (String × String)) (t : Trie E) :
    find method (part :: parts) params t =
      (find method parts params (child (.fixed part) t)).or
        ((viaParam method part parts params t).or (viaRest method part parts params t)) := by
  obtain ⟨routes, children, param, catchAll⟩ := t
  -- what is tried when the text itself leads nowhere is a search that knows no children
  have hothers := find_cons_childless method part parts params routes param catchAll
  simp only [find, Assoc.get?] at hothers
  simp only [find, child]
  cases Assoc.get? part children with
  | none =>
    rw [Option.getD_none, find_empty, Option.none_or]
    exact hothers
  | some next =>
    rw [Option.getD_some]
    dsimp only
    cases find method parts params next with
    | some r => rfl
    | none => exact hothers

/-! ## One edge of a row -/

/-- The labels behind an edge are those of the node that it leads to. -/
theorem labels_child (e : Edge) (t : Trie E) :
    (fun before => t.labels (e :: before)) = (child e t).labels := rfl

/-- A path without segments is accepted by no edges at all. -/
theorem accepts_nil_iff {t : Trie E} {method : Option String} {es : List Edge}
    {bs : List (String × String)} :
    t.Accepts method [] es bs ↔ es = [] ∧ bs = [] ∧ ServerTree.Trie.answers (table t) method = true := by
  constructor
  · rintro ⟨hbindings, hanswers⟩
    cases es with
    | nil =>
      have hbs : bs = [] := by simpa [bindingsAlong] using hbindings.symm
      exact ⟨rfl, hbs, by simpa [follow] using hanswers⟩
    | cons e es => simp [bindingsAlong] at hbindings
  · rintro ⟨rfl, rfl, hanswers⟩
    exact ⟨rfl, .inl hanswers⟩

/-- An edge for fixed text accepts just this text. -/
theorem accepts_fixed_iff {t : Trie E} {method : Option String} {text part : String}
    {parts : List String} {es : List Edge} {bs : List (String × String)} :
    t.Accepts method (part :: parts) (.fixed text :: es) bs ↔
      text = part ∧ (child (.fixed part) t).Accepts method parts es bs := by
  have hlast : (Edge.fixed text :: es).getLast? = some .rest ↔ es.getLast? = some .rest := by
    cases es <;> simp
  constructor
  · rintro ⟨hbindings, hanswers⟩
    by_cases heq : text = part
    · subst heq
      refine ⟨rfl, by simpa [bindingsAlong, labels_child] using hbindings, ?_⟩
      simpa [follow, hlast] using hanswers
    · simp [bindingsAlong, heq] at hbindings
  · rintro ⟨rfl, hbindings, hanswers⟩
    exact ⟨by simpa [bindingsAlong, labels_child] using hbindings,
      by simpa [follow, hlast] using hanswers⟩

/-- A parameter edge accepts what its converter accepts. -/
theorem accepts_param_iff {t : Trie E} {method : Option String} {part : String}
    {parts : List String} {es : List Edge} {bs : List (String × String)} :
    t.Accepts method (part :: parts) (.param :: es) bs ↔
      ∃ l bs', label .param t = some l ∧ l.2.accepts part = true ∧ bs = (l.1, part) :: bs' ∧
        (child .param t).Accepts method parts es bs' := by
  have hlast : (Edge.param :: es).getLast? = some .rest ↔ es.getLast? = some .rest := by
    cases es <;> simp
  constructor
  · rintro ⟨hbindings, hanswers⟩
    cases hl : label .param t with
    | none => simp [bindingsAlong, labels, follow, hl] at hbindings
    | some l =>
      by_cases hacc : l.2.accepts part = true
      · simp only [bindingsAlong, labels, follow, hl, hacc, if_true, Option.map_eq_some_iff]
          at hbindings
        obtain ⟨bs', hbs', rfl⟩ := hbindings
        exact ⟨l, bs', rfl, hacc, rfl, hbs', by simpa [follow, hlast] using hanswers⟩
      · simp [bindingsAlong, labels, follow, hl, hacc] at hbindings
  · rintro ⟨l, bs', hl, hacc, rfl, hbindings, hanswers⟩
    refine ⟨?_, by simpa [follow, hlast] using hanswers⟩
    simp only [bindingsAlong, labels, follow, hl, hacc, if_true, Option.map_eq_some_iff]
    exact ⟨bs', hbindings, rfl⟩

/-- An edge for the rest accepts everything, and nothing follows it. -/
theorem accepts_rest_iff {t : Trie E} {method : Option String} {part : String}
    {parts : List String} {es : List Edge} {bs : List (String × String)} :
    t.Accepts method (part :: parts) (.rest :: es) bs ↔
      es = [] ∧ ∃ l, label .rest t = some l ∧ bs = [(l.1, Text.join "/" (part :: parts))] ∧
        (method.isNone || ServerTree.Trie.answers (table (child .rest t)) method) = true := by
  cases es with
  | cons e es =>
    refine ⟨fun h => ?_, fun h => absurd h.1 (List.cons_ne_nil _ _)⟩
    have hbindings := h.bindings
    simp [bindingsAlong] at hbindings
  | nil =>
    constructor
    · rintro ⟨hbindings, hanswers⟩
      simp only [bindingsAlong, labels, follow, Option.map_eq_some_iff] at hbindings
      obtain ⟨l, hl, rfl⟩ := hbindings
      refine ⟨rfl, l, hl, rfl, ?_⟩
      rcases hanswers with h | ⟨rfl, -⟩
      · simpa [follow] using .inr h
      · rfl
    · rintro ⟨-, l, hl, rfl, hanswers⟩
      refine ⟨by simp [bindingsAlong, labels, follow, hl], ?_⟩
      -- without a method even an empty table answers at this edge
      cases method with
      | none => exact .inr ⟨rfl, rfl⟩
      | some m => exact .inl (by simpa [follow] using hanswers)

/-! ## Searches -/

/-- A search that fails has no row of edges to end with. -/
theorem not_accepts_of_find_eq_none {t : Trie E} {method : Option String} {parts : List String}
    {params : List (String × String)} (h : find method parts params t = none) (es : List Edge)
    (bs : List (String × String)) : ¬ t.Accepts method parts es bs := by
  induction parts generalizing t params es bs with
  | nil =>
    intro hacc
    obtain ⟨-, -, hanswers⟩ := accepts_nil_iff.mp hacc
    cases t
    simp [table] at hanswers
    simp [find, hanswers] at h
  | cons part parts ih =>
    rw [find_cons, Option.or_eq_none_iff, Option.or_eq_none_iff] at h
    -- a row of edges starts with one of the three that were tried in vain
    obtain ⟨hfixed, hparam, hrest⟩ := h
    intro hacc
    cases es with
    | nil => simpa [bindingsAlong] using hacc.bindings
    | cons e es =>
      cases e with
      | fixed text =>
        obtain ⟨rfl, hbelow⟩ := accepts_fixed_iff.mp hacc
        exact ih hfixed es bs hbelow
      | param =>
        obtain ⟨l, bs', hl, haccepts, -, hbelow⟩ := accepts_param_iff.mp hacc
        simp only [viaParam, hl, Option.bind_some, haccepts, if_true] at hparam
        exact ih hparam es bs' hbelow
      | rest =>
        obtain ⟨-, l, hl, -, hanswers⟩ := accepts_rest_iff.mp hacc
        simp [viaRest, hl, hanswers] at hrest

/-- A row of edges that a search could end with, and that comes before all others. -/
structure IsFirst (t : Trie E) (method : Option String) (parts : List String) (es : List Edge)
    (bs : List (String × String)) : Prop where
  accepts : t.Accepts method parts es bs
  first : ∀ es' bs', t.Accepts method parts es' bs' → es' = es ∨ List.Lex Edge.Precedes es es'

/-- What is first behind the text itself is first. -/
theorem IsFirst.fixed {t : Trie E} {method : Option String} {part : String} {parts : List String}
    {es : List Edge} {bs : List (String × String)}
    (h : (child (.fixed part) t).IsFirst method parts es bs) :
    t.IsFirst method (part :: parts) (.fixed part :: es) bs := by
  refine ⟨accepts_fixed_iff.mpr ⟨rfl, h.accepts⟩, ?_⟩
  intro es' bs' hacc
  cases es' with
  | nil => simpa [bindingsAlong] using hacc.bindings
  | cons e es' =>
    cases e with
    | fixed text =>
      obtain ⟨rfl, hbelow⟩ := accepts_fixed_iff.mp hacc
      rcases h.first es' bs' hbelow with rfl | hlex
      · exact .inl rfl
      · exact .inr (.cons hlex)
    | param => exact .inr (.rel (Edge.fixed_precedes_param part))
    | rest => exact .inr (.rel (Edge.fixed_precedes_rest part))

/-- What is first behind the parameter edge is first, when the text itself leads nowhere. -/
theorem IsFirst.param {t : Trie E} {method : Option String} {part : String} {parts : List String}
    {es : List Edge} {bs : List (String × String)} {l : String × Converter}
    (hl : label .param t = some l) (haccepts : l.2.accepts part = true)
    (h : (child .param t).IsFirst method parts es bs)
    (nofixed : ∀ es' bs', ¬ (child (.fixed part) t).Accepts method parts es' bs') :
    t.IsFirst method (part :: parts) (.param :: es) ((l.1, part) :: bs) := by
  refine ⟨accepts_param_iff.mpr ⟨l, bs, hl, haccepts, rfl, h.accepts⟩, ?_⟩
  intro es' bs' hacc
  cases es' with
  | nil => simpa [bindingsAlong] using hacc.bindings
  | cons e es' =>
    cases e with
    | fixed text => exact absurd (accepts_fixed_iff.mp hacc).2 (nofixed es' bs')
    | param =>
      obtain ⟨_, bs'', -, -, -, hbelow⟩ := accepts_param_iff.mp hacc
      rcases h.first es' bs'' hbelow with rfl | hlex
      · exact .inl rfl
      · exact .inr (.cons hlex)
    | rest => exact .inr (.rel Edge.param_precedes_rest)

/-- The edge for the rest is first, when nothing else leads anywhere. -/
theorem IsFirst.rest {t : Trie E} {method : Option String} {part : String} {parts : List String}
    {l : String × Converter} (hl : label .rest t = some l)
    (hanswers : (method.isNone || ServerTree.Trie.answers (table (child .rest t)) method) = true)
    (nofixed : ∀ es' bs', ¬ (child (.fixed part) t).Accepts method parts es' bs')
    (noparam : ∀ l', label .param t = some l' → l'.2.accepts part = true →
      ∀ es' bs', ¬ (child .param t).Accepts method parts es' bs') :
    t.IsFirst method (part :: parts) [.rest] [(l.1, Text.join "/" (part :: parts))] := by
  refine ⟨accepts_rest_iff.mpr ⟨rfl, l, hl, rfl, hanswers⟩, ?_⟩
  intro es' bs' hacc
  cases es' with
  | nil => simpa [bindingsAlong] using hacc.bindings
  | cons e es' =>
    cases e with
    | fixed text => exact absurd (accepts_fixed_iff.mp hacc).2 (nofixed es' bs')
    | param =>
      obtain ⟨l', bs'', hl', haccepts, -, hbelow⟩ := accepts_param_iff.mp hacc
      exact absurd hbelow (noparam l' hl' haccepts es' bs'')
    | rest =>
      obtain ⟨rfl, -⟩ := accepts_rest_iff.mp hacc
      exact .inl rfl

/-- **Soundness of the search**: it ends with the table of the first row of edges that accepts the path,
and adds the bindings of this row to the parameters. -/
theorem find_sound {t : Trie E} {method : Option String} {parts : List String}
    {params params' : List (String × String)} {found : MethodTable E}
    (h : find method parts params t = some (found, params')) :
    ∃ es bs, t.IsFirst method parts es bs ∧ found = table (follow es t) ∧
      params' = Assoc.update params bs := by
  induction parts generalizing t params with
  | nil =>
    obtain ⟨routes, children, param, catchAll⟩ := t
    -- at the end of the path the node itself has to answer
    cases hanswers : ServerTree.Trie.answers routes method with
    | false => simp [find, hanswers] at h
    | true =>
      obtain ⟨rfl, rfl⟩ : routes = found ∧ params = params' := by simpa [find, hanswers] using h
      refine ⟨[], [], ⟨accepts_nil_iff.mpr ⟨rfl, rfl, hanswers⟩, ?_⟩, rfl, rfl⟩
      intro es' bs' hacc
      exact .inl (accepts_nil_iff.mp hacc).1
  | cons part parts ih =>
    rw [find_cons] at h
    cases hfixed : find method parts params (child (.fixed part) t) with
    | some r =>
      obtain rfl : r = (found, params') := by simpa [hfixed] using h
      obtain ⟨es, bs, hfirst, hfound, hparams⟩ := ih hfixed
      exact ⟨_, bs, hfirst.fixed, hfound, hparams⟩
    | none =>
      -- what failed before accepts nothing, and so what is found now is first
      have nofixed := not_accepts_of_find_eq_none hfixed
      rw [hfixed, Option.none_or] at h
      cases hparam : viaParam method part parts params t with
      | some r =>
        obtain rfl : r = (found, params') := by simpa [hparam] using h
        obtain ⟨l, hl, hbelow⟩ := Option.bind_eq_some_iff.mp hparam
        by_cases haccepts : l.2.accepts part = true
        · rw [if_pos haccepts] at hbelow
          obtain ⟨es, bs, hfirst, hfound, hparams⟩ := ih hbelow
          exact ⟨_, _, hfirst.param hl haccepts nofixed, hfound, hparams⟩
        · simp [haccepts] at hbelow
      | none =>
        have noparam : ∀ l', label .param t = some l' → l'.2.accepts part = true →
            ∀ es' bs', ¬ (child .param t).Accepts method parts es' bs' := by
          intro l' hl' haccepts
          simp only [viaParam, hl', Option.bind_some, haccepts, if_true] at hparam
          exact not_accepts_of_find_eq_none hparam
        rw [hparam, Option.none_or] at h
        obtain ⟨l, hl, hrest⟩ := Option.bind_eq_some_iff.mp h
        by_cases hanswers :
            (method.isNone || ServerTree.Trie.answers (table (child .rest t)) method) = true
        · obtain ⟨rfl, rfl⟩ := by simpa [hanswers] using hrest
          exact ⟨_, _, .rest hl hanswers nofixed noparam, rfl, rfl⟩
        · simp [hanswers] at hrest

/-- **Completeness of the search**: it fails only when no row of edges accepts the path and answers. -/
theorem find_eq_none_iff {t : Trie E} {method : Option String} {parts : List String}
    (params : List (String × String)) :
    find method parts params t = none ↔ ∀ es bs, ¬ t.Accepts method parts es bs := by
  constructor
  · exact not_accepts_of_find_eq_none
  · intro hno
    cases hfind : find method parts params t with
    | none => rfl
    | some r =>
      obtain ⟨found, params'⟩ := r
      obtain ⟨es, bs, hfirst, -⟩ := find_sound hfind
      exact absurd hfirst.accepts (hno es bs)

end Trie

end ServerTree
