import ServerTree.Routing.Segment
import ServerTree.Assoc

/-!
# The language of a pattern

A pattern of a route is read in two ways. For a request it is a language of paths: `bindings?` says which
rows of path segments belong to it, and what its parameters then stand for. For the trie it is a row of
edges with labels: two patterns with the same edges share all nodes on their way, and whichever came first
decides how an edge is labelled.

`bindingsAlong` joins both: it reads a path along a row of edges, with labels taken from anywhere.

## Main definitions
- `bindings?`: what the parameters of a pattern stand for
- `Edge`, `edgesOf`, `labelAt`: a pattern as a row of labelled edges
- `bindingsAlong`: what the parameters on a row of edges stand for

## Main statements
- `bindings?_eq_bindingsAlong`: a pattern is its edges with its own labels
- `bindingsAlong_congr`, `isSome_bindingsAlong_congr`: only the labels on the way matter
-/

namespace ServerTree

/-! ## Languages -/

/-- What the parameters of a pattern stand for along the segments of a path, or none when the path is not
in the language of the pattern. -/
def bindings? : List Segment → List String → Option (List (String × String))
  | [], [] => some []
  | [], _ :: _ => none
  | _ :: _, [] => none
  | .fixed text :: segments, part :: parts => if text = part then bindings? segments parts else none
  | .param _ name .rest :: _, part :: parts => some [(name, Text.join "/" (part :: parts))]
  | .param _ name converter :: segments, part :: parts =>
    if converter.accepts part then (bindings? segments parts).map ((name, part) :: ·) else none

/-! ## Edges and labels -/

/-- Where a segment leads from a node of the trie, whatever a parameter is called and accepts. -/
inductive Edge where
  | fixed (text : String)
  | param
  | rest
deriving DecidableEq, Repr

/-- The order in which a search tries edges. -/
def Edge.rank : Edge → Nat
  | .fixed _ => 0
  | .param => 1
  | .rest => 2

/-- The edge that a segment follows. -/
def Segment.edge : Segment → Edge
  | .fixed text => .fixed text
  | .param _ _ .rest => .rest
  | .param _ _ _ => .param

/-- The name of an edge for the rest: one that has no name is called `path`. -/
def restName (name : String) : String := if name = "" then "path" else name

/-- The name and the converter that a segment gives to its edge. -/
def Segment.label? : Segment → Option (String × Converter)
  | .fixed _ => none
  | .param _ name .rest => some (restName name, .rest)
  | .param _ name converter => some (name, converter)

/-- The edges that a pattern follows. Nothing follows an edge for the rest. -/
def edgesOf : List Segment → List Edge
  | [] => []
  | s :: segments => s.edge :: if s.edge = .rest then [] else edgesOf segments

/-- The label that a pattern gives to the edge `e` at the end of the edges `before`, if it goes there. -/
def labelAt : List Segment → List Edge → Edge → Option (String × Converter)
  | [], _, _ => none
  | s :: _, [], e => if s.edge = e then s.label? else none
  | s :: segments, b :: before, e =>
    -- a pattern goes on behind an edge that it takes, unless it ends there
    if s.edge = b ∧ s.edge ≠ .rest then labelAt segments before e else none

/-- Names and converters of edges, by the edges before them. -/
abbrev Labels : Type := List Edge → Edge → Option (String × Converter)

/-- What the parameters on a row of edges stand for along the segments of a path. -/
def bindingsAlong : Labels → List Edge → List String → Option (List (String × String))
  | _, [], [] => some []
  | label, .fixed text :: es, part :: parts =>
    if text = part then bindingsAlong (fun before => label (.fixed text :: before)) es parts else none
  | label, .param :: es, part :: parts =>
    match label [] .param with
    | some (name, converter) =>
      if converter.accepts part then
        (bindingsAlong (fun before => label (.param :: before)) es parts).map ((name, part) :: ·)
      else none
    | none => none
  -- nothing may follow an edge for the rest
  | label, [.rest], part :: parts =>
    (label [] .rest).map fun l => [(l.1, Text.join "/" (part :: parts))]
  | _, _, _ => none

/-! ## Patterns, one segment at a time -/

/-- What is left of a pattern behind its first segment. -/
def tailOf (s : Segment) (segments : List Segment) : List Segment :=
  if s.edge = .rest then [] else segments

/-- Patterns are taken apart segment by segment, up to their end or their edge for the rest. -/
theorem tailOf_induction {motive : List Segment → Prop} (nil : motive [])
    (cons : ∀ s segments, motive (tailOf s segments) → motive (s :: segments)) :
    ∀ segments, motive segments
  | [] => nil
  | s :: segments => by
    apply cons s segments
    by_cases h : s.edge = .rest
    · simpa [tailOf, h] using nil
    · simpa [tailOf, h] using tailOf_induction nil cons segments

theorem edgesOf_cons (s : Segment) (segments : List Segment) :
    edgesOf (s :: segments) = s.edge :: edgesOf (tailOf s segments) := by
  by_cases h : s.edge = .rest <;> simp [edgesOf, tailOf, h]

theorem labelAt_cons (s : Segment) (segments : List Segment) (before : List Edge) (e : Edge) :
    labelAt (s :: segments) before e =
      match before with
      | [] => if s.edge = e then s.label? else none
      | b :: before => if s.edge = b then labelAt (tailOf s segments) before e else none := by
  cases before with
  | nil => rfl
  | cons b before =>
    by_cases hb : s.edge = b
    · subst hb
      by_cases hr : s.edge = .rest <;> simp [labelAt, tailOf, hr]
    · simp [labelAt, hb]

/-- A pattern labels the edge of its first segment, and those that its other segments label behind it. -/
theorem labelAt_cons_eq_some {s : Segment} {segments : List Segment} {before : List Edge} {e : Edge}
    {l : String × Converter} :
    labelAt (s :: segments) before e = some l ↔
      before = [] ∧ s.edge = e ∧ s.label? = some l ∨
        ∃ behind, before = s.edge :: behind ∧ labelAt (tailOf s segments) behind e = some l := by
  rw [labelAt_cons]
  cases before with
  | nil => simp
  | cons b before => simp [eq_comm (a := b), and_assoc]

/-- Edges for fixed text have no labels. -/
@[simp] theorem labelAt_fixed (segments : List Segment) (before : List Edge) (text : String) :
    labelAt segments before (.fixed text) = none := by
  induction segments using tailOf_induction generalizing before with
  | nil => rfl
  | cons s segments ih =>
    rw [labelAt_cons]
    cases before with
    | nil =>
      cases s with
      | fixed text' => simp [Segment.label?]
      | param written name converter => cases converter <;> simp [Segment.edge]
    | cons b before => simp [ih]

/-- A pattern labels the edges that it follows. -/
theorem isPrefix_of_labelAt {segments : List Segment} {before : List Edge} {e : Edge}
    {l : String × Converter} (h : labelAt segments before e = some l) :
    (before ++ [e]) <+: edgesOf segments := by
  induction segments using tailOf_induction generalizing before with
  | nil => simp [labelAt] at h
  | cons s segments ih =>
    rw [edgesOf_cons]
    rcases labelAt_cons_eq_some.mp h with ⟨rfl, rfl, -⟩ | ⟨behind, rfl, htail⟩
    · simp
    · simpa using ih htail

/-- A pattern labels all parameters that it follows. -/
theorem isSome_labelAt {segments : List Segment} {before : List Edge} {e : Edge}
    (h : (before ++ [e]) <+: edgesOf segments) (he : ∀ text, e ≠ .fixed text) :
    (labelAt segments before e).isSome = true := by
  induction segments using tailOf_induction generalizing before with
  | nil => simp [edgesOf] at h
  | cons s segments ih =>
    rw [edgesOf_cons] at h
    rw [labelAt_cons]
    cases before with
    | nil =>
      obtain rfl : e = s.edge := by simpa using h
      cases s with
      | fixed text => exact absurd rfl (he text)
      | param written name converter => cases converter <;> simp [Segment.label?]
    | cons b before =>
      obtain ⟨rfl, hrest⟩ : b = s.edge ∧ (before ++ [e]) <+: edgesOf (tailOf s segments) := by
        simpa using h
      simpa using ih hrest

/-- Nothing follows the edge for the rest. -/
theorem edgesOf_of_labelAt_rest {segments : List Segment} {before : List Edge}
    {l : String × Converter} (h : labelAt segments before .rest = some l) :
    edgesOf segments = before ++ [.rest] ∧ l.2 = .rest := by
  induction segments using tailOf_induction generalizing before with
  | nil => simp [labelAt] at h
  | cons s segments ih =>
    rw [edgesOf_cons]
    rcases labelAt_cons_eq_some.mp h with ⟨rfl, hedge, hl⟩ | ⟨behind, rfl, htail⟩
    · have hconverter : l.2 = .rest := by
        cases s with
        | fixed text => simp [Segment.edge] at hedge
        | param written name converter =>
          cases converter with
          | text | digits => simp [Segment.edge] at hedge
          | rest => rw [← Option.some.inj hl]
      exact ⟨by simp [hedge, tailOf, edgesOf], hconverter⟩
    · obtain ⟨hedges, hl⟩ := ih htail
      exact ⟨by simp [hedges], hl⟩

/-- The converter of a parameter edge is one that stands in the pattern, and it takes one segment. -/
theorem converter_of_labelAt_param {segments : List Segment} {before : List Edge}
    {l : String × Converter} (h : labelAt segments before .param = some l) :
    l.2 ≠ .rest ∧ ∃ s ∈ segments, s.converter = l.2 := by
  induction segments using tailOf_induction generalizing before with
  | nil => simp [labelAt] at h
  | cons s segments ih =>
    rcases labelAt_cons_eq_some.mp h with ⟨rfl, hedge, hl⟩ | ⟨behind, rfl, htail⟩
    · cases s with
      | fixed text => simp [Segment.edge] at hedge
      | param written name converter =>
        cases converter with
        | rest => simp [Segment.edge] at hedge
        | text | digits =>
          rw [← Option.some.inj hl]
          exact ⟨by simp, _, List.mem_cons_self .., rfl⟩
    · obtain ⟨hne, s', hs', hconverter⟩ := ih htail
      refine ⟨hne, s', ?_, hconverter⟩
      rw [tailOf] at hs'
      split at hs'
      · simp at hs'
      · exact List.mem_cons_of_mem _ hs'

/-- A row of edges that ends with the one for the rest is accepted only where this edge has a label. -/
theorem label_rest_of_bindingsAlong {label : Labels} {es : List Edge} {parts : List String}
    {bs : List (String × String)} (h : bindingsAlong label es parts = some bs)
    (hlast : es.getLast? = some .rest) :
    ∃ before, es = before ++ [.rest] ∧ (label before .rest).isSome = true := by
  induction es generalizing label parts bs with
  | nil => simp at hlast
  | cons e es ih =>
    cases parts with
    | nil => simp [bindingsAlong] at h
    | cons part parts =>
      cases es with
      | nil =>
        obtain rfl : e = .rest := by simpa using hlast
        refine ⟨[], rfl, ?_⟩
        cases hl : label [] .rest with
        | none => simp [bindingsAlong, hl] at h
        | some l => rfl
      | cons e' es =>
        have hlast' : (e' :: es).getLast? = some .rest := by simpa using hlast
        cases e with
        | fixed text =>
          by_cases heq : text = part
          · subst heq
            obtain ⟨before, hes, hl⟩ := ih (by simpa [bindingsAlong] using h) hlast'
            exact ⟨_ :: before, by rw [hes]; rfl, hl⟩
          · simp [bindingsAlong, heq] at h
        | param =>
          cases hl : label [] .param with
          | none => simp [bindingsAlong, hl] at h
          | some l =>
            -- the label in question is behind this edge, where `ih` finds it
            by_cases hacc : l.2.accepts part = true
            · simp only [bindingsAlong, hl, hacc, if_true, Option.map_eq_some_iff] at h
              obtain ⟨bs', hbs', -⟩ := h
              obtain ⟨before, hes, hlabel⟩ := ih hbs' hlast'
              exact ⟨_ :: before, by rw [hes]; rfl, hlabel⟩
            · simp [bindingsAlong, hl, hacc] at h
        | rest => simp [bindingsAlong] at h

/-! ## Patterns as labelled edges -/

/-- A pattern whose parameters all have names. -/
def Named (segments : List Segment) : Prop :=
  ∀ s ∈ segments, s.name? ≠ some ""

theorem restName_of_ne {name : String} (h : name ≠ "") : restName name = name := by
  simp [restName, h]

theorem name_ne_of_braced? {part : List Char} {name : String} {written : Option String}
    (h : braced? part = some (name, written)) : name ≠ "" := by
  -- names are checked not to be empty when braces are read
  have hof : ∀ cs : List Char, (!cs.isEmpty && cs.all Text.isWord) = true → String.ofList cs ≠ "" := by
    intro cs hcs heq
    cases cs with
    | nil => simp at hcs
    | cons c cs => simp at heq
  unfold braced? at h
  split at h
  · split at h
    · dsimp only at h
      split at h
      · next n _ =>
        split at h
        · next hn =>
          obtain ⟨rfl, -⟩ := by simpa using h
          exact hof n hn
        · simp at h
      · next n c _ =>
        split at h
        · next hn =>
          obtain ⟨rfl, -⟩ := by simpa using h
          rw [Bool.and_eq_true] at hn
          exact hof n hn.1
        · simp at h
    · simp at h
  · simp at h

/-- A segment is read as fixed text, or as a parameter when it is one in braces. -/
theorem parseSegment_eq_ok {route : String} {last : Bool} {part : String} {s : Segment}
    (h : parseSegment route last part = .ok s) :
    s = .fixed part ∨ ∃ name written converter, braced? part.toList = some (name, written) ∧
      s = .param part name converter := by
  unfold parseSegment at h
  split at h
  · split at h
    · simp at h
    · exact .inl (by simpa using h.symm)
  · next name written hbraced =>
    dsimp only at h
    split at h
    · simp at h
    · split at h
      · exact .inr ⟨name, written, .rest, hbraced, by simpa using h.symm⟩
      · simp at h
    · exact .inr ⟨name, written, _, hbraced, by simpa using h.symm⟩

theorem name_ne_of_parseSegment {route : String} {last : Bool} {part : String} {s : Segment}
    (h : parseSegment route last part = .ok s) : s.name? ≠ some "" := by
  rcases parseSegment_eq_ok h with rfl | ⟨name, written, converter, hbraced, rfl⟩
  · simp [Segment.name?]
  · simpa [Segment.name?] using name_ne_of_braced? hbraced

/-- Fixed text is what was written. -/
theorem eq_of_parseSegment_fixed {route : String} {last : Bool} {part text : String} {s : Segment}
    (h : parseSegment route last part = .ok s) (hs : s.edge = .fixed text) : text = part := by
  rcases parseSegment_eq_ok h with rfl | ⟨name, written, converter, -, rfl⟩
  · simpa [Segment.edge] using hs.symm
  · cases converter <;> simp [Segment.edge] at hs

/-- Segments are read one after the other. -/
theorem parseSegments_cons_eq_ok {route part : String} {parts : List String} {segments : List Segment}
    (h : parseSegments route (part :: parts) = .ok segments) :
    ∃ s rest, parseSegment route parts.isEmpty part = .ok s ∧ parseSegments route parts = .ok rest ∧
      segments = s :: rest := by
  rw [parseSegments] at h
  cases hs : parseSegment route parts.isEmpty part with
  | error e => simp [hs, bind, Except.bind] at h
  | ok s =>
    cases hrest : parseSegments route parts with
    | error e => simp [hs, hrest, bind, Except.bind] at h
    | ok rest =>
      refine ⟨s, rest, rfl, rfl, ?_⟩
      simpa [hs, hrest, bind, Except.bind, pure, Except.pure] using h.symm

theorem parseSegment_eq_error {route part : String} {last : Bool} {refusal : Refusal}
    (h : parseSegment route last part = .error refusal) :
    (∃ malformed, refusal = .malformedSegment malformed route) ∨
      (∃ word, refusal = .unknownConverter word route) ∨ refusal = .catchAllNotLast route := by
  rw [parseSegment] at h
  cases hbraced : braced? part.toList with
  | none =>
    simp only [hbraced] at h
    split at h
    · exact .inl ⟨part, (Except.error.inj h).symm⟩
    · cases h
  | some read =>
    obtain ⟨name, written⟩ := read
    simp only [hbraced] at h
    cases hword : Converter.ofName? (written.getD "str") with
    | none =>
      simp only [hword] at h
      exact .inr (.inl ⟨_, (Except.error.inj h).symm⟩)
    | some converter =>
      simp only [hword] at h
      cases converter with
      | text | digits => cases h
      | rest =>
        cases last with
        | true => cases h
        | false => exact .inr (.inr (Except.error.inj h).symm)

/-- What a pattern is refused for: braces that are no parameter, a converter that is unknown, or a parameter
for the rest before the end. -/
theorem parseSegments_eq_error {route : String} {parts : List String} {refusal : Refusal}
    (h : parseSegments route parts = .error refusal) :
    (∃ malformed, refusal = .malformedSegment malformed route) ∨
      (∃ word, refusal = .unknownConverter word route) ∨ refusal = .catchAllNotLast route := by
  induction parts with
  | nil => cases h
  | cons part parts ih =>
    rw [parseSegments] at h
    cases hs : parseSegment route parts.isEmpty part with
    | error first =>
      obtain rfl : first = refusal := by simpa [hs, bind, Except.bind] using h
      exact parseSegment_eq_error hs
    | ok s =>
      cases hrest : parseSegments route parts with
      | error later =>
        obtain rfl : later = refusal := by simpa [hs, hrest, bind, Except.bind] using h
        exact ih hrest
      | ok rest => simp [hs, hrest, bind, Except.bind, pure, Except.pure] at h

theorem named_of_parseSegments {route : String} {parts : List String} {segments : List Segment}
    (h : parseSegments route parts = .ok segments) : Named segments := by
  induction parts generalizing segments with
  | nil =>
    obtain rfl : [] = segments := by simpa [parseSegments] using h
    intro s hs
    simp at hs
  | cons part parts ih =>
    obtain ⟨s, rest, hs, hrest, rfl⟩ := parseSegments_cons_eq_ok h
    intro s' hs'
    rcases List.mem_cons.mp hs' with rfl | hmem
    · exact name_ne_of_parseSegment hs
    · exact ih hrest s' hmem

/-- The fixed texts of a pattern are segments of it as it is written. -/
theorem mem_of_parseSegments_fixed {route text : String} {parts : List String} {segments : List Segment}
    (h : parseSegments route parts = .ok segments) (hmem : Edge.fixed text ∈ edgesOf segments) :
    text ∈ parts := by
  induction parts generalizing segments with
  | nil =>
    obtain rfl : [] = segments := by simpa [parseSegments] using h
    simp [edgesOf] at hmem
  | cons part parts ih =>
    obtain ⟨s, rest, hs, hrest, rfl⟩ := parseSegments_cons_eq_ok h
    rw [edgesOf] at hmem
    rcases List.mem_cons.mp hmem with hhead | htail
    · rw [eq_of_parseSegment_fixed hs hhead.symm]
      exact List.mem_cons_self ..
    · split at htail
      · simp at htail
      · exact List.mem_cons_of_mem _ (ih hrest htail)

/-- Every parameter of a pattern that was read has a name. -/
theorem named_of_parsePattern {route : String} {segments : List Segment}
    (h : parsePattern route = .ok segments) : Named segments :=
  named_of_parseSegments h

/-- A pattern is the row of its edges, read with its own labels. -/
theorem bindings?_eq_bindingsAlong (segments : List Segment) (parts : List String)
    (named : Named segments) :
    bindings? segments parts = bindingsAlong (labelAt segments) (edgesOf segments) parts := by
  induction segments generalizing parts with
  | nil => cases parts <;> rfl
  | cons s segments ih =>
    have hs : s.name? ≠ some "" := named s (List.mem_cons_self ..)
    have hrest : Named segments := fun s' hs' => named s' (List.mem_cons_of_mem _ hs')
    cases parts with
    | nil => cases s with
      | fixed text => rfl
      | param written name converter => cases converter <;> rfl
    | cons part parts =>
      cases s with
      | fixed text =>
        simp [bindings?, bindingsAlong, edgesOf, Segment.edge, labelAt, ih parts hrest]
      | param written name converter =>
        have hname : name ≠ "" := fun h => hs (by simp [Segment.name?, h])
        cases converter with
        | text =>
          simp [bindings?, bindingsAlong, edgesOf, Segment.edge, labelAt, Segment.label?, ih parts hrest]
        | digits =>
          simp [bindings?, bindingsAlong, edgesOf, Segment.edge, labelAt, Segment.label?, ih parts hrest]
        | rest =>
          -- the trie would call an edge without a name `path`; this one has a name
          simp [bindings?, bindingsAlong, edgesOf, Segment.edge, labelAt, Segment.label?,
            restName_of_ne hname]

/-- Only the labels of the edges on the way matter. -/
theorem bindingsAlong_congr {label label' : Labels} {es : List Edge}
    (h : ∀ before e, (before ++ [e]) <+: es → label before e = label' before e) (parts : List String) :
    bindingsAlong label es parts = bindingsAlong label' es parts := by
  induction es generalizing label label' parts with
  | nil => cases parts <;> rfl
  | cons e es ih =>
    have hhead : label [] e = label' [] e := h [] e (by simp)
    have htail : ∀ before e', (before ++ [e']) <+: es →
        label (e :: before) e' = label' (e :: before) e' := by
      intro before e' hp
      exact h (e :: before) e' (by simpa using hp)
    cases parts with
    | nil => simp [bindingsAlong]
    | cons part parts =>
      cases e with
      | fixed text => simp only [bindingsAlong, ih htail]
      | param => simp only [bindingsAlong, hhead, ih htail]
      | rest => cases es with
        | nil => simp only [bindingsAlong, hhead]
        | cons e' es => rfl

/-- Only the converters of the edges on the way decide whether a path is accepted. -/
theorem isSome_bindingsAlong_congr {label label' : Labels} {es : List Edge}
    (h : ∀ before e, (before ++ [e]) <+: es →
      (label before e).map Prod.snd = (label' before e).map Prod.snd) (parts : List String) :
    (bindingsAlong label es parts).isSome = (bindingsAlong label' es parts).isSome := by
  induction es generalizing label label' parts with
  | nil => cases parts <;> rfl
  | cons e es ih =>
    have hhead := h [] e (by simp)
    have htail : ∀ before e', (before ++ [e']) <+: es →
        (label (e :: before) e').map Prod.snd = (label' (e :: before) e').map Prod.snd := by
      intro before e' hp
      exact h (e :: before) e' (by simpa using hp)
    cases parts with
    | nil => simp [bindingsAlong]
    | cons part parts =>
      cases e with
      | fixed text =>
        simp only [bindingsAlong]
        split
        · exact ih htail parts
        · rfl
      | param =>
        have hnext := ih htail parts
        simp only [bindingsAlong]
        cases hl : label [] .param with
        | none =>
          cases hl' : label' [] .param with
          | none => rfl
          | some l' => simp [hl, hl'] at hhead
        | some l =>
          cases hl' : label' [] .param with
          | none => simp [hl, hl'] at hhead
          | some l' =>
            -- the names may differ here: they change what is bound, not whether the part is accepted
            have hconv : l.2 = l'.2 := by simpa [hl, hl'] using hhead
            simp only [hconv]
            split
            · simpa using hnext
            · rfl
      | rest => cases es with
        | nil =>
          simp only [bindingsAlong, Option.isSome_map]
          cases hl : label [] .rest <;> cases hl' : label' [] .rest <;> simp_all
        | cons e' es => rfl

end ServerTree
