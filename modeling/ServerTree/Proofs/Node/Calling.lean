import ServerTree.Proofs.Node.Expansion

/-!
# The calls of a resolution

Resolving an element follows a chain, in which each element is followed by what its composite returns. Where the
chain comes to anything else within the number of calls that are allowed, just the composites of its elements
have been called, in order and each once, and what the chain has ended in is given back. A node without children
of its own gets those of the last element that has any. A chain that goes on is refused after as many calls as
are allowed.

## Main definitions
- `CompositeCall`, `Composites.recording`: calls of composites, and composites that record them
- `Chain`: elements, each followed by what its composite returns
- `donated`: the children that a chain has for the node in which it ends

## Main statements
- `resolveWithin_of_chain`, `resolveWithin_of_long_chain`: what resolving with a number of calls comes to
- `exists_chain`: what a chain ends in when it is followed as far as calls are allowed
- `resolve_follows_chain`: what resolving a value comes to, with its calls
-/

namespace ServerTree

/-! ## Calls that are recorded -/

/-- A call of a composite: with its properties, and with children when it accepts them. -/
structure CompositeCall where
  fn : Func
  props : List (String × Value)
  children : Option (List Value)

/-- What a composite returns when it is called. -/
def Composites.result (g : Composites) (c : CompositeCall) : Value := g c.fn c.props c.children

/-- Composites that record each of their calls. -/
def Composites.recording (g : Composites) : Expander (List CompositeCall) := fun fn props children => do
  modify fun calls => calls ++ [⟨fn, props, children⟩]
  return g.result ⟨fn, props, children⟩

/-! ## Chains -/

/-- Whether a value is an element, for which a composite is to be called. -/
def Value.isElement : Value → Bool
  | .element .. => true
  | _ => false

/-- An element whose composite can be called: a function, with properties that are named by texts. -/
structure Link where
  fn : Func
  props : List (String × Value)
  children : List Value

namespace Link

/-- The element as a value. -/
def value (l : Link) : Value := .element (.func l.fn) (l.props.map fun e => (.str e.1, e.2)) l.children

/-- The call of its composite. -/
def call (l : Link) : CompositeCall := ⟨l.fn, l.props, if l.fn.takesChildren then some l.children else none⟩

end Link

/-- A chain from one value to another: each element in it is followed by what its composite returns. -/
inductive Chain (g : Composites) : Value → List Link → Value → Prop where
  | nil {v : Value} : Chain g v [] v
  | cons {l : Link} {links : List Link} {w : Value} (rest : Chain g (g.result l.call) links w) :
      Chain g l.value (l :: links) w

/-- The children of the last element of a chain that has any. -/
def donated (links : List Link) : List Value :=
  ((links.map Link.children).filter fun children => !children.isEmpty).getLastD []

/-- What a chain gives that ends in a value: a node, which gets the children that the chain has for it unless it
has its own, a row of values, or nothing. -/
def Value.ending (children : List Value) : Value → Resolved
  | .node p [] => .node p children
  | .node p own => .node p own
  | .list xs | .tuple xs => .items xs
  | _ => .nothing

/-- How many elements a chain has, the value in which it ends among them. -/
def elementCount (links : List Link) (last : Value) : Nat := links.length + if last.isElement then 1 else 0

/-- The children of later elements come before those of earlier ones. -/
theorem donated_cons (l : Link) (links : List Link) :
    donated (l :: links) = if (donated links).isEmpty then l.children else donated links := by
  have hnonempty : ∀ children ∈ (links.map Link.children).filter fun children => !children.isEmpty,
      children.isEmpty = false := by
    intro children hmem
    simpa using (List.mem_filter.mp hmem).2
  rw [donated, donated, List.map_cons, List.filter_cons]
  rcases List.eq_nil_or_concat ((links.map Link.children).filter fun children => !children.isEmpty) with
    hnone | ⟨before, children, hlast⟩
  · rw [hnone]
    cases hown : l.children <;> rfl
  · rw [hlast, List.concat_eq_append] at hnonempty ⊢
    have hsome : children.isEmpty = false := hnonempty children (by simp)
    have hlater : (before ++ [children]).getLastD [] = children := List.getLastD_concat
    have hboth : (l.children :: (before ++ [children])).getLastD [] = children := by
      rw [← List.cons_append, List.getLastD_concat]
    rw [hlater, hsome]
    split
    · exact hboth
    · exact hlater

/-- What an element gives to what its composite has led to is what it adds to the chain. -/
theorem adopt_ending (l : Link) (links : List Link) (w : Value) :
    (w.ending (donated links)).adopt l.children = w.ending (donated (l :: links)) := by
  rw [donated_cons]
  cases w with
  | node p own =>
    cases own with
    | nil =>
      cases hdonated : donated links with
      | nil => rfl
      | cons child children => rfl
    | cons child children => rfl
  | _ => rfl

/-! ## Following a chain -/

@[simp] theorem textFields_texts (props : List (String × Value)) :
    Value.textFields (props.map fun e => (.str e.1, e.2)) = props := by
  rw [Value.textFields, List.filterMap_map]
  exact List.filterMap_some

/-- The composite of an element is called with what the element carries. -/
theorem outcome_call_link (g : Composites) (l : Link) (log : List CompositeCall) :
    outcome (callComposite g.recording (.func l.fn) (l.props.map fun e => (.str e.1, e.2)) l.children) log =
      (.ok (g.result l.call), log ++ [l.call]) := by
  simp only [callComposite, textFields_texts, List.length_map]
  rfl

/-- One more element comes before what its composite leads to. -/
theorem outcome_resolveWithin_link (g : Composites) (n : Nat) (l : Link) (log : List CompositeCall) :
    outcome (resolveWithin g.recording (n + 1) l.value) log =
      ((outcome (resolveWithin g.recording n (g.result l.call)) (log ++ [l.call])).1.map (Resolved.adopt l.children),
        (outcome (resolveWithin g.recording n (g.result l.call)) (log ++ [l.call])).2) := by
  rw [Link.value, resolveWithin, outcome_bind, outcome_call_link]
  simp only [outcome_bind]
  cases outcome (resolveWithin g.recording n (g.result l.call)) (log ++ [l.call]) with
  | mk r log' => cases r <;> rfl

/-- What is no element is what it stands for. -/
theorem outcome_resolveWithin_ending {U : Type} {call : Expander U} {w : Value} (h : w.isElement = false)
    (n : Nat) (s : U) : outcome (resolveWithin call n w) s = (.ok (w.ending []), s) := by
  cases w with
  | element type props children => cases h
  | node p own => cases own <;> cases n <;> rfl
  | _ => cases n <;> rfl

variable {g : Composites} {v w : Value} {links : List Link}

/-- **A chain that ends is followed to its end**, with the calls of its elements. The induction is on the
chain. -/
theorem resolveWithin_of_chain (h : Chain g v links w) (hw : w.isElement = false) {n : Nat}
    (hn : links.length ≤ n) (log : List CompositeCall) :
    outcome (resolveWithin g.recording n v) log =
      (.ok (w.ending (donated links)), log ++ links.map Link.call) := by
  induction h generalizing n log with
  | nil =>
    rw [outcome_resolveWithin_ending hw]
    simp [donated]
  | @cons l links w rest ih =>
    obtain ⟨m, rfl⟩ : ∃ m, n = m + 1 := ⟨n - 1, by simp at hn; omega⟩
    rw [outcome_resolveWithin_link, ih hw (by simpa using hn), ← adopt_ending]
    simp [Except.map]

/-- **A chain that goes on is refused** when all calls are made that are allowed. -/
theorem resolveWithin_of_long_chain (h : Chain g v links w) {n : Nat} (hn : n < elementCount links w)
    (log : List CompositeCall) :
    ∃ name, outcome (resolveWithin g.recording n v) log =
      (.error (.refused (.endlessComposite name maxExpansions)), log ++ (links.take n).map Link.call) := by
  induction h generalizing n log with
  | @nil v =>
    cases v with
    | element type props children =>
      obtain rfl : n = 0 := by simpa [elementCount, Value.isElement] using hn
      exact ⟨type.functionName, by simp [resolveWithin]; rfl⟩
    | _ => simp [elementCount, Value.isElement] at hn
  | @cons l links w rest ih =>
    cases n with
    | zero => exact ⟨l.fn.name, by simp [Link.value, resolveWithin]; rfl⟩
    | succ n =>
      obtain ⟨name, hrefused⟩ := ih (n := n) (by simp [elementCount] at hn ⊢; omega) (log ++ [l.call])
      exact ⟨name, by simp [outcome_resolveWithin_link, hrefused, Except.map]⟩

/-- A chain can be followed up to any number of calls, unless it comes to something else than an element or to an
element whose composite cannot be called. -/
theorem exists_chain (g : Composites) (v : Value) (n : Nat) :
    ∃ links w, Chain g v links w ∧ links.length ≤ n ∧
      (w.isElement = false ∨ links.length = n ∨ ∀ l : Link, w ≠ l.value) := by
  induction n generalizing v with
  | zero => exact ⟨[], v, .nil, Nat.le_refl 0, .inr (.inl rfl)⟩
  | succ n ih =>
    by_cases hlink : ∃ l : Link, v = l.value
    · obtain ⟨l, rfl⟩ := hlink
      obtain ⟨links, w, hchain, hlength, hend⟩ := ih (g.result l.call)
      refine ⟨l :: links, w, .cons hchain, Nat.succ_le_succ hlength, ?_⟩
      rcases hend with hother | hlong | hrefused
      · exact .inl hother
      · exact .inr (.inl (congrArg Nat.succ hlong))
      · exact .inr (.inr hrefused)
    · exact ⟨[], v, .nil, Nat.zero_le _, .inr (.inr fun l hv => hlink ⟨l, hv⟩)⟩

/-! ## Resolving -/

/-- **What resolving a value comes to, and its calls.** Where the chain of a value ends within the calls that are
allowed, just the composites of its elements have been called, in order. A node in which it ends is given back
with all that it carries, and with the children of the last element that has any unless it has its own; a row is
given back with its items, and anything else as nothing. Where the chain has more elements, as many calls are made
as are allowed, and then it is refused as a mistake of the configuration. What is given back is never an element.
Of every value the chain ends in one of these ways, or in an element whose composite cannot be called. -/
theorem resolve_follows_chain (g : Composites) (v : Value) (log : List CompositeCall) :
    (∀ links w, Chain g v links w → w.isElement = false → links.length ≤ maxExpansions →
      outcome (resolve g.recording v) log = (.ok (w.ending (donated links)), log ++ links.map Link.call)) ∧
    (∀ links w, Chain g v links w → maxExpansions < elementCount links w →
      (links.take maxExpansions).length = maxExpansions ∧
        ∃ f : Fault, f.errorClass = .configuration ∧
          outcome (resolve g.recording v) log = (.error f, log ++ (links.take maxExpansions).map Link.call)) ∧
    (∀ r, (outcome (resolve g.recording v) log).1 = .ok r → r.toValue.isElement = false) ∧
    ∃ links w, Chain g v links w ∧ (w.isElement = false ∧ links.length ≤ maxExpansions ∨
      maxExpansions < elementCount links w ∨ w.isElement = true ∧ ∀ l : Link, w ≠ l.value) := by
  refine ⟨?_, ?_, ?_, ?_⟩
  · intro links w hchain hw hlength
    exact resolveWithin_of_chain hchain hw hlength log
  · intro links w hchain hlong
    obtain ⟨name, hrefused⟩ := resolveWithin_of_long_chain hchain hlong log
    refine ⟨List.length_take_of_le ?_, _, rfl, hrefused⟩
    -- at most one of the elements is the last value
    unfold elementCount at hlong
    split at hlong <;> omega
  · rintro (_ | _ | _) - <;> rfl
  · obtain ⟨links, w, hchain, hlength, hend⟩ := exists_chain g v maxExpansions
    refine ⟨links, w, hchain, ?_⟩
    cases hw : w.isElement with
    | false => exact .inl ⟨rfl, hlength⟩
    | true =>
      rcases hend with hother | hlong | hrefused
      · rw [hw] at hother
        cases hother
      · exact .inr (.inl (by simp [elementCount, hw, hlong]))
      · exact .inr (.inr ⟨rfl, hrefused⟩)

/-! ### A section, and one without an end -/

/-- An element with a child, whose composite returns another one. -/
def sectionLink : Link := ⟨⟨"Section", 0, false⟩, [("title", .str "Books")], [.str "child"]⟩

/-- The element that it returns. -/
def groupLink : Link := ⟨⟨"Books", 1, true⟩, [], []⟩

/-- An element whose composite returns it again. -/
def endlessLink : Link := ⟨⟨"Endless", 2, false⟩, [], []⟩

/-- The composites of these elements. -/
def sections : Composites := fun f _ _ =>
  if f.id = 0 then groupLink.value else if f.id = 1 then .node (.group (.str "/books")) [] else endlessLink.value

theorem chain_endless (n : Nat) : Chain sections endlessLink.value (List.replicate n endlessLink) endlessLink.value := by
  induction n with
  | zero => exact .nil
  | succ n ih => exact .cons ih

/-- The child of the outer element goes to the node that the inner one returns. The element that returns itself is
refused when a hundred calls are made for it. -/
theorem resolve_follows_chain_sections :
    Chain sections sectionLink.value [sectionLink, groupLink] (.node (.group (.str "/books")) []) ∧
      outcome (resolve sections.recording sectionLink.value) [] =
        (.ok (.node (.group (.str "/books")) [.str "child"]),
          [⟨⟨"Section", 0, false⟩, [("title", .str "Books")], none⟩, ⟨⟨"Books", 1, true⟩, [], some []⟩]) ∧
      maxExpansions < elementCount (List.replicate 100 endlessLink) endlessLink.value ∧
      ∃ f : Fault, f.errorClass = .configuration ∧
        outcome (resolve sections.recording endlessLink.value) [] =
          (.error f, List.replicate 100 ⟨⟨"Endless", 2, false⟩, [], none⟩) := by
  have hchain : Chain sections sectionLink.value [sectionLink, groupLink] (.node (.group (.str "/books")) []) :=
    .cons (.cons .nil)
  have hlong : maxExpansions < elementCount (List.replicate 100 endlessLink) endlessLink.value := by decide
  obtain ⟨hends, -⟩ := resolve_follows_chain sections sectionLink.value []
  obtain ⟨-, hgoesOn, -⟩ := resolve_follows_chain sections endlessLink.value []
  obtain ⟨-, f, hf, hrefused⟩ := hgoesOn _ _ (chain_endless 100) hlong
  refine ⟨hchain, hends _ _ hchain rfl (by decide), hlong, f, hf, hrefused.trans ?_⟩
  rw [List.take_of_length_le (by simp [maxExpansions]), List.map_replicate]
  rfl

end ServerTree
