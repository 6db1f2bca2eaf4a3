import ServerTree.Pipeline.Signal
import ServerTree.Proofs.Node.Calling

/-!
# What composites in a result come to

A middleware may return an element, whose composite returns another value, and so on. Where this ends in a
node, the node decides which signal it is, as if the middleware had returned it. Nothing else is looked at
behind a composite: the request goes on, also where the same value would have stopped it or have given it
fields.

## Main definitions
- `Leads`: calls of composites lead from one value to another
- `Value.Lost`: values that mean less behind a composite

## Main statements
- `interpret_element`: the signal of an element
- `interpret_composite`: when it is that of the value in which its composites end
- `gate_fails_open`: a gate behind a composite lets the request pass
-/

namespace ServerTree

variable {U : Type}

/-! ## Calls -/

/-- A number of calls of composites lead from one value to another, and from one state of application code to
another. -/
inductive Leads (call : Expander U) : Nat → Value → U → Value → U → Prop where
  | none {v : Value} {s : U} : Leads call 0 v s v s
  | more {n : Nat} {type : Value} {props : List (Value × Value)} {children : List Value} {s s' s'' : U}
      {v w : Value} (called : outcome (callComposite call type props children) s = (.ok v, s'))
      (rest : Leads call n v s' w s'') : Leads call (n + 1) (.element type props children) s w s''

/-- An element adds at most its children to what its composite has led to. -/
theorem exists_adopt_ending (w : Value) (own later : List Value) :
    ∃ children, (w.ending later).adopt own = w.ending children := by
  cases w with
  | node p given =>
    cases given with
    | nil =>
      cases later with
      | nil => exact ⟨own, rfl⟩
      | cons child later => exact ⟨child :: later, rfl⟩
    | cons child given => exact ⟨later, rfl⟩
  | _ => exact ⟨later, rfl⟩

variable {call : Expander U} {n : Nat} {v w : Value} {s t : U}

/-- Resolving follows the calls to their end. The induction is on the calls. -/
theorem outcome_resolveWithin_of_leads (h : Leads call n v s w t) (hw : w.isElement = false) {limit : Nat}
    (hn : n ≤ limit) :
    ∃ children, outcome (resolveWithin call limit v) s = (.ok (w.ending children), t) := by
  induction h generalizing limit with
  | none => exact ⟨[], outcome_resolveWithin_ending hw limit _⟩
  | @more n type props children s s' s'' v w called rest ih =>
    obtain ⟨limit, rfl⟩ : ∃ less, limit = less + 1 := ⟨limit - 1, by omega⟩
    obtain ⟨later, hlater⟩ := ih hw (Nat.le_of_succ_le_succ hn)
    obtain ⟨adopted, hadopted⟩ := exists_adopt_ending w children later
    refine ⟨adopted, ?_⟩
    rw [resolveWithin, outcome_bind, called]
    simp only [outcome_bind, hlater, outcome_pure, hadopted]

/-! ## Signals -/

theorem outcome_expand_ofAttempt {α : Type} (x : Attempt α) (s : U) :
    outcome (Expand.ofAttempt x : Expand U α) s = (x, s) := by
  cases x <;> rfl

/-- The signal of a value behind a composite: that of a node, and to go on for all else. -/
def Value.signalBehind : Value → Attempt (Signal Value)
  | .node p _ => nodeSignal p
  | _ => .ok .proceed

/-- The signal of an element is that of the node in which its composites end. -/
theorem interpret_element (h : Leads call n v s w t) (hv : v.isElement = true) (hw : w.isElement = false)
    (hn : n ≤ maxExpansions) : outcome (interpret call v) s = (w.signalBehind, t) := by
  obtain ⟨children, hresolved⟩ := outcome_resolveWithin_of_leads h hw hn
  cases v with
  | element type props own =>
    rw [interpret, outcome_bind, resolve, hresolved]
    cases w with
    | node p given => cases given <;> exact outcome_expand_ofAttempt (nodeSignal p) t
    | _ => rfl
  | _ => cases hv

/-- What a middleware says when it returns the value itself, and not when a composite returns it: to stop, to
add fields, or any signal other than to go on. -/
inductive Value.Lost : Value → Prop where
  | silent : Value.Lost (.bool false)
  | fields {v : Value} {entries : List (Value × Value)} (h : v.entries? = some entries) : Value.Lost v
  | signal {given : Signal Value} (h : given ≠ .proceed) : Value.Lost (.signal given)

/-- A value that is lost is a signal other than to go on. -/
theorem Value.Lost.interpret (h : w.Lost) (call : Expander U) (t : U) :
    w.signalBehind = .ok .proceed ∧
      ∃ given, outcome (interpret call w) t = (.ok given, t) ∧ given ≠ .proceed := by
  cases h with
  | silent => exact ⟨rfl, .halt, rfl, by simp⟩
  | signal hgiven => exact ⟨rfl, _, rfl, hgiven⟩
  | fields hentries =>
    cases w with
    | mapping | headers | query => exact ⟨rfl, _, rfl, by simp⟩
    | _ => cases hentries

/-- Any other value is the same signal behind a composite. -/
theorem interpret_of_not_lost (hw : w.isElement = false) (h : ¬ w.Lost) :
    outcome (interpret call w) t = (w.signalBehind, t) := by
  cases w with
  | element => cases hw
  | node p given => exact outcome_expand_ofAttempt (nodeSignal p) t
  | bool b =>
    cases b with
    | false => exact absurd .silent h
    | true => rfl
  | signal given =>
    cases given with
    | proceed => rfl
    | _ => exact absurd (.signal (by simp)) h
  | mapping | headers | query => exact absurd (.fields rfl) h
  | _ => rfl

/-- **Composites in a result.** Let the calls of composites for an element end in some value, within the number
of calls that are allowed. The element is the same signal as this value, in the same state of application code,
unless the value is one of those that are lost: then it would have been a signal other than to go on, and the
element is the one to go on. -/
theorem interpret_composite (h : Leads call n v s w t) (hv : v.isElement = true) (hw : w.isElement = false)
    (hn : n ≤ maxExpansions) :
    (¬ w.Lost → outcome (interpret call v) s = outcome (interpret call w) t) ∧
    (w.Lost → outcome (interpret call v) s = (.ok .proceed, t) ∧
      ∃ given, outcome (interpret call w) t = (.ok given, t) ∧ given ≠ .proceed) := by
  rw [interpret_element h hv hw hn]
  constructor
  · intro hkept
    exact (interpret_of_not_lost hw hkept).symm
  · intro hlost
    obtain ⟨hbehind, hgiven⟩ := hlost.interpret call t
    exact ⟨by rw [hbehind], hgiven⟩

/-- An element whose composite is called without properties and without children. -/
def gateLink : Link := ⟨⟨"Gate", 0, false⟩, [], []⟩

theorem leads_gate (w : Value) :
    Leads (Composites.call (U := Unit) fun _ _ _ => w) 1 gateLink.value () w () :=
  .more rfl .none

/-- A composite that returns a node for an error is that error, and one that returns `false` lets the request
pass. -/
theorem interpret_composite_gate :
    outcome (interpret (Composites.call fun _ _ _ => .node (.err (.int 403) .none .none) []) gateLink.value) () =
        (.ok (.fail (.int 403) (.str "Error")), ()) ∧
      outcome (interpret (Composites.call fun _ _ _ => .bool false) gateLink.value) () = (.ok .proceed, ()) := by
  constructor
  · have hkept : ¬ (Value.node (.err (.int 403) .none .none) []).Lost := by
      rintro (_ | h | _)
      cases h
    exact (interpret_composite (leads_gate _) rfl rfl (by decide)).1 hkept
  · exact ((interpret_composite (leads_gate _) rfl rfl (by decide)).2 .silent).1

/-- **A gate fails open** behind a composite: an element is not the signal of the value that it expands to. -/
theorem gate_fails_open :
    ¬ ∀ (g : Composites) (n : Nat) (v w : Value), Leads g.call n v () w () → v.isElement = true →
      w.isElement = false → n ≤ maxExpansions →
      outcome (interpret g.call v) () = outcome (interpret g.call w) () := by
  intro hsame
  have hsignal := hsame _ 1 gateLink.value (.bool false) (leads_gate (.bool false)) rfl rfl (by decide)
  -- the element is the signal to go on, and `false` the one to stop
  cases congrArg Prod.fst hsignal

end ServerTree
