import ServerTree.Pipeline.Handler

/-!
# Merging augmentations

The fields of a context are a row of entries. Augmentations are merged into it one after another, each over
what the earlier ones have left, as long as no field has the name of the method that merges.

## Main definitions
- `augmented`: the fields after augmentations
- `Unreplaced`: augmentations that accept no field in the place of a method which the pipeline calls

## Main statements
- `mem_acceptedFields`: what is accepted of an augmentation
- `augmented_eq_foldl`: augmentations that replace no method are all merged, in order
-/

namespace ServerTree

/-! ## Accepted fields -/

/-- **What is accepted**: the entries whose keys are texts that are neither blocked nor between double low
lines. -/
theorem mem_acceptedFields {source : Value} {key : String} {v : Value} :
    (key, v) ∈ acceptedFields source ↔ (.str key, v) ∈ source.entries?.getD [] ∧
      key ∉ ["__proto__", "constructor", "prototype"] ∧
      ¬ (Text.startsWith "__" key = true ∧ Text.endsWith "__" key = true) := by
  have hkey : isReservedKey key = false ↔ key ∉ ["__proto__", "constructor", "prototype"] ∧
      ¬ (Text.startsWith "__" key = true ∧ Text.endsWith "__" key = true) := by
    simp [isReservedKey, blockedKeys]
  rw [← hkey, acceptedFields, List.mem_filterMap]
  constructor
  · rintro ⟨⟨k, value⟩, hmem, hstep⟩
    cases k with
    | str k =>
      cases hreserved : isReservedKey k with
      | true => simp [mergeStep, hreserved] at hstep
      | false =>
        obtain ⟨rfl, rfl⟩ : k = key ∧ value = v := by simpa [mergeStep, hreserved] using hstep
        exact ⟨hmem, hreserved⟩
    | _ => simp [mergeStep] at hstep
  · rintro ⟨hmem, hreserved⟩
    exact ⟨_, hmem, by simp [mergeStep, hreserved]⟩

/-! ## Fields by name -/

/-- Storing a field leaves those of other names alone. -/
theorem get?_set_text_other {α : Type} {name key : String} (hne : name ≠ key) (v : α)
    (fields : List (Value × α)) :
    Assoc.get? (.str name) (Assoc.set (.str key) v fields) = Assoc.get? (.str name) fields := by
  have hself : (Value.str key == .str name) = false := by
    rw [Value.beq_str]
    exact beq_false_of_ne (Ne.symm hne)
  induction fields with
  | nil => simp [Assoc.set, Assoc.get?, hself]
  | cons e fields ih =>
    by_cases hkey : (e.1 == .str key) = true
    · have hother : (e.1 == .str name) = false := by
        rw [Value.eq_of_beq_str hkey]
        exact hself
      simp [Assoc.set, Assoc.get?, hkey, hother]
    · simp only [Assoc.set, hkey, Bool.false_eq_true, if_false, Assoc.get?, ih]

/-- Merging leaves fields alone whose names are not accepted of the source. -/
theorem methodField?_mergeFields {name : String} {source : Value} (fields : Fields)
    (h : ∀ e ∈ acceptedFields source, e.1 ≠ name) :
    methodField? name (mergeFields fields source) = methodField? name fields := by
  rw [mergeFields, Assoc.update]
  generalize acceptedFields source = accepted at h
  induction accepted generalizing fields with
  | nil => rfl
  | cons e accepted ih =>
    have hname : name ≠ e.1 := Ne.symm (h e (List.mem_cons_self ..))
    rw [List.map_cons, List.foldl_cons, ih _ fun e' he' => h e' (List.mem_cons_of_mem _ he')]
    exact get?_set_text_other hname e.2 fields

/-! ## Augmentations -/

/-- The fields after augmentations: each is merged, unless a field stands in the place of the method that
merges. -/
def augmented (fields : Fields) (sources : List Value) : Fields :=
  sources.foldl (fun fields source =>
    if (methodField? "augment" fields).isSome then fields else mergeFields fields source) fields

/-- Augmentations none of which accepts a field that has the name of a method the pipeline calls. -/
def Unreplaced (sources : List Value) : Prop :=
  ∀ source ∈ sources, ∀ e ∈ acceptedFields source, e.1 ≠ "augment" ∧ e.1 ≠ "fork"

theorem augmented_append (fields : Fields) (sources sources' : List Value) :
    augmented fields (sources ++ sources') = augmented (augmented fields sources) sources' :=
  List.foldl_append

/-- Augmentations that replace no method put no field in the place of one. -/
theorem methodField?_augmented {name : String} {fields : Fields} {sources : List Value}
    (h : ∀ source ∈ sources, ∀ e ∈ acceptedFields source, e.1 ≠ name) :
    methodField? name (augmented fields sources) = methodField? name fields := by
  induction sources generalizing fields with
  | nil => rfl
  | cons source sources ih =>
    have hfirst := h source (List.mem_cons_self ..)
    rw [augmented, List.foldl_cons]
    refine (ih fun source' h' => h source' (List.mem_cons_of_mem _ h')).trans ?_
    split
    · rfl
    · exact methodField?_mergeFields fields hfirst

/-- **Augmentations that replace no method are all merged**, each over what the earlier ones have left. -/
theorem augmented_eq_foldl {fields : Fields} {sources : List Value}
    (hfields : methodField? "augment" fields = none) (h : Unreplaced sources) :
    augmented fields sources = sources.foldl mergeFields fields := by
  induction sources generalizing fields with
  | nil => rfl
  | cons source sources ih =>
    have hfirst : ∀ e ∈ acceptedFields source, e.1 ≠ "augment" := fun e he =>
      (h source (List.mem_cons_self ..) e he).1
    have hmerged : methodField? "augment" (mergeFields fields source) = none :=
      (methodField?_mergeFields fields hfirst).trans hfields
    rw [List.foldl_cons, ← ih hmerged fun source' h' => h source' (List.mem_cons_of_mem _ h'), augmented,
      List.foldl_cons, hfields]
    rfl

/-- No field of a new context has the name of a method. -/
theorem methodField?_coreFields (h : WrappedHandler) (request : Request) (body : Value) (level : Int) :
    methodField? "augment" (coreFields h request body level) = none ∧
      methodField? "fork" (coreFields h request body level) = none :=
  ⟨rfl, rfl⟩

end ServerTree
