import Mathlib.Data.List.Induction
import ServerTree.Http.Fields
import ServerTree.Proofs.Assoc

/-!
# Header fields by name

Fields are grouped under their names in small letters. What is found under a name is what the pairs, as they
arrived, say of it, however their names are spelled.

## Main statements
- `get?_group`: what is found in a group are all values of a name
- `first?_group`: the first value of a group is that of the first pair of its name
- `Headers.get?_eq_first?`: looking a header up finds the first one of the name
-/

namespace ServerTree

/-! ## Groups -/

/-- Only a name that had no value yet gets a new first one. -/
theorem Grouped.first?_push (m : Grouped) (key name value : String) :
    Grouped.first? (Assoc.push key value m) name =
      (Grouped.first? m name).or (if key = name then some value else none) := by
  rw [Grouped.first?, Grouped.first?, Assoc.push]
  by_cases hkey : key = name
  · subst hkey
    rw [Assoc.get?_set_self, Option.bind_some, List.head?_append, if_pos rfl, List.head?_cons]
    cases Assoc.get? key m <;> rfl
  · rw [Assoc.get?_set_other (Ne.symm hkey), if_neg hkey, Option.or_none]

theorem group_concat (normalize : String → String) (pairs : List (String × String)) (p : String × String) :
    group normalize (pairs ++ [p]) = Assoc.push (normalize p.1) p.2 (group normalize pairs) := by
  rw [group, List.foldl_append]
  rfl

/-- **The first value of a group** is that of the first pair whose name belongs to it. -/
theorem first?_group (normalize : String → String) (pairs : List (String × String)) (name : String) :
    Grouped.first? (group normalize pairs) name =
      (pairs.find? fun p => normalize p.1 == name).map Prod.snd := by
  induction pairs using List.reverseRecOn with
  | nil => rfl
  | append_singleton pairs p ih =>
    rw [group_concat, Grouped.first?_push, ih, List.find?_append]
    by_cases hname : normalize p.1 = name
    · simp [hname]
    · simp [hname]

/-- **What is found in a group** are all values that its pairs have under a name. -/
theorem get?_group (normalize : String → String) (pairs : List (String × String)) (name : String) :
    let values := Assoc.values name (pairs.map fun p => (normalize p.1, p.2))
    Assoc.get? name (group normalize pairs) = if values = [] then none else some values := by
  induction pairs using List.reverseRecOn with
  | nil => rfl
  | append_singleton pairs p ih =>
    dsimp only at ih ⊢
    rw [group_concat, Assoc.push, Assoc.get?_set, List.map_append, List.map_singleton, Assoc.values_concat]
    by_cases hname : name = normalize p.1
    · subst hname
      rw [ih]
      generalize Assoc.values (normalize p.1) (pairs.map fun p => (normalize p.1, p.2)) = values
      cases values <;> simp
    · simpa [hname, Ne.symm hname] using ih

/-- The names of a group differ. -/
theorem nodup_group (normalize : String → String) (pairs : List (String × String)) :
    ((group normalize pairs).map Prod.fst).Nodup := by
  induction pairs using List.reverseRecOn with
  | nil => exact List.nodup_nil
  | append_singleton pairs p ih =>
    rw [group_concat]
    exact Assoc.nodup_keys_set ih _ _

/-! ## Headers -/

namespace Headers

/-- The value of the first header whose name is the given one in small letters. -/
def first? (h : Headers) (name : String) : Option String :=
  (h.pairs.find? fun p => Text.lower p.1 == name).map Prod.snd

/-- Looking a header up finds the first one of its name. -/
theorem get?_eq_first? (h : Headers) (name : String) : h.get? name = h.first? (Text.lower name) :=
  first?_group Text.lower h.pairs (Text.lower name)

end Headers

end ServerTree
