import Mathlib.Data.List.Basic
import ServerTree.Value.Attribute
import ServerTree.Proofs.Http.Fields
import ServerTree.Proofs.Text.Case

/-!
# Headers as a grouping

Headers are brought into small letters when they arrive, and so is every name that is asked for, in some places twice.
All ways of asking find the same: the values of the pairs whose names are spelled alike up to case, in the order in
which they arrived. Going through the names finds each pair exactly once.

## Main definitions
- `Grouped.entries`: the pairs of a grouping, name by name
- `Headers.Finds`: what every way of asking for a header gives

## Main statements
- `names_group`: the names of a grouping are those that arrived, in the order of their first arrival
- `entries_group`: nothing is lost when pairs are grouped
- `headers_are_grouped`: what is found in headers
-/

namespace ServerTree

/-! ## Groupings -/

section

variable (normalize : String → String) (pairs : List (String × String))

/-- **The names of a grouping** are those that arrived, each once, in the order of their first arrival. -/
theorem names_group :
    (group normalize pairs).map Prod.fst = (pairs.map fun p => normalize p.1).eraseDups := by
  induction pairs using List.reverseRecOn with
  | nil => rfl
  | append_singleton pairs p ih =>
    have hmem : normalize p.1 ∈ (group normalize pairs).map Prod.fst ↔
        normalize p.1 ∈ pairs.map fun p => normalize p.1 := by rw [ih, List.mem_eraseDups]
    rw [group_concat, Assoc.push, Assoc.keys_set, List.map_append, List.map_singleton, List.eraseDups_append, ← ih]
    -- a name that has arrived before keeps its place, a new one comes last
    by_cases hold : normalize p.1 ∈ pairs.map fun p => normalize p.1
    · simp [hmem.mpr hold, List.removeAll, hold]
    · simp [mt hmem.mp hold, List.removeAll, hold, List.eraseDups_cons]

/-- What is found under a name of a grouping is the group of this name. -/
theorem all_of_mem_group {e : String × List String} (h : e ∈ group normalize pairs) :
    Grouped.all (group normalize pairs) e.1 = e.2 := by
  rw [Grouped.all, Assoc.get?_of_mem (nodup_group normalize pairs) h, Option.getD_some]

end

/-- The pairs of a grouping, name by name. -/
def Grouped.entries (m : Grouped) : List (String × String) :=
  m.flatMap fun e => e.2.map fun v => (e.1, v)

/-- A value that is put to those of its name is one more pair. -/
theorem Grouped.entries_push (name value : String) (m : Grouped) :
    (Grouped.entries (Assoc.push name value m)).Perm (m.entries ++ [(name, value)]) := by
  induction m with
  | nil => exact .refl _
  | cons e m ih =>
    obtain ⟨name', values⟩ := e
    by_cases hname : name' = name
    · subst hname
      have hpush : Assoc.push name' value ((name', values) :: m) = (name', values ++ [value]) :: m := by
        simp [Assoc.push, Assoc.set, Assoc.get?]
      rw [hpush, entries, entries, List.flatMap_cons, List.flatMap_cons, List.map_append, List.append_assoc,
        List.append_assoc]
      -- the value joins its group, in front of the groups that follow
      exact .append_left _ List.perm_append_comm
    · have hpush : Assoc.push name value ((name', values) :: m) = (name', values) :: Assoc.push name value m := by
        simp [Assoc.push, Assoc.set, Assoc.get?, hname]
      rw [hpush, entries, entries, List.flatMap_cons, List.flatMap_cons, List.append_assoc]
      exact .append_left _ ih

/-- **Nothing is lost when pairs are grouped**, and nothing comes twice. -/
theorem entries_group (normalize : String → String) (pairs : List (String × String)) :
    (Grouped.entries (group normalize pairs)).Perm (pairs.map fun p => (normalize p.1, p.2)) := by
  induction pairs using List.reverseRecOn with
  | nil => exact .refl _
  | append_singleton pairs p ih =>
    rw [group_concat, List.map_append]
    exact (Grouped.entries_push _ _ _).trans (.append_right _ ih)

/-- A name that arrives in two spellings is one name with two values. -/
example : group Text.lower [("Cookie", "a=1"), ("Host", "trees.test"), ("cookie", "b=2")] =
    [("cookie", ["a=1", "b=2"]), ("host", ["trees.test"])] := by decide

/-! ## Headers -/

namespace Headers

/-- What every way of asking for a header finds. The server asks for all values, for the first one, or whether there is
one; applications index headers, or call `get`, maybe with a fallback, or `get_list`. -/
structure Finds (h : Headers) (key : String) (values : List String) : Prop where
  all : h.getAll key = values
  first : h.get? key = values.head?
  present : h.has key = true ↔ values ≠ []
  indexed : (Value.headers h).entry (.str key) = Value.foundUnder (.str key) (values.head?.map .str)
  got : ∀ rest : List Value, (Value.headers h).method? "get" (.str key :: rest) =
    some (.ok ((values.head?.map .str).getD (rest.headD .none)))
  listed : (Value.headers h).method? "get_list" [.str key] = some (.ok (.ofTexts values))

variable (h : Headers) (key : String)

theorem getAll_eq : h.getAll key = (h.pairs.filter fun p => Text.lower p.1 == Text.lower key).map Prod.snd := by
  rw [getAll, Grouped.all, grouped, get?_group, Assoc.values, List.filter_map, List.map_map]
  split
  · next hnone => exact hnone.symm
  · rfl

theorem getAll_lower : h.getAll (Text.lower key) = h.getAll key := by
  rw [getAll, getAll, Text.lower_lower]

theorem get?_eq_head? : h.get? key = (h.getAll key).head? := by
  rw [get?_eq_first?, first?, getAll_eq, List.head?_map, List.head?_filter]

theorem has_iff : h.has key = true ↔ h.getAll key ≠ [] := by
  rw [has, Assoc.has, getAll, Grouped.all, grouped, get?_group]
  split
  · next hnone => simp
  · next hsome => simpa using hsome

/-- All ways of asking find the same. -/
theorem finds : h.Finds key (h.getAll key) where
  all := rfl
  first := h.get?_eq_head? key
  present := h.has_iff key
  indexed := by
    rw [← get?_eq_head?]
    rfl
  got := by
    intro rest
    rw [← get?_eq_head?]
    cases rest <;> rfl
  listed := by
    -- the name is in small letters already when the values are asked for
    rw [← getAll_lower]
    rfl

/-- The names of headers are those that arrived, in small letters. -/
theorem names_grouped : h.grouped.map Prod.fst = (h.pairs.map fun p => Text.lower p.1).eraseDups :=
  names_group Text.lower h.pairs

theorem lower_of_mem_names {name : String} (hname : name ∈ h.grouped.map Prod.fst) : Text.lower name = name := by
  rw [names_grouped, List.mem_eraseDups] at hname
  obtain ⟨p, -, rfl⟩ := List.mem_map.mp hname
  exact Text.lower_lower p.1

/-- A name that is found is in small letters, so asking for it finds its group. -/
theorem getAll_of_mem_grouped {e : String × List String} (he : e ∈ h.grouped) : h.getAll e.1 = e.2 := by
  rw [getAll, h.lower_of_mem_names (List.mem_map_of_mem he)]
  exact all_of_mem_group Text.lower h.pairs he

theorem flatMap_names_getAll :
    ((h.grouped.map Prod.fst).flatMap fun name => (h.getAll name).map fun v => (name, v)) = h.grouped.entries := by
  rw [List.flatMap_map, Grouped.entries]
  refine List.flatMap_congr fun e he => ?_
  rw [h.getAll_of_mem_grouped he]

end Headers

/-- **Headers are a grouping of what arrived.** However a name is spelled, every way of asking for it finds the values of
the pairs whose names are the same in small letters, in the order of their arrival. Going through headers gives each of
these names once, in the order of their first arrival, and what is found under them is every pair exactly once. -/
theorem headers_are_grouped (h : Headers) :
    let names := (h.pairs.map fun p => Text.lower p.1).eraseDups
    (∀ key, h.Finds key ((h.pairs.filter fun p => Text.lower p.1 == Text.lower key).map Prod.snd)) ∧
      (Value.headers h).iterate = .ok (names.map .str) ∧
      (names.flatMap fun name => (h.getAll name).map fun v => (name, v)).Perm
        (h.pairs.map fun p => (Text.lower p.1, p.2)) := by
  intro names
  have hnames : names = h.grouped.map Prod.fst := h.names_grouped.symm
  refine ⟨fun key => h.getAll_eq key ▸ h.finds key, ?_, ?_⟩
  · rw [hnames, List.map_map]
    rfl
  · rw [hnames, h.flatMap_names_getAll]
    exact entries_group Text.lower h.pairs

end ServerTree
