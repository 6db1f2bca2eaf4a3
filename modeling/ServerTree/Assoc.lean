/-!
# Ordered association lists

A mapping keeps its keys in the order of their first arrival: writing a key that is present changes the
value in place, writing a new one appends it.

## Main statements
- `get?_set_self`, `get?_set_other`: reading back after a write
- `keys_set`: a write appends at most one key
-/

namespace ServerTree.Assoc

variable {κ α : Type}

/-- The value stored under a key. -/
def get? [BEq κ] (k : κ) : List (κ × α) → Option α
  | [] => none
  | (k', v) :: r => if k' == k then some v else get? k r

/-- Stores a value under a key. -/
def set [BEq κ] (k : κ) (v : α) : List (κ × α) → List (κ × α)
  | [] => [(k, v)]
  | (k', v') :: r => if k' == k then (k', v) :: r else (k', v') :: set k v r

/-- Whether a key is present. -/
def has [BEq κ] (k : κ) (m : List (κ × α)) : Bool :=
  (get? k m).isSome

/-- Removes a key. -/
def erase [BEq κ] (k : κ) (m : List (κ × α)) : List (κ × α) :=
  m.filter fun e => !(e.1 == k)

/-- Stores every pair of the second list, in order. -/
def update [BEq κ] (m : List (κ × α)) (entries : List (κ × α)) : List (κ × α) :=
  entries.foldl (fun acc e => set e.1 e.2 acc) m

/-- The mapping of a list of pairs: a repeated key keeps its first position and its last value. -/
def ofList [BEq κ] (entries : List (κ × α)) : List (κ × α) :=
  update [] entries

/-- Appends a value to the list stored under a key. -/
def push [BEq κ] (k : κ) (v : α) (m : List (κ × List α)) : List (κ × List α) :=
  set k ((get? k m).getD [] ++ [v]) m

theorem get?_set_self [BEq κ] [LawfulBEq κ] (k : κ) (v : α) (m : List (κ × α)) :
    get? k (set k v m) = some v := by
  induction m with
  | nil => simp [set, get?]
  | cons e r ih =>
    obtain ⟨k', v'⟩ := e
    by_cases h : (k' == k) = true <;> simp [set, get?, h, ih]

theorem get?_set_other [BEq κ] [LawfulBEq κ] {k j : κ} (h : j ≠ k) (v : α) (m : List (κ × α)) :
    get? j (set k v m) = get? j m := by
  induction m with
  | nil => simp [set, get?, Ne.symm h]
  | cons e r ih =>
    obtain ⟨k', v'⟩ := e
    by_cases hk : (k' == k) = true
    · have hkk : k' = k := by simpa using hk
      subst hkk
      simp [set, get?, Ne.symm h]
    · simp [set, get?, hk, ih]

theorem keys_set [BEq κ] [LawfulBEq κ] (k : κ) (v : α) (m : List (κ × α)) :
    (set k v m).map Prod.fst =
      if k ∈ m.map Prod.fst then m.map Prod.fst else m.map Prod.fst ++ [k] := by
  induction m with
  | nil => simp [set]
  | cons e r ih =>
    obtain ⟨k', v'⟩ := e
    by_cases hk : (k' == k) = true
    · have hkk : k' = k := by simpa using hk
      subst hkk
      simp [set]
    · have hne : ¬ k = k' := by intro h; exact hk (by simp [h])
      simp only [set, hk, List.map_cons, List.mem_cons, hne, false_or, if_false, ih, Bool.false_eq_true]
      split <;> simp_all

end ServerTree.Assoc
