import Mathlib.Data.List.Induction
import ServerTree.Assoc

/-!
# Mappings as lists of entries

What is found in a mapping after several writes, what its entries are, and what becomes of them when keys and
values are translated.

## Main statements
- `get?_set`, `get?_update`: what is found after writes
- `set_of_get?`: writing what is there already changes nothing
- `nodup_keys_ofList`, `mem_keys_ofList`, `find?_keys_ofList`: the keys are those that were written, each once, in order
- `get?_update_eq`, `getLast?_values_ofList`: the value written last under a key counts
- `forall_ofList`: entries are made of the keys and values that were written
- `ofList_map`: translating before and after writing is the same
- `ofList_of_nodup`: keys that differ are kept as they come
-/

namespace ServerTree.Assoc

/-! ## What is found -/

section

variable {κ α : Type} [BEq κ] [LawfulBEq κ]

/-- Reading any key after a write. -/
theorem get?_set [DecidableEq κ] (k j : κ) (v : α) (m : List (κ × α)) :
    get? j (set k v m) = if j = k then some v else get? j m := by
  by_cases h : j = k
  · subst h
    rw [if_pos rfl, get?_set_self]
  · rw [if_neg h, get?_set_other h]

/-- A mapping has entries exactly when some key is found. -/
theorem exists_get?_iff_ne_nil (m : List (κ × α)) : (∃ k v, get? k m = some v) ↔ m ≠ [] := by
  cases m with
  | nil => simp [get?]
  | cons e m => exact ⟨fun _ => List.cons_ne_nil _ _, fun _ => ⟨e.1, e.2, by simp [get?]⟩⟩

/-- What a mapping has as a key is found in it. -/
theorem exists_get?_of_mem {k : κ} {m : List (κ × α)} (h : k ∈ m.map Prod.fst) :
    ∃ v, get? k m = some v := by
  induction m with
  | nil => simp at h
  | cons e m ih =>
    obtain ⟨k', v⟩ := e
    by_cases heq : k' = k
    · exact ⟨v, by simp [get?, heq]⟩
    · have hmem : k ∈ m.map Prod.fst := by simpa [Ne.symm heq] using h
      obtain ⟨v', hv'⟩ := ih hmem
      exact ⟨v', by simp [get?, heq, hv']⟩

/-- What is found is an entry. -/
theorem mem_of_get? {k : κ} {v : α} {m : List (κ × α)} (h : get? k m = some v) : (k, v) ∈ m := by
  induction m with
  | nil => cases h
  | cons e m ih =>
    obtain ⟨k', v'⟩ := e
    rw [get?] at h
    split at h
    · next heq =>
      obtain rfl := eq_of_beq heq
      obtain rfl := Option.some.inj h
      exact List.mem_cons_self ..
    · exact List.mem_cons_of_mem _ (ih h)

/-- What is found after several writes was found before or is one of them. -/
theorem get?_update {k : κ} {v : α} {m entries : List (κ × α)} (h : get? k (update m entries) = some v) :
    get? k m = some v ∨ (k, v) ∈ entries := by
  induction entries generalizing m with
  | nil => exact .inl h
  | cons e entries ih =>
    rcases ih h with hset | hmem
    · by_cases hk : k = e.1
      · subst hk
        rw [get?_set_self, Option.some.injEq] at hset
        exact .inr (List.mem_cons.mpr (.inl (Prod.ext rfl hset.symm)))
      · exact .inl (by rwa [get?_set_other hk] at hset)
    · exact .inr (List.mem_cons_of_mem _ hmem)

end

/-! ## Entries -/

section

variable {κ α : Type} [BEq κ]

theorem ofList_concat (entries : List (κ × α)) (k : κ) (v : α) :
    ofList (entries ++ [(k, v)]) = set k v (ofList entries) := by
  simp [ofList, update]

/-- Writing what is there already changes nothing. -/
theorem set_of_get? {k : κ} {v : α} {m : List (κ × α)} (h : get? k m = some v) : set k v m = m := by
  induction m with
  | nil => cases h
  | cons e m ih =>
    obtain ⟨k', v'⟩ := e
    rw [get?] at h
    rw [set]
    split at h
    · next heq => rw [if_pos heq, Option.some.inj h]
    · next hne => rw [if_neg hne, ih h]

/-- What is written over a mapping leaves its first key where it is. -/
theorem exists_update_cons (k : κ) (v : α) (m entries : List (κ × α)) :
    ∃ w m', update ((k, v) :: m) entries = (k, w) :: m' := by
  induction entries generalizing v m with
  | nil => exact ⟨v, m, rfl⟩
  | cons e entries ih =>
    rw [update, List.foldl_cons, set]
    by_cases hk : (k == e.1) = true
    · rw [if_pos hk]
      exact ih e.2 m
    · rw [if_neg hk]
      exact ih v (set e.1 e.2 m)

/-- The value that is found under a key is that of an entry. -/
theorem snd_mem_of_get? {k : κ} {v : α} {m : List (κ × α)} (h : get? k m = some v) : v ∈ m.map Prod.snd := by
  induction m with
  | nil => cases h
  | cons e m ih =>
    rw [get?] at h
    split at h
    · simp [Option.some.inj h]
    · exact List.mem_cons_of_mem _ (ih h)

/-- The key and the value of an entry are among those that were there or were written. -/
theorem mem_set {k : κ} {v : α} {m : List (κ × α)} {e : κ × α} (h : e ∈ set k v m) :
    (e.1 = k ∨ e.1 ∈ m.map Prod.fst) ∧ (e.2 = v ∨ e.2 ∈ m.map Prod.snd) := by
  induction m with
  | nil => simp_all [set]
  | cons entry m ih =>
    obtain ⟨k', v'⟩ := entry
    rw [set] at h
    split at h
    · rcases List.mem_cons.mp h with rfl | hm
      · simp
      · exact ⟨.inr (List.mem_cons_of_mem _ (List.mem_map_of_mem hm)),
          .inr (List.mem_cons_of_mem _ (List.mem_map_of_mem hm))⟩
    · rcases List.mem_cons.mp h with rfl | hm
      · simp
      · obtain ⟨hkey, hvalue⟩ := ih hm
        exact ⟨hkey.imp_right (List.mem_cons_of_mem _), hvalue.imp_right (List.mem_cons_of_mem _)⟩

theorem forall_ofList {P : κ → Prop} {Q : α → Prop} {entries : List (κ × α)}
    (h : ∀ e ∈ entries, P e.1 ∧ Q e.2) : ∀ e ∈ ofList entries, P e.1 ∧ Q e.2 := by
  induction entries using List.reverseRecOn with
  | nil => exact fun e he => nomatch he
  | append_singleton entries entry ih =>
    have hbefore := ih fun e he => h e (List.mem_append_left _ he)
    have hlast := h entry (List.mem_append_right _ (List.mem_singleton_self _))
    intro e he
    rw [ofList_concat] at he
    obtain ⟨hkey, hvalue⟩ := mem_set he
    constructor
    · rcases hkey with hkey | hkey
      · exact hkey ▸ hlast.1
      · obtain ⟨e', he', hfst⟩ := List.mem_map.mp hkey
        exact hfst ▸ (hbefore e' he').1
    · rcases hvalue with hvalue | hvalue
      · exact hvalue ▸ hlast.2
      · obtain ⟨e', he', hsnd⟩ := List.mem_map.mp hvalue
        exact hsnd ▸ (hbefore e' he').2

/-- A key that is new comes last. -/
theorem set_of_not_mem [LawfulBEq κ] {k : κ} (v : α) {m : List (κ × α)} (h : k ∉ m.map Prod.fst) :
    set k v m = m ++ [(k, v)] := by
  induction m with
  | nil => rfl
  | cons e m ih =>
    obtain ⟨k', v'⟩ := e
    rw [List.map_cons, List.mem_cons, not_or] at h
    have hne : ¬ (k' == k) = true := fun heq => h.1 (eq_of_beq heq).symm
    rw [set, if_neg hne, ih h.2, List.cons_append]

/-- Keys that differ are kept as they come. -/
theorem ofList_of_nodup [LawfulBEq κ] {entries : List (κ × α)} (h : (entries.map Prod.fst).Nodup) :
    ofList entries = entries := by
  induction entries using List.reverseRecOn with
  | nil => rfl
  | append_singleton entries e ih =>
    rw [List.map_append, List.nodup_append] at h
    have hnew : e.1 ∉ entries.map Prod.fst := fun hmem => h.2.2 e.1 hmem e.1 (by simp) rfl
    rw [ofList_concat, ih h.1, set_of_not_mem e.2 hnew]

end

/-! ## Keys -/

section

variable {κ α : Type} [BEq κ] [LawfulBEq κ]

/-- A write keeps the keys apart. -/
theorem nodup_keys_set {m : List (κ × α)} (h : (m.map Prod.fst).Nodup) (k : κ) (v : α) :
    ((set k v m).map Prod.fst).Nodup := by
  rw [keys_set]
  split
  · exact h
  · next hnew =>
    refine List.nodup_append.mpr ⟨h, List.nodup_cons.mpr ⟨by simp, List.nodup_nil⟩, ?_⟩
    rintro a ha b hb rfl
    exact hnew (List.mem_singleton.mp hb ▸ ha)

/-- Several writes keep the keys apart. -/
theorem nodup_keys_update {m : List (κ × α)} (h : (m.map Prod.fst).Nodup) (entries : List (κ × α)) :
    ((update m entries).map Prod.fst).Nodup := by
  induction entries generalizing m with
  | nil => exact h
  | cons e entries ih => exact ih (nodup_keys_set h e.1 e.2)

/-- The keys of a mapping differ. -/
theorem nodup_keys_ofList (entries : List (κ × α)) : ((ofList entries).map Prod.fst).Nodup := by
  have hempty : (([] : List (κ × α)).map Prod.fst).Nodup := List.nodup_nil
  exact nodup_keys_update hempty entries

/-- The keys of a mapping are those that were written. -/
theorem mem_keys_ofList {k : κ} {entries : List (κ × α)} :
    k ∈ (ofList entries).map Prod.fst ↔ k ∈ entries.map Prod.fst := by
  induction entries using List.reverseRecOn with
  | nil => rfl
  | append_singleton entries e ih =>
    rw [ofList_concat, keys_set]
    split
    · next hold =>
      rw [ih, List.map_append, List.mem_append, List.map_singleton, List.mem_singleton]
      exact ⟨.inl, fun h => h.elim id fun heq => ih.mp (heq ▸ hold)⟩
    · simp [ih]

/-- An entry is what is found under its key. -/
theorem get?_of_mem {k : κ} {v : α} {m : List (κ × α)} (hm : (m.map Prod.fst).Nodup) (h : (k, v) ∈ m) :
    get? k m = some v := by
  induction m with
  | nil => cases h
  | cons e m ih =>
    obtain ⟨k', v'⟩ := e
    rw [List.map_cons, List.nodup_cons] at hm
    rcases List.mem_cons.mp h with heq | hmem
    · cases heq
      simp [get?]
    · have hne : k' ≠ k := by
        rintro rfl
        exact hm.1 (List.mem_map.mpr ⟨_, hmem, rfl⟩)
      simpa [get?, hne] using ih hm.2 hmem

/-- The first of some keys is the one that was written first. -/
theorem find?_keys_ofList (p : κ → Bool) (entries : List (κ × α)) :
    ((ofList entries).map Prod.fst).find? p = (entries.map Prod.fst).find? p := by
  induction entries using List.reverseRecOn with
  | nil => rfl
  | append_singleton entries e ih =>
    rw [ofList_concat, keys_set, List.map_append, List.find?_append, ← ih]
    split
    · next hold =>
      cases hp : List.find? p ((ofList entries).map Prod.fst) with
      | some k => rfl
      | none =>
        -- a key that is there already is none of them
        have hnot : p e.1 = false := by simpa using List.find?_eq_none.mp hp e.1 hold
        simp [hnot]
    · rw [List.find?_append]
      rfl

end

/-! ## Values that were written -/

section

variable {κ α β : Type} [BEq κ]

/-- The values that are written under a key, in order. -/
def values (k : κ) (entries : List (κ × α)) : List α := (entries.filter fun e => e.1 == k).map Prod.snd

theorem values_concat (k : κ) (entries : List (κ × α)) (e : κ × α) :
    values k (entries ++ [e]) = values k entries ++ if e.1 == k then [e.2] else [] := by
  rw [values, List.filter_append, List.map_append]
  by_cases hk : (e.1 == k) = true
  · simp [values, hk]
  · simp [values, hk]

theorem values_map (f : α → β) (k : κ) (entries : List (κ × α)) :
    values k (entries.map fun e => (e.1, f e.2)) = (values k entries).map f := by
  simp [values, List.filter_map, Function.comp_def]

/-- Translating the values of a mapping. -/
theorem get?_map_snd (f : α → β) (k : κ) (m : List (κ × α)) :
    get? k (m.map fun e => (e.1, f e.2)) = (get? k m).map f := by
  induction m with
  | nil => rfl
  | cons e m ih =>
    rw [List.map_cons, get?, get?, ih]
    split <;> rfl

variable [LawfulBEq κ]

/-- **The value written last counts**, and what was there before when none is written. -/
theorem get?_update_eq (k : κ) (m entries : List (κ × α)) :
    get? k (update m entries) = (values k entries).getLast?.or (get? k m) := by
  induction entries using List.reverseRecOn with
  | nil => rfl
  | append_singleton entries e ih =>
    have hlast : update m (entries ++ [e]) = set e.1 e.2 (update m entries) := by
      rw [update, List.foldl_append]
      rfl
    rw [hlast, values_concat]
    by_cases hk : e.1 = k
    · subst hk
      simp [get?_set_self]
    · rw [get?_set_other (Ne.symm hk), ih]
      simp [hk]

/-- A mapping that is written anew has the same values last. -/
theorem getLast?_values_ofList (k : κ) (entries : List (κ × α)) :
    (values k (ofList entries)).getLast? = (values k entries).getLast? := by
  have hread : ∀ written : List (κ × α), get? k (ofList written) = (values k written).getLast? := by
    intro written
    rw [ofList, get?_update_eq, get?, Option.or_none]
  rw [← hread, ofList_of_nodup (nodup_keys_ofList entries), hread]

end

/-! ## Translations -/

section

variable {κ κ' α β : Type} [BEq κ] [BEq κ'] {f : κ → κ'} (hf : ∀ a b, (f a == f b) = (a == b))

include hf

theorem get?_map (k : κ) (m : List (κ × α)) :
    get? (f k) (m.map (Prod.map f id)) = get? k m := by
  induction m with
  | nil => rfl
  | cons e m ih => simp only [List.map_cons, Prod.map, get?, hf, ih, id]

theorem set_map (g : α → β) (k : κ) (v : α) (m : List (κ × α)) :
    set (f k) (g v) (m.map (Prod.map f g)) = (set k v m).map (Prod.map f g) := by
  induction m with
  | nil => rfl
  | cons e m ih =>
    simp only [List.map_cons, Prod.map, set, hf, ih]
    split <;> rfl

/-- Translating the entries before writing them or afterwards is the same. -/
theorem ofList_map (g : α → β) (entries : List (κ × α)) :
    ofList (entries.map (Prod.map f g)) = (ofList entries).map (Prod.map f g) := by
  induction entries using List.reverseRecOn with
  | nil => rfl
  | append_singleton entries e ih =>
    rw [List.map_append, List.map_singleton, Prod.map, ofList_concat, ih, set_map hf, ofList_concat]

end

end ServerTree.Assoc
