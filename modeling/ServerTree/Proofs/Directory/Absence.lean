import Mathlib.Data.List.Lex
import ServerTree.Proofs.Directory.Scanning

/-!
# What a scan finds when files are absent

Files can be taken out of a directory and of the directories below it. A scan then finds what it found
before, in the same order, but for these files: entries are visited in the order of their names, and the
order of those that stay does not depend on the others.

## Main definitions
- `FileTree.entriesWithout`: the entries of a directory without certain files
- `Finding.stays`: whether a finding is about none of the files

## Main statement
- `scan_entriesWithout`: a scan meets what stays
-/

namespace ServerTree

/-! ## Entries without certain files -/

namespace FileTree

/-- Whether an entry is one of the files that are taken out. -/
def isGone (gone : List (List String)) (path : List String) : FileTree → Bool
  | file => decide (path ∈ gone)
  | _ => false

mutual

/-- What is left of an entry. -/
def without (gone : List (List String)) (path : List String) : FileTree → FileTree
  | file => file
  | link target => link target
  | dir es => dir (entriesWithout gone path es)

/-- The entries of a directory without the files of certain paths. -/
def entriesWithout (gone : List (List String)) (directory : List String) :
    List (String × FileTree) → List (String × FileTree)
  | [] => []
  | (name, t) :: es =>
    if t.isGone gone (directory ++ [name]) then entriesWithout gone directory es
    else (name, t.without gone (directory ++ [name])) :: entriesWithout gone directory es

end

end FileTree

/-- Whether a finding is left when files are taken out. Links are no files. -/
def Finding.stays (gone : List (List String)) : Finding → Bool
  | link _ => true
  | f => decide (f.place ∉ gone)

/-! ## The order of names -/

theorem precedes_iff {a b : String} : Text.precedes a b = true ↔ Text.points a ≤ Text.points b := by
  have hless : (Text.points b).lex (Text.points a) Nat.blt = true ↔ Text.points b < Text.points a := by
    simp only [List.lex_eq_true_iff_lex, Nat.blt_eq]
    rfl
  rw [Text.precedes, Bool.not_eq_true', ← Bool.not_eq_true, hless, not_lt]

theorem precedes_trans {a b c : String} (h : Text.precedes a b = true) (h' : Text.precedes b c = true) :
    Text.precedes a c = true :=
  precedes_iff.mpr ((precedes_iff.mp h).trans (precedes_iff.mp h'))

theorem precedes_total (a b : String) : (Text.precedes a b || Text.precedes b a) = true := by
  rw [Bool.or_eq_true, precedes_iff, precedes_iff]
  exact le_total ..

section

variable {α : Type} {le : α → α → Bool}

/-- A row is cut in one place only into what fails a test and what passes it. -/
theorem append_inj_of_test {q : α → Bool} {xs ys xs' ys' : List α} (h : xs ++ ys = xs' ++ ys')
    (hxs : ∀ x ∈ xs, q x = false) (hys : ∀ y ∈ ys, q y = true) (hxs' : ∀ x ∈ xs', q x = false)
    (hys' : ∀ y ∈ ys', q y = true) : xs = xs' ∧ ys = ys' := by
  have hfails : ∀ {zs : List α}, (∀ z ∈ zs, q z = false) → zs.filter q = [] := fun hzs =>
    List.filter_eq_nil_iff.mpr fun z hz => by rw [hzs z hz]; exact Bool.false_ne_true
  have hpassing := congrArg (List.filter q) h
  rw [List.filter_append, List.filter_append, hfails hxs, hfails hxs', List.filter_eq_self.mpr hys,
    List.filter_eq_self.mpr hys', List.nil_append, List.nil_append] at hpassing
  subst hpassing
  exact ⟨List.append_cancel_right h, rfl⟩

/-- What stays of a row that is sorted is in the order in which it is sorted by itself. -/
theorem filter_mergeSort (htrans : ∀ a b c, le a b = true → le b c = true → le a c = true)
    (htotal : ∀ a b, (le a b || le b a) = true) (p : α → Bool) (xs : List α) :
    (xs.mergeSort le).filter p = (xs.filter p).mergeSort le := by
  -- the first element comes to stand before all that it may precede, among all or among those that stay
  have hafter : ∀ {a : α} {xs before after : List α}, (a :: xs).mergeSort le = before ++ a :: after →
      ∀ b ∈ after, le a b = true := by
    intro a xs before after h b hb
    have hsorted := List.pairwise_mergeSort htrans htotal (a :: xs)
    rw [h] at hsorted
    exact List.rel_of_pairwise_cons (List.pairwise_append.mp hsorted).2.1 hb
  induction xs with
  | nil => simp
  | cons a xs ih =>
    obtain ⟨before, after, hsort, hrest, hbefore⟩ := List.mergeSort_cons htrans htotal a xs
    rw [hrest, List.filter_append] at ih
    by_cases ha : p a = true
    · obtain ⟨before', after', hsort', hrest', hbefore'⟩ :=
        List.mergeSort_cons htrans htotal a (xs.filter p)
      have hparts : before.filter p = before' ∧ after.filter p = after' :=
        append_inj_of_test (ih.trans hrest')
          (fun b hb => by simpa using hbefore b (List.mem_of_mem_filter hb))
          (fun b hb => hafter hsort b (List.mem_of_mem_filter hb))
          (fun b hb => by simpa using hbefore' b hb) (hafter hsort')
      rw [List.filter_cons_of_pos ha, hsort, hsort', List.filter_append, List.filter_cons_of_pos ha,
        hparts.1, hparts.2]
    · rw [List.filter_cons_of_neg ha, hsort, List.filter_append, List.filter_cons_of_neg ha, ih]

end

theorem sortByName_filter {α : Type} (p : String × α → Bool) (entries : List (String × α)) :
    sortByName (entries.filter p) = (sortByName entries).filter p := by
  have htrans : ∀ a b c : String × α, Text.precedes a.1 b.1 = true → Text.precedes b.1 c.1 = true →
      Text.precedes a.1 c.1 = true := fun _ _ _ => precedes_trans
  exact (filter_mergeSort htrans (fun a b => precedes_total a.1 b.1) p entries).symm

theorem sortByName_map {α β : Type} (f : String × α → β) (entries : List (String × α)) :
    sortByName (entries.map fun e => (e.1, f e)) = (sortByName entries).map fun e => (e.1, f e) := by
  -- names are all that is compared, and they stay
  exact (List.map_mergeSort (s := fun a b : String × β => Text.precedes a.1 b.1) fun _ _ _ _ => rfl).symm

/-! ## Scans -/

/-- Entries are visited in the order of their names. -/
theorem flatMap_sortByName_scanEntries (directory : List String) (es : List (String × FileTree)) :
    (sortByName (FileTree.scanEntries directory es)).flatMap Prod.snd =
      (sortByName es).flatMap fun e => e.2.scanEntry directory e.1 := by
  rw [scanEntries_eq_map, sortByName_map, List.flatMap_map]

/-- Entries that are in order already are visited as they are. -/
theorem scan_of_sorted {es : List (String × FileTree)}
    (h : es.Pairwise fun a b => Text.precedes a.1 b.1 = true) :
    FileTree.scan es = es.flatMap fun e => e.2.scanEntry [] e.1 := by
  rw [FileTree.scan, flatMap_sortByName_scanEntries, sortByName, List.mergeSort_of_pairwise h]

/-- What stays of the entries of a directory. -/
theorem entriesWithout_eq (gone : List (List String)) (directory : List String)
    (es : List (String × FileTree)) :
    FileTree.entriesWithout gone directory es =
      (es.filter fun e => !e.2.isGone gone (directory ++ [e.1])).map fun e =>
        (e.1, e.2.without gone (directory ++ [e.1])) := by
  induction es with
  | nil => rfl
  | cons e es ih =>
    rw [FileTree.entriesWithout, ih]
    cases h : e.2.isGone gone (directory ++ [e.1]) <;> simp [h]

/-- What is met at a file that is taken out does not stay. -/
theorem filter_fileFinding_of_isGone {gone : List (List String)} {directory : List String} {name : String}
    {t : FileTree} (h : t.isGone gone (directory ++ [name]) = true) :
    (t.scanEntry directory name).filter (Finding.stays gone) = [] := by
  cases t with
  | link target => cases h
  | dir es => cases h
  | file =>
    have hgone : directory ++ [name] ∈ gone := of_decide_eq_true h
    refine List.filter_eq_nil_iff.mpr fun f hf => ?_
    rcases (mem_scanEntry _ _ _ _).mp hf with hhere | ⟨_, hdir, -⟩
    · have hplace := place_of_mem_entryFindings hhere
      cases f with
      | link path => simp [entryFindings, fileFinding] at hhere; split_ifs at hhere <;> simp at hhere
      | config directory => simp [Finding.stays, hplace, hgone]
      | route path => simp [Finding.stays, hplace, hgone]
    · cases hdir

/-- What is met in a directory stays when it is met at an entry that stays. -/
theorem scanEntries_without_of_forall {gone : List (List String)} {directory : List String}
    {es : List (String × FileTree)}
    (h : ∀ e ∈ es, e.2.isGone gone (directory ++ [e.1]) = false →
      (e.2.without gone (directory ++ [e.1])).scanEntry directory e.1 =
        (e.2.scanEntry directory e.1).filter (Finding.stays gone)) :
    (sortByName (FileTree.scanEntries directory (FileTree.entriesWithout gone directory es))).flatMap
        Prod.snd =
      ((sortByName (FileTree.scanEntries directory es)).flatMap Prod.snd).filter (Finding.stays gone) := by
  rw [flatMap_sortByName_scanEntries, flatMap_sortByName_scanEntries, entriesWithout_eq, sortByName_map,
    sortByName_filter, List.flatMap_map]
  replace h := fun e (he : e ∈ sortByName es) => h e (mem_sortByName.mp he)
  generalize sortByName es = sorted at h
  induction sorted with
  | nil => rfl
  | cons e rest ih =>
    have hrest := ih fun e' he' => h e' (List.mem_cons_of_mem e he')
    rw [List.flatMap_cons, List.filter_append, ← hrest]
    cases hgone : e.2.isGone gone (directory ++ [e.1]) with
    | true =>
      rw [List.filter_cons_of_neg (by simp [hgone]), filter_fileFinding_of_isGone hgone, List.nil_append]
    | false =>
      rw [List.filter_cons_of_pos (by simp [hgone]), List.flatMap_cons,
        h e (List.mem_cons_self ..) hgone]

mutual

theorem scanEntry_without (gone : List (List String)) (directory : List String) (name : String) :
    (t : FileTree) → t.isGone gone (directory ++ [name]) = false →
      (t.without gone (directory ++ [name])).scanEntry directory name =
        (t.scanEntry directory name).filter (Finding.stays gone)
  | .link target, _ => rfl
  | .file, h => by
    have hstays : directory ++ [name] ∉ gone := of_decide_eq_false h
    refine (List.filter_eq_self.mpr fun f hf => ?_).symm
    rcases (mem_scanEntry _ _ _ _).mp hf with hhere | ⟨_, hdir, -⟩
    · have hplace := place_of_mem_entryFindings hhere
      cases f <;> simp [Finding.stays, hplace, hstays]
    · cases hdir
  | .dir es, _ => by
    rw [FileTree.without, FileTree.scanEntry, FileTree.scanEntry]
    split
    · rfl
    · exact scanEntries_without_of_forall (forall_scanEntry_without gone (directory ++ [name]) es)

theorem forall_scanEntry_without (gone : List (List String)) (directory : List String) :
    (es : List (String × FileTree)) → ∀ e ∈ es, e.2.isGone gone (directory ++ [e.1]) = false →
      (e.2.without gone (directory ++ [e.1])).scanEntry directory e.1 =
        (e.2.scanEntry directory e.1).filter (Finding.stays gone)
  | [], _, hmem, _ => by cases hmem
  | (name, t) :: es, e, hmem, h => by
    rcases List.mem_cons.mp hmem with rfl | hmem
    · exact scanEntry_without gone directory name t h
    · exact forall_scanEntry_without gone directory es e hmem h

end

/-- **A scan meets what stays**, in the same order, when files are taken out. -/
theorem scan_entriesWithout (gone : List (List String)) (es : List (String × FileTree)) :
    FileTree.scan (FileTree.entriesWithout gone [] es) =
      (FileTree.scan es).filter (Finding.stays gone) :=
  scanEntries_without_of_forall (forall_scanEntry_without gone [] es)

theorem links_entriesWithout (gone : List (List String)) (es : List (String × FileTree)) :
    (Scan.of (FileTree.entriesWithout gone [] es)).links = (Scan.of es).links := by
  simp only [Scan.of, Scan.ofFindings, scan_entriesWithout, List.filterMap_filter]
  congr 1
  funext f
  cases f with
  | link path => rfl
  | config directory => simp
  | route path => simp

theorem routes_entriesWithout (gone : List (List String)) (es : List (String × FileTree)) :
    (Scan.of (FileTree.entriesWithout gone [] es)).routes =
      (Scan.of es).routes.filter fun path => decide (path ∉ gone) := by
  simp only [Scan.of, Scan.ofFindings, scan_entriesWithout, List.filterMap_filter, List.filter_filterMap]
  congr 1
  funext f
  cases f with
  | link path => rfl
  | config directory => simp [Finding.stays]
  | route path => by_cases h : path ∈ gone <;> simp [Finding.stays, Finding.place, Option.filter_some, h]

theorem configs_entriesWithout (gone : List (List String)) (es : List (String × FileTree)) :
    (Scan.of (FileTree.entriesWithout gone [] es)).configs =
      (Scan.of es).configs.filter fun directory => decide (directory ++ [configFileName] ∉ gone) := by
  simp only [Scan.of, Scan.ofFindings, scan_entriesWithout, List.filterMap_filter, List.filter_filterMap]
  congr 1
  funext f
  cases f with
  | link path => rfl
  | config directory =>
    by_cases h : directory ++ [configFileName] ∈ gone <;>
      simp [Finding.stays, Finding.place, Option.filter_some, h]
  | route path => simp [Finding.stays]

end ServerTree
