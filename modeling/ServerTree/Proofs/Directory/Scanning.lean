import Mathlib.Data.List.Nodup
import ServerTree.Directory.Scan

/-!
# What a scan finds

A scan finds exactly the route modules and the configuration modules in the directories that can be reached
without passing through a link, a hidden entry or a cache, and finds each once when the names in every
directory differ.

## Main definitions
- `Reaches`: the directories below a directory that a scan looks into
- `Finding.place`: where a finding lies

## Main statements
- `mem_scan_configs`, `mem_scan_routes`: what is found
- `nodup_scan`: nothing is found twice
-/

namespace ServerTree

/-! ## Directories within reach -/

/-- Names lead from the entries of a directory to those of a directory below, and none of them is skipped. -/
inductive Reaches : List (String × FileTree) → List String → List (String × FileTree) → Prop
  | here (es : List (String × FileTree)) : Reaches es [] es
  | into {es inner last : List (String × FileTree)} {name : String} {names : List String} :
      (name, .dir inner) ∈ es → isSkippedName name = false → Reaches inner names last →
      Reaches es (name :: names) last

/-- What a scan meets at an entry that is no directory. -/
def entryFindings (directory : List String) (name : String) : FileTree → List Finding
  | .link _ => [.link (directory ++ [name])]
  | .file => if isSkippedName name then [] else fileFinding directory name
  | .dir _ => []

/-- What a scan meets in the directories within reach. -/
def IsMet (directory : List String) (es : List (String × FileTree)) (f : Finding) : Prop :=
  ∃ names here, Reaches es names here ∧
    ∃ e ∈ here, f ∈ entryFindings (directory ++ names) e.1 e.2

/-- What a scan meets at an entry or below it. -/
def IsMetAt (directory : List String) (f : Finding) (e : String × FileTree) : Prop :=
  f ∈ entryFindings directory e.1 e.2 ∨
    ∃ inner, e.2 = .dir inner ∧ isSkippedName e.1 = false ∧ IsMet (directory ++ [e.1]) inner f

/-- What is met in a directory is met at one of its entries, or below one that is not skipped. -/
theorem isMet_iff {directory : List String} {es : List (String × FileTree)} {f : Finding} :
    IsMet directory es f ↔ ∃ e ∈ es, IsMetAt directory f e := by
  constructor
  · rintro ⟨names, here, hreach, e, he, hf⟩
    cases hreach with
    | here =>
      rw [List.append_nil] at hf
      exact ⟨e, he, .inl hf⟩
    | into hmem hname hrest =>
      refine ⟨_, hmem, .inr ⟨_, rfl, hname, _, here, hrest, e, he, ?_⟩⟩
      rwa [List.append_assoc]
  · rintro ⟨⟨name, t⟩, he, hf | ⟨inner, rfl, hname, names, here, hreach, e, hmem, hf⟩⟩
    · exact ⟨[], es, .here es, _, he, by rwa [List.append_nil]⟩
    · refine ⟨name :: names, here, .into he hname hreach, e, hmem, ?_⟩
      rwa [List.append_assoc] at hf

/-! ## What is met -/

theorem mem_sortByName {α : Type} {entries : List (String × α)} {e : String × α} :
    e ∈ sortByName entries ↔ e ∈ entries := List.mem_mergeSort

mutual

/-- A scan meets at an entry what lies there or below. -/
theorem mem_scanEntry (directory : List String) (name : String) (f : Finding) : (t : FileTree) →
    (f ∈ t.scanEntry directory name ↔ IsMetAt directory f (name, t))
  | .file => by simp [FileTree.scanEntry, IsMetAt, entryFindings]
  | .link target => by simp [FileTree.scanEntry, IsMetAt, entryFindings]
  | .dir inner => by
    have hsorted : f ∈ (sortByName (FileTree.scanEntries (directory ++ [name]) inner)).flatMap Prod.snd ↔
        IsMet (directory ++ [name]) inner f := by
      simp only [List.mem_flatMap, mem_sortByName]
      exact mem_scanEntries _ f inner
    cases hname : isSkippedName name with
    | true => simp [FileTree.scanEntry, IsMetAt, entryFindings, hname]
    | false => simp [FileTree.scanEntry, IsMetAt, entryFindings, hname, hsorted]

/-- A scan meets in a row of entries what lies at one of them or below. -/
theorem mem_scanEntries (directory : List String) (f : Finding) : (es : List (String × FileTree)) →
    ((∃ e ∈ FileTree.scanEntries directory es, f ∈ e.2) ↔ IsMet directory es f)
  | [] => by
    rw [isMet_iff]
    simp [FileTree.scanEntries]
  | (name, t) :: es => by
    have hentry := mem_scanEntry directory name f t
    have hrest := mem_scanEntries directory f es
    rw [isMet_iff] at hrest ⊢
    rw [FileTree.scanEntries, List.exists_mem_cons_iff, List.exists_mem_cons_iff, hentry, hrest]

end

theorem mem_scan {es : List (String × FileTree)} {f : Finding} :
    f ∈ FileTree.scan es ↔ IsMet [] es f := by
  rw [FileTree.scan, List.mem_flatMap, ← mem_scanEntries]
  simp only [mem_sortByName]

/-! ## Files -/

theorem isSkippedName_configFileName : isSkippedName configFileName = false := by decide

theorem isRouteFile_configFileName : isRouteFile configFileName = false := by decide

/-- No route module has a name that is skipped. -/
theorem isSkippedName_of_isRouteFile {name : String} (h : isRouteFile name = true) :
    isSkippedName name = false := by
  have hstart : Text.startsWith "_" name = false ∧ Text.startsWith "." name = false := by
    simp only [isRouteFile, Bool.and_eq_true, Bool.not_eq_true', Bool.or_eq_false_iff] at h
    exact h.1.1.1.2
  have hcache : name ≠ "__pycache__" := by
    rintro rfl
    exact absurd hstart.1 (by decide)
  simp [isSkippedName, hstart.2, hcache]

/-- What a scan makes of an entry: a file of the one name is a configuration module. -/
theorem config_mem_entryFindings {directory found : List String} {name : String} {t : FileTree} :
    .config found ∈ entryFindings directory name t ↔
      t = .file ∧ name = configFileName ∧ found = directory := by
  cases t with
  | link target => simp [entryFindings]
  | dir inner => simp [entryFindings]
  | file =>
    by_cases hname : name = configFileName
    · subst hname
      simp [entryFindings, isSkippedName_configFileName, fileFinding]
    · simp only [entryFindings, fileFinding, if_neg hname]
      split_ifs <;> simp [hname]

/-- A file of the name of a route module is one. -/
theorem route_mem_entryFindings {directory found : List String} {name : String} {t : FileTree} :
    .route found ∈ entryFindings directory name t ↔
      t = .file ∧ isRouteFile name = true ∧ found = directory ++ [name] := by
  cases t with
  | link target => simp [entryFindings]
  | dir inner => simp [entryFindings]
  | file =>
    by_cases hname : name = configFileName
    · subst hname
      simp [entryFindings, isSkippedName_configFileName, fileFinding, isRouteFile_configFileName]
    · cases hroute : isRouteFile name with
      | true => simp [entryFindings, fileFinding, hname, isSkippedName_of_isRouteFile hroute, hroute]
      | false =>
        simp only [entryFindings, fileFinding, if_neg hname, hroute, Bool.false_eq_true, if_false]
        split <;> simp

/-- **The configuration modules that a scan finds** are those in the directories within reach. -/
theorem mem_scan_configs {es : List (String × FileTree)} {directory : List String} :
    directory ∈ (Scan.of es).configs ↔
      ∃ here, Reaches es directory here ∧ (configFileName, .file) ∈ here := by
  have hsorted : directory ∈ (Scan.of es).configs ↔ .config directory ∈ FileTree.scan es := by
    simp only [Scan.of, Scan.ofFindings, List.mem_filterMap]
    constructor
    · rintro ⟨f, hf, hconfig⟩
      cases f <;> simp_all
    · intro h
      exact ⟨_, h, rfl⟩
  rw [hsorted, mem_scan]
  constructor
  · rintro ⟨names, here, hreach, ⟨name, t⟩, he, hf⟩
    obtain ⟨rfl, rfl, rfl⟩ := config_mem_entryFindings.mp hf
    exact ⟨here, hreach, he⟩
  · rintro ⟨here, hreach, he⟩
    exact ⟨directory, here, hreach, _, he, config_mem_entryFindings.mpr ⟨rfl, rfl, rfl⟩⟩

/-- **The route modules that a scan finds** are those in the directories within reach. -/
theorem mem_scan_routes {es : List (String × FileTree)} {path : List String} :
    path ∈ (Scan.of es).routes ↔ ∃ directory name here, path = directory ++ [name] ∧
      Reaches es directory here ∧ (name, .file) ∈ here ∧ isRouteFile name = true := by
  have hsorted : path ∈ (Scan.of es).routes ↔ .route path ∈ FileTree.scan es := by
    simp only [Scan.of, Scan.ofFindings, List.mem_filterMap]
    constructor
    · rintro ⟨f, hf, hroute⟩
      cases f <;> simp_all
    · intro h
      exact ⟨_, h, rfl⟩
  rw [hsorted, mem_scan]
  constructor
  · rintro ⟨names, here, hreach, ⟨name, t⟩, he, hf⟩
    obtain ⟨rfl, hroute, rfl⟩ := route_mem_entryFindings.mp hf
    exact ⟨names, name, here, rfl, hreach, he, hroute⟩
  · rintro ⟨names, name, here, rfl, hreach, he, hroute⟩
    exact ⟨names, here, hreach, _, he, route_mem_entryFindings.mpr ⟨rfl, hroute, rfl⟩⟩

/-! ## Each once -/

/-- The path of the entry that a finding is about. -/
def Finding.place : Finding → List String
  | link path => path
  | config directory => directory ++ [configFileName]
  | route path => path

/-- In every directory within reach the names differ. -/
def NamesDiffer (es : List (String × FileTree)) : Prop :=
  ∀ names here, Reaches es names here → (here.map Prod.fst).Nodup

theorem place_of_mem_entryFindings {directory : List String} {name : String} {t : FileTree} {f : Finding}
    (h : f ∈ entryFindings directory name t) : f.place = directory ++ [name] := by
  cases f with
  | link path =>
    cases t with
    | link target => simpa [entryFindings, Finding.place] using h
    | dir inner => simp [entryFindings] at h
    | file =>
      simp only [entryFindings, fileFinding] at h
      split_ifs at h <;> simp at h
  | config found =>
    obtain ⟨-, rfl, rfl⟩ := config_mem_entryFindings.mp h
    rfl
  | route path => exact (route_mem_entryFindings.mp h).2.2

/-- What is met at an entry lies at it or below. -/
theorem place_of_mem_scanEntry {directory : List String} {name : String} {t : FileTree} {f : Finding}
    (h : f ∈ t.scanEntry directory name) : directory ++ [name] <+: f.place := by
  rcases (mem_scanEntry _ _ _ t).mp h with hhere | ⟨inner, -, -, names, here, -, e, -, hbelow⟩
  · exact (place_of_mem_entryFindings hhere) ▸ List.prefix_rfl
  · rw [place_of_mem_entryFindings hbelow, List.append_assoc]
    exact List.prefix_append ..

/-- What is met at entries of different names differs. -/
theorem disjoint_scanEntry {directory : List String} {name other : String} {t u : FileTree}
    (h : name ≠ other) : (t.scanEntry directory name).Disjoint (u.scanEntry directory other) := by
  intro f hf hf'
  obtain ⟨rest, hrest⟩ := place_of_mem_scanEntry hf
  obtain ⟨rest', hrest'⟩ := place_of_mem_scanEntry hf'
  rw [← hrest', List.append_assoc, List.append_assoc] at hrest
  exact h (List.cons.inj (List.append_cancel_left hrest)).1

theorem scanEntries_eq_map (directory : List String) (es : List (String × FileTree)) :
    FileTree.scanEntries directory es = es.map fun e => (e.1, e.2.scanEntry directory e.1) := by
  induction es with
  | nil => rfl
  | cons e es ih => rw [FileTree.scanEntries, ih, List.map_cons]

theorem NamesDiffer.tail {e : String × FileTree} {es : List (String × FileTree)}
    (h : NamesDiffer (e :: es)) : NamesDiffer es := by
  intro names here hreach
  cases hreach with
  | here => exact (List.nodup_cons.mp (h [] _ (.here _))).2
  | into hmem hname hrest => exact h _ _ (.into (List.mem_cons_of_mem e hmem) hname hrest)

mutual

theorem nodup_scanEntry (directory : List String) (name : String) : (t : FileTree) →
    (isSkippedName name = false → ∀ inner, t = .dir inner → NamesDiffer inner) →
    (t.scanEntry directory name).Nodup
  | .file, _ => by
    simp only [FileTree.scanEntry, fileFinding]
    split_ifs <;> simp
  | .link _, _ => by simp [FileTree.scanEntry]
  | .dir inner, h => by
    cases hname : isSkippedName name with
    | true => simp [FileTree.scanEntry, hname]
    | false =>
      have hinner := nodup_scanEntries (directory ++ [name]) inner (h hname inner rfl)
      simp only [FileTree.scanEntry, hname, Bool.false_eq_true, if_false, sortByName]
      exact ((List.mergeSort_perm _ _).flatMap_right _).nodup_iff.mpr hinner

theorem nodup_scanEntries (directory : List String) : (es : List (String × FileTree)) →
    NamesDiffer es → ((FileTree.scanEntries directory es).flatMap Prod.snd).Nodup
  | [], _ => by simp [FileTree.scanEntries]
  | (name, t) :: es, h => by
    have hrest := nodup_scanEntries directory es h.tail
    have hinner : isSkippedName name = false → ∀ inner, t = .dir inner → NamesDiffer inner := by
      rintro hname inner rfl names here hreach
      exact h _ _ (.into (List.mem_cons_self ..) hname hreach)
    have hentry := nodup_scanEntry directory name t hinner
    rw [FileTree.scanEntries, List.flatMap_cons]
    refine List.Nodup.append hentry hrest ?_
    intro f hf hfs
    obtain ⟨row, hrow, hfrow⟩ := List.mem_flatMap.mp hfs
    rw [scanEntries_eq_map] at hrow
    obtain ⟨e, he, rfl⟩ := List.mem_map.mp hrow
    have hname : name ≠ e.1 := by
      rintro rfl
      have hnames := (List.nodup_cons.mp (h [] _ (.here _))).1
      exact hnames (List.mem_map.mpr ⟨e, he, rfl⟩)
    exact disjoint_scanEntry hname hf hfrow

end

/-- **A scan finds nothing twice** when the names in every directory differ. -/
theorem nodup_scan {es : List (String × FileTree)} (h : NamesDiffer es) : (FileTree.scan es).Nodup :=
  ((List.mergeSort_perm _ _).flatMap_right _).nodup_iff.mpr (nodup_scanEntries [] es h)

theorem nodup_scan_routes {es : List (String × FileTree)} (h : NamesDiffer es) :
    (Scan.of es).routes.Nodup := by
  refine (nodup_scan h).filterMap ?_
  intro f g path hf hg
  cases f <;> cases g <;> simp_all

theorem nodup_scan_configs {es : List (String × FileTree)} (h : NamesDiffer es) :
    (Scan.of es).configs.Nodup := by
  refine (nodup_scan h).filterMap ?_
  intro f g directory hf hg
  cases f <;> cases g <;> simp_all

end ServerTree
