import ServerTree.Proofs.Assoc
import ServerTree.Proofs.Directory.Absence

/-!
# The extent and the order of a scan

A scan lists the entries that a path leads to below its root, when no name on the path is passed over: the files that
are route modules, and the directories that have a configuration module. A path leads through directories alone, so
nothing behind a link is listed. Files are listed in the order of their paths, name by name.

## Main definitions
- `FileTree.HasModule`, `FileTree.HasConfig`: what there is to be listed below a root
- `FileTree.NamesApart`: no directory has two entries of one name
- `pathPoints`, `InOrder`: paths as they are compared, name by name, and findings in the order of their paths
- `FileTree.Lists`: what is listed is what there is, in order

## Main statements
- `reaches_iff`: a scan looks into the directories that visible paths lead to
- `inOrder_scan`: what a scan meets is in order
- `scan_is_exact`: what is listed, and in which order
-/

namespace ServerTree

/-! ## What there is to be listed -/

/-- A name that is neither hidden nor that of a cache. -/
def IsVisible (name : String) : Prop := name.toList.head? ≠ some '.' ∧ name ≠ "__pycache__"

theorem isSkippedName_eq_false_iff {name : String} : isSkippedName name = false ↔ IsVisible name := by
  have hdot : Text.startsWith "." name = true ↔ name.toList.head? = some '.' := by
    have hchars : ".".toList = ['.'] := rfl
    rw [Text.startsWith, hchars]
    cases name.toList with
    | nil => decide
    | cons c cs => simp [List.isPrefixOf, eq_comm (a := '.')]
  rw [isSkippedName, IsVisible, Bool.or_eq_false_iff, beq_eq_false_iff_ne, ← Bool.not_eq_true, hdot]

/-- A path as it is compared: name by name, and each name by its code points. -/
def pathPoints (path : List String) : List (List Nat) := path.map Text.points

namespace FileTree

/-- No directory of a tree has two entries of one name. -/
def NamesApart (root : FileTree) : Prop :=
  ∀ path es, root.at? path = some (.dir es) → (es.map fun e => Text.points e.1).Nodup

/-- A path leads to a visible entry below a root: no entry on its way is a link, and no name is passed over. -/
structure Shows (root : FileTree) (path : List String) : Prop where
  visible : ∀ name ∈ path, IsVisible name
  notLink : ∀ above target, above <+: path → root.at? above ≠ some (.link target)

/-- A path leads to a file that is a route module. -/
structure HasModule (root : FileTree) (path : List String) : Prop extends root.Shows path where
  file : root.at? path = some .file
  name : ∃ name, path.getLast? = some name ∧ isRouteFile name = true

/-- A path leads to a directory with a file for its configuration. -/
structure HasConfig (root : FileTree) (path : List String) : Prop extends root.Shows path where
  directory : ∃ es, root.at? path = some (.dir es)
  file : root.at? (path ++ ["_config.py"]) = some .file

/-- What is listed is what there is, the files in the strict order of their paths, and nothing twice. -/
structure Lists (root : FileTree) (s : Scan) : Prop where
  routes : ∀ path, path ∈ s.routes ↔ root.HasModule path
  ordered : s.routes.Pairwise fun path other => pathPoints path < pathPoints other
  routesOnce : s.routes.Nodup
  configs : ∀ directory, directory ∈ s.configs ↔ root.HasConfig directory
  configsOnce : s.configs.Nodup

/-! ## Entries at paths -/

theorem at?_append (root : FileTree) (path rest : List String) :
    root.at? (path ++ rest) = (root.at? path).bind (at? rest) := by
  induction path generalizing root with
  | nil => rfl
  | cons name path ih =>
    cases root with
    | file => rfl
    | link target => rfl
    | dir es =>
      rw [List.cons_append, at?, at?]
      cases Assoc.get? name es with
      | none => rfl
      | some t => exact ih t

/-- No link is on the way to an entry that is found. -/
theorem notLink_of_at? {root t : FileTree} {path : List String} (h : root.at? path = some t)
    (ht : ∀ target, t ≠ .link target) :
    ∀ above target, above <+: path → root.at? above ≠ some (.link target) := by
  intro above target ⟨rest, hrest⟩ hlink
  rw [← hrest, at?_append, hlink, Option.bind_some] at h
  cases rest with
  | nil => exact ht target (Option.some.inj h).symm
  | cons name rest => cases h

theorem NamesApart.nodup {es : List (String × FileTree)} (h : NamesApart (.dir es)) :
    (es.map Prod.fst).Nodup := by
  -- names of different code points are different
  have hpoints : ((es.map Prod.fst).map Text.points).Nodup := by
    rw [List.map_map]
    exact h [] es rfl
  exact hpoints.of_map _

/-- In a directory without repeated names an entry is found by its name. -/
theorem NamesApart.mem_iff {es : List (String × FileTree)} (h : NamesApart (.dir es)) {name : String} {t : FileTree} :
    (name, t) ∈ es ↔ Assoc.get? name es = some t :=
  ⟨Assoc.get?_of_mem h.nodup, Assoc.mem_of_get?⟩

/-- What is below a directory has its names apart. -/
theorem NamesApart.below {root t : FileTree} (h : root.NamesApart) {path : List String} (ht : root.at? path = some t) :
    t.NamesApart := by
  intro rest inner hinner
  apply h (path ++ rest) inner
  rw [at?_append, ht]
  exact hinner

theorem NamesApart.entry {es : List (String × FileTree)} (h : NamesApart (.dir es)) {name : String} {t : FileTree}
    (ht : (name, t) ∈ es) : t.NamesApart := by
  have hat : (dir es).at? [name] = some t := by
    rw [at?, h.mem_iff.mp ht]
    rfl
  exact h.below hat

theorem namesApart_file : file.NamesApart := by
  intro path es h
  cases path <;> cases h

theorem namesApart_link (target : List String) : (link target).NamesApart := by
  intro path es h
  cases path <;> cases h

/-- The names of a tree are apart when those of its entries are, in a directory and below. -/
theorem namesApart_dir_iff {es : List (String × FileTree)} :
    (dir es).NamesApart ↔ (es.map fun e => Text.points e.1).Nodup ∧ ∀ e ∈ es, e.2.NamesApart := by
  constructor
  · intro h
    exact ⟨h [] es rfl, fun e he => h.entry (t := e.2) he⟩
  · intro ⟨hnames, hentries⟩ path inner hinner
    cases path with
    | nil =>
      obtain rfl : es = inner := dir.inj (Option.some.inj hinner)
      exact hnames
    | cons name path =>
      rw [at?, Option.bind_eq_some_iff] at hinner
      obtain ⟨t, ht, hinner⟩ := hinner
      exact hentries _ (Assoc.mem_of_get? ht) path inner hinner

end FileTree

/-- **A scan looks into the directories** that visible paths lead to. -/
theorem reaches_iff {es last : List (String × FileTree)} {names : List String}
    (h : FileTree.NamesApart (.dir es)) :
    Reaches es names last ↔
      (FileTree.dir es).at? names = some (.dir last) ∧ ∀ name ∈ names, isSkippedName name = false := by
  constructor
  · intro hreaches
    induction hreaches with
    | here es => exact ⟨rfl, by simp⟩
    | into hmem hname _ ih =>
      obtain ⟨hat, hnames⟩ := ih (h.entry hmem)
      refine ⟨?_, List.forall_mem_cons.mpr ⟨hname, hnames⟩⟩
      rw [FileTree.at?, h.mem_iff.mp hmem]
      exact hat
  · intro ⟨hat, hnames⟩
    induction names generalizing es with
    | nil =>
      obtain rfl : es = last := FileTree.dir.inj (Option.some.inj hat)
      exact .here es
    | cons name names ih =>
      obtain ⟨hname, hrest⟩ := List.forall_mem_cons.mp hnames
      rw [FileTree.at?, Option.bind_eq_some_iff] at hat
      obtain ⟨t, ht, hat⟩ := hat
      have hmem := h.mem_iff.mpr ht
      -- only a directory has entries below it
      cases t with
      | file => cases names <;> cases hat
      | link target => cases names <;> cases hat
      | dir inner => exact .into hmem hname (ih (h.entry hmem) hat hrest)

/-! ## What is listed -/

variable {es : List (String × FileTree)} {path : List String}

/-- **The route modules that are listed** are those below the root that are not passed over. -/
theorem mem_routes_iff (h : FileTree.NamesApart (.dir es)) :
    path ∈ (Scan.of es).routes ↔ (FileTree.dir es).HasModule path := by
  rw [mem_scan_routes]
  constructor
  · rintro ⟨directory, name, here, rfl, hreaches, hmem, hroute⟩
    obtain ⟨hat, hnames⟩ := (reaches_iff h).mp hreaches
    have hhere := h.below hat
    have hfile : (FileTree.dir es).at? (directory ++ [name]) = some .file := by
      rw [FileTree.at?_append, hat, Option.bind_some, FileTree.at?, hhere.mem_iff.mp hmem]
      rfl
    refine ⟨⟨?_, FileTree.notLink_of_at? hfile nofun⟩, hfile, name, by simp, hroute⟩
    intro other hother
    rw [← isSkippedName_eq_false_iff]
    rcases List.mem_append.mp hother with hdirectory | hlast
    · exact hnames other hdirectory
    · rw [List.mem_singleton.mp hlast]
      exact isSkippedName_of_isRouteFile hroute
  · intro hmodule
    obtain ⟨name, hlast, hroute⟩ := hmodule.name
    obtain ⟨directory, rfl⟩ := List.getLast?_eq_some_iff.mp hlast
    have hfile := hmodule.file
    rw [FileTree.at?_append, Option.bind_eq_some_iff] at hfile
    obtain ⟨t, ht, hentry⟩ := hfile
    -- the last name is that of an entry, so the others lead to a directory
    cases t with
    | file => cases hentry
    | link target => cases hentry
    | dir here =>
      rw [FileTree.at?, Option.bind_eq_some_iff] at hentry
      obtain ⟨t, hget, hthere⟩ := hentry
      obtain rfl : t = .file := Option.some.inj hthere
      refine ⟨directory, name, here, rfl, (reaches_iff h).mpr ⟨ht, ?_⟩, Assoc.mem_of_get? hget, hroute⟩
      intro other hother
      exact isSkippedName_eq_false_iff.mpr (hmodule.visible other (List.mem_append_left _ hother))

/-- **The directories with a configuration module that are listed** are those that are not passed over. -/
theorem mem_configs_iff (h : FileTree.NamesApart (.dir es)) :
    path ∈ (Scan.of es).configs ↔ (FileTree.dir es).HasConfig path := by
  rw [mem_scan_configs]
  have hentry : ∀ here, (FileTree.dir es).at? path = some (.dir here) →
      ((configFileName, .file) ∈ here ↔ (FileTree.dir es).at? (path ++ ["_config.py"]) = some .file) := by
    intro here hat
    rw [(h.below hat).mem_iff, FileTree.at?_append, hat, Option.bind_some, FileTree.at?]
    show _ ↔ (Assoc.get? configFileName here).bind _ = _
    cases Assoc.get? configFileName here <;> simp [FileTree.at?]
  constructor
  · intro ⟨here, hreaches, hmem⟩
    obtain ⟨hat, hnames⟩ := (reaches_iff h).mp hreaches
    refine ⟨⟨?_, FileTree.notLink_of_at? hat nofun⟩, ⟨here, hat⟩, (hentry here hat).mp hmem⟩
    exact fun name hname => isSkippedName_eq_false_iff.mp (hnames name hname)
  · intro hconfig
    obtain ⟨here, hat⟩ := hconfig.directory
    refine ⟨here, (reaches_iff h).mpr ⟨hat, ?_⟩, (hentry here hat).mpr hconfig.file⟩
    exact fun name hname => isSkippedName_eq_false_iff.mpr (hconfig.visible name hname)

/-! ## Order -/

/-- Paths that part at two names are in the order of these. -/
theorem pathPoints_lt {directory front back : List String} {name other : String}
    (h : Text.points name < Text.points other) :
    pathPoints (directory ++ [name] ++ front) < pathPoints (directory ++ [other] ++ back) := by
  simp only [pathPoints, List.map_append, List.map_cons, List.append_assoc, List.singleton_append]
  apply List.append_left_lt
  exact List.cons_lt_cons_iff.mpr (.inl h)

/-- The entries of a directory are visited in the strict order of their names. -/
theorem pairwise_sortByName (h : (es.map fun e => Text.points e.1).Nodup) :
    (sortByName es).Pairwise fun a b => Text.points a.1 < Text.points b.1 := by
  have hsorted : (sortByName es).Pairwise fun a b => Text.precedes a.1 b.1 = true := by
    have htrans : ∀ a b c : String × FileTree, Text.precedes a.1 b.1 = true → Text.precedes b.1 c.1 = true →
        Text.precedes a.1 c.1 = true := fun _ _ _ => precedes_trans
    have htotal : ∀ a b : String × FileTree, (Text.precedes a.1 b.1 || Text.precedes b.1 a.1) = true :=
      fun a b => precedes_total a.1 b.1
    unfold sortByName
    exact List.pairwise_mergeSort htrans htotal es
  have hdiffer : (sortByName es).Pairwise fun a b => Text.points a.1 ≠ Text.points b.1 := by
    have hperm := (List.mergeSort_perm es fun a b => Text.precedes a.1 b.1).map fun e => Text.points e.1
    exact List.pairwise_map.mp (hperm.nodup_iff.mpr h)
  exact (hsorted.and hdiffer).imp fun ⟨hle, hne⟩ => lt_of_le_of_ne (precedes_iff.mp hle) hne

/-- What a scan meets is in the order of the places. -/
def InOrder (fs : List Finding) : Prop := fs.Pairwise fun f g => pathPoints f.place < pathPoints g.place

/-- Entries that are visited in order are met in order, when what lies at each of them is. -/
theorem inOrder_flatMap (directory : List String) (h : (es.map fun e => Text.points e.1).Nodup)
    (hentries : ∀ e ∈ es, InOrder (e.2.scanEntry directory e.1)) :
    InOrder ((sortByName (FileTree.scanEntries directory es)).flatMap Prod.snd) := by
  rw [flatMap_sortByName_scanEntries, InOrder, List.pairwise_flatMap]
  constructor
  · exact fun e he => hentries e (mem_sortByName.mp he)
  · apply (pairwise_sortByName h).imp
    intro a b hlt f hf g hg
    -- the places go on behind the names of the entries
    obtain ⟨front, hfront⟩ := place_of_mem_scanEntry hf
    obtain ⟨back, hback⟩ := place_of_mem_scanEntry hg
    rw [← hfront, ← hback]
    exact pathPoints_lt hlt

mutual

theorem inOrder_scanEntry (directory : List String) (name : String) : (t : FileTree) → t.NamesApart →
    InOrder (t.scanEntry directory name)
  | .file, _ => by
    simp only [FileTree.scanEntry, fileFinding, InOrder]
    split_ifs <;> simp
  | .link _, _ => by simp [FileTree.scanEntry, InOrder]
  | .dir inner, h => by
    have hinner := inOrder_scanEntries (directory ++ [name]) inner fun e he => h.entry (t := e.2) he
    rw [FileTree.scanEntry]
    split
    · simp [InOrder]
    · exact inOrder_flatMap _ (h [] inner rfl) hinner

theorem inOrder_scanEntries (directory : List String) : (es : List (String × FileTree)) →
    (∀ e ∈ es, e.2.NamesApart) → ∀ e ∈ es, InOrder (e.2.scanEntry directory e.1)
  | [], _ => by simp
  | (name, t) :: es, h => by
    obtain ⟨ht, hrest⟩ := List.forall_mem_cons.mp h
    exact List.forall_mem_cons.mpr ⟨inOrder_scanEntry directory name t ht, inOrder_scanEntries directory es hrest⟩

end

/-- **What a scan meets is in order.** -/
theorem inOrder_scan (h : FileTree.NamesApart (.dir es)) : InOrder (FileTree.scan es) :=
  inOrder_flatMap [] (h [] es rfl) (inOrder_scanEntries [] es fun e he => h.entry (t := e.2) he)

/-- The names in the directories within reach differ. -/
theorem FileTree.NamesApart.namesDiffer (h : FileTree.NamesApart (.dir es)) : NamesDiffer es := by
  intro names here hreaches
  exact (h.below ((reaches_iff h).mp hreaches).1).nodup

/-- **A scan lists what there is.** -/
theorem lists_scan (h : FileTree.NamesApart (.dir es)) : (FileTree.dir es).Lists (.of es) where
  routes path := mem_routes_iff h
  ordered := by
    apply (inOrder_scan h).filterMap
    intro f g hlt path hpath other hother
    cases f <;> cases hpath
    cases g <;> cases hother
    exact hlt
  routesOnce := nodup_scan_routes h.namesDiffer
  configs directory := mem_configs_iff h
  configsOnce := nodup_scan_configs h.namesDiffer

/-- **A scan is exact.** Of a directory whose entries have their names apart, in each directory below, it lists the
files that are route modules and are not passed over, each once and in the strict order of their paths, and the
directories with a configuration module; all that is listed lies below the directory. -/
theorem scan_is_exact (fs : FileSystem) {path : String} {there : List String}
    (hthere : fs.locate? path = .ok (some there)) (hdir : fs.root.at? there = some (.dir es))
    (hnames : FileTree.NamesApart (.dir es)) :
    ∃ s, fs.scan path = .ok s ∧ (FileTree.dir es).Lists s ∧
      (∀ route ∈ s.routes, fs.root.at? (there ++ route) = some .file) ∧
      ∀ directory ∈ s.configs, fs.root.at? (there ++ directory ++ ["_config.py"]) = some .file := by
  have hlists := lists_scan hnames
  refine ⟨.of es, ?_, hlists, ?_, ?_⟩
  · have hentries : ((some there).bind fun names => fs.root.at? names) = some (.dir es) := hdir
    rw [FileSystem.scan, hthere]
    simp only [bind, Except.bind, hentries]
    rfl
  · intro route hroute
    rw [FileTree.at?_append, hdir]
    exact ((hlists.routes route).mp hroute).file
  · intro directory hconfig
    rw [List.append_assoc, FileTree.at?_append, hdir]
    exact ((hlists.configs directory).mp hconfig).file

/-- A directory of routes, which a link leads to. What is hidden or behind links in it is passed over. -/
def FileSystem.storefront : FileSystem where
  base := "/srv"
  root := .dir [
    ("live", .link ["routes"]),
    ("routes", .dir [
      ("users.py", .file),
      ("users", .dir [("[id].py", .file), ("_config.py", .file), ("test_users.py", .file)]),
      (".drafts", .dir [("new.py", .file)]),
      ("__pycache__", .dir [("users.py", .file)]),
      ("prices.py", .link ["prices.py"])]),
    ("prices.py", .file)]

theorem scan_is_exact_storefront :
    ∃ es, FileSystem.storefront.root.at? ["routes"] = some (.dir es) ∧ ∃ s,
      FileSystem.storefront.scan "/srv/live" = .ok s ∧ (FileTree.dir es).Lists s ∧
      (∀ route ∈ s.routes, FileSystem.storefront.root.at? (["routes"] ++ route) = some .file) ∧
      ∀ directory ∈ s.configs,
        FileSystem.storefront.root.at? (["routes"] ++ directory ++ ["_config.py"]) = some .file := by
  have hthere : FileSystem.storefront.locate? "/srv/live" = .ok (some ["routes"]) := by
    have hpath : FileSystem.checkPath "/srv/live" = .ok () := by decide
    have hbelow : FileSystem.storefront.below? "/srv/live" = some ["live"] := by decide
    have hfollow : FileSystem.storefront.follow? ["live"] = some ["routes"] := by
      simp [FileSystem.follow?, FileSystem.storefront, FileTree.links, FileTree.linksOf, FileTree.follow,
        FileTree.at?, Assoc.get?]
    simp only [FileSystem.locate?, hpath, hbelow, hfollow]
    decide
  refine ⟨_, rfl, scan_is_exact FileSystem.storefront hthere rfl ?_⟩
  simp only [FileTree.namesApart_dir_iff, List.forall_mem_cons, FileTree.namesApart_file, FileTree.namesApart_link,
    List.not_mem_nil, false_implies, implies_true]
  decide

end ServerTree
