import ServerTree.Directory.Path
import ServerTree.Proofs.Routing.Path

/-!
# The URL of a route module

A scan only takes files whose names can be read as the end of a URL, so every route module that it finds has
one. Its segments come after those of everything that is put in front.

## Main statements
- `exists_stem`: the name of a route module is a stem with an ending
- `urlOfPath_of_isRouteFile`: a route module has a URL
- `pathSegments_orRoot_joinPaths`: joining paths puts their segments one after the other
-/

namespace ServerTree

/-! ## Segments of joined paths -/

theorem pathSegments_joinPaths (parts : List String) :
    pathSegments (joinPaths parts) = parts.flatMap pathSegments := by
  rw [pathSegments, segmentChars_joinPaths, List.map_flatMap]
  rfl

/-- A joined path has the segments of its parts, each once and in order, and the root has none. -/
theorem pathSegments_orRoot_joinPaths (parts : List String) :
    pathSegments (orRoot (joinPaths parts)) = parts.flatMap pathSegments := by
  rw [orRoot]
  split
  · next hempty =>
    rw [← pathSegments_joinPaths, String.isEmpty_iff.mp hempty]
    decide
  · exact pathSegments_joinPaths parts

/-! ## Every route module has a URL -/

/-- A character that is no separator is part of some piece. -/
theorem exists_mem_piecesOf {α : Type} [DecidableEq α] {sep x : α} {xs : List α} (hx : x ∈ xs) (hsep : x ≠ sep) :
    ∃ piece ∈ Text.piecesOf sep xs, x ∈ piece := by
  induction xs with
  | nil => cases hx
  | cons y ys ih =>
    rw [Text.piecesOf]
    by_cases hy : y = sep
    · have hys : x ∈ ys := (List.mem_cons.mp hx).resolve_left (hy ▸ hsep)
      obtain ⟨piece, hpiece, hmem⟩ := ih hys
      exact ⟨piece, by rw [if_pos hy]; exact List.mem_cons_of_mem _ hpiece, hmem⟩
    · rw [if_neg hy]
      cases hpieces : Text.piecesOf sep ys with
      | nil => exact absurd hpieces (piecesOf_ne_nil sep ys)
      | cons first rest =>
        rcases List.mem_cons.mp hx with rfl | hys
        · exact ⟨x :: first, List.mem_cons_self .., List.mem_cons_self ..⟩
        · obtain ⟨piece, hpiece, hmem⟩ := ih hys
          rw [hpieces] at hpiece
          rcases List.mem_cons.mp hpiece with rfl | hrest
          · exact ⟨y :: piece, List.mem_cons_self .., List.mem_cons_of_mem _ hmem⟩
          · exact ⟨piece, List.mem_cons_of_mem _ hrest, hmem⟩

/-! ### The ends of joined texts -/

/-- A joined text begins with its first part. -/
theorem prefix_join (sep first : String) (parts : List String) :
    first.toList <+: (Text.join sep (first :: parts)).toList := by
  rw [Text.join]
  by_cases hparts : parts = []
  · exact ⟨[], by rw [hparts, String.intercalate_singleton, List.append_nil]⟩
  · rw [String.intercalate_cons_of_ne_nil hparts, String.toList_append, String.toList_append, List.append_assoc]
    exact List.prefix_append ..

/-- A joined text ends with its last part. -/
theorem suffix_join (sep : String) (parts : List String) (last : String) :
    last.toList <:+ (Text.join sep (parts ++ [last])).toList := by
  rw [Text.join]
  by_cases hparts : parts = []
  · exact ⟨[], by rw [hparts, List.nil_append, List.nil_append, String.intercalate_singleton]⟩
  · rw [String.intercalate_append_of_ne_nil hparts (List.cons_ne_nil _ _), String.intercalate_singleton,
      String.toList_append]
    exact List.suffix_append ..

/-! ### Names -/

/-- The name of a route module is a stem with the ending of source files. -/
theorem exists_stem {name : String} (h : isRouteFile name = true) :
    ∃ stem, name = stem ++ ".py" := by
  have hend : Text.glyphs ".py" <:+ Text.glyphs name := by
    simp only [isRouteFile, Bool.and_eq_true] at h
    exact List.isSuffixOf_iff_suffix.mp h.1.1.1.1
  obtain ⟨front, hfront⟩ := hend
  -- glyphs are cut into their characters again
  have hchars : ∀ s, (Text.glyphs s).flatMap String.toList = s.toList := by
    intro s
    rw [Text.glyphs, List.flatMap_map]
    simp only [String.toList_ofList]
    rw [List.flatMap_id']
    exact Text.flatten_glyphsOf s.toList
  refine ⟨String.ofList (front.flatMap String.toList), ?_⟩
  rw [← String.toList_inj, ← hchars name, ← hfront, List.flatMap_append, String.toList_append, String.toList_ofList,
    hchars ".py"]

/-- The name of a route module has a letter in it. -/
theorem mem_of_isRouteFile {name : String} (h : isRouteFile name = true) : 'p' ∈ name.toList := by
  obtain ⟨stem, rfl⟩ := exists_stem h
  rw [String.toList_append]
  exact List.mem_append_right _ (by decide)

/-- A character of a path that is neither a slash nor a dot is one of a name. -/
theorem exists_mem_names {path : String} {c : Char} (h : c ∈ path.toList) (hslash : c ≠ '/') (hdot : c ≠ '.') :
    ∃ name ∈ (FilePath.ofText path).names, c ∈ name.toList := by
  obtain ⟨piece, hpiece, hmem⟩ := exists_mem_piecesOf h hslash
  refine ⟨String.ofList piece, List.mem_filter.mpr ⟨List.mem_map_of_mem hpiece, ?_⟩, ?_⟩
  · have hne : ∀ other : String, c ∉ other.toList → String.ofList piece ≠ other := by
      rintro other hother rfl
      exact hother (by rwa [String.toList_ofList])
    simp [hne "" (by simp), hne "." (by simpa using hdot)]
  · rwa [String.toList_ofList]

/-- A path with a letter in it has a URL. -/
theorem urlOfPath_of_mem {path : String} (h : 'p' ∈ path.toList) : ∃ url, urlOfPath path = .ok url := by
  have hunified : 'p' ∈ (unifySlashes path).toList := by
    rw [unifySlashes, String.toList_ofList]
    exact List.mem_map.mpr ⟨'p', h, by decide⟩
  obtain ⟨name, hname, -⟩ := exists_mem_names hunified (by decide) (by decide)
  rw [urlOfPath]
  cases hnames : (FilePath.ofText (unifySlashes path)).urlNames? with
  | none =>
    rw [FilePath.urlNames?, List.getLast?_eq_some_getLast (List.ne_nil_of_mem hname)] at hnames
    cases hnames
  | some names =>
    cases names <;> exact ⟨_, by rw [FilePath.url?, hnames]⟩

/-- Every route module has a URL of its own. -/
theorem urlOfPath_of_isRouteFile {name : String} (directory : List String) (h : isRouteFile name = true) :
    ∃ url, urlOfPath (Text.join "/" (directory ++ [name])) = .ok url :=
  urlOfPath_of_mem ((suffix_join "/" directory name).subset (mem_of_isRouteFile h))

end ServerTree
