import ServerTree.Routing.Path

/-!
# Paths as rows of segments

The segments of a path are texts without slashes. A path is known by its segments: writing them with
slashes in front and reading the result gives them back, so a path that was joined from others can be
joined further, in any grouping.

## Main statements
- `segmentChars_segmentsPath`: segments that are written are read back
- `segmentChars_joinPaths`: the segments of a joined path are those of its parts
- `joinPaths_append`: parts can be joined ahead
-/

namespace ServerTree

/-- A text that can stand between two slashes. -/
def IsSegment (cs : List Char) : Prop := cs ≠ [] ∧ '/' ∉ cs

/-- No piece has a separator in it. -/
theorem not_mem_of_mem_piecesOf {α : Type} [DecidableEq α] {sep : α} {xs piece : List α}
    (h : piece ∈ Text.piecesOf sep xs) : sep ∉ piece := by
  induction xs generalizing piece with
  | nil =>
    obtain rfl : piece = [] := by simpa [Text.piecesOf] using h
    simp
  | cons x xs ih =>
    rw [Text.piecesOf] at h
    by_cases hx : x = sep
    · rw [if_pos hx] at h
      rcases List.mem_cons.mp h with rfl | hmem
      · simp
      · exact ih hmem
    · rw [if_neg hx] at h
      cases hpieces : Text.piecesOf sep xs with
      | nil => exact absurd hpieces (piecesOf_ne_nil sep xs)
      | cons w ws =>
        rw [hpieces] at h ih
        rcases List.mem_cons.mp h with rfl | hmem
        · intro hsep
          rcases List.mem_cons.mp hsep with heq | hw
          · exact hx heq.symm
          · exact ih (List.mem_cons_self ..) hw
        · exact ih (List.mem_cons_of_mem _ hmem)

/-- What is in a piece is in the whole. -/
theorem mem_of_mem_piecesOf {α : Type} [DecidableEq α] {sep x : α} {xs piece : List α}
    (h : piece ∈ Text.piecesOf sep xs) (hx : x ∈ piece) : x ∈ xs := by
  induction xs generalizing piece with
  | nil =>
    obtain rfl : piece = [] := by simpa [Text.piecesOf] using h
    exact hx
  | cons y ys ih =>
    rw [Text.piecesOf] at h
    split at h
    · rcases List.mem_cons.mp h with rfl | hmem
      · cases hx
      · exact List.mem_cons_of_mem _ (ih hmem hx)
    · cases hpieces : Text.piecesOf sep ys with
      | nil => exact absurd hpieces (piecesOf_ne_nil sep ys)
      | cons w ws =>
        rw [hpieces] at h ih
        rcases List.mem_cons.mp h with rfl | hmem
        · rcases List.mem_cons.mp hx with rfl | hw
          · exact List.mem_cons_self ..
          · exact List.mem_cons_of_mem _ (ih (List.mem_cons_self ..) hw)
        · exact List.mem_cons_of_mem _ (ih (List.mem_cons_of_mem _ hmem) hx)

/-- The segments of a path can stand between slashes. -/
theorem isSegment_of_mem_segmentChars {cs segment : List Char} (h : segment ∈ segmentChars cs) :
    IsSegment segment := by
  obtain ⟨hmem, hne⟩ := List.mem_filter.mp h
  refine ⟨?_, not_mem_of_mem_piecesOf hmem⟩
  rintro rfl
  exact absurd hne (by simp)

/-- A list without separators is one piece. -/
theorem piecesOf_of_not_mem {α : Type} [DecidableEq α] {sep : α} {xs : List α} (h : sep ∉ xs) :
    Text.piecesOf sep xs = [xs] := by
  induction xs with
  | nil => rfl
  | cons x xs ih =>
    obtain ⟨hx, hxs⟩ : ¬ sep = x ∧ sep ∉ xs := by simpa using h
    rw [Text.piecesOf, if_neg (Ne.symm hx), ih hxs]

/-- A segment is a path of itself. -/
theorem segmentChars_of_isSegment {segment : List Char} (h : IsSegment segment) :
    segmentChars segment = [segment] := by
  obtain ⟨hne, hslash⟩ := h
  rw [segmentChars, piecesOf_of_not_mem hslash]
  simp [hne]

/-- Segments that are written with slashes in front are read back. -/
theorem segmentChars_segmentsPath {segments : List (List Char)} (h : ∀ s ∈ segments, IsSegment s) :
    segmentChars (segmentsPath segments) = segments := by
  -- the induction needs any text in front, since each slash ends the piece before it
  suffices ∀ cs, segmentChars (cs ++ segmentsPath segments) = segmentChars cs ++ segments by
    simpa [segmentChars, Text.piecesOf] using this []
  induction segments with
  | nil => simp [segmentsPath]
  | cons s segments ih =>
    intro cs
    have hrest := ih fun s' hs' => h s' (List.mem_cons_of_mem _ hs')
    have hs := segmentChars_of_isSegment (h s (List.mem_cons_self ..))
    show segmentChars (cs ++ ('/' :: s ++ segmentsPath segments)) = _
    rw [List.cons_append, segmentChars_append_slash, hrest, hs]
    rfl

/-- The segments of a joined path are those of its parts. -/
theorem segmentChars_joinPaths (parts : List String) :
    segmentChars (joinPaths parts).toList = parts.flatMap fun p => segmentChars p.toList := by
  rw [joinPaths, String.toList_ofList]
  apply segmentChars_segmentsPath
  intro s hs
  obtain ⟨p, -, hmem⟩ := List.mem_flatMap.mp hs
  exact isSegment_of_mem_segmentChars hmem

/-- Some of the parts of a path can be joined ahead. -/
theorem joinPaths_append (parts rest : List String) :
    joinPaths (joinPaths parts :: rest) = joinPaths (parts ++ rest) := by
  show String.ofList (segmentsPath ((joinPaths parts :: rest).flatMap fun p => segmentChars p.toList)) = _
  rw [List.flatMap_cons, segmentChars_joinPaths, ← List.flatMap_append, joinPaths]

/-- Any row of segments is that of some path. -/
theorem exists_pathSegments_eq {parts : List String} (h : ∀ p ∈ parts, IsSegment p.toList) :
    ∃ path, pathSegments path = parts := by
  refine ⟨String.ofList (segmentsPath (parts.map String.toList)), ?_⟩
  have hall : ∀ s ∈ parts.map String.toList, IsSegment s := by
    intro s hs
    obtain ⟨p, hp, rfl⟩ := List.mem_map.mp hs
    exact h p hp
  rw [pathSegments, String.toList_ofList, segmentChars_segmentsPath hall, List.map_map]
  simp

/-- What a path is read as are texts that can stand between slashes. -/
theorem isSegment_of_mem_pathSegments {path part : String} (h : part ∈ pathSegments path) :
    IsSegment part.toList := by
  obtain ⟨s, hs, rfl⟩ := List.mem_map.mp h
  rw [String.toList_ofList]
  exact isSegment_of_mem_segmentChars hs

/-- The characters of a segment are characters of the path. -/
theorem mem_of_mem_pathSegments {path part : String} (h : part ∈ pathSegments path) {c : Char}
    (hc : c ∈ part.toList) : c ∈ path.toList := by
  obtain ⟨s, hs, rfl⟩ := List.mem_map.mp h
  rw [String.toList_ofList] at hc
  exact mem_of_mem_piecesOf (List.mem_filter.mp hs).1 hc

end ServerTree
