import Mathlib.Data.List.Forall2
import ServerTree.Proofs.Directory.Chain
import ServerTree.Proofs.Directory.Url
import ServerTree.Proofs.Routing.Pattern

/-!
# The algebra of joined paths

A path is joined from parts in many places: each group of a tree joins its own to the path above it, the configuration of
a directory joins its groups and is joined to those of the directories above, and a route joins its own path last. In
which groups the parts are joined makes no difference, since a join is known by its segments and these are the segments of
the parts, one after the other.

## Main definitions
- `IsNormalPath`: the form of a joined path
- `Nesting`: paths that are made of parts by joins within joins
- `StandsFor`: a path that can take the place of a row of parts

## Main statements
- `joinPaths_eq_empty_iff`, `isNormalPath_joinPaths`: what a joined path looks like
- `StandsFor.joinPaths`: parts can be joined ahead, anywhere in a row
- `standsFor_withPath`, `standsFor_collect`, `standsFor_mergeChain`: each place that joins paths does so
- `joins_are_associative`: the algebra of joins
-/

namespace ServerTree

/-! ## The form of a joined path -/

/-- A path that begins with one slash and no more, has no empty segment and does not end in a slash. -/
structure IsNormalPath (path : String) : Prop where
  begins : ∃ c rest, path.toList = '/' :: c :: rest ∧ c ≠ '/'
  filled : ∀ piece ∈ (Text.piecesOf '/' path.toList).tail, piece ≠ []
  ends : path.toList.getLast? ≠ some '/'

/-- A path without segments has nothing but slashes. -/
theorem segmentChars_eq_nil_iff {cs : List Char} : segmentChars cs = [] ↔ ∀ c ∈ cs, c = '/' := by
  constructor
  · intro hnone c hc
    by_contra hslash
    -- the character is in some piece, which would be a segment
    obtain ⟨piece, hpiece, hmem⟩ := exists_mem_piecesOf hc hslash
    have hsegment : piece ∈ segmentChars cs := List.mem_filter.mpr ⟨hpiece, by simp [List.ne_nil_of_mem hmem]⟩
    rw [hnone] at hsegment
    cases hsegment
  · intro hslashes
    apply List.eq_nil_iff_forall_not_mem.mpr
    intro segment hsegment
    obtain ⟨hne, hslash⟩ := isSegment_of_mem_segmentChars hsegment
    obtain ⟨c, hc⟩ := List.exists_mem_of_ne_nil segment hne
    have hmem : c ∈ cs := mem_of_mem_piecesOf (List.mem_filter.mp hsegment).1 hc
    exact hslash (hslashes c hmem ▸ hc)

/-- **A join is empty** when no part has anything but slashes. -/
theorem joinPaths_eq_empty_iff {parts : List String} :
    joinPaths parts = "" ↔ ∀ part ∈ parts, ∀ c ∈ part.toList, c = '/' := by
  have hempty : ∀ segments : List (List Char), segmentsPath segments = [] ↔ segments = [] := by
    intro segments
    cases segments <;> simp [segmentsPath]
  rw [← String.toList_inj, joinPaths, String.toList_ofList]
  simp only [String.toList_empty, hempty, List.flatMap_eq_nil_iff, segmentChars_eq_nil_iff]

/-- What is written with slashes in front is cut at these slashes. -/
theorem piecesOf_segmentsPath {segments : List (List Char)} (h : ∀ s ∈ segments, '/' ∉ s) :
    Text.piecesOf '/' (segmentsPath segments) = [] :: segments := by
  induction segments with
  | nil => rfl
  | cons s segments ih =>
    have hrest := ih fun s' hs' => h s' (List.mem_cons_of_mem _ hs')
    have hs : Text.piecesOf '/' s = [s] := piecesOf_of_not_mem (h s (List.mem_cons_self ..))
    have hfirst : segmentsPath (s :: segments) = '/' :: (s ++ segmentsPath segments) := rfl
    rw [hfirst, Text.piecesOf, if_pos rfl]
    congr 1
    cases segments with
    | nil => simpa [segmentsPath] using hs
    | cons s' segments =>
      -- the slash of the next segment ends this one
      have hnext : segmentsPath (s' :: segments) = '/' :: (s' ++ segmentsPath segments) := rfl
      rw [hnext, Text.piecesOf, if_pos rfl, List.cons.injEq] at hrest
      rw [hnext, piecesOf_append_sep, hs, hrest.2]
      rfl

/-- A path of segments does not end in a slash. -/
theorem getLast?_segmentsPath {segments : List (List Char)} (h : ∀ s ∈ segments, IsSegment s) :
    (segmentsPath segments).getLast? ≠ some '/' := by
  rcases List.eq_nil_or_concat segments with rfl | ⟨front, last, rfl⟩
  · simp [segmentsPath]
  · obtain ⟨hne, hslash⟩ := h last (by simp)
    have hlast : (segmentsPath (front.concat last)).getLast? = last.getLast? := by
      simp [segmentsPath, List.getLast?_append, List.getLast?_cons, List.getLast?_eq_some_getLast hne]
    rw [hlast]
    exact fun hend => hslash (List.mem_of_getLast? hend)

/-- **A join that is not empty** begins with one slash, has no empty segment and does not end in a slash. -/
theorem isNormalPath_joinPaths {parts : List String} (h : joinPaths parts ≠ "") : IsNormalPath (joinPaths parts) := by
  have hall : ∀ s ∈ parts.flatMap fun p => segmentChars p.toList, IsSegment s := by
    intro s hs
    obtain ⟨p, -, hmem⟩ := List.mem_flatMap.mp hs
    exact isSegment_of_mem_segmentChars hmem
  have hpath : (joinPaths parts).toList = segmentsPath (parts.flatMap fun p => segmentChars p.toList) := by
    rw [joinPaths, String.toList_ofList]
  rw [Ne, ← String.toList_inj, hpath] at h
  generalize (parts.flatMap fun p => segmentChars p.toList) = segments at hall hpath h
  constructor
  · cases segments with
    | nil => exact absurd rfl h
    | cons s segments =>
      obtain ⟨hne, hslash⟩ := hall s (List.mem_cons_self ..)
      obtain ⟨c, cs, rfl⟩ := List.exists_cons_of_ne_nil hne
      refine ⟨c, cs ++ segmentsPath segments, hpath, ?_⟩
      rintro rfl
      exact hslash (List.mem_cons_self ..)
  · rw [hpath, piecesOf_segmentsPath fun s hs => (hall s hs).2]
    exact fun piece hpiece => (hall piece hpiece).1
  · rw [hpath]
    exact getLast?_segmentsPath hall

/-! ## Joins within joins -/

/-- A path that has the segments of a row of parts: it can take their place. -/
def StandsFor (path : String) (parts : List String) : Prop := pathSegments path = parts.flatMap pathSegments

theorem standsFor_self (path : String) : StandsFor path [path] := by simp [StandsFor]

/-- A join is known by its segments. -/
theorem joinPaths_eq_iff {parts parts' : List String} :
    joinPaths parts = joinPaths parts' ↔ parts.flatMap pathSegments = parts'.flatMap pathSegments := by
  constructor
  · intro h
    rw [← pathSegments_joinPaths, h, pathSegments_joinPaths]
  · intro h
    have hchars : ∀ row : List String,
        row.flatMap pathSegments = (row.flatMap fun p => segmentChars p.toList).map String.ofList := by
      intro row
      rw [List.map_flatMap]
      rfl
    rw [hchars, hchars] at h
    have hinjective : Function.Injective String.ofList := fun _ _ heq => String.ofList_inj.mp heq
    rw [joinPaths, joinPaths, List.map_injective_iff.mpr hinjective h]

/-- **Parts can be joined ahead**: paths that stand for rows of parts can take their places in a join. -/
theorem joinPaths_of_standsFor {paths : List String} {rows : List (List String)} (h : List.Forall₂ StandsFor paths rows) :
    joinPaths paths = joinPaths rows.flatten := by
  rw [joinPaths_eq_iff]
  induction h with
  | nil => rfl
  | cons hpath _ ih => rw [List.flatMap_cons, hpath, ih, List.flatten_cons, List.flatMap_append]

/-- Paths that are made of a row of parts by joins within joins. -/
inductive Nesting : List String → String → Prop
  /-- A part, as it is. -/
  | part (path : String) : Nesting [path] path
  /-- A join of paths that are made before. -/
  | join (rows : List (List String × String)) (h : ∀ r ∈ rows, Nesting r.1 r.2) :
      Nesting (rows.flatMap Prod.fst) (joinPaths (rows.map Prod.snd))

/-- However a path is made of its parts, it has their segments. -/
theorem Nesting.standsFor {parts : List String} {path : String} (h : Nesting parts path) : StandsFor path parts := by
  induction h with
  | part path => exact standsFor_self path
  | join rows _ ih =>
    rw [StandsFor, pathSegments_joinPaths, List.flatMap_map, List.flatMap_assoc]
    exact List.flatMap_congr ih

/-! ## The places where paths are joined -/

section

variable {c : RouteConfig Value} {before : String} {parts row : List String}

/-- A join of two paths stands for the parts of both. -/
theorem StandsFor.append {path : String} (h : StandsFor before parts) (hpath : StandsFor path row) :
    StandsFor (joinPaths [before, path]) (parts ++ row) := by
  rw [StandsFor, pathSegments_joinPaths, List.flatMap_append, ← h, ← hpath]
  simp

/-- A configuration below groups, outermost first. -/
def RouteConfig.below (c : RouteConfig Value) (groups : List String) : Attempt (RouteConfig Value) :=
  groups.foldlM (fun c group => c.withPath (.str group)) c

/-- Below groups, the path stands for that of the configuration and those of the groups. -/
theorem standsFor_below (hpath : c.settings.mountPath = .str before) (h : StandsFor before parts)
    (groups : List String) : ∃ after, c.below groups = .ok (c.setPath (.str after)) ∧ StandsFor after (parts ++ groups) := by
  induction groups using List.reverseRecOn with
  | nil =>
    refine ⟨before, ?_, by simpa using h⟩
    show Except.ok c = _
    rw [RouteConfig.setPath, ← hpath]
  | append_singleton groups group ih =>
    obtain ⟨after, hbelow, hstands⟩ := ih
    refine ⟨joinPaths [after, group], ?_, by simpa using hstands.append (standsFor_self group)⟩
    rw [RouteConfig.below] at hbelow ⊢
    rw [List.foldlM_append, hbelow]
    rfl

/-- The paths of the groups among nodes. -/
def nodePaths (nodes : List (Payload Value)) : List String := groupPaths (nodes.map fun p => ⟨p, none⟩)

/-- What the nodes of a configuration module add up to, in the order in which they are visited. -/
def DirectoryConfig.collected (nodes : List (Payload Value)) : Attempt DirectoryConfig :=
  nodes.foldlM DirectoryConfig.collect {}

/-- One node adds its path when it is a group, and leaves the path alone when it is none. -/
theorem standsFor_collect {level next : DirectoryConfig} {p : Payload Value} (hcollect : level.collect p = .ok next)
    (h : StandsFor (level.mountPath.getD "") parts) : StandsFor (next.mountPath.getD "") (parts ++ nodePaths [p]) := by
  -- only a group has a path
  have hkept : ∀ {level' : DirectoryConfig}, level'.mountPath = level.mountPath → nodePaths [p] = [] →
      Except.ok level' = (Except.ok next : Attempt DirectoryConfig) →
      StandsFor (next.mountPath.getD "") (parts ++ nodePaths [p]) := by
    intro level' hsame hnone hnext
    obtain rfl := Except.ok.inj hnext
    rw [hsame, hnone, List.append_nil]
    exact h
  cases p with
  | group path =>
    obtain ⟨own, hown, hnext⟩ := exists_of_bind_eq_ok hcollect
    obtain rfl := asPath_eq_ok.mp hown
    obtain rfl := Except.ok.inj hnext
    exact h.append (standsFor_self own)
  | middleware use => cases use <;> exact hkept (by rfl) rfl hcollect
  | rateLimiter max timeWindow keyHeader =>
    obtain ⟨spec, -, hnext⟩ := exists_of_bind_eq_ok hcollect
    exact hkept (by rfl) rfl hnext
  | logger _ | cors _ _ | server _ _ | db _ | routes _ _ | plugin _ _ _ | route _ _ _ _ | response | status _ | body _
  | headers _ | err _ _ _ | augment _ | halt _ _ => exact hkept (by rfl) rfl hcollect

/-- The path of a configuration module stands for those of the groups in it. -/
theorem standsFor_collected {nodes : List (Payload Value)} {level : DirectoryConfig}
    (h : DirectoryConfig.collected nodes = .ok level) : StandsFor (level.mountPath.getD "") (nodePaths nodes) := by
  induction nodes using List.reverseRecOn generalizing level with
  | nil =>
    obtain rfl := Except.ok.inj h
    rw [StandsFor]
    decide
  | append_singleton nodes p ih =>
    rw [DirectoryConfig.collected, List.foldlM_append] at h
    obtain ⟨before, hbefore, hlast⟩ := exists_of_bind_eq_ok h
    have hcollect : before.collect p = .ok level := by simpa using hlast
    have hpaths : nodePaths (nodes ++ [p]) = nodePaths nodes ++ nodePaths [p] := by
      simp [nodePaths, groupPaths]
    rw [hpaths]
    exact standsFor_collect hcollect (ih hbefore)

/-- **Step lemma**: a level of a chain adds its path. An empty one is not joined, which makes no difference. -/
theorem standsFor_apply (hpath : c.settings.mountPath = .str before) (h : StandsFor before parts)
    {level : DirectoryConfig} (hlevel : StandsFor (level.mountPath.getD "") row) :
    ∃ next after, level.apply c = .ok next ∧ next.settings.mountPath = .str after ∧ StandsFor after (parts ++ row) := by
  have hover : (level.override c).settings.mountPath = .str before := hpath
  rw [apply_eq]
  split
  · next hempty =>
    have hrow : row.flatMap pathSegments = [] := by
      rw [← hlevel, hempty]
      decide
    refine ⟨_, before, rfl, ?_, ?_⟩
    · rw [foldl_withMiddleware]
      exact hover
    · rw [StandsFor, List.flatMap_append, hrow, List.append_nil]
      exact h
  · next path _ =>
    refine ⟨_, joinPaths [before, level.mountPath.getD ""], by rw [RouteConfig.withPath, hover]; rfl, ?_, h.append hlevel⟩
    rw [foldl_withMiddleware]

/-- **Run lemma**: a chain of levels adds their paths, root first. -/
theorem standsFor_mergeChain {levels : List DirectoryConfig} {rows : List (List String)}
    (hlevels : List.Forall₂ (fun level row => StandsFor (level.mountPath.getD "") row) levels rows)
    (hpath : c.settings.mountPath = .str before) (h : StandsFor before parts) :
    ∃ merged after, mergeChain c levels = .ok merged ∧ merged.settings.mountPath = .str after ∧
      StandsFor after (parts ++ rows.flatten) := by
  induction hlevels generalizing c before parts with
  | nil => exact ⟨c, before, rfl, hpath, by simpa using h⟩
  | @cons level row levels rows hlevel _ ih =>
    obtain ⟨next, between, hnext, hbetween, hstands⟩ := standsFor_apply hpath h hlevel
    obtain ⟨merged, after, hmerged, hafter, hall⟩ := ih hbetween hstands
    refine ⟨merged, after, ?_, hafter, by simpa using hall⟩
    rw [mergeChain, List.foldlM_cons, hnext]
    exact hmerged

end

/-! ## Reading a joined path -/

/-- The segments of a pattern are those that it was written with. -/
theorem map_written_of_parseSegments {route : String} {parts : List String} {segments : List Segment}
    (h : parseSegments route parts = .ok segments) : segments.map Segment.written = parts := by
  induction parts generalizing segments with
  | nil =>
    obtain rfl := Except.ok.inj h
    rfl
  | cons part parts ih =>
    obtain ⟨s, rest, hs, hrest, rfl⟩ := parseSegments_cons_eq_ok h
    have hwritten : s.written = part := by
      rcases parseSegment_eq_ok hs with rfl | ⟨name, written, converter, -, rfl⟩ <;> rfl
    rw [List.map_cons, hwritten, ih hrest]

/-- **The algebra of joins.** For all rows of parts:

* their join is empty exactly when they have nothing but slashes, and otherwise begins with one slash, has no empty
  segment and does not end in a slash;
* its segments are those of the parts, one after the other, so that joining it again changes nothing;
* joins within joins, in whatever grouping, come to the same;
* so do the places where a tree joins paths one at a time: a route below groups, and a route module in a directory that is
  mounted below groups and whose levels have groups of their own, whatever path its configuration starts with;
* a route at the join is read as the segments of all parts in order. -/
theorem joins_are_associative (parts : List String) :
    (joinPaths parts = "" ↔ ∀ part ∈ parts, ∀ c ∈ part.toList, c = '/') ∧
      (joinPaths parts ≠ "" → IsNormalPath (joinPaths parts)) ∧
      pathSegments (joinPaths parts) = parts.flatMap pathSegments ∧
      joinPaths [joinPaths parts] = joinPaths parts ∧
      (∀ rows : List (List String × String), (∀ r ∈ rows, Nesting r.1 r.2) → rows.flatMap Prod.fst = parts →
        joinPaths (rows.map Prod.snd) = joinPaths parts) ∧
      (∀ (c : RouteConfig Value) start groups, c.settings.mountPath = .str start →
        ∃ below before, c.below groups = .ok below ∧ below.settings.mountPath = .str before ∧
          (∀ own, joinPaths [before, own] = joinPaths (start :: groups ++ [own])) ∧
          ∀ path inside levels nodes own,
            List.Forall₂ (fun ps level => DirectoryConfig.collected ps = .ok level) nodes levels →
            ∃ outside front merged between, below.withPath (.str path) = .ok outside ∧
              outside.settings.mountPath = .str front ∧
              mergeChain (below.setPath (.str inside)) levels = .ok merged ∧
              merged.settings.mountPath = .str between ∧
              joinPaths [front, between, own] =
                joinPaths (start :: groups ++ [path, inside] ++ nodes.flatMap nodePaths ++ [own])) ∧
      parsePattern (orRoot (joinPaths parts)) =
        parseSegments (orRoot (joinPaths parts)) (parts.flatMap pathSegments) ∧
      ∀ segments, parsePattern (orRoot (joinPaths parts)) = .ok segments →
        segments.map Segment.written = parts.flatMap pathSegments := by
  have hparsed : parsePattern (orRoot (joinPaths parts)) =
      parseSegments (orRoot (joinPaths parts)) (parts.flatMap pathSegments) := by
    rw [parsePattern, pathSegments_orRoot_joinPaths]
  refine ⟨joinPaths_eq_empty_iff, isNormalPath_joinPaths, pathSegments_joinPaths parts, ?_, ?_, ?_, hparsed, ?_⟩
  · rw [joinPaths_append, List.append_nil]
  · rintro rows hrows rfl
    rw [joinPaths_eq_iff, ← pathSegments_joinPaths]
    exact (Nesting.join rows hrows).standsFor
  · intro c start groups hstart
    obtain ⟨before, hbelow, hstands⟩ := standsFor_below hstart (standsFor_self start) groups
    refine ⟨_, before, hbelow, rfl, ?_, ?_⟩
    · intro own
      simpa using joinPaths_of_standsFor (.cons hstands (.cons (standsFor_self own) .nil))
    · intro path inside levels nodes own hlevels
      have hrows : List.Forall₂ (fun level row => StandsFor (level.mountPath.getD "") row) levels
          (nodes.map nodePaths) := by
        rw [List.forall₂_map_right_iff]
        exact hlevels.flip.imp fun _ _ hcollected => standsFor_collected hcollected
      have hbase : ((c.setPath (.str before)).setPath (.str inside)).settings.mountPath = .str inside := rfl
      obtain ⟨merged, between, hmerged, hbetween, hall⟩ := standsFor_mergeChain hrows hbase (standsFor_self inside)
      refine ⟨_, joinPaths [before, path], merged, between, rfl, rfl, hmerged, hbetween, ?_⟩
      have hfront := hstands.append (standsFor_self path)
      simpa [List.flatMap] using joinPaths_of_standsFor (.cons hfront (.cons hall (.cons (standsFor_self own) .nil)))
  · intro segments hsegments
    rw [hparsed] at hsegments
    exact map_written_of_parseSegments hsegments

example : joinPaths ["/api/", "", "//v1", "users"] = "/api/v1/users" := by decide

end ServerTree
