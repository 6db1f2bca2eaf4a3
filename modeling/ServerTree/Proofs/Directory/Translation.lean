import Mathlib.Data.List.Forall2
import ServerTree.Proofs.Directory.Url

/-!
# From names of files to patterns

The path of a route module is written as a URL pattern, which the router reads. What is read are the directories and
the stem of the file, one segment each: a name in brackets is a parameter, three dots in front of it make it take the
rest of the path, and any other name stands for itself. Since all of it can be read back, two files have the same
pattern only where one of them is the `index` of a directory that is named like the other.

## Main definitions
- `Means`: what a name of a directory or of a file stands for in a pattern
- `IsModulePath`: paths of route modules whose names can be part of a pattern
- `componentsOf`: the names that a pattern is made of

## Main statements
- `nameSegment_of_means`, `parseSegment_of_means`: a name is written as what it stands for, and read back
- `IsModulePath.reads`: a whole path is read back
- `files_compile_to_patterns`: what the path of a route module is read as, and where paths collide
-/

namespace ServerTree

/-! ## What names stand for -/

/-- A name without the characters that have a meaning of their own in paths and patterns. -/
def IsPlainName (name : String) : Prop := ∀ c ∈ ['\x7b', '\x7d', '\\', '\n'], c ∉ name.toList

instance (name : String) : Decidable (IsPlainName name) :=
  List.decidableBAll (fun c : Char => c ∉ name.toList) ['\x7b', '\x7d', '\\', '\n']

/-- What a name stands for in a pattern. -/
inductive Means : String → Segment → Prop
  | rest {w : String} (hw : isWordText w.toList = true) :
      Means ("[..." ++ w ++ "]") (.param ("\x7b" ++ w ++ ":path\x7d") w .rest)
  | one {w : String} (hw : isWordText w.toList = true) :
      Means ("[" ++ w ++ "]") (.param ("\x7b" ++ w ++ "\x7d") w .text)
  | fixed {name : String} (hrest : ∀ w, isWordText w.toList = true → name ≠ "[..." ++ w ++ "]")
      (hone : ∀ w, isWordText w.toList = true → name ≠ "[" ++ w ++ "]") : Means name (.fixed name)

theorem exists_means (name : String) : ∃ s, Means name s := by
  by_cases hrest : ∃ w : String, isWordText w.toList = true ∧ name = "[..." ++ w ++ "]"
  · obtain ⟨w, hw, rfl⟩ := hrest
    exact ⟨_, .rest hw⟩
  · by_cases hone : ∃ w : String, isWordText w.toList = true ∧ name = "[" ++ w ++ "]"
    · obtain ⟨w, hw, rfl⟩ := hone
      exact ⟨_, .one hw⟩
    · push Not at hrest hone
      exact ⟨_, .fixed hrest hone⟩

/-- The name that stands for a segment. -/
def Segment.fileName : Segment → String
  | .fixed text => text
  | .param _ w .rest => "[..." ++ w ++ "]"
  | .param _ w _ => "[" ++ w ++ "]"

theorem Means.eq_fileName {name : String} {s : Segment} (h : Means name s) : name = s.fileName := by
  cases h <;> rfl

/-- Only a name with three dots in brackets takes the rest of a path. -/
theorem Means.exists_of_isCatchAll {name : String} {s : Segment} (h : Means name s) (hrest : s.isCatchAll = true) :
    ∃ w, isWordText w.toList = true ∧ name = "[..." ++ w ++ "]" := by
  cases h with
  | @rest w hw => exact ⟨w, hw, rfl⟩
  | one hw => cases hrest
  | fixed hrest' hone => cases hrest

/-- What is written for a name can stand between slashes if the name can. -/
theorem Means.isSegment_written {name : String} {s : Segment} (h : Means name s) (hname : IsSegment name.toList) :
    IsSegment s.written.toList := by
  cases h with
  | rest hw => simpa [IsSegment, Segment.written] using hname
  | one hw => simpa [IsSegment, Segment.written] using hname
  | fixed hrest hone => exact hname

/-! ## Rows of names -/

theorem exists_forall₂_means (names : List String) : ∃ segments, List.Forall₂ Means names segments := by
  induction names with
  | nil => exact ⟨[], .nil⟩
  | cons name names ih =>
    obtain ⟨s, hs⟩ := exists_means name
    obtain ⟨segments, hsegments⟩ := ih
    exact ⟨s :: segments, .cons hs hsegments⟩

/-- Segments tell which names stand for them. -/
theorem eq_map_fileName {names : List String} {segments : List Segment} (h : List.Forall₂ Means names segments) :
    names = segments.map Segment.fileName := by
  induction h with
  | nil => rfl
  | cons hs _ ih => rw [List.map_cons, ← hs.eq_fileName, ← ih]

/-- What is written for names can stand between slashes if these can. -/
theorem isSegment_of_mem_written {names : List String} {segments : List Segment}
    (h : List.Forall₂ Means names segments) (hnames : ∀ name ∈ names, IsSegment name.toList) :
    ∀ p ∈ segments.map Segment.written, IsSegment p.toList := by
  induction h with
  | nil => simp
  | cons hs _ ih =>
    obtain ⟨hname, hrest⟩ := List.forall_mem_cons.mp hnames
    exact List.forall_mem_cons.mpr ⟨hs.isSegment_written hname, ih hrest⟩

/-- Only word characters make up a word. -/
theorem not_mem_of_isWordText {cs : List Char} {c : Char} (h : isWordText cs = true) (hc : Text.isWord c = false) :
    c ∉ cs := by
  intro hmem
  rw [isWordText, Bool.and_eq_true, List.all_eq_true] at h
  rw [h.2 c hmem] at hc
  cases hc

/-! ## Writing a name as part of a pattern -/

theorem dropFinalNewline_of_not_mem {cs : List Char} (h : '\n' ∉ cs) : dropFinalNewline cs = cs := by
  rw [dropFinalNewline]
  split
  · next hlast => exact absurd (List.mem_of_getLast? hlast) h
  · rfl

/-- What stands between brackets is what is found there. -/
theorem inBrackets?_eq_some_iff {cs w : List Char} (h : '\n' ∉ cs) :
    inBrackets? cs = some w ↔ cs = '[' :: (w ++ [']']) := by
  rw [inBrackets?, dropFinalNewline_of_not_mem h]
  constructor
  · intro hw
    split at hw
    · next r =>
      split at hw
      · next hlast =>
        obtain ⟨front, rfl⟩ := List.getLast?_eq_some_iff.mp hlast
        rw [List.dropLast_concat] at hw
        rw [Option.some.inj hw]
      · cases hw
    · cases hw
  · rintro rfl
    simp

/-- A name is written as the segment that it stands for. -/
theorem nameSegment_of_means {name : String} {s : Segment} (h : Means name s) (hline : '\n' ∉ name.toList) :
    nameSegment name = s.written := by
  cases h with
  | @rest w hw =>
    have hbrackets : inBrackets? ("[..." ++ w ++ "]").toList = some ('.' :: '.' :: '.' :: w.toList) := by
      rw [inBrackets?_eq_some_iff hline]
      simp
    rw [nameSegment, hbrackets]
    simp [hw, Segment.written]
  | @one w hw =>
    have hbrackets : inBrackets? ("[" ++ w ++ "]").toList = some w.toList := by
      rw [inBrackets?_eq_some_iff hline]
      simp
    have hdot : '.' ∉ w.toList := not_mem_of_isWordText hw (by decide)
    rw [nameSegment, hbrackets]
    split
    · next hdots => exact absurd (Option.some.inj hdots ▸ List.mem_cons_self ..) hdot
    · next heq => simp [← Option.some.inj heq, hw, Segment.written]
    · next heq => cases heq
  | fixed hrest hone =>
    rw [nameSegment]
    split
    -- a word in these brackets would make the name a parameter
    · next w heq =>
      have hname : name = "[..." ++ String.ofList w ++ "]" := by
        rw [← String.toList_inj, (inBrackets?_eq_some_iff hline).mp heq]
        simp
      apply if_neg
      intro hw
      exact hrest (String.ofList w) (by rwa [String.toList_ofList]) hname
    · next w _ heq =>
      have hname : name = "[" ++ String.ofList w ++ "]" := by
        rw [← String.toList_inj, (inBrackets?_eq_some_iff hline).mp heq]
        simp
      apply if_neg
      intro hw
      exact hone (String.ofList w) (by rwa [String.toList_ofList]) hname
    · rfl

theorem map_nameSegment {names : List String} {segments : List Segment} (h : List.Forall₂ Means names segments)
    (hline : ∀ name ∈ names, '\n' ∉ name.toList) : names.map nameSegment = segments.map Segment.written := by
  induction h with
  | nil => rfl
  | cons hs _ ih =>
    obtain ⟨hname, hnames⟩ := List.forall_mem_cons.mp hline
    rw [List.map_cons, List.map_cons, nameSegment_of_means hs hname, ih hnames]

/-! ## Reading it back -/

/-- A word in braces is read as a parameter. -/
theorem braced?_word {w : List Char} (hw : isWordText w = true) :
    braced? ('\x7b' :: (w ++ ['\x7d'])) = some (String.ofList w, none) := by
  have hline : '\n' ∉ '\x7b' :: (w ++ ['\x7d']) := by
    simp [not_mem_of_isWordText hw (c := '\n') (by decide)]
  have hcut : Text.cutAt ':' w = (w, none) := Text.cutAt_eq_of_not_mem (not_mem_of_isWordText hw (by decide))
  rw [braced?, dropFinalNewline_of_not_mem hline]
  simp only [List.getLast?_append, List.getLast?_singleton, Option.some_or, List.dropLast_concat, hcut]
  exact if_pos hw

/-- A word in braces with a converter is read as both. -/
theorem braced?_word_converter {w c : List Char} (hw : isWordText w = true) (hc : isWordText c = true) :
    braced? ('\x7b' :: (w ++ ':' :: c ++ ['\x7d'])) = some (String.ofList w, some (String.ofList c)) := by
  have hline : '\n' ∉ '\x7b' :: (w ++ ':' :: c ++ ['\x7d']) := by
    simp [not_mem_of_isWordText hw (c := '\n') (by decide), not_mem_of_isWordText hc (c := '\n') (by decide)]
  have hcut : Text.cutAt ':' (w ++ ':' :: c) = (w, some c) :=
    Text.cutAt_append_sep (not_mem_of_isWordText hw (by decide)) c
  rw [braced?, dropFinalNewline_of_not_mem hline]
  simp only [List.getLast?_append, List.getLast?_singleton, Option.some_or, List.dropLast_concat, hcut]
  exact if_pos (by rw [Bool.and_eq_true]; exact ⟨hw, hc⟩)

/-- Without braces nothing is read as a parameter. -/
theorem braced?_of_not_mem {cs : List Char} (h : '\x7b' ∉ cs) (hline : '\n' ∉ cs) : braced? cs = none := by
  rw [braced?, dropFinalNewline_of_not_mem hline]
  split
  · exact absurd (List.mem_cons_self ..) h
  · rfl

/-- **What a name stands for is read back**, if it can stand in its place. -/
theorem parseSegment_of_means {name route : String} {s : Segment} {last : Bool} (h : Means name s)
    (hplain : IsPlainName name) (hlast : s.isCatchAll = true → last = true) :
    parseSegment route last s.written = .ok s := by
  cases h with
  | @rest w hw =>
    have hchars : ("\x7b" ++ w ++ ":path\x7d").toList = '\x7b' :: (w.toList ++ ':' :: "path".toList ++ ['\x7d']) := by
      simp
    rw [Segment.written, parseSegment, hchars, braced?_word_converter hw (by decide)]
    simp [Converter.ofName?, hlast rfl]
  | @one w hw =>
    have hchars : ("\x7b" ++ w ++ "\x7d").toList = '\x7b' :: (w.toList ++ ['\x7d']) := by
      simp
    rw [Segment.written, parseSegment, hchars, braced?_word hw]
    simp [Converter.ofName?]
  | fixed hrest hone =>
    have hopen : '\x7b' ∉ name.toList := hplain _ (by decide)
    have hclose : '\x7d' ∉ name.toList := hplain _ (by decide)
    have hbraces : (name.toList.any fun c => c == '\x7b' || c == '\x7d') = false := by
      apply List.any_eq_false.mpr
      intro c hc hbrace
      rcases Bool.or_eq_true_iff.mp hbrace with heq | heq
      · exact hopen (eq_of_beq heq ▸ hc)
      · exact hclose (eq_of_beq heq ▸ hc)
    rw [Segment.written, parseSegment, braced?_of_not_mem hopen (hplain _ (by decide))]
    simp only [hbraces, Bool.false_eq_true, if_false]

/-- **A row of names is read back**, if only the last takes the rest of a path. -/
theorem parseSegments_of_means {route : String} {names : List String} {segments : List Segment}
    (h : List.Forall₂ Means names segments) (hplain : ∀ name ∈ names, IsPlainName name)
    (hlast : ∀ name ∈ names.dropLast, ∀ w, isWordText w.toList = true → name ≠ "[..." ++ w ++ "]") :
    parseSegments route (segments.map Segment.written) = .ok segments := by
  induction h with
  | nil => rfl
  | @cons name s names segments hs hrest ih =>
    obtain ⟨hname, hnames⟩ := List.forall_mem_cons.mp hplain
    have hfirst : parseSegment route (segments.map Segment.written).isEmpty s.written = .ok s := by
      apply parseSegment_of_means hs hname
      -- a name that takes the rest is the last, so nothing follows
      intro hcatch
      obtain ⟨w, hw, hdots⟩ := hs.exists_of_isCatchAll hcatch
      cases hrest with
      | nil => rfl
      | cons => exact absurd hdots (hlast name (List.mem_cons_self ..) w hw)
    have hnext : parseSegments route (segments.map Segment.written) = .ok segments := by
      apply ih hnames
      intro name' hname'
      apply hlast name'
      cases names with
      | nil => cases hname'
      | cons name'' names => exact List.mem_cons_of_mem _ hname'
    rw [List.map_cons, parseSegments, hfirst, hnext]
    rfl

/-! ## Paths of segments -/

/-- One slash in front, and none at the end of what follows. -/
def IsTidy (url : String) : Prop :=
  ∃ cs, url.toList = '/' :: cs ∧ cs.head? ≠ some '/' ∧ cs.getLast? ≠ some '/'

/-- Texts with slashes between them are read one by one. -/
theorem segmentChars_join {parts : List String} (h : ∀ p ∈ parts, IsSegment p.toList) :
    segmentChars (Text.join "/" parts).toList = parts.map String.toList := by
  induction parts with
  | nil => rfl
  | cons first parts ih =>
    obtain ⟨hfirst, hparts⟩ := List.forall_mem_cons.mp h
    cases parts with
    | nil =>
      rw [Text.join, String.intercalate_singleton]
      exact segmentChars_of_isSegment hfirst
    | cons second parts =>
      have hjoin : (Text.join "/" (first :: second :: parts)).toList =
          first.toList ++ '/' :: (Text.join "/" (second :: parts)).toList := by
        rw [Text.join, String.intercalate_cons_cons]
        simp [Text.join]
      rw [hjoin, segmentChars_append_slash, segmentChars_of_isSegment hfirst, ih hparts]
      rfl

/-- Texts with slashes between them are the segments of the path. -/
theorem pathSegments_join {parts : List String} (h : ∀ p ∈ parts, IsSegment p.toList) :
    pathSegments ("/" ++ Text.join "/" parts) = parts := by
  have hslash : ("/" ++ Text.join "/" parts).toList = [] ++ '/' :: (Text.join "/" parts).toList := by
    simp
  have hnone : segmentChars [] = [] := rfl
  rw [pathSegments, hslash, segmentChars_append_slash, hnone, List.nil_append, segmentChars_join h, List.map_map]
  simp

theorem isTidy_join {parts : List String} (h : ∀ p ∈ parts, IsSegment p.toList) :
    IsTidy ("/" ++ Text.join "/" parts) := by
  refine ⟨(Text.join "/" parts).toList, by simp, ?_, ?_⟩
  · intro hslash
    cases parts with
    | nil => cases hslash
    | cons first parts =>
      obtain ⟨hne, hno⟩ := h first (List.mem_cons_self ..)
      obtain ⟨rest, hrest⟩ := prefix_join "/" first parts
      rw [← hrest, List.head?_append_of_ne_nil _ hne] at hslash
      exact hno (List.mem_of_head? hslash)
  · intro hslash
    rcases List.eq_nil_or_concat parts with rfl | ⟨parts, last, rfl⟩
    · cases hslash
    · rw [List.concat_eq_append] at h hslash
      obtain ⟨hne, hno⟩ := h last (List.mem_append_right _ (List.mem_singleton_self _))
      obtain ⟨front, hfront⟩ := suffix_join "/" parts last
      rw [← hfront, List.getLast?_append_of_ne_nil _ hne] at hslash
      exact hno (List.mem_of_getLast? hslash)

/-! ## Names of route modules -/

/-- No route module is without a stem: its name would begin with a dot. -/
theorem stem_ne_of_isRouteFile {stem : String} (h : isRouteFile (stem ++ ".py") = true) : stem ≠ "" := by
  rintro rfl
  exact absurd h (by decide)

/-- Without its ending, the name of a route module is its stem. -/
theorem dropEnding_stem {stem : String} (h : stem ≠ "") : dropEnding (stem ++ ".py").toList = stem.toList := by
  have hreverse : (stem ++ ".py").toList.reverse = ['y', 'p'] ++ '.' :: stem.toList.reverse := by
    simp
  have hcut : Text.cutAt '.' (stem ++ ".py").toList.reverse = (['y', 'p'], some stem.toList.reverse) := by
    rw [hreverse]
    exact Text.cutAt_append_sep (by decide) _
  rw [dropEnding, hcut]
  cases hstem : stem.toList.reverse with
  | nil => exact absurd (by simpa using hstem) h
  | cons c before =>
    show (c :: before).reverse = _
    rw [← hstem, List.reverse_reverse]

/-! ## Paths of route modules -/

/-- A relative path of a route module whose names can be part of a pattern: they are plain, and only the file may have a
name that takes the rest of a path. -/
structure IsModulePath (path : String) (directories : List String) (name : String) : Prop where
  names : FilePath.ofText path = ⟨"", directories ++ [name]⟩
  route : isRouteFile name = true
  plain : ∀ part ∈ directories ++ [name], IsPlainName part
  single : ∀ part ∈ directories, ∀ w, isWordText w.toList = true → part ≠ "[..." ++ w ++ "]"

/-- The names that a pattern is made of: those of the directories and the stem, but not a final `index`. -/
def componentsOf (directories : List String) (stem : String) : List String :=
  if stem = "index" then directories else directories ++ [stem]

theorem mem_componentsOf {directories : List String} {stem part : String} (h : part ∈ componentsOf directories stem) :
    part ∈ directories ∨ part = stem := by
  rw [componentsOf] at h
  split at h
  · exact .inl h
  · exact (List.mem_append.mp h).imp_right List.mem_singleton.mp

/-- In front of the last component there are directories only. -/
theorem mem_of_mem_dropLast_componentsOf {directories : List String} {stem part : String}
    (h : part ∈ (componentsOf directories stem).dropLast) : part ∈ directories := by
  rw [componentsOf] at h
  split at h
  · exact (List.dropLast_subset _) h
  · rwa [List.dropLast_concat] at h

/-- Names of a path are not empty, and no slashes are in them. -/
theorem isSegment_of_mem_names {path name : String} (h : name ∈ (FilePath.ofText path).names) :
    IsSegment name.toList := by
  obtain ⟨hpiece, hname⟩ := List.mem_filter.mp h
  obtain ⟨cs, hcs, rfl⟩ := List.mem_map.mp hpiece
  rw [String.toList_ofList]
  refine ⟨?_, not_mem_of_mem_piecesOf hcs⟩
  rintro rfl
  exact absurd hname (by decide)

/-- Without backslashes a path stays as it is. -/
theorem unifySlashes_of_not_mem {s : String} (h : '\\' ∉ s.toList) : unifySlashes s = s := by
  have hmap : s.toList.map (fun c => if c = '\\' then '/' else c) = s.toList := by
    rw [List.map_congr_left (g := id), List.map_id]
    intro c hc
    apply if_neg
    rintro rfl
    exact h hc
  rw [unifySlashes, hmap, String.ofList_toList]

section

variable {path name : String} {directories : List String}

/-- The URL of a route module is written from its components. -/
theorem IsModulePath.urlOfPath_eq {stem : String} (h : IsModulePath path directories (stem ++ ".py")) :
    urlOfPath path = .ok ("/" ++ Text.join "/" ((componentsOf directories stem).map nameSegment)) := by
  have hslash : '\\' ∉ path.toList := by
    intro hmem
    obtain ⟨part, hpart, hc⟩ := exists_mem_names hmem (by decide) (by decide)
    rw [h.names] at hpart
    exact h.plain part hpart _ (by decide) hc
  have hnames : (FilePath.mk "" (directories ++ [stem ++ ".py"])).urlNames? =
      some (componentsOf directories stem) := by
    have hstem : dropEnding (stem ++ ".py").toList = stem.toList := dropEnding_stem (stem_ne_of_isRouteFile h.route)
    simp only [FilePath.urlNames?, List.getLast?_concat, hstem, String.ofList_toList, List.dropLast_concat]
    rfl
  rw [urlOfPath, unifySlashes_of_not_mem hslash, h.names, FilePath.url?, hnames]
  cases componentsOf directories stem with
  | nil => decide
  | cons first rest => rfl

/-- The components of a path are texts between slashes. -/
theorem IsModulePath.isSegment {stem : String} (h : IsModulePath path directories (stem ++ ".py")) :
    ∀ part ∈ componentsOf directories stem, IsSegment part.toList := by
  have hpath : (FilePath.ofText path).names = directories ++ [stem ++ ".py"] := congrArg FilePath.names h.names
  have hnames : ∀ part ∈ directories ++ [stem ++ ".py"], IsSegment part.toList := by
    rw [← hpath]
    intro part hpart
    exact isSegment_of_mem_names hpart
  intro part hpart
  rcases mem_componentsOf hpart with hdirectory | rfl
  · exact hnames part (List.mem_append_left _ hdirectory)
  · have hname := (hnames (part ++ ".py") (List.mem_append_right _ (List.mem_singleton_self _))).2
    rw [String.toList_append] at hname
    refine ⟨?_, fun hslash => hname (List.mem_append_left _ hslash)⟩
    simpa using stem_ne_of_isRouteFile h.route

theorem IsModulePath.plain_of_mem {stem : String} (h : IsModulePath path directories (stem ++ ".py")) :
    ∀ part ∈ componentsOf directories stem, IsPlainName part := by
  intro part hpart
  rcases mem_componentsOf hpart with hdirectory | rfl
  · exact h.plain part (List.mem_append_left _ hdirectory)
  · intro c hc hmem
    apply h.plain (part ++ ".py") (List.mem_append_right _ (List.mem_singleton_self _)) c hc
    rw [String.toList_append]
    exact List.mem_append_left _ hmem

/-- The URL of a route module is read as what its components stand for. -/
theorem IsModulePath.reads {stem : String} (h : IsModulePath path directories (stem ++ ".py")) :
    ∃ url segments, urlOfPath path = .ok url ∧ parsePattern url = .ok segments ∧
      List.Forall₂ Means (componentsOf directories stem) segments ∧ IsTidy url := by
  obtain ⟨segments, hmeans⟩ := exists_forall₂_means (componentsOf directories stem)
  have hwritten : (componentsOf directories stem).map nameSegment = segments.map Segment.written :=
    map_nameSegment hmeans fun part hpart => h.plain_of_mem part hpart _ (by decide)
  have hparts := isSegment_of_mem_written hmeans h.isSegment
  refine ⟨_, segments, h.urlOfPath_eq, ?_, hmeans, ?_⟩
  · rw [parsePattern, hwritten, pathSegments_join hparts]
    apply parseSegments_of_means hmeans h.plain_of_mem
    intro part hpart w hw
    exact h.single part (mem_of_mem_dropLast_componentsOf hpart) w hw
  · rw [hwritten]
    exact isTidy_join hparts

/-! ## Collisions -/

/-- A module is the `index` of a directory that is named like another module. -/
def IsIndexBeside (index other : List String) : Prop :=
  ∃ directories stem, index = directories ++ [stem, "index.py"] ∧ other = directories ++ [stem ++ ".py"]

/-- Files have the same components only where one is the `index` beside the other. -/
theorem eq_or_isIndexBeside {others : List String} {stem stem' : String}
    (h : componentsOf directories stem = componentsOf others stem') :
    directories ++ [stem ++ ".py"] = others ++ [stem' ++ ".py"] ∨
      IsIndexBeside (directories ++ [stem ++ ".py"]) (others ++ [stem' ++ ".py"]) ∨
      IsIndexBeside (others ++ [stem' ++ ".py"]) (directories ++ [stem ++ ".py"]) := by
  have hindex : "index" ++ ".py" = "index.py" := by decide
  rw [componentsOf, componentsOf] at h
  by_cases hstem : stem = "index"
  · rw [if_pos hstem] at h
    by_cases hstem' : stem' = "index"
    · rw [if_pos hstem'] at h
      exact .inl (by rw [h, hstem, hstem'])
    · rw [if_neg hstem'] at h
      refine .inr (.inl ⟨others, stem', ?_, rfl⟩)
      rw [h, hstem, hindex, List.append_assoc, List.singleton_append]
  · rw [if_neg hstem] at h
    by_cases hstem' : stem' = "index"
    · rw [if_pos hstem'] at h
      refine .inr (.inr ⟨directories, stem, ?_, rfl⟩)
      rw [← h, hstem', hindex, List.append_assoc, List.singleton_append]
    · rw [if_neg hstem'] at h
      obtain ⟨hdirectories, hlast⟩ := List.append_inj' h rfl
      rw [hdirectories, List.singleton_inj.mp hlast]
      exact .inl rfl

/-- **Names of files compile to patterns.** The URL of a route module is read as one segment for each of its components,
and a different route module has the same URL only where one of the two is the `index` beside the other. -/
theorem files_compile_to_patterns (h : IsModulePath path directories name) :
    ∃ stem url segments, name = stem ++ ".py" ∧ urlOfPath path = .ok url ∧ parsePattern url = .ok segments ∧
      List.Forall₂ Means (componentsOf directories stem) segments ∧ IsTidy url ∧
      ∀ path' directories' name', IsModulePath path' directories' name' → urlOfPath path' = .ok url →
        directories ++ [name] = directories' ++ [name'] ∨
          IsIndexBeside (directories ++ [name]) (directories' ++ [name']) ∨
          IsIndexBeside (directories' ++ [name']) (directories ++ [name]) := by
  obtain ⟨stem, rfl⟩ := exists_stem h.route
  obtain ⟨url, segments, hurl, hsegments, hmeans, htidy⟩ := h.reads
  refine ⟨stem, url, segments, rfl, hurl, hsegments, hmeans, htidy, ?_⟩
  intro path' directories' name' h' hsame
  obtain ⟨stem', rfl⟩ := exists_stem h'.route
  obtain ⟨url', segments', hurl', hsegments', hmeans', -⟩ := h'.reads
  -- the same URL is read as the same segments, which tell the components
  obtain rfl : url' = url := Except.ok.inj (hurl'.symm.trans hsame)
  obtain rfl : segments' = segments := Except.ok.inj (hsegments'.symm.trans hsegments)
  exact eq_or_isIndexBeside ((eq_map_fileName hmeans).trans (eq_map_fileName hmeans').symm)

theorem files_compile_to_patterns_archive :
    IsModulePath "teams/[team]/archive/[...rest].py" ["teams", "[team]", "archive"] "[...rest].py" ∧
      ∃ stem url segments, "[...rest].py" = stem ++ ".py" ∧
        urlOfPath "teams/[team]/archive/[...rest].py" = .ok url ∧ parsePattern url = .ok segments ∧
        List.Forall₂ Means (componentsOf ["teams", "[team]", "archive"] stem) segments ∧ IsTidy url ∧
        ∀ path directories name, IsModulePath path directories name → urlOfPath path = .ok url →
          ["teams", "[team]", "archive", "[...rest].py"] = directories ++ [name] ∨
            IsIndexBeside ["teams", "[team]", "archive", "[...rest].py"] (directories ++ [name]) ∨
            IsIndexBeside (directories ++ [name]) ["teams", "[team]", "archive", "[...rest].py"] := by
  have hpath : IsModulePath "teams/[team]/archive/[...rest].py" ["teams", "[team]", "archive"] "[...rest].py" := by
    constructor
    · decide
    · decide
    · decide
    · intro part hpart w _ heq
      have hdots : ∀ part ∈ ["teams", "[team]", "archive"], ¬ "[...".toList <+: part.toList := by decide
      apply hdots part hpart
      rw [heq, String.toList_append, String.toList_append, List.append_assoc]
      exact List.prefix_append ..
  exact ⟨hpath, files_compile_to_patterns hpath⟩

example : urlOfPath "teams/[team].py" = urlOfPath "teams/[team]/index.py" := by decide +kernel

end

end ServerTree
