import ServerTree.CommandLine
import ServerTree.Proofs.Assoc

/-!
# Foreign flags on the command line

A program shares its command line with others, whose flags it ignores. A long flag of another program is ignored wherever
it stands, as long as no flag in front waits for its value, unless its name begins one of the known names: then it counts
as the known flag, with what it says, or as one that cannot be told.

## Main definitions
- `CommandLine.step`, `CommandLine.scan`: the arguments one at a time
- `CommandLine.waits`: whether a flag waits for its value behind arguments
- `CommandLine.options`: what an argument list says
- `CommandLine.Ignored`: arguments that leave it as it is wherever they stand
- `longFlag`, `Abbreviates`: long flags as they are written, and names that begin a known one

## Main statements
- `CommandLine.parse_insert`: what is no flag can be left out
- `CommandLine.not_ignored_of_flag`: flags are not ignored
- `classify_longFlag`: what a long flag with an unknown name counts as
- `foreign_flags_are_ignored_iff`: which long flags are ignored
-/

namespace ServerTree

namespace CommandLine

/-! ## One argument at a time -/

/-- What one argument before a double dash does to the flags and to the flag that waits for its value; `none` when it
cannot be used. -/
def step (s : CommandLine × Option Flag) (arg : String) : Option (CommandLine × Option Flag) :=
  match s.2, classify arg with
  | _, none => none
  | some f, some .plain => some (s.1.store f arg, none)
  | some _, some _ => none
  | none, some (.flag f name value) => take s.1 f name value
  | none, some _ => some (s.1, none)

/-- The flags after some arguments, and the flag that waits for its value. -/
def scan (args : List String) : Option (CommandLine × Option Flag) := args.foldlM step ({}, none)

/-- Whether a flag waits for its value behind some arguments. -/
def waits (args : List String) : Bool :=
  match scan args with
  | some (_, some _) => true
  | _ => false

variable {c : CommandLine} {waiting : Option Flag} {arg : String} {args before after : List String}

theorem read_cons (h : arg ≠ "--") :
    read c waiting (arg :: args) = (step (c, waiting) arg).bind fun s => read s.1 s.2 args := by
  conv => lhs; unfold read
  rw [if_neg h]
  unfold step
  cases waiting with
  | none =>
    cases classify arg with
    | none => rfl
    | some kind =>
      cases kind with
      | flag f name value => cases htake : take c f name value <;> simp [htake]
      | plain | unknown => rfl
  | some f =>
    cases classify arg with
    | none => rfl
    | some kind => cases kind <;> rfl

/-- Arguments are read in steps up to a double dash. -/
theorem read_append (h : "--" ∉ before) :
    read c waiting (before ++ after) = (before.foldlM step (c, waiting)).bind fun s => read s.1 s.2 after := by
  induction before generalizing c waiting with
  | nil => rfl
  | cons arg before ih =>
    obtain ⟨harg, hbefore⟩ : "--" ≠ arg ∧ "--" ∉ before := by simpa using h
    rw [List.cons_append, read_cons (Ne.symm harg), List.foldlM_cons]
    cases step (c, waiting) arg with
    | none => rfl
    | some s => exact ih hbefore

theorem unambiguous_append (h : "--" ∉ before) :
    unambiguous (before ++ after) = (before.all (fun arg => (classify arg).isSome) && unambiguous after) := by
  induction before with
  | nil => rfl
  | cons arg before ih =>
    obtain ⟨harg, hbefore⟩ : "--" ≠ arg ∧ "--" ∉ before := by simpa using h
    rw [List.cons_append, unambiguous, ih hbefore]
    simp [Ne.symm harg, Bool.and_assoc]

/-- **What is no flag can be left out**, where no flag waits for its value. -/
theorem parse_insert (hbefore : "--" ∉ before) (hfree : waits before = false) (harg : arg ≠ "--")
    (hkind : classify arg = some .plain ∨ classify arg = some .unknown) :
    parse (before ++ arg :: after) = parse (before ++ after) := by
  have hread : read {} none (before ++ arg :: after) = read {} none (before ++ after) := by
    rw [read_append hbefore, read_append hbefore]
    cases hscan : before.foldlM step ({}, none) with
    | none => rfl
    | some s =>
      obtain ⟨c, waiting⟩ := s
      cases waiting with
      | some f => simp [waits, scan, hscan] at hfree
      | none =>
        -- the argument changes nothing, and waits for nothing
        have hstep : step (c, none) arg = some (c, none) := by rcases hkind with h | h <;> simp [step, h]
        show read c none (arg :: after) = read c none after
        rw [read_cons harg, hstep]
        rfl
  have hclear : unambiguous (before ++ arg :: after) = unambiguous (before ++ after) := by
    have hsome : (classify arg).isSome = true := by rcases hkind with h | h <;> simp [h]
    have hdash : (arg == "--") = false := by simpa using harg
    rw [unambiguous_append hbefore, unambiguous_append hbefore, unambiguous]
    simp [hdash, hsome]
  rw [parse, parse, hread, hclear]

/-- Behind an accepted list without a double dash every argument has been read, and no flag waits. -/
theorem scan_of_parse (hbefore : "--" ∉ before) (h : parse before = some c) : scan before = some (c, none) := by
  have hread : read {} none (before ++ []) = some c := by
    rw [List.append_nil]
    unfold parse at h
    split at h
    · exact h
    · cases h
  rw [read_append hbefore, Option.bind_eq_some_iff] at hread
  obtain ⟨⟨c', waiting⟩, hscan, hend⟩ := hread
  cases waiting with
  | some f => cases hend
  | none =>
    obtain rfl : c' = c := Option.some.inj hend
    exact hscan

/-! ## What an argument list says -/

/-- What an argument list says: a port and a host where they are good, and the switches. -/
structure Options where
  port : Option Int
  host : Option String
  openBrowser : Bool
  help : Bool
deriving DecidableEq

/-- What the flags say. -/
def said (c : CommandLine) : Options := ⟨c.portNumber, c.hostName, c.openBrowser, c.help⟩

/-- What an argument list says; `none` when it cannot be used. -/
def options (args : List String) : Option Options := (parse args).map said

/-- An argument that changes nothing: put into a list that can be used, before a double dash and where no flag waits for its
value, it leaves what the list says. -/
def Ignored (arg : String) : Prop :=
  ∀ before after o, "--" ∉ before → waits before = false →
    options (before ++ after) = some o → options (before ++ arg :: after) = some o

/-- An argument that is ignored can be used behind every list that can, and waits for nothing. -/
theorem Ignored.step_eq (h : Ignored arg) (harg : arg ≠ "--") (hbefore : "--" ∉ before) (hparse : parse before = some c) :
    ∃ c', step (c, none) arg = some (c', none) ∧ said c' = said c := by
  have hscan := scan_of_parse hbefore hparse
  have hsame : options (before ++ [arg]) = some (said c) := by
    apply h before [] _ hbefore
    · simp [waits, hscan]
    · simp [options, hparse]
  obtain ⟨c', hparse', hsaid⟩ := Option.map_eq_some_iff.mp hsame
  have hscan' : scan (before ++ [arg]) = some (c', none) := by
    apply scan_of_parse _ hparse'
    simpa using ⟨hbefore, Ne.symm harg⟩
  refine ⟨c', ?_, hsaid⟩
  unfold scan at hscan hscan'
  simpa [List.foldlM_append, hscan] using hscan'

/-- What an ignored argument makes of the flags says the same. -/
theorem Ignored.said_eq {c' : CommandLine} (h : Ignored arg) (harg : arg ≠ "--") (hbefore : "--" ∉ before)
    (hparse : parse before = some c) (hstep : step (c, none) arg = some (c', none)) : said c' = said c := by
  obtain ⟨c'', hstep', hsaid⟩ := h.step_eq harg hbefore hparse
  obtain rfl : c' = c'' := by simpa [hstep] using hstep'
  exact hsaid

/-- An argument that makes the same of two lists which say different things is not ignored. -/
theorem not_ignored_of_same {one two : List String} {c₁ c₂ c' : CommandLine} (harg : arg ≠ "--")
    (hone : parse one = some c₁) (htwo : parse two = some c₂) (hone' : "--" ∉ one) (htwo' : "--" ∉ two)
    (hstep₁ : step (c₁, none) arg = some (c', none)) (hstep₂ : step (c₂, none) arg = some (c', none))
    (hdiffer : said c₁ ≠ said c₂) : ¬ Ignored arg := by
  intro h
  apply hdiffer
  calc said c₁ = said c' := (h.said_eq harg hone' hone hstep₁).symm
    _ = said c₂ := h.said_eq harg htwo' htwo hstep₂

/-- **A flag is not ignored** when it is spelled with two hyphens: it sets what it stands for, or cannot be used. -/
theorem not_ignored_of_flag {f : Flag} {name : String} {value : Option String}
    (hkind : classify arg = some (.flag f name value)) (hname : Text.startsWith "--" name = true) : ¬ Ignored arg := by
  have harg : arg ≠ "--" := by
    rintro rfl
    have hnone : classify "--" = none := by decide
    simp [hnone] at hkind
  have hstep : ∀ c, step (c, none) arg = take c f name value := by simp [step, hkind]
  have hempty : parse [] = some {} := rfl
  cases value with
  | none =>
    cases f with
    | port | host =>
      -- at the end of the line it waits for its value
      intro h
      obtain ⟨c', hc', -⟩ := h.step_eq harg (by simp) hempty
      simp [hstep, take, cluster, Flag.takesValue] at hc'
    | openBrowser | help =>
      -- its switch is turned on
      intro h
      have hset := h.said_eq harg (by simp) hempty (hstep {})
      simp [said, switch] at hset
  | some v =>
    cases f with
    | port =>
      -- it sets the port, whichever there was
      have hset : ∀ c, step (c, none) arg = some (c.store .port v, none) := by simp [hstep, take, Flag.takesValue]
      have hone : parse ["--port=1"] = some { port := some "1" } := by decide
      have htwo : parse ["--port=2"] = some { port := some "2" } := by decide
      exact not_ignored_of_same harg hone htwo (by simp) (by simp) (hset _) (hset _) (by decide)
    | host =>
      have hset : ∀ c, step (c, none) arg = some (c.store .host v, none) := by simp [hstep, take, Flag.takesValue]
      have hone : parse ["--host=a"] = some { host := some "a" } := by decide
      have htwo : parse ["--host=b"] = some { host := some "b" } := by decide
      exact not_ignored_of_same harg hone htwo (by simp) (by simp) (hset _) (hset _) (by decide)
    | openBrowser | help =>
      -- a switch has no value
      intro h
      obtain ⟨c', hc', -⟩ := h.step_eq harg (by simp) hempty
      simp [hstep, take, Flag.takesValue, hname] at hc'

end CommandLine

/-! ## Long flags -/

/-- A long flag as it is written: two hyphens, its name, and its value behind an equals sign. -/
def longFlag (name : String) (value : Option String) : String :=
  String.ofList ('-' :: '-' :: (name.toList ++ (value.map fun v => '=' :: v.toList).getD []))

/-- The long flags that are known. -/
def knownFlags : List (String × Flag) := [("port", .port), ("host", .host), ("open", .openBrowser), ("help", .help)]

/-- The known flags that a name begins. -/
def begun (name : String) : List (String × Flag) := knownFlags.filter fun known => name.toList.isPrefixOf known.1.toList

/-- A name that begins a known one. -/
def Abbreviates (name : String) : Prop := ∃ known ∈ knownFlags, name.toList <+: known.1.toList

instance (name : String) : Decidable (Abbreviates name) := List.decidableBEx _ knownFlags

section

variable {name : String} {value : Option String}

@[simp] theorem toList_longFlag :
    (longFlag name value).toList = '-' :: '-' :: (name.toList ++ (value.map fun v => '=' :: v.toList).getD []) := by
  rw [longFlag, String.toList_ofList]

theorem begun_eq_nil_iff : begun name = [] ↔ ¬ Abbreviates name := by
  simp [begun, Abbreviates, List.filter_eq_nil_iff]

theorem longFlag_ne_double_dash (hname : name ≠ "") : longFlag name value ≠ "--" := by
  intro h
  have hchars := toList_longFlag.symm.trans (congrArg String.toList h)
  simp [hname] at hchars

theorem double_dash_of_longFlag {spelled : String} (h : Text.startsWith (longFlag name none) spelled = true) :
    Text.startsWith "--" spelled = true := by
  rw [Text.startsWith, List.isPrefixOf_iff_prefix] at *
  rw [toList_longFlag] at h
  exact (List.prefix_append ['-', '-'] _).trans h

theorem longFlag_inj {other : String} (h : longFlag name none = longFlag other none) : name = other := by
  have hchars := congrArg String.toList h
  simpa [String.toList_inj] using hchars

theorem cutEquals_longFlag (hplain : '=' ∉ name.toList) :
    cutEquals (longFlag name value) = (longFlag name none, value) := by
  have hfront : '=' ∉ '-' :: '-' :: name.toList := by simpa using hplain
  cases value with
  | none =>
    have hcut := Text.cutAt_eq_of_not_mem hfront
    simp_all [cutEquals, longFlag]
  | some v =>
    have hcut := Text.cutAt_append_sep hfront v.toList
    simp_all [cutEquals, longFlag]

/-- The spellings with two hyphens are those of the known long flags. -/
theorem filter_flagNames :
    (flagNames.filter fun e => Text.startsWith "--" e.1) = knownFlags.map fun known => (longFlag known.1 none, known.2) := by
  decide

theorem not_mem_of_mem_knownFlags {known : String × Flag} (h : known ∈ knownFlags) : '=' ∉ known.1.toList := by
  revert known
  decide

/-- An unknown name is no spelling of a flag, with a value behind it or without. -/
theorem get?_longFlag (hplain : '=' ∉ name.toList) (hforeign : name ∉ knownFlags.map Prod.fst) :
    Assoc.get? (longFlag name value) flagNames = none := by
  rw [Option.eq_none_iff_forall_ne_some]
  intro f h
  have hlong : (longFlag name value, f) ∈ flagNames.filter fun e => Text.startsWith "--" e.1 := by
    simp [Text.startsWith, Assoc.mem_of_get? h]
  rw [filter_flagNames, List.mem_map] at hlong
  obtain ⟨known, hknown, hspelled⟩ := hlong
  have hcut := congrArg (fun e => cutEquals e.1) hspelled
  simp only [cutEquals_longFlag hplain, cutEquals_longFlag (not_mem_of_mem_knownFlags hknown), Prod.mk.injEq] at hcut
  obtain rfl : known.1 = name := longFlag_inj hcut.1
  exact hforeign (List.mem_map_of_mem hknown)

theorem candidates_longFlag (hplain : '=' ∉ name.toList) :
    candidates (longFlag name value) = (begun name).map fun known => .flag known.2 (longFlag known.1 none) value := by
  have hlong : (flagNames.filter fun e => Text.startsWith (longFlag name none) e.1) =
      (begun name).map fun known => (longFlag known.1 none, known.2) := by
    calc flagNames.filter (fun e => Text.startsWith (longFlag name none) e.1)
        = (flagNames.filter fun e => Text.startsWith "--" e.1).filter
            fun e => Text.startsWith (longFlag name none) e.1 := by
          rw [List.filter_filter]
          refine List.filter_congr fun e _ => ?_
          rw [Bool.eq_iff_iff, Bool.and_eq_true, iff_self_and]
          exact double_dash_of_longFlag
      _ = (begun name).map fun known => (longFlag known.1 none, known.2) := by
          rw [filter_flagNames, List.filter_map]
          congr 1
          simp [Function.comp_def, Text.startsWith, begun]
  unfold candidates
  rw [toList_longFlag]
  simp only [cutEquals_longFlag hplain, hlong, List.map_map]
  rfl

/-- **What an unknown long flag counts as**: the one known flag that its name begins; it cannot be told when there are more,
and is no flag when there is none. -/
theorem classify_longFlag (hplain : '=' ∉ name.toList) (hforeign : name ∉ knownFlags.map Prod.fst) :
    classify (longFlag name value) =
      match begun name with
      | [] => some (unmatched (longFlag name value))
      | [known] => some (.flag known.2 (longFlag known.1 none) value)
      | _ => none := by
  have hcut : ((cutEquals (longFlag name value)).2.bind fun _ =>
      Assoc.get? (cutEquals (longFlag name value)).1 flagNames) = none := by
    rw [cutEquals_longFlag hplain, get?_longFlag hplain hforeign]
    cases value <;> rfl
  unfold classify
  simp only [toList_longFlag, get?_longFlag hplain hforeign, hcut, candidates_longFlag hplain]
  cases begun name with
  | nil => rfl
  | cons known rest => cases rest <;> rfl

end

open CommandLine

/-- **Long flags of other programs are ignored unless they begin a known name.** An unknown name may be written with a value or
without, before any double dash and where no flag waits for its value. -/
theorem foreign_flags_are_ignored_iff {name : String} (hname : name ≠ "") (hplain : '=' ∉ name.toList)
    (hforeign : name ∉ knownFlags.map Prod.fst) (value : Option String) :
    Ignored (longFlag name value) ↔ ¬ Abbreviates name := by
  have hkind := @classify_longFlag name value hplain hforeign
  have harg := @longFlag_ne_double_dash name value hname
  rw [← begun_eq_nil_iff]
  cases hbegun : begun name with
  | nil =>
    simp only [hbegun] at hkind
    have hunmatched : ∀ arg, unmatched arg = .plain ∨ unmatched arg = .unknown := by
      intro arg
      unfold unmatched
      split <;> simp
    have hno : classify (longFlag name value) = some .plain ∨ classify (longFlag name value) = some .unknown := by
      rw [hkind]
      simpa using hunmatched _
    refine iff_of_true ?_ rfl
    intro before after o hbefore hfree hparse
    rw [options, parse_insert hbefore hfree harg hno]
    exact hparse
  | cons known rest =>
    refine iff_of_false ?_ (List.cons_ne_nil _ _)
    cases rest with
    | nil =>
      simp only [hbegun] at hkind
      exact not_ignored_of_flag hkind (by simp [Text.startsWith])
    | cons other rest =>
      -- it begins two names: the command line cannot be used
      simp only [hbegun] at hkind
      intro h
      have hempty : parse [] = some {} := rfl
      obtain ⟨c', hc', -⟩ := h.step_eq harg (by simp) hempty
      simp [step, hkind] at hc'

theorem foreign_flags_are_ignored_iff_verbose :
    ("verbose" ≠ "" ∧ '=' ∉ "verbose".toList ∧ "verbose" ∉ knownFlags.map Prod.fst) ∧
      Ignored (longFlag "verbose" (some "2")) := by
  have hname : "verbose" ≠ "" := by decide
  have hplain : '=' ∉ "verbose".toList := by decide
  have hforeign : "verbose" ∉ knownFlags.map Prod.fst := by decide
  exact ⟨⟨hname, hplain, hforeign⟩, (foreign_flags_are_ignored_iff hname hplain hforeign (some "2")).mpr (by decide)⟩

/-- The names `op` and `p` are unknown, and yet the flag of the one opens a browser, and that of the other cannot be used. -/
theorem abbreviations_are_not_ignored :
    options [] = some ⟨none, none, false, false⟩ ∧ options [longFlag "op" none] = some ⟨none, none, true, false⟩ ∧
      options [longFlag "p" none] = none ∧
      ¬ ∀ name value, name ≠ "" → '=' ∉ name.toList → name ∉ knownFlags.map Prod.fst → Ignored (longFlag name value) := by
  have hnothing : options [] = some ⟨none, none, false, false⟩ := by decide
  have hopens : options [longFlag "op" none] = some ⟨none, none, true, false⟩ := by decide
  refine ⟨hnothing, hopens, by decide, ?_⟩
  intro hall
  have hignored : options [longFlag "op" none] = some ⟨none, none, false, false⟩ :=
    hall "op" none (by decide) (by decide) (by decide) [] [] _ (by decide) (by decide) hnothing
  simp [hopens] at hignored

end ServerTree
