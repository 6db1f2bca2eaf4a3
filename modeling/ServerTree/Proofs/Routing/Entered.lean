import ServerTree.Proofs.Routing.Listing
import ServerTree.Proofs.Routing.Misses

/-!
# The routes of a router

A router is filled by registrations that may be refused, and one that is refused for a method that is taken
may have been entered under others by then. Whatever was tried: the routes of a router are those that are
found in its tables, each of them at the end of its own edges and under some of its methods, and every edge
has the label that one of them gives to it.

## Main definitions
- `Router.Enters`: a route is entered somewhere in a router
- `Router.Coherent`: the routes, the tables and the labels of a router belong together

## Main statements
- `Router.Built.coherent`: every router that can be built is of this kind
- `Router.Built.mem_routes`: its routes are those that are entered
-/

namespace ServerTree

variable {E : Type}

/-! ## What stays in a trie -/

namespace Trie

/-- What is found in a table stays there. -/
theorem get?_register_of_some {route r : Route E} {m : String} (ms : List String) {table : MethodTable E}
    (h : Assoc.get? m table = some r) : Assoc.get? m (register route ms table).1 = some r := by
  induction ms generalizing table with
  | nil => exact h
  | cons first ms ih =>
    rw [register]
    cases hfirst : Assoc.get? first table with
    | some taken => exact h
    | none =>
      have hne : m ≠ first := by
        rintro rfl
        rw [hfirst] at h
        cases h
      exact ih (by rwa [Assoc.get?_set_other hne])

/-- **Step lemma**: what is found in a trie stays there, whether a registration is accepted or refused. -/
theorem get?_insert_of_some {route r : Route E} {es : List Edge} {m : String} {t : Trie E}
    (h : Assoc.get? m (table (follow es t)) = some r) (segments : List Segment) :
    Assoc.get? m (table (follow es (insert route segments t).1)) = some r := by
  rw [table_follow_insert]
  split
  · exact get?_register_of_some _ h
  · exact h

/-- The first method of a route is taken, and the table is left alone, or it is entered. -/
theorem register_head (route : Route E) {ms : List String} (hms : ms ≠ []) (table : MethodTable E) :
    (table ≠ [] ∧ (register route ms table).1 = table) ∨
      ∃ m ∈ ms, Assoc.get? m (register route ms table).1 = some route := by
  obtain ⟨m, ms, rfl⟩ := List.exists_cons_of_ne_nil hms
  rw [register]
  cases htaken : Assoc.get? m table with
  | some taken => exact .inl ⟨(Assoc.exists_get?_iff_ne_nil _).mp ⟨m, taken, htaken⟩, rfl⟩
  | none =>
    have hset := Assoc.get?_set_self m route table
    exact .inr ⟨m, List.mem_cons_self .., get?_register_of_some ms hset⟩

/-- What is found in a table after a route was entered was found before, or is this route under a method of
its own. -/
theorem get?_register_or {route r : Route E} {m : String} {ms : List String} {table : MethodTable E}
    (h : Assoc.get? m (register route ms table).1 = some r) :
    Assoc.get? m table = some r ∨ r = route ∧ m ∈ ms := by
  induction ms generalizing table with
  | nil => exact .inl h
  | cons first ms ih =>
    rw [register] at h
    cases htaken : Assoc.get? first table with
    | some taken =>
      rw [htaken] at h
      exact .inl h
    | none =>
      rw [htaken] at h
      rcases ih h with hset | ⟨hroute, hm⟩
      · rw [Assoc.get?_set] at hset
        split at hset
        · next hfirst => exact .inr ⟨(Option.some.inj hset).symm, hfirst ▸ List.mem_cons_self ..⟩
        · exact .inl hset
      · exact .inr ⟨hroute, List.mem_cons_of_mem _ hm⟩

/-! ## Entries and tables -/

/-- What is found in a table is an entry of the trie. -/
theorem mem_entries_of_get? {es : List Edge} {m : String} {t : Trie E} {r : Route E}
    (h : Assoc.get? m (table (follow es t)) = some r) : r ∈ t.entries := by
  -- the induction is on the edges: the entries below an edge are among those of its node
  induction es generalizing t with
  | nil =>
    obtain ⟨routes, children, param, catchAll⟩ := t
    rw [entries_node]
    exact List.mem_append_left _ (List.mem_map_of_mem (Assoc.mem_of_get? h))
  | cons e es ih =>
    obtain ⟨routes, children, param, catchAll⟩ := t
    have hbelow := ih h
    rw [entries_node]
    cases e with
    | fixed text =>
      obtain ⟨before, behind, hchildren, -⟩ := exists_entriesChildren_set text empty children
      rw [hchildren]
      simp only [child] at hbelow
      simp [hbelow]
    | param =>
      cases param with
      | none => simp [child] at hbelow
      | some edge => simp [entriesParam, show r ∈ edge.2.2.entries from hbelow]
    | rest =>
      cases catchAll with
      | none => simp [child, entries, entriesChildren, entriesParam] at hbelow
      | some edge =>
        have hmem : r ∈ edge.2.map Prod.snd := by
          simpa [child, entries, entriesChildren, entriesParam] using hbelow
        simp [entriesRest, hmem]

/-- An entry of a table was there before a route was entered, or is found under some method. -/
theorem mem_register {route r : Route E} {ms : List String} {table : MethodTable E}
    (h : r ∈ (register route ms table).1.map Prod.snd) :
    r ∈ table.map Prod.snd ∨ ∃ m, Assoc.get? m (register route ms table).1 = some r := by
  induction ms generalizing table with
  | nil => exact .inl h
  | cons m ms ih =>
    rw [register] at h ⊢
    cases htaken : Assoc.get? m table with
    | some taken => exact .inl (by simpa [htaken] using h)
    | none =>
      simp only [htaken] at h ⊢
      rcases ih h with hset | hfound
      · obtain ⟨entry, hentry, rfl⟩ := List.mem_map.mp hset
        rcases (Assoc.mem_set hentry).2 with hnew | hold
        · refine .inr ⟨m, ?_⟩
          rw [hnew]
          exact get?_register_of_some ms (Assoc.get?_set_self m route table)
        · exact .inl hold
      · exact .inr hfound

/-- **Step lemma**: an entry of a trie was there before a registration, or is found in a table. -/
theorem mem_entries_insert {route r : Route E} {segments : List Segment} {t : Trie E}
    (h : r ∈ (insert route segments t).1.entries) :
    r ∈ t.entries ∨ ∃ es m, Assoc.get? m (table (follow es (insert route segments t).1)) = some r := by
  -- in each case one part of the node's entries is another, and the others are what they were
  fun_induction insert route segments t with
  | case1 routes children param catchAll entered =>
    rw [entries_node] at h ⊢
    rcases List.mem_append.mp h with hown | hbelow
    · rcases mem_register hown with hold | ⟨m, hfound⟩
      · exact .inl (List.mem_append_left _ hold)
      · exact .inr ⟨[], m, hfound⟩
    · exact .inl (List.mem_append_right _ hbelow)
  | case2 text segments routes children param catchAll next below ih =>
    obtain ⟨before, behind, hold, hnew⟩ := exists_entriesChildren_set text below.1 children
    rw [entries_node, hnew] at h
    rw [entries_node, hold]
    by_cases hin : r ∈ below.1.entries
    · rcases ih hin with hbelow | ⟨es, m, hfound⟩
      · exact .inl (by simp [show r ∈ ((Assoc.get? text children).getD empty).entries from hbelow])
      · refine .inr ⟨.fixed text :: es, m, ?_⟩
        simpa only [follow, child, Assoc.get?_set_self, Option.getD_some] using hfound
    · refine .inl ?_
      simp only [List.mem_append, hin, false_or] at h ⊢
      tauto
  | case3 _ name _ routes children param catchAll edge entered =>
    have hrest : entriesRest catchAll = edge.2.map Prod.snd := by cases catchAll <;> rfl
    rw [entries_node] at h ⊢
    rw [hrest]
    by_cases hin : r ∈ entered.1.map Prod.snd
    · rcases mem_register hin with hold | ⟨m, hfound⟩
      · exact .inl (by simp only [List.mem_append, hold, true_or, or_true])
      · exact .inr ⟨[.rest], m, by simpa [follow, child, table] using hfound⟩
    · refine .inl ?_
      simp only [List.mem_append, entriesRest, hin, false_or] at h ⊢
      tauto
  | case4 _ name converter segments routes children catchAll _ below ih =>
    rw [entries_node] at h ⊢
    by_cases hin : r ∈ below.1.entries
    · rcases ih hin with hbelow | ⟨es, m, hfound⟩
      · simp at hbelow
      · exact .inr ⟨.param :: es, m, by simpa [follow, child] using hfound⟩
    · refine .inl ?_
      simp only [List.mem_append, entriesParam, hin, or_false] at h ⊢
      tauto
  | case5 _ converter segments routes children catchAll _ name first next below ih =>
    rw [entries_node] at h ⊢
    by_cases hin : r ∈ below.1.entries
    · rcases ih hin with hbelow | ⟨es, m, hfound⟩
      · exact .inl (by simp [entriesParam, hbelow])
      · exact .inr ⟨.param :: es, m, by simpa [follow, child] using hfound⟩
    · refine .inl ?_
      simp only [List.mem_append, entriesParam, hin, or_false] at h ⊢
      tauto
  | case6 => exact .inl h

/-! ## Labels and tables -/

/-- A parameter without a label leads nowhere. -/
theorem child_of_label_eq_none {e : Edge} (he : ∀ text, e ≠ .fixed text) {t : Trie E}
    (h : label e t = none) : child e t = empty := by
  obtain ⟨routes, children, param, catchAll⟩ := t
  cases e with
  | fixed text => exact absurd rfl (he text)
  | param =>
    cases param with
    | none => rfl
    | some edge => simp [label] at h
  | rest =>
    cases catchAll with
    | none => rfl
    | some edge => simp [label] at h

/-- Every parameter on the way to a route has a label. -/
theorem isSome_labels_of_table {t : Trie E} {es before : List Edge} {e : Edge}
    (h : table (follow es t) ≠ []) (he : ∀ text, e ≠ .fixed text) (hes : (before ++ [e]) <+: es) :
    (t.labels before e).isSome = true := by
  obtain ⟨behind, rfl⟩ := hes
  induction before generalizing t with
  | nil =>
    cases hl : label e t with
    | some l => simp [labels, follow, hl]
    | none => simp [follow, child_of_label_eq_none he hl] at h
  | cons b before ih => exact ih h

/-- **Step lemma**: a label was there before a registration, or it is the one that the new route gives, and
this route is entered. -/
theorem labels_insert_or {route : Route E} (hmethods : route.methods ≠ []) {segments : List Segment}
    {t : Trie E} {before : List Edge} {e : Edge} {l : String × Converter}
    (h : (insert route segments t).1.labels before e = some l) :
    t.labels before e = some l ∨ labelAt segments before e = some l ∧
      ∃ m, Assoc.get? m (table (follow (edgesOf segments) (insert route segments t).1)) = some route := by
  cases hclash : clash? segments t with
  | some names => exact .inl (by rwa [labels_insert_of_clash hclash] at h)
  | none =>
    rw [labels_insert hclash, Option.or_eq_some_iff] at h
    refine h.imp_right fun ⟨hnew, hown⟩ => ⟨hown, ?_⟩
    rw [table_follow_insert, if_pos ⟨rfl, hclash⟩]
    rcases register_head route hmethods (table (follow (edgesOf segments) t)) with ⟨hne, -⟩ | ⟨m, -, hfound⟩
    · -- a table that has routes lies behind edges that all have labels
      have hlabel := isSome_labels_of_table hne (by rintro text rfl; simp at hown) (isPrefix_of_labelAt hown)
      rw [hnew] at hlabel
      cases hlabel
    · exact ⟨m, hfound⟩

end Trie

/-! ## Routes in a router -/

/-- A route is entered somewhere in a router. -/
def Router.Enters (router : Router E) (r : Route E) : Prop :=
  ∃ es m, Assoc.get? m (Trie.table (Trie.follow es router.trie)) = some r

theorem not_enters_empty (r : Route E) : ¬ ({} : Router E).Enters r := by
  rintro ⟨es, m, h⟩
  have hnone : Assoc.get? m (Trie.table (Trie.follow es (Trie.empty : Trie E))) = none := by
    simp [Assoc.get?]
  exact absurd (hnone.symm.trans h) (by simp)

/-- A route that is found is entered. -/
theorem enters_of_match? {router : Router E} {method path : String} {found : RouteMatch E}
    (h : router.match? method path = .ok found) : router.Enters found.route := by
  obtain ⟨es, -, -, hserving, -⟩ := match?_eq_ok h
  rcases (serving_eq_some_iff _ _ _).mp hserving with hown | ⟨-, -, hget⟩
  · exact ⟨es, method, hown⟩
  · exact ⟨es, "GET", hget⟩

/-- What a registration does to a router: nothing, and then it was not refused for a method, or what the
insertion of its route does to the trie. -/
theorem add_cases (router : Router E) (r : Registration E) :
    (∃ refusal, router.add r.path r.methods r.endpoint = (router, some refusal) ∧
      ∀ m path taken, refusal ≠ .duplicateRoute m path taken) ∨
    router.add r.path r.methods r.endpoint =
      ({ router with
          trie := (Trie.insert (r.route router.count) (r.route router.count).pattern router.trie).1
          count := router.count + 1 },
        (Trie.insert (r.route router.count) (r.route router.count).pattern router.trie).2) := by
  cases hcompiled : router.compiled with
  | true => exact .inl ⟨.compiledRouter, by simp [Router.add, hcompiled], by simp⟩
  | false =>
    cases hparsed : parsePattern r.path with
    | error refusal =>
      refine .inl ⟨refusal, by simp [Router.add, hcompiled, hparsed], ?_⟩
      rcases parseSegments_eq_error hparsed with ⟨_, rfl⟩ | ⟨_, rfl⟩ | rfl <;> simp
    | ok segments =>
      have hpattern : (r.route router.count).pattern = segments := by
        simp [Route.pattern, Registration.route, hparsed, Except.toOption]
      rw [hpattern]
      exact .inr (by simp [Router.add, hcompiled, hparsed, Registration.route])

/-- A registration enters no other route than its own, whose number is the next one, and does not count
backwards. -/
theorem enters_add (router : Router E) (path : String) (methods : List String) (endpoint : E) :
    (∀ r, (router.add path methods endpoint).1.Enters r → router.Enters r ∨
      r = ⟨path, methods, endpoint, router.count⟩ ∧
        (router.add path methods endpoint).1.count = router.count + 1) ∧
    router.count ≤ (router.add path methods endpoint).1.count := by
  rcases add_cases router ⟨path, methods, endpoint⟩ with ⟨refusal, hadd, -⟩ | hadd
  · rw [hadd]
    exact ⟨fun r hr => .inl hr, Nat.le_refl _⟩
  · rw [hadd]
    refine ⟨?_, Nat.le_succ _⟩
    rintro r ⟨es, m, hfound⟩
    rw [Trie.table_follow_insert] at hfound
    split at hfound
    · rcases Trie.get?_register_or hfound with hold | ⟨hnew, -⟩
      · exact .inl ⟨es, m, hold⟩
      · exact .inr ⟨hnew, rfl⟩
    · exact .inl ⟨es, m, hfound⟩

/-- What is found in the tables of a router stays there, whether a registration is accepted or refused. -/
theorem get?_add_of_some {router : Router E} {route : Route E} {es : List Edge} {m : String}
    (h : Assoc.get? m (Trie.table (Trie.follow es router.trie)) = some route) (r : Registration E) :
    Assoc.get? m (Trie.table (Trie.follow es (router.add r.path r.methods r.endpoint).1.trie)) =
      some route := by
  rcases add_cases router r with ⟨refusal, hadd, -⟩ | hadd
  · rwa [hadd]
  · rw [hadd]
    exact Trie.get?_insert_of_some h _

/-- A route stays entered. -/
theorem Router.Enters.add {router : Router E} {route : Route E} (h : router.Enters route)
    (r : Registration E) : (router.add r.path r.methods r.endpoint).1.Enters route := by
  obtain ⟨es, m, hfound⟩ := h
  exact ⟨es, m, get?_add_of_some hfound r⟩

/-! ## Routes, tables and labels -/

/-- The routes, the tables and the labels of a router belong together: its entries are found in its tables
and told apart by their numbers, each at the end of the edges of its pattern and under methods of its own,
and every label is one that the pattern of an entry gives. -/
structure Router.Coherent (router : Router E) : Prop where
  entered : ∀ r ∈ router.trie.entries, router.Enters r
  serial_lt : ∀ r, router.Enters r → r.serial < router.count
  eq_of_serial : ∀ r r', router.Enters r → router.Enters r' → r.serial = r'.serial → r = r'
  place : ∀ es m r, Assoc.get? m (Trie.table (Trie.follow es router.trie)) = some r →
    edgesOf r.pattern = es ∧ m ∈ r.methods
  labelled : ∀ before e l, router.trie.labels before e = some l →
    ∃ r, router.Enters r ∧ labelAt r.pattern before e = some l

theorem coherent_empty : Router.Coherent ({} : Router E) where
  entered := fun _ h => nomatch h
  serial_lt := fun r h => absurd h (not_enters_empty r)
  eq_of_serial := fun r _ h => absurd h (not_enters_empty r)
  place := fun es m r h => absurd ⟨es, m, h⟩ (not_enters_empty r)
  labelled := by
    intro before e l h
    change Trie.label e (Trie.follow before Trie.empty) = some l at h
    simp at h

/-- **Step lemma**: a registration of a route that has methods keeps a router coherent, whether it is
accepted or refused. -/
theorem Router.Coherent.add {router : Router E} (h : router.Coherent) {r : Registration E}
    (hmethods : r.methods ≠ []) : (router.add r.path r.methods r.endpoint).1.Coherent := by
  obtain ⟨henters, -⟩ := enters_add router r.path r.methods r.endpoint
  have hkept := fun r' (h : router.Enters r') => h.add r
  rcases add_cases router r with ⟨refusal, hadd, -⟩ | hadd
  · rwa [hadd]
  · rw [hadd] at henters hkept ⊢
    generalize hroute : r.route router.count = route at *
    -- one field after the other: what was there is kept, and what is new is this route under its next number
    constructor
    · intro r' hr'
      rcases Trie.mem_entries_insert hr' with hold | hfound
      · exact hkept r' (h.entered r' hold)
      · exact hfound
    · intro r' hr'
      rcases henters r' hr' with hold | ⟨rfl, -⟩
      · exact Nat.lt_succ_of_lt (h.serial_lt r' hold)
      · exact Nat.lt_succ_self _
    · intro r₁ r₂ hr₁ hr₂ hserial
      rcases henters r₁ hr₁ with hold₁ | ⟨rfl, -⟩ <;> rcases henters r₂ hr₂ with hold₂ | ⟨rfl, -⟩
      · exact h.eq_of_serial r₁ r₂ hold₁ hold₂ hserial
      · exact absurd hserial (Nat.ne_of_lt (h.serial_lt r₁ hold₁))
      · exact absurd hserial.symm (Nat.ne_of_lt (h.serial_lt r₂ hold₂))
      · rfl
    · intro es m r' hfound
      rw [Trie.table_follow_insert] at hfound
      split at hfound
      · next hown =>
        rcases Trie.get?_register_or hfound with hold | ⟨rfl, hm⟩
        · exact h.place es m r' hold
        · exact ⟨hown.1.symm, hm⟩
      · exact h.place es m r' hfound
    · intro before e l hl
      rcases Trie.labels_insert_or (hroute ▸ hmethods) hl with hold | ⟨hown, m, hfound⟩
      · obtain ⟨r', hr', hlabel⟩ := h.labelled before e l hold
        exact ⟨r', hkept r' hr', hlabel⟩
      · exact ⟨route, ⟨_, m, hfound⟩, hown⟩

/-- **Run lemma**: every router that can be built is coherent. -/
theorem Router.Built.coherent {router : Router E} (h : router.Built) : router.Coherent := by
  induction h with
  | new => exact coherent_empty
  | add _ hmethods path endpoint ih => exact ih.add (r := ⟨path, _, endpoint⟩) hmethods
  | compile _ ih => exact { ih with }

/-! ## The routes of a router -/

/-- An entry is kept when none before it has its number. -/
theorem mem_firstOfEach {seen : List Nat} {routes : List (Route E)}
    (hserials : ∀ r ∈ routes, ∀ r' ∈ routes, r.serial = r'.serial → r = r') {r : Route E} :
    r ∈ firstOfEach seen routes ↔ r ∈ routes ∧ r.serial ∉ seen := by
  induction routes generalizing seen with
  | nil => simp [firstOfEach]
  | cons first routes ih =>
    have hbehind (seen : List Nat) : r ∈ firstOfEach seen routes ↔ r ∈ routes ∧ r.serial ∉ seen :=
      ih fun r hr r' hr' => hserials r (List.mem_cons_of_mem _ hr) r' (List.mem_cons_of_mem _ hr')
    simp only [firstOfEach, List.contains_iff_mem]
    split
    · next hseen =>
      rw [hbehind]
      constructor
      · rintro ⟨hr, hnew⟩
        exact ⟨List.mem_cons_of_mem _ hr, hnew⟩
      · rintro ⟨hr, hnew⟩
        rcases List.mem_cons.mp hr with rfl | hr
        · exact absurd hseen hnew
        · exact ⟨hr, hnew⟩
    · next hnew =>
      rw [List.mem_cons, hbehind]
      constructor
      · rintro (rfl | ⟨hr, hlater⟩)
        · exact ⟨List.mem_cons_self .., hnew⟩
        · exact ⟨List.mem_cons_of_mem _ hr, fun h => hlater (List.mem_cons_of_mem _ h)⟩
      · rintro ⟨hr, hlater⟩
        by_cases hsame : r.serial = first.serial
        · exact .inl (hserials r hr first (List.mem_cons_self ..) hsame)
        · refine .inr ⟨?_, fun h => hlater ((List.mem_cons.mp h).resolve_left hsame)⟩
          exact (List.mem_cons.mp hr).resolve_left fun heq => hsame (heq ▸ rfl)

/-- **The routes of a router** that can be built are those that are entered in its tables. -/
theorem Router.Built.mem_routes {router : Router E} (h : router.Built) {r : Route E} :
    r ∈ router.routes ↔ router.Enters r := by
  have hcoherent := h.coherent
  rw [Router.routes, mem_firstOfEach fun r hr r' hr' =>
    hcoherent.eq_of_serial r r' (hcoherent.entered r hr) (hcoherent.entered r' hr')]
  constructor
  · rintro ⟨hr, -⟩
    exact hcoherent.entered r hr
  · rintro ⟨es, m, hfound⟩
    exact ⟨Trie.mem_entries_of_get? hfound, List.not_mem_nil⟩

end ServerTree
