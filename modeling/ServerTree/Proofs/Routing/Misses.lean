import ServerTree.Routing.Depth
import ServerTree.Proofs.Routing.Registration

/-!
# Paths that are not served

A request that no route serves is answered by a second search, which asks for no method and ends at the
first table on its way. Both searches try the same edges in the same order, so they agree: what one method
does not find at all no method finds, and the methods of the table that ends the second search are just
some of those that a first search would have been content with.

This needs that no edge for the rest leads to an empty table. It holds of every router that is built from
routes with methods, also when some of them were refused on the way.

## Main definitions
- `Router.Built`: the routers that can be built
- `Trie.RestServed`: every edge for the rest leads to routes

## Main statements
- `Router.Built.restServed`: every router that can be built is of this kind
- `comesTo_of_find_eq_none`: a search that fails goes at least as far down as any other
- `misses_agree`: what is not found, and which methods are allowed
-/

namespace ServerTree

variable {E : Type}

/-! ## Refused registrations -/

namespace Trie

/-- Nothing has another name where nothing is. -/
@[simp] theorem clash?_empty (segments : List Segment) : clash? segments (empty : Trie E) = none := by
  rw [clash?_eq_none_iff]
  intro before l l' _ htaken
  simp [labels] at htaken

/-- A registration that finds a parameter under another name labels no edge. -/
theorem labels_insert_of_clash {segments : List Segment} {t : Trie E} {names : String × String}
    (h : clash? segments t = some names) (route : Route E) (before : List Edge) (e : Edge) :
    labels (insert route segments t).1 before e = labels t before e := by
  induction segments using tailOf_induction generalizing t before with
  | nil => simp [clash?] at h
  | cons s segments ih =>
    cases hhead : headClash? s t with
    | some names' => rw [insert_of_headClash hhead]
    | none =>
      rw [clash?_cons_of_none hhead] at h
      obtain ⟨-, -, hchild, hlabel⟩ := insert_cons hhead route segments
      cases before with
      | nil =>
        simp only [labels, follow, hlabel]
        by_cases he : e = s.edge
        · -- the name that is taken lies behind this edge, so the edge was there before
          rw [if_pos he]
          subst he
          cases s with
          | fixed text => simp [Segment.label?]
          | param written name converter =>
            cases converter with
            | rest => simp [tailOf, Segment.edge, clash?] at h
            | text | digits =>
              obtain ⟨routes, children, param, catchAll⟩ := t
              cases param with
              | some edge => rfl
              | none => simp [Segment.edge, child] at h
        · rw [if_neg he]
      | cons b before =>
        simp only [labels, follow, hchild]
        by_cases hb : b = s.edge
        · subst hb
          simpa [labels] using ih h before
        · simp [hb]

/-! ## Edges for the rest -/

/-- Every edge for the rest leads to routes. -/
def RestServed (t : Trie E) : Prop :=
  ∀ before l, t.labels before .rest = some l → table (follow (before ++ [.rest]) t) ≠ []

/-- Nothing is ever removed from a table. -/
theorem register_ne_nil_of_ne_nil (route : Route E) (ms : List String) {table : MethodTable E}
    (h : table ≠ []) : (register route ms table).1 ≠ [] := by
  induction ms generalizing table with
  | nil => exact h
  | cons m ms ih =>
    rw [register]
    cases Assoc.get? m table with
    | some taken => exact h
    | none => exact ih ((Assoc.exists_get?_iff_ne_nil _).mp ⟨m, route, Assoc.get?_set_self m route table⟩)

/-- Entering a route that has methods leaves no table empty. -/
theorem register_ne_nil (route : Route E) {ms : List String} (hms : ms ≠ []) (table : MethodTable E) :
    (register route ms table).1 ≠ [] := by
  obtain ⟨m, ms, rfl⟩ := List.exists_cons_of_ne_nil hms
  rw [register]
  -- the first method is there already or is entered now
  cases htaken : Assoc.get? m table with
  | some taken => exact (Assoc.exists_get?_iff_ne_nil _).mp ⟨m, taken, htaken⟩
  | none =>
    have hentered := Assoc.get?_set_self m route table
    exact register_ne_nil_of_ne_nil route ms ((Assoc.exists_get?_iff_ne_nil _).mp ⟨m, route, hentered⟩)

/-- **Step lemma**: a registration of a route that has methods keeps every edge for the rest leading to
routes, whether it is accepted or refused. -/
theorem RestServed.insert {t : Trie E} (h : t.RestServed) {route : Route E} (hmethods : route.methods ≠ [])
    (segments : List Segment) : (insert route segments t).1.RestServed := by
  intro before l hl
  rw [table_follow_insert]
  split
  · exact register_ne_nil route hmethods _
  · next hother =>
    cases hclash : clash? segments t with
    | some names =>
      rw [labels_insert_of_clash hclash] at hl
      exact h before l hl
    | none =>
      rw [labels_insert hclash] at hl
      -- an edge that is new is the last one of the pattern, and there the route was entered
      cases hold : t.labels before .rest with
      | some l' => exact h before l' hold
      | none =>
        rw [hold, Option.none_or] at hl
        exact absurd ⟨(edgesOf_of_labelAt_rest hl).1.symm, hclash⟩ hother

/-- A search for no method ends at a table that has routes. -/
theorem RestServed.ne_nil_of_accepts {t : Trie E} (h : t.RestServed) {parts : List String} {es : List Edge}
    {bs : List (String × String)} (hacc : t.Accepts none parts es bs) : table (follow es t) ≠ [] := by
  rcases hacc.answers with hanswers | ⟨-, hlast⟩
  · simpa [Trie.answers] using hanswers
  · obtain ⟨before, rfl, hlabel⟩ := label_rest_of_bindingsAlong hacc.bindings hlast
    obtain ⟨l, hl⟩ := Option.isSome_iff_exists.mp hlabel
    exact h before l hl

/-! ## How far searches go -/

/-- A search that fails has tried every edge that accepts the path, and so it comes to every node that any
other search comes to. -/
theorem comesTo_of_find_eq_none {t : Trie E} {method : String} {n : Nat} {parts : List String}
    (hnone : find (some method) parts [] t = none) (h : comesTo method n parts t = false) (m : String) :
    comesTo m n parts t = false := by
  induction n generalizing t parts with
  | zero => simp [comesTo] at h
  | succ n ih =>
    cases parts with
    | nil => cases t; rfl
    | cons part parts =>
      rw [find_cons, Option.or_eq_none_iff, Option.or_eq_none_iff] at hnone
      obtain ⟨hfixed, hparam, -⟩ := hnone
      obtain ⟨routes, children, param, catchAll⟩ := t
      -- behind each of the two edges the search failed, so `ih` applies there
      have hbelow : ∀ c, Assoc.get? part children = some c → comesTo method n parts c = false →
          comesTo m n parts c = false := by
        intro c hc
        simp only [child, hc, Option.getD_some] at hfixed
        exact ih hfixed
      have hbehind : ∀ name converter next, param = some (name, converter, next) →
          converter.accepts part = true → comesTo method n parts next = false →
          comesTo m n parts next = false := by
        rintro name converter next rfl haccepts
        simp only [viaParam, label, child, Option.map_some, Option.bind_some, haccepts, if_true,
          Option.getD_some] at hparam
        exact ih ((find_eq_none_iff []).mpr ((find_eq_none_iff _).mp hparam))
      have hfound : (Assoc.get? part children).any
          (fun c => (find (some method) parts [] c).isSome) = false := by
        cases hc : Assoc.get? part children with
        | none => rfl
        | some c => simpa [child, hc] using hfixed
      simp only [comesTo, hfound, Bool.not_false, Bool.true_and, Bool.or_eq_false_iff] at h ⊢
      obtain ⟨hviaChild, hviaParam⟩ := h
      constructor
      · cases hc : Assoc.get? part children with
        | none => rfl
        | some c =>
          rw [hc] at hviaChild
          exact hbelow c hc hviaChild
      · cases param with
        | none => simp
        | some edge =>
          obtain ⟨name, converter, next⟩ := edge
          by_cases haccepts : converter.accepts part = true
          · simp only [Option.any_some, haccepts, Bool.true_and] at hviaParam
            simp [hbehind name converter next rfl haccepts hviaParam]
          · simp [haccepts]

end Trie

/-! ## Routers -/

/-- The routers that can be built: a new one, and what becomes of one when it is asked to register a route
that has methods, which it may refuse, or when its registrations end. -/
inductive Router.Built : Router E → Prop
  | new : Router.Built {}
  | add {router : Router E} (built : router.Built) {methods : List String} (hmethods : methods ≠ [])
      (path : String) (endpoint : E) : Router.Built (router.add path methods endpoint).1
  | compile {router : Router E} (built : router.Built) : Router.Built router.compile

/-- **Run lemma**: in every router that can be built, each edge for the rest leads to routes. -/
theorem Router.Built.restServed {router : Router E} (h : router.Built) : router.trie.RestServed := by
  induction h with
  | new =>
    intro before l hl
    change Trie.label .rest (Trie.follow before Trie.empty) = some l at hl
    simp at hl
  | @add router _ methods hmethods path endpoint ih =>
    -- what is refused before the trie is reached changes nothing
    rw [Router.add]
    split
    · exact ih
    · cases parsePattern path with
      | error refusal => exact ih
      | ok segments => exact ih.insert hmethods segments
  | compile _ ih => exact ih

/-- What answers a search for a method is served there. -/
theorem exists_serving_of_find {t : Trie E} {method : String} {parts : List String}
    {params params' : List (String × String)} {found : MethodTable E}
    (h : t.find (some method) parts params = some (found, params')) :
    ∃ route, Trie.serving found method = some route := by
  obtain ⟨es, bs, hfirst, rfl, -⟩ := Trie.find_sound h
  rcases hfirst.accepts.answers with hanswers | ⟨hnone, -⟩
  · exact Option.isSome_iff_exists.mp hanswers
  · exact absurd hnone (by simp)

/-- The methods that are allowed are those of the table that a search for no method ends with. -/
theorem match?_eq_otherMethods {router : Router E} {method path : String} {allowed : List String}
    (h : router.match? method path = .error (.otherMethods allowed)) :
    router.trie.find (some method) (pathSegments path) [] = none ∧
      ∃ es bs, router.trie.Accepts none (pathSegments path) es bs ∧
        allowed = (Trie.table (Trie.follow es router.trie)).map Prod.fst := by
  rw [Router.match?] at h
  cases hfind : router.trie.find (some method) (pathSegments path) [] with
  | some r =>
    obtain ⟨found, params⟩ := r
    obtain ⟨route, hroute⟩ := exists_serving_of_find hfind
    simp [hfind, hroute] at h
  | none =>
    cases hany : router.trie.find none (pathSegments path) [] with
    | none => simp [hfind, hany] at h
    | some r =>
      obtain ⟨found, params⟩ := r
      obtain ⟨es, bs, hfirst, rfl, -⟩ := Trie.find_sound hany
      simp only [hfind, hany, Except.error.injEq, Miss.otherMethods.injEq] at h
      exact ⟨rfl, es, bs, hfirst.accepts, h.symm⟩

/-- A row of edges that accepts a path accepts it for every method that its table serves. -/
theorem Trie.Accepts.of_serving {t : Trie E} {parts : List String} {es : List Edge}
    {bs : List (String × String)} (h : t.Accepts none parts es bs) {method : String} {route : Route E}
    (hserving : Trie.serving (table (follow es t)) method = some route) :
    t.Accepts (some method) parts es bs :=
  ⟨h.bindings, .inl (Option.isSome_iff_exists.mpr ⟨route, hserving⟩)⟩

/-- A search that failed does not fail because of how far it went, and neither does any other. -/
theorem isTooDeepFor_of_find_eq_none {router : Router E} {method path : String}
    (hnone : router.trie.find (some method) (pathSegments path) [] = none)
    (h : router.isTooDeepFor method path = false) (m : String) : router.isTooDeepFor m path = false :=
  Trie.comesTo_of_find_eq_none hnone h m

/-- **Paths that are not served.** In every router that can be built: the table that a search for a method
ends with has a route for this method, which is the answer. A path that is not found for one method is not
found for any. When other methods are allowed, there are some; the method that was asked for is none of
them, nor is GET when that was HEAD; and for each of them a route is found. None of the other searches
goes too far down when the first one did not. -/
theorem misses_agree {router : Router E} (h : router.Built) (method path : String) :
    (∀ found params, router.trie.find (some method) (pathSegments path) [] = some (found, params) →
      ∃ route, Trie.serving found method = some route ∧
        router.match? method path = .ok ⟨route, params⟩) ∧
    (router.match? method path = .error .notFound → ∀ m,
      router.match? m path = .error .notFound ∧
        (router.isTooDeepFor method path = false → router.isTooDeepFor m path = false)) ∧
    (∀ allowed, router.match? method path = .error (.otherMethods allowed) →
      allowed ≠ [] ∧ method ∉ allowed ∧ (method = "HEAD" → "GET" ∉ allowed) ∧
        ∀ m ∈ allowed, (∃ found, router.match? m path = .ok found) ∧
          (router.isTooDeepFor method path = false → router.isTooDeepFor m path = false)) := by
  refine ⟨?_, ?_, ?_⟩
  · intro found params hfind
    obtain ⟨route, hroute⟩ := exists_serving_of_find hfind
    exact ⟨route, hroute, by simp only [Router.match?, hfind, hroute]⟩
  · intro hnotFound m
    -- that no row of edges accepts the path does not depend on the method
    have hno := match?_eq_notFound_iff.mp hnotFound
    refine ⟨match?_eq_notFound_iff.mpr hno, fun hdeep => ?_⟩
    refine isTooDeepFor_of_find_eq_none ((Trie.find_eq_none_iff []).mpr fun es bs hacc => ?_) hdeep m
    exact hno es bs hacc.any
  · intro allowed hmiss
    obtain ⟨hnone, es, bs, hacc, rfl⟩ := match?_eq_otherMethods hmiss
    -- whatever the table at the end serves would have been found, and this search found nothing
    have hunserved : ∀ route, Trie.serving (Trie.table (Trie.follow es router.trie)) method ≠ some route :=
      fun route hserving => (Trie.find_eq_none_iff []).mp hnone es bs (hacc.of_serving hserving)
    refine ⟨?_, ?_, ?_, ?_⟩
    · simpa using h.restServed.ne_nil_of_accepts hacc
    · intro hmem
      obtain ⟨route, hroute⟩ := Assoc.exists_get?_of_mem hmem
      exact hunserved route ((serving_eq_some_iff _ _ _).mpr (.inl hroute))
    · rintro rfl hmem
      obtain ⟨route, hroute⟩ := Assoc.exists_get?_of_mem hmem
      cases hown : Assoc.get? "HEAD" (Trie.table (Trie.follow es router.trie)) with
      | some own => exact hunserved own ((serving_eq_some_iff _ _ _).mpr (.inl hown))
      | none => exact hunserved route ((serving_eq_some_iff _ _ _).mpr (.inr ⟨hown, rfl, hroute⟩))
    · intro m hmem
      obtain ⟨route, hroute⟩ := Assoc.exists_get?_of_mem hmem
      have hserving := (serving_eq_some_iff _ m _).mpr (.inl hroute)
      refine ⟨exists_match?_eq_ok_iff.mpr ⟨es, bs, hacc.of_serving hserving⟩, fun hdeep => ?_⟩
      exact isTooDeepFor_of_find_eq_none hnone hdeep m

/-- A router with a GET route below a parameter and a HEAD route for everything. The last registration is
refused, because the parameter has another name. -/
def Router.shelves : Router Unit :=
  ((((Router.add {} "/shelves/{id:int}" ["GET"] ()).1.add "/{rest:path}" ["HEAD", "PUT"] ()).1.add
    "/shelves/{name}/books" ["GET"] ()).1).compile

/-- A method that none of its routes serves, on a path that two of them match. -/
theorem misses_agree_shelves :
    Router.shelves.Built ∧ Router.shelves.match? "POST" "/shelves/7" = .error (.otherMethods ["GET"]) ∧
      "POST" ∉ ["GET"] ∧ ∃ found, Router.shelves.match? "GET" "/shelves/7" = .ok found := by
  have hbuilt : Router.shelves.Built :=
    .compile (.add (.add (.add .new (by decide) _ _) (by decide) _ _) (by decide) _ _)
  have hanswer : (match Router.shelves.match? "POST" "/shelves/7" with
      | .error (.otherMethods allowed) => allowed == ["GET"]
      | _ => false) = true := by decide +kernel
  have hmiss : Router.shelves.match? "POST" "/shelves/7" = .error (.otherMethods ["GET"]) := by
    split at hanswer
    · next h => rw [h, eq_of_beq hanswer]
    · exact absurd hanswer Bool.false_ne_true
  obtain ⟨-, hposted, -, hserved⟩ := (misses_agree hbuilt "POST" "/shelves/7").2.2 ["GET"] hmiss
  exact ⟨hbuilt, hmiss, hposted, (hserved "GET" (List.mem_singleton_self _)).1⟩

end ServerTree
