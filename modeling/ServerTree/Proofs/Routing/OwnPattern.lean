import ServerTree.Proofs.Routing.Path
import ServerTree.Proofs.Routing.Priority

/-!
# Routes and their own patterns

Routes that share an edge of the trie share its label, and the first of them gives it. A registration
compares the names of parameters with those that are there, but neither what they accept nor the name of an
edge for the rest. A route that declares another label can therefore be found for a path outside its own
language, be missed for a path in it, or get its parameters under names of another route.

Which patterns are safe can be said exactly: those that label all edges they share alike.

## Main definitions
- `Router.Respects`: the answer for a request respects the patterns of the routes
- `Compatible`: patterns that can be registered in one router
- `Agree`: patterns that label shared edges alike

## Main statement
- `respected_iff_agree`: the routers of a collection of patterns respect them exactly when these agree
-/

namespace ServerTree

variable {E : Type}

/-- The answer for a request respects the patterns of the routes: the path is in the language of the route
that was found, whose own parameters are returned, and a path in the language of any route is found. A route
without methods is entered nowhere. -/
structure Router.Respects (router : Router E) (routes : List (Route E)) (method path : String) :
    Prop where
  own : ∀ m, router.match? method path = .ok m → m.route ∈ routes ∧
    ∃ bs, bindings? m.route.pattern (pathSegments path) = some bs ∧ m.params = Assoc.ofList bs
  found : ∀ r ∈ routes, r.methods ≠ [] → r.Matches (pathSegments path) →
    router.match? method path ≠ .error .notFound

/-- Patterns that give the parameters on shared edges the same names. -/
def Compatible (p q : List Segment) : Prop :=
  ∀ before l l', labelAt p before .param = some l → labelAt q before .param = some l' → l.1 = l'.1

/-- Patterns that give shared edges the same labels. -/
def Agree (p q : List Segment) : Prop :=
  ∀ before e l l', labelAt p before e = some l → labelAt q before e = some l' → l = l'

/-! ## Patterns that agree -/

section

variable {router : Router E} {routes : List (Route E)}

/-- Routes of one router are compatible. -/
theorem Router.Holds.compatible (holds : router.Holds routes) {r c : Route E} (hr : r ∈ routes)
    (hc : c ∈ routes) : Compatible r.pattern c.pattern := by
  intro before l l' hl hl'
  obtain ⟨_, _, first, _, hfirst⟩ := firstLabel_eq_some hr hl
  rw [← holds.names r hr before l first hl hfirst, holds.names c hc before l' first hl' hfirst]

/-- Where all routes agree, the language of a route is that of its edges in the trie. -/
theorem Router.Holds.bindings?_eq (holds : router.Holds routes)
    (hagree : ∀ r ∈ routes, ∀ c ∈ routes, Agree r.pattern c.pattern) {r : Route E} (hr : r ∈ routes)
    (parts : List String) :
    bindings? r.pattern parts = bindingsAlong (firstLabel routes) (edgesOf r.pattern) parts := by
  rw [bindings?_eq_bindingsAlong _ _ (named_of_parsePattern (holds.parsed r hr))]
  refine bindingsAlong_congr ?_ parts
  intro before e hstart
  have hlabelled : (∀ text, e ≠ .fixed text) → labelAt r.pattern before e = firstLabel routes before e := by
    intro he
    obtain ⟨l, hl⟩ := Option.isSome_iff_exists.mp (isSome_labelAt hstart he)
    obtain ⟨c, hc, l', hl', hfirst⟩ := firstLabel_eq_some hr hl
    rw [hl, hfirst, hagree r hr c hc before e l l' hl hl']
  -- fixed text has no label to agree on
  cases e with
  | fixed text => rw [labelAt_fixed, firstLabel_fixed]
  | param => exact hlabelled (by simp)
  | rest => exact hlabelled (by simp)

/-- Where all routes agree, the router respects their patterns. -/
theorem Router.Holds.respects (holds : router.Holds routes)
    (hagree : ∀ r ∈ routes, ∀ c ∈ routes, Agree r.pattern c.pattern) (method path : String) :
    router.Respects routes method path where
  own := by
    intro m h
    obtain ⟨es, bs, hfirst, hserving, hparams⟩ := match?_eq_ok h
    obtain ⟨hmem, rfl, -, -⟩ := holds.of_serving hserving
    obtain ⟨hbindings, -⟩ := holds.accepts_some_iff.mp hfirst.accepts
    exact ⟨hmem, bs, (holds.bindings?_eq hagree hmem _).trans hbindings, hparams⟩
  found := by
    intro r hr hmethods hmatches hnotFound
    obtain ⟨bs, hbs⟩ := Option.isSome_iff_exists.mp hmatches
    rw [holds.bindings?_eq hagree hr] at hbs
    exact match?_eq_notFound_iff.mp hnotFound _ bs (holds.accepts_none_of_mem hr hmethods hbs)

/-- A route that alone serves a method is found, with the bindings of its edges in the trie. -/
theorem Router.Holds.match?_sole (holds : router.Holds routes) {r : Route E} (hr : r ∈ routes)
    {method path : String} (hserves : r.Serves method) (hsole : ∀ c ∈ routes, c.Serves method → c = r)
    {bs : List (String × String)}
    (hbs : bindingsAlong (firstLabel routes) (edgesOf r.pattern) (pathSegments path) = some bs) :
    router.match? method path = .ok ⟨r, Assoc.ofList bs⟩ := by
  obtain ⟨⟨found, params⟩, h⟩ := exists_match?_eq_ok_iff.mpr
    ⟨_, bs, holds.accepts_some_iff.mpr ⟨hbs, r, hr, rfl, hserves⟩⟩
  obtain ⟨es, bs', hfirst, hserving, hparams⟩ := match?_eq_ok h
  obtain ⟨hmem, hedges, hserves', -⟩ := holds.of_serving hserving
  obtain rfl : found = r := hsole _ hmem hserves'
  obtain ⟨hbs', -⟩ := holds.accepts_some_iff.mp hfirst.accepts
  rw [← hedges, hbs, Option.some.injEq] at hbs'
  obtain rfl : params = Assoc.ofList bs' := hparams
  rw [h, hbs']

end

/-! ## Pairs of patterns -/

/-- A new router with one route for GET and one for POST. -/
def pairOf [Inhabited E] (first second : String) : List (Registration E) :=
  [⟨first, ["GET"], default⟩, ⟨second, ["POST"], default⟩]

/-- What a registration may not do: take another name for a parameter, or a method that is taken at the
end of its edges. -/
theorem Router.Holds.add_accepted {router : Router E} {routes : List (Route E)}
    (holds : router.Holds routes) {r : Registration E} (hopen : router.compiled = false)
    {segments : List Segment} (hparsed : parsePattern r.path = .ok segments)
    (hcompatible : ∀ c ∈ routes, Compatible segments c.pattern) (hnodup : r.methods.Nodup)
    (hfree : ∀ c ∈ routes, edgesOf c.pattern = edgesOf segments → ∀ m ∈ r.methods, m ∉ c.methods) :
    ∃ next, router.add r.path r.methods r.endpoint = (next, none) ∧ next.compiled = false := by
  have hclash : Trie.clash? segments router.trie = none := by
    apply (Trie.clash?_eq_none_iff segments router.trie).mpr
    intro before l l' hl hl'
    rw [holds.labels] at hl'
    obtain ⟨c, hc, hc'⟩ := List.exists_of_findSome?_eq_some hl'
    exact (hcompatible c hc before l l' hl hc').symm
  have hregister : (Trie.register ⟨r.path, r.methods, r.endpoint, router.count⟩ r.methods
      (Trie.table (Trie.follow (edgesOf segments) router.trie))).2 = none := by
    apply (Trie.register_refusal_eq_none_iff _ _ _).mpr
    refine ⟨hnodup, ?_⟩
    intro m hm
    cases htaken : Assoc.get? m (Trie.table (Trie.follow (edgesOf segments) router.trie)) with
    | none => rfl
    | some c =>
      obtain ⟨hc, hedges, hmc⟩ := (holds.table _ m c).mp htaken
      exact absurd hmc (hfree c hc hedges m hm)
  rw [Router.add, hparsed]
  simp only [hopen, Bool.false_eq_true, if_false]
  refine ⟨_, Prod.ext rfl ?_, rfl⟩
  show (Trie.insert _ segments router.trie).2 = none
  rw [Trie.insert_refusal, hclash]
  exact hregister

/-- Two compatible patterns can be registered together. -/
theorem exists_addAll_pairOf [Inhabited E] {first second : String} {p q : List Segment}
    (hp : parsePattern first = .ok p) (hq : parsePattern second = .ok q) (hcompatible : Compatible p q) :
    ∃ router : Router E, Router.addAll {} (pairOf first second) = .ok router := by
  obtain ⟨one, hone, hopen⟩ := holds_empty.add_accepted (E := E) (r := ⟨first, ["GET"], default⟩) rfl hp
    (by simp) (by simp) (by simp)
  -- the second one is accepted as well: names agree, and POST is free
  obtain ⟨hholds, -⟩ := holds_add holds_empty hone
  obtain ⟨two, htwo, -⟩ := hholds.add_accepted (r := ⟨second, ["POST"], default⟩) hopen hq
    (by
      intro c hc
      obtain rfl := List.mem_singleton.mp hc
      intro before l l' hl hl'
      have hpattern : (Registration.route (E := E) ⟨first, ["GET"], default⟩ 0).pattern = p := by
        simp [Route.pattern, Registration.route, hp, Except.toOption]
      rw [hpattern] at hl'
      exact (hcompatible before l' l hl' hl).symm)
    (by simp) (by simp [Registration.route])
  refine ⟨two, ?_⟩
  simp only [pairOf, Router.addAll]
  rw [hone]
  simp only
  rw [htwo]

/-! ## Probes -/

/-- A path along a row of edges that keeps to its labels: digits for a parameter, or a letter wherever the
label takes one, and another digit for the rest. -/
def probe : Labels → List Edge → List String
  | _, [] => []
  | label, .fixed text :: es => text :: probe (fun before => label (.fixed text :: before)) es
  | label, .param :: es =>
    (if (label [] .param).any (·.2 = .text) then "a" else "0") ::
      probe (fun before => label (.param :: before)) es
  | _, .rest :: _ => ["1"]

/-- Nothing follows an edge for the rest. -/
def RestIsLast (es : List Edge) : Prop := ∀ before, (before ++ [Edge.rest]) <+: es → es = before ++ [.rest]

theorem RestIsLast.tail {e : Edge} {es : List Edge} (h : RestIsLast (e :: es)) : RestIsLast es := by
  intro before hstart
  have heq := h (e :: before) (by simpa using hstart)
  simpa using heq

theorem restIsLast_edgesOf (segments : List Segment) : RestIsLast (edgesOf segments) := by
  intro before hstart
  obtain ⟨l, hl⟩ := Option.isSome_iff_exists.mp (isSome_labelAt hstart (by simp))
  exact (edgesOf_of_labelAt_rest hl).1

/-- A probe is accepted. -/
theorem isSome_bindingsAlong_probe {label : Labels} {es : List Edge} (hrest : RestIsLast es)
    (hlabels : ∀ before e, (before ++ [e]) <+: es → (∀ text, e ≠ .fixed text) →
      (label before e).isSome = true) :
    (bindingsAlong label es (probe label es)).isSome = true := by
  induction es generalizing label with
  | nil => rfl
  | cons e es ih =>
    have hbehind : ∀ before e', (before ++ [e']) <+: es → (∀ text, e' ≠ .fixed text) →
        (label (e :: before) e').isSome = true := fun before e' hstart he =>
      hlabels (e :: before) e' (by simpa using hstart) he
    have htail := ih hrest.tail hbehind
    cases e with
    | fixed text => simpa [probe, bindingsAlong] using htail
    | param =>
      obtain ⟨⟨name, converter⟩, hl⟩ := Option.isSome_iff_exists.mp (hlabels [] .param (by simp) (by simp))
      -- a letter is put only where the label takes any segment
      have hacc : converter.accepts (if converter = .text then "a" else "0") = true := by
        cases converter <;> decide +kernel
      simpa [probe, bindingsAlong, hl, hacc] using htail
    | rest =>
      obtain rfl : es = [] := by simpa using hrest [] (by simp)
      obtain ⟨l, hl⟩ := Option.isSome_iff_exists.mp (hlabels [] .rest (by simp) (by simp))
      simp [probe, bindingsAlong, hl]

/-- A probe is outside the language of a pattern that wants digits where the labels take a letter. -/
theorem bindingsAlong_probe_eq_none {label own : Labels} {before es : List Edge} {name name' : String}
    (hstart : (before ++ [.param]) <+: es) (hlabel : label before .param = some (name, .text))
    (hown : own before .param = some (name', .digits)) :
    bindingsAlong own es (probe label es) = none := by
  induction before generalizing label own es with
  | nil =>
    obtain ⟨es, rfl⟩ := hstart
    have hletter : Converter.digits.accepts "a" = false := by decide +kernel
    simp [probe, bindingsAlong, hlabel, hown, hletter]
  | cons e before ih =>
    obtain ⟨rest, rfl⟩ := hstart
    have hbehind : (before ++ [Edge.param]) <+: before ++ [.param] ++ rest := List.prefix_append ..
    have htail := @ih (fun before => label (e :: before)) (fun before => own (e :: before)) _ hbehind
      hlabel hown
    cases e with
    | fixed text => simpa [probe, bindingsAlong] using htail
    | param =>
      simp only [List.cons_append, probe, bindingsAlong]
      cases own [] .param with
      | none => rfl
      | some l => simpa using fun _ => by simpa using htail
    | rest => cases before <;> simp [bindingsAlong]

/-- The bindings of a probe up to an edge for the rest: only the name of this edge can tell two labellings
apart, and what it stands for is nothing that a parameter stands for. -/
theorem bindingsAlong_probe_rest {label own : Labels} {before : List Edge}
    {bs bs' : List (String × String)}
    (hnames : ∀ b, (b ++ [.param]) <+: before →
      (own b .param).map Prod.fst = (label b .param).map Prod.fst)
    (hbs : bindingsAlong label (before ++ [.rest]) (probe label (before ++ [.rest])) = some bs)
    (hbs' : bindingsAlong own (before ++ [.rest]) (probe label (before ++ [.rest])) = some bs') :
    ∃ init l l', bs = init ++ [(l.1, "1")] ∧ bs' = init ++ [(l'.1, "1")] ∧
      label before .rest = some l ∧ own before .rest = some l' ∧ ∀ b ∈ init, b.2 ≠ "1" := by
  induction before generalizing label own bs bs' with
  | nil =>
    obtain ⟨l, hl, rfl⟩ := Option.map_eq_some_iff.mp hbs
    obtain ⟨l', hl', rfl⟩ := Option.map_eq_some_iff.mp hbs'
    exact ⟨[], l, l', rfl, rfl, hl, hl', by simp⟩
  | cons e before ih =>
    have hbehind := @ih (fun before => label (e :: before)) (fun before => own (e :: before))
    have hnames' : ∀ b, (b ++ [Edge.param]) <+: before →
        (own (e :: b) .param).map Prod.fst = (label (e :: b) .param).map Prod.fst := fun b hstart =>
      hnames (e :: b) (by simpa using hstart)
    rw [List.cons_append] at hbs hbs'
    cases e with
    | fixed text =>
      simp only [probe, bindingsAlong, if_true] at hbs hbs'
      exact hbehind hnames' hbs hbs'
    | param =>
      have hname := hnames [] (by simp)
      simp only [probe, bindingsAlong] at hbs hbs'
      -- no parameter of a probe stands for `1`, which is kept for the rest
      generalize hpart : (if (label [] .param).any (·.2 = .text) then "a" else "0") = part at hbs hbs'
      have hne : part ≠ "1" := by
        rw [← hpart]
        split <;> decide
      cases hl : label [] .param with
      | none => simp [hl] at hbs
      | some l =>
        cases hl' : own [] .param with
        | none => simp [hl'] at hbs'
        | some l' =>
          obtain ⟨name, converter⟩ := l
          obtain ⟨name', converter'⟩ := l'
          obtain rfl : name' = name := by simpa [hl, hl'] using hname
          simp only [hl, hl', Option.ite_none_right_eq_some, Option.map_eq_some_iff] at hbs hbs'
          obtain ⟨-, tail, htail, rfl⟩ := hbs
          obtain ⟨-, tail', htail', rfl⟩ := hbs'
          obtain ⟨init, m, m', rfl, rfl, hm, hm', hinit⟩ := hbehind hnames' htail htail'
          refine ⟨_ :: init, m, m', rfl, rfl, hm, hm', ?_⟩
          intro b hb
          rcases List.mem_cons.mp hb with rfl | hmem
          · exact hne
          · exact hinit b hmem
    | rest => cases before <;> simp [bindingsAlong] at hbs

/-- A probe is made of letters, digits and the fixed texts on its way. -/
theorem mem_probe {label : Labels} {es : List Edge} {part : String} (h : part ∈ probe label es) :
    part ∈ ["a", "0", "1"] ∨ Edge.fixed part ∈ es := by
  induction es generalizing label with
  | nil => simp [probe] at h
  | cons e es ih =>
    cases e with
    | fixed text =>
      rcases List.mem_cons.mp h with rfl | hmem
      · exact .inr (List.mem_cons_self ..)
      · exact (ih hmem).imp_right (List.mem_cons_of_mem _)
    | param =>
      rcases List.mem_cons.mp h with rfl | hmem
      · left
        split <;> simp
      · exact (ih hmem).imp_right (List.mem_cons_of_mem _)
    | rest => exact .inl (by simp_all [probe])

/-! ## Patterns that do not agree -/

/-- The route for POST of a pair. -/
def postRoute [Inhabited E] (second : String) : Route E := ⟨second, ["POST"], default, 1⟩

/-- In a pair of compatible patterns, the second route is found along its edges, whatever it says about
them itself. -/
theorem match?_pairOf [Inhabited E] {first second : String} {p q : List Segment}
    (hp : parsePattern first = .ok p) (hq : parsePattern second = .ok q) (hcompatible : Compatible p q) :
    ∃ (router : Router E) (label : Labels) (path : String) (bs : List (String × String)),
      Router.addAll {} (pairOf first second) = .ok router ∧
      (∀ before e, label before e = (labelAt p before e).or (labelAt q before e)) ∧
      pathSegments path = probe label (edgesOf q) ∧
      bindingsAlong label (edgesOf q) (probe label (edgesOf q)) = some bs ∧
      router.match? "POST" path = .ok ⟨postRoute second, Assoc.ofList bs⟩ := by
  obtain ⟨router, hrouter⟩ := exists_addAll_pairOf (E := E) hp hq hcompatible
  have holds := holds_addAll hrouter
  have hpattern : (postRoute second : Route E).pattern = q := by
    simp [Route.pattern, postRoute, hq, Except.toOption]
  have hmem : (postRoute second : Route E) ∈ registered (pairOf (E := E) first second) := by
    simp [registered, pairOf, routesFrom, postRoute, Registration.route]
  -- shared edges are labelled by the first pattern
  have hlabel : ∀ before e, firstLabel (registered (pairOf (E := E) first second)) before e =
      (labelAt p before e).or (labelAt q before e) := by
    intro before e
    simp only [firstLabel, registered, pairOf, routesFrom, Registration.route, Route.pattern, hp, hq,
      Except.toOption, List.findSome?_cons, List.findSome?_nil, Option.getD_some]
    cases labelAt p before e <;> cases labelAt q before e <;> rfl
  generalize hroutes : registered (pairOf (E := E) first second) = routes at *
  have hsome :
      (bindingsAlong (firstLabel routes) (edgesOf q) (probe (firstLabel routes) (edgesOf q))).isSome
      = true := by
    apply isSome_bindingsAlong_probe (restIsLast_edgesOf q)
    intro before e hstart he
    rw [hlabel, Option.isSome_or, isSome_labelAt hstart he, Bool.or_true]
  obtain ⟨bs, hbs⟩ := Option.isSome_iff_exists.mp hsome
  -- a probe must consist of segments to be the row of some path
  have hsegments : ∀ part ∈ probe (firstLabel routes) (edgesOf q), IsSegment part.toList := by
    intro part hpart
    rcases mem_probe hpart with hshort | hfixed
    · have hall : ∀ part ∈ ["a", "0", "1"], part.toList ≠ [] ∧ '/' ∉ part.toList := by decide +kernel
      exact hall part hshort
    · exact isSegment_of_mem_pathSegments (mem_of_parseSegments_fixed hq hfixed)
  obtain ⟨path, hpath⟩ := exists_pathSegments_eq hsegments
  refine ⟨router, firstLabel routes, path, bs, hrouter, hlabel, hpath, hbs, ?_⟩
  refine holds.match?_sole hmem (.inl (List.mem_singleton_self _)) ?_ (by rw [hpattern, hpath, hbs])
  -- the first route is there for GET alone
  intro c hc hserves
  rw [← hroutes] at hc
  rcases List.mem_cons.mp hc with rfl | hsecond
  · simp [Route.Serves, Registration.route] at hserves
  · exact List.mem_singleton.mp hsecond

/-- Where two rows of bindings differ in the name of the last one alone, and it stands for something that
no other stands for, they are different parameters. -/
theorem ofList_concat_ne {init : List (String × String)} {name name' value : String}
    (hinit : ∀ b ∈ init, b.2 ≠ value) (hne : name ≠ name') :
    Assoc.ofList (init ++ [(name, value)]) ≠ Assoc.ofList (init ++ [(name', value)]) := by
  intro heq
  -- if they were the same, some other binding would stand for the value as well
  have hget : Assoc.get? name (Assoc.ofList (init ++ [(name', value)])) = some value := by
    rw [← heq, Assoc.ofList_concat, Assoc.get?_set_self]
  rw [Assoc.ofList_concat, Assoc.get?_set_other hne] at hget
  rcases Assoc.get?_update hget with hnil | hmem
  · simp [Assoc.get?] at hnil
  · exact hinit _ hmem rfl

/-- A collection of patterns is respected by all routers that are filled with them. -/
def Respected (E : Type) (written : String → Prop) : Prop :=
  ∀ (rs : List (Registration E)) (router : Router E), (∀ r ∈ rs, written r.path) →
    Router.addAll {} rs = .ok router → ∀ method path, router.Respects (registered rs) method path

section

variable {written : String → Prop} {first second : String} {p q : List Segment}

/-- When a respected collection has a compatible pair, a probe of the second pattern is in its language,
and its parameters are those along its edges in the router of the pair. -/
theorem Respected.probe_pairOf [Inhabited E] (h : Respected E written) (hfirst : written first)
    (hsecond : written second) (hp : parsePattern first = .ok p) (hq : parsePattern second = .ok q)
    (hcompatible : Compatible p q) :
    ∃ (label : Labels) (bs bs' : List (String × String)),
      (∀ before e, label before e = (labelAt p before e).or (labelAt q before e)) ∧
      bindingsAlong label (edgesOf q) (probe label (edgesOf q)) = some bs ∧
      bindingsAlong (labelAt q) (edgesOf q) (probe label (edgesOf q)) = some bs' ∧
      Assoc.ofList bs = Assoc.ofList bs' := by
  obtain ⟨router, label, path, bs, hrouter, hlabel, hpath, hbs, hmatch⟩ :=
    match?_pairOf (E := E) hp hq hcompatible
  have hrespects := h (pairOf first second) router (by simp [pairOf, hfirst, hsecond]) hrouter "POST" path
  obtain ⟨-, bs', hown, hparams⟩ := hrespects.own _ hmatch
  have hpattern : (postRoute second : Route E).pattern = q := by
    simp [Route.pattern, postRoute, hq, Except.toOption]
  rw [hpattern, hpath, bindings?_eq_bindingsAlong _ _ (named_of_parsePattern hq)] at hown
  exact ⟨label, bs, bs', hlabel, hbs, hown, hparams⟩

/-- No respected collection lets one pattern take any segment where another one takes digits. -/
theorem Respected.not_text_digits [Inhabited E] (h : Respected E written) (hfirst : written first)
    (hsecond : written second) (hp : parsePattern first = .ok p) (hq : parsePattern second = .ok q)
    (hcompatible : Compatible p q) {before : List Edge} {name name' : String}
    (hl : labelAt p before .param = some (name, .text)) :
    labelAt q before .param ≠ some (name', .digits) := by
  intro hl'
  -- the first pattern labels the edge, so the probe has a letter where the second one wants digits
  obtain ⟨label, bs, bs', hlabel, -, hown, -⟩ := h.probe_pairOf hfirst hsecond hp hq hcompatible
  have hshared : label before .param = some (name, .text) := by rw [hlabel, hl, Option.some_or]
  rw [bindingsAlong_probe_eq_none (isPrefix_of_labelAt hl') hshared hl'] at hown
  exact absurd hown (by simp)

/-- A respected collection gives an edge for the rest one name. -/
theorem Respected.rest_eq [Inhabited E] (h : Respected E written) (hfirst : written first)
    (hsecond : written second) (hp : parsePattern first = .ok p) (hq : parsePattern second = .ok q)
    (hcompatible : Compatible p q) {before : List Edge} {l l' : String × Converter}
    (hl : labelAt p before .rest = some l) (hl' : labelAt q before .rest = some l') : l = l' := by
  obtain ⟨label, bs, bs', hlabel, hbs, hown, hparams⟩ := h.probe_pairOf hfirst hsecond hp hq hcompatible
  obtain ⟨hedges, hconverter'⟩ := edgesOf_of_labelAt_rest hl'
  rw [hedges] at hbs hown
  -- before its end both labellings of the second pattern use the same names
  have hnames : ∀ b, (b ++ [.param]) <+: before →
      (labelAt q b .param).map Prod.fst = (label b .param).map Prod.fst := by
    intro b hstart
    rw [hlabel]
    cases hlp : labelAt p b .param with
    | none => rw [Option.none_or]
    | some lp =>
      have hlong : (b ++ [.param]) <+: edgesOf q := by
        rw [hedges]
        exact hstart.trans (List.prefix_append ..)
      obtain ⟨lq, hlq⟩ := Option.isSome_iff_exists.mp (isSome_labelAt hlong (by simp))
      rw [hlq, Option.some_or, Option.map_some, Option.map_some, hcompatible b lp lq hlp hlq]
  obtain ⟨init, m, m', rfl, rfl, hm, hm', hinit⟩ := bindingsAlong_probe_rest hnames hbs hown
  obtain rfl : l = m := by simpa [hlabel, hl] using hm
  obtain rfl : l' = m' := by simpa [hl'] using hm'
  by_cases hne : l.1 = l'.1
  · exact Prod.ext hne ((edgesOf_of_labelAt_rest hl).2.trans hconverter'.symm)
  · exact absurd hparams (ofList_concat_ne hinit hne)

/-- Compatible patterns of a respected collection agree. -/
theorem Respected.agree [Inhabited E] (h : Respected E written) (hfirst : written first)
    (hsecond : written second) (hp : parsePattern first = .ok p) (hq : parsePattern second = .ok q)
    (hcompatible : Compatible p q) : Agree p q := by
  have hcompatible' : Compatible q p := fun before l l' hl hl' => (hcompatible before l' l hl' hl).symm
  intro before e l l' hl hl'
  cases e with
  | fixed text => simp at hl
  | rest => exact h.rest_eq hfirst hsecond hp hq hcompatible hl hl'
  | param =>
    -- of two converters for one segment that differ, one takes any segment and the other digits
    have hname := hcompatible before l l' hl hl'
    obtain ⟨hrest, -⟩ := converter_of_labelAt_param hl
    obtain ⟨hrest', -⟩ := converter_of_labelAt_param hl'
    obtain ⟨name, converter⟩ := l
    obtain ⟨name', converter'⟩ := l'
    cases converter with
    | rest => exact absurd rfl hrest
    | text =>
      cases converter' with
      | rest => exact absurd rfl hrest'
      | text => exact Prod.ext hname rfl
      | digits => exact absurd hl' (h.not_text_digits hfirst hsecond hp hq hcompatible hl)
    | digits =>
      cases converter' with
      | rest => exact absurd rfl hrest'
      | text => exact absurd hl (h.not_text_digits hsecond hfirst hq hp hcompatible' hl')
      | digits => exact Prod.ext hname rfl

end

/-- **A match respects the pattern of its route exactly when patterns agree.** Whatever routes a router
accepts, in any order and with any methods, every answer respects their patterns exactly when any two of
these that can be registered in one router label the edges that they share alike. -/
theorem respected_iff_agree [Inhabited E] (written : String → Prop) :
    Respected E written ↔ ∀ first second p q, written first → written second →
      parsePattern first = .ok p → parsePattern second = .ok q → Compatible p q → Agree p q := by
  constructor
  · intro h first second p q hfirst hsecond hp hq hcompatible
    exact h.agree hfirst hsecond hp hq hcompatible
  · intro hagree rs router hrs hrouter method path
    have holds := holds_addAll hrouter
    have hof : ∀ route ∈ registered rs, written route.path := by
      intro route hroute
      obtain ⟨r, hr, hpath, -⟩ := exists_of_mem_registered hroute
      rw [hpath]
      exact hrs r hr
    refine holds.respects ?_ method path
    intro r hr c hc
    exact hagree r.path c.path _ _ (hof r hr) (hof c hc) (holds.parsed r hr) (holds.parsed c hc)
      (holds.compatible hr hc)

/-- Two patterns that do not agree: the second wants digits where the first takes any segment. -/
def itemsThenDigits : List (Registration Unit) :=
  [⟨"/items/{id}", ["GET"], ()⟩, ⟨"/items/{id:int}", ["POST"], ()⟩]

/-- The route for digits is found for letters. -/
theorem match?_outside_own_pattern :
    ∃ router m, Router.addAll {} itemsThenDigits = .ok router ∧
      router.match? "POST" "/items/abc" = .ok m ∧ m.route.path = "/items/{id:int}" ∧
      m.params = [("id", "abc")] ∧ ¬ m.route.Matches (pathSegments "/items/abc") := by
  have hrun : ((Router.addAll {} itemsThenDigits).toOption.bind fun router =>
      (router.match? "POST" "/items/abc").toOption.map fun m => (m.route.path, m.params,
        bindings? m.route.pattern (pathSegments "/items/abc"))) =
      some ("/items/{id:int}", [("id", "abc")], none) := by decide +kernel
  cases hrouter : Router.addAll {} itemsThenDigits with
  | error refusal => simp [hrouter, Except.toOption] at hrun
  | ok router =>
    cases hm : router.match? "POST" "/items/abc" with
    | error miss => simp [hrouter, hm, Except.toOption] at hrun
    | ok m =>
      obtain ⟨hpath, hparams, hown⟩ : m.route.path = "/items/{id:int}" ∧ m.params = [("id", "abc")] ∧
          bindings? m.route.pattern (pathSegments "/items/abc") = none := by
        simpa [hrouter, hm, Except.toOption] using hrun
      exact ⟨router, m, rfl, hm, hpath, hparams, by simp [Route.Matches, hown]⟩

end ServerTree
