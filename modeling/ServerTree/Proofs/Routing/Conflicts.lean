import ServerTree.Proofs.Routing.OwnPattern

/-!
# Which routes stand together

A registration is judged by what earlier ones left in the trie. What a router comes to this way is a
judgement of pairs: a row of routes is accepted when every path can be read and no two routes clash, so
the order of the row does not matter.

## Main definitions
- `Registration.Clashes`: two routes that no router takes together
- `Router.refusals`: what is refused when routes are registered one after the other

## Main statements
- `refusal_is_configuration`: what an open router refuses is an error of the configuration
- `add_eq_none_iff`, `refusals_eq_nil_iff`: what is accepted by one registration, and by all of them
- `conflicts_are_of_pairs`: whether a row of routes is accepted does not depend on its order
-/

namespace ServerTree

variable {E : Type}

/-! ## Clashes -/

/-- The pattern of a registration. One that cannot be read has no segments. -/
def Registration.pattern (r : Registration E) : List Segment := (parsePattern r.path).toOption.getD []

/-- Two routes that no router takes together: they come over the same edges to a parameter that they name
differently, or they serve the same method at the end of the same edges. -/
inductive Registration.Clashes (r c : Registration E) : Prop
  | names {before : List Edge} {l l' : String × Converter} (hr : labelAt r.pattern before .param = some l)
    (hc : labelAt c.pattern before .param = some l') (hne : l.1 ≠ l'.1)
  | taken {m : String} (hr : m ∈ r.methods) (hc : m ∈ c.methods) (hedges : edgesOf r.pattern = edgesOf c.pattern)

theorem Registration.Clashes.symm {r c : Registration E} (h : r.Clashes c) : c.Clashes r := by
  cases h with
  | names hr hc hne => exact .names hc hr hne.symm
  | taken hr hc hedges => exact .taken hc hr hedges.symm

/-! ## Refusals of one registration -/

theorem Trie.errorClass_of_register {route : Route E} {ms : List String} {table : MethodTable E}
    {refusal : Refusal} (h : (register route ms table).2 = some refusal) :
    refusal.errorClass = .configuration := by
  induction ms generalizing table with
  | nil => cases h
  | cons m ms ih =>
    cases hm : Assoc.get? m table with
    | some taken =>
      simp only [register, hm, Option.some.injEq] at h
      exact h ▸ rfl
    | none =>
      simp only [register, hm] at h
      exact ih h

/-- What an open router refuses is an error of the configuration. -/
theorem refusal_is_configuration {router : Router E} (hopen : router.compiled = false)
    (r : Registration E) {refusal : Refusal}
    (h : (router.add r.path r.methods r.endpoint).2 = some refusal) :
    refusal.errorClass = .configuration := by
  rw [Router.add, if_neg (by rw [hopen]; exact Bool.false_ne_true)] at h
  cases hparsed : parsePattern r.path with
  | error unread =>
    rw [hparsed] at h
    obtain rfl := Option.some.inj h
    rcases parseSegments_eq_error hparsed with ⟨_, rfl⟩ | ⟨_, rfl⟩ | rfl <;> rfl
  | ok segments =>
    simp only [hparsed, Trie.insert_refusal] at h
    split at h
    · exact Option.some.inj h ▸ rfl
    · exact Trie.errorClass_of_register h

/-! ## What is accepted -/

/-- The path of a registration can be read. -/
def Registration.Parses (r : Registration E) : Prop := parsePattern r.path = .ok r.pattern

/-- The routes of a router that accepted registrations are theirs, but for their numbers. -/
theorem forall_mem_registered {P : List Segment → List String → Prop} {rs : List (Registration E)} :
    (∀ route ∈ registered rs, P route.pattern route.methods) ↔ ∀ r ∈ rs, P r.pattern r.methods := by
  suffices ∀ n, (∀ route ∈ routesFrom n rs, P route.pattern route.methods) ↔ ∀ r ∈ rs, P r.pattern r.methods from
    this 0
  induction rs with
  | nil => simp [routesFrom]
  | cons r rs ih =>
    intro n
    rw [routesFrom, List.forall_mem_cons, List.forall_mem_cons, ih]
    rfl

/-- A registration has other names for no parameter of a pattern, and none of the methods at the end of the
same edges. -/
def Registration.StandsBeside (r : Registration E) (pattern : List Segment) (methods : List String) : Prop :=
  Compatible r.pattern pattern ∧ (edgesOf pattern = edgesOf r.pattern → ∀ m ∈ r.methods, m ∉ methods)

theorem Registration.not_clashes_iff {r c : Registration E} :
    ¬ r.Clashes c ↔ r.StandsBeside c.pattern c.methods := by
  constructor
  · intro h
    refine ⟨fun before l l' hl hl' => ?_, fun hedges m hr hc => h (.taken hr hc hedges.symm)⟩
    by_contra hne
    exact h (.names hl hl' hne)
  · rintro ⟨hcompatible, hmethods⟩ hclashes
    cases hclashes with
    | names hr hc hne => exact hne (hcompatible _ _ _ hr hc)
    | taken hr hc hedges => exact hmethods hedges.symm _ hr hc

/-- **Step lemma**: an open router accepts a registration exactly when its path can be read and it clashes
with none of those that were accepted before. -/
theorem add_eq_none_iff {router : Router E} {before : List (Registration E)}
    (holds : router.Holds (registered before)) (hopen : router.compiled = false) {r : Registration E}
    (hnodup : r.methods.Nodup) :
    (router.add r.path r.methods r.endpoint).2 = none ↔ r.Parses ∧ ∀ c ∈ before, ¬ r.Clashes c := by
  simp only [Registration.not_clashes_iff]
  rw [← forall_mem_registered (P := r.StandsBeside)]
  constructor
  · intro h
    obtain ⟨-, hparsed, hclash, hregister, -⟩ := add_eq_none (Prod.ext rfl h)
    refine ⟨hparsed, fun route hroute => ⟨?_, ?_⟩⟩
    · intro edges l l' hl hl'
      -- the edge has the label of the first route that follows it, which names it as this one does
      obtain ⟨_, _, first, -, hfirst⟩ := firstLabel_eq_some hroute hl'
      rw [← holds.names route hroute edges l' first hl' hfirst]
      exact ((Trie.clash?_eq_none_iff _ _).mp hclash edges l first hl (by rw [holds.labels, hfirst])).symm
    · intro hedges m hm htaken
      have hfree := ((Trie.register_refusal_eq_none_iff _ _ _).mp hregister).2 m hm
      have hget := (holds.table (edgesOf r.pattern) m route).mpr ⟨hroute, hedges, htaken⟩
      exact Option.some_ne_none route (hget.symm.trans hfree)
  · rintro ⟨hparsed, hbeside⟩
    obtain ⟨next, hnext, -⟩ := holds.add_accepted hopen hparsed
      (fun route hroute => (hbeside route hroute).1) hnodup fun route hroute => (hbeside route hroute).2
    rw [hnext]

/-- The refusals of registrations that are tried one after the other. -/
def Router.refusals (router : Router E) : List (Registration E) → List Refusal
  | [] => []
  | r :: rs =>
    let tried := router.add r.path r.methods r.endpoint
    tried.2.toList ++ tried.1.refusals rs

theorem compiled_add (router : Router E) (r : Registration E) :
    (router.add r.path r.methods r.endpoint).1.compiled = router.compiled := by
  rw [Router.add]
  split
  · rfl
  · split <;> rfl

theorem registered_concat (rs : List (Registration E)) (r : Registration E) :
    registered (rs ++ [r]) = registered rs ++ [r.route rs.length] := by
  suffices ∀ n, routesFrom n (rs ++ [r]) = routesFrom n rs ++ [r.route (n + rs.length)] by
    simpa [registered] using this 0
  induction rs with
  | nil => simp [routesFrom]
  | cons first rs ih =>
    intro n
    rw [List.cons_append, routesFrom, routesFrom, ih, List.cons_append, List.length_cons,
      Nat.add_assoc, Nat.add_comm 1]

/-- **Run lemma**: an open router accepts a row of registrations exactly when their paths can be read and
none clashes with one before it. -/
theorem refusals_eq_nil_iff {router : Router E} {before : List (Registration E)}
    (holds : router.Holds (registered before)) (hcount : router.count = before.length)
    (hopen : router.compiled = false) {rs : List (Registration E)} (hnodup : ∀ r ∈ rs, r.methods.Nodup) :
    router.refusals rs = [] ↔
      (∀ r ∈ rs, r.Parses) ∧ (∀ r ∈ rs, ∀ c ∈ before, ¬ r.Clashes c) ∧
        rs.Pairwise fun r c => ¬ r.Clashes c := by
  induction rs generalizing router before with
  | nil => simp [Router.refusals]
  | cons r rs ih =>
    rw [List.forall_mem_cons] at hnodup
    have hstep := add_eq_none_iff holds hopen hnodup.1
    have hopen' := compiled_add router r
    rw [hopen] at hopen'
    -- what is asked of the first route, and what is asked of the others once it is held
    have hsplit : ((∀ r' ∈ r :: rs, r'.Parses) ∧ (∀ r' ∈ r :: rs, ∀ c ∈ before, ¬ r'.Clashes c) ∧
          (r :: rs).Pairwise fun r c => ¬ r.Clashes c) ↔
        (r.Parses ∧ ∀ c ∈ before, ¬ r.Clashes c) ∧ (∀ r' ∈ rs, r'.Parses) ∧
          (∀ r' ∈ rs, ∀ c ∈ before ++ [r], ¬ r'.Clashes c) ∧ rs.Pairwise fun r c => ¬ r.Clashes c := by
      simp only [List.forall_mem_append, List.forall_mem_singleton]
      rw [List.forall_mem_cons, List.forall_mem_cons, List.pairwise_cons]
      constructor
      · rintro ⟨⟨hparses, hparse⟩, ⟨hclear, hclears⟩, hfirst, hpairs⟩
        exact ⟨⟨hparses, hclear⟩, hparse,
          fun r' hr' => ⟨hclears r' hr', fun h => hfirst r' hr' h.symm⟩, hpairs⟩
      · rintro ⟨⟨hparses, hclear⟩, hparse, hboth, hpairs⟩
        exact ⟨⟨hparses, hparse⟩, ⟨hclear, fun r' hr' => (hboth r' hr').1⟩,
          fun r' hr' h => (hboth r' hr').2 h.symm, hpairs⟩
    rw [hsplit, Router.refusals, List.append_eq_nil_iff, Option.toList_eq_nil_iff, hstep]
    refine and_congr_right fun haccepted => ?_
    obtain ⟨hholds, hcount'⟩ := holds_add holds (Prod.ext rfl (hstep.mpr haccepted))
    rw [hcount, ← registered_concat] at hholds
    exact ih hholds (by rw [hcount', hcount, List.length_append, List.length_singleton])
      ((compiled_add router r).trans hopen) hnodup.2

/-- **Run lemma**: every refusal of an open router is an error of the configuration. -/
theorem refusals_are_configuration {router : Router E} (hopen : router.compiled = false)
    (rs : List (Registration E)) : ∀ refusal ∈ router.refusals rs, refusal.errorClass = .configuration := by
  induction rs generalizing router with
  | nil => exact fun _ h => nomatch h
  | cons r rs ih =>
    intro refusal h
    rcases List.mem_append.mp h with hfirst | hrest
    · exact refusal_is_configuration hopen r (Option.mem_toList.mp hfirst)
    · exact ih ((compiled_add router r).trans hopen) refusal hrest

/-- **Conflicts do not depend on the order.** A new router that is asked for routes, none of which names a
method twice, refuses none exactly when it refuses none in any other order: when every path can be read
and no two of the routes clash. Whatever it refuses, in any row, is an error of the configuration. -/
theorem conflicts_are_of_pairs {rs rs' : List (Registration E)} (hnodup : ∀ r ∈ rs, r.methods.Nodup)
    (hperm : rs.Perm rs') :
    let refusals := Router.refusals ({} : Router E)
    (refusals rs = [] ↔ refusals rs' = []) ∧
    (refusals rs = [] ↔ (∀ r ∈ rs, r.Parses) ∧ rs.Pairwise fun r c => ¬ r.Clashes c) ∧
    ∀ refusal ∈ refusals rs, refusal.errorClass = .configuration := by
  intro refusals
  have hjudged {rs : List (Registration E)} (hnodup : ∀ r ∈ rs, r.methods.Nodup) :
      refusals rs = [] ↔ (∀ r ∈ rs, r.Parses) ∧ rs.Pairwise fun r c => ¬ r.Clashes c := by
    have hstart : ({} : Router E).Holds (registered []) := holds_empty
    simpa using refusals_eq_nil_iff hstart rfl rfl hnodup
  have hnodup' : ∀ r ∈ rs', r.methods.Nodup := fun r hr => hnodup r (hperm.mem_iff.mpr hr)
  refine ⟨?_, hjudged hnodup, refusals_are_configuration rfl rs⟩
  rw [hjudged hnodup, hjudged hnodup', hperm.pairwise_iff fun h hclashes => h hclashes.symm]
  exact and_congr_left fun _ => forall_congr' fun r => by rw [hperm.mem_iff]

/-- Routes that share a parameter, and differ in its converter and in their methods. -/
def Registration.members : List (Registration Unit) :=
  [⟨"/users/{id}", ["GET"], ()⟩, ⟨"/users/{id:int}", ["POST"], ()⟩, ⟨"/users/{id}/{rest:path}", ["GET"], ()⟩]

/-- They are accepted in both orders. -/
theorem conflicts_are_of_pairs_members :
    (∀ r ∈ Registration.members, r.methods.Nodup) ∧
      Registration.members.Perm Registration.members.reverse ∧
      Router.refusals {} Registration.members.reverse = [] := by
  have hnodup : ∀ r ∈ Registration.members, r.methods.Nodup := by decide
  have hperm := (List.reverse_perm Registration.members).symm
  have haccepted : Router.refusals {} Registration.members = [] := by decide +kernel
  exact ⟨hnodup, hperm, (conflicts_are_of_pairs hnodup hperm).1.mp haccepted⟩

end ServerTree
