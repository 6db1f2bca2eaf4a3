import ServerTree.Proofs.Routing.Entered

/-!
# What a refused registration leaves behind

A route is entered under one of its methods after the other, up to the first that is taken. A registration
that is refused there is not undone: its route stays under the methods before that one, is listed, and
answers requests. Every other refusal leaves the router as it was, and so does one for the first method,
which is the only one that an application asks for.

## Main definitions
- `Refusal.leaves`: the methods under which a refused route stays
- `Router.Alike`: two routers that nothing tells apart

## Main statements
- `router_after_refusal`: the router after a registration that is refused
- `registration_is_not_atomic`: a router that is not what it was
-/

namespace ServerTree

variable {E : Type}

/-! ## Refusals of a trie -/

/-- The methods under which a refused route stays: those before the one that it is refused for. -/
def Refusal.leaves (methods : List String) : Refusal → List String
  | .duplicateRoute m _ _ => methods.takeWhile (· != m)
  | _ => []

theorem leaves_eq {before behind : List String} {m : String} (h : (before ++ m :: behind).Nodup)
    (path taken : String) :
    Refusal.leaves (before ++ m :: behind) (.duplicateRoute m path taken) = before := by
  have hbefore : ∀ k ∈ before, (k != m) = true := by
    intro k hk
    have hne := (List.nodup_append.mp h).2.2 k hk m (List.mem_cons_self ..)
    simpa using hne
  rw [Refusal.leaves, List.takeWhile_append_of_pos hbefore, List.takeWhile_cons_of_neg (by simp),
    List.append_nil]

namespace Trie

/-- A route that is refused by a table is refused for one of its methods, and it is entered under those
before this one. -/
theorem register_refused {route : Route E} {ms : List String} {table : MethodTable E} {refusal : Refusal}
    (h : (register route ms table).2 = some refusal) :
    ∃ before m behind taken, ms = before ++ m :: behind ∧ refusal = .duplicateRoute m route.path taken ∧
      (∀ k, Assoc.get? k (register route ms table).1 =
        if k ∈ before then some route else Assoc.get? k table) ∧
      (before = [] → (register route ms table).1 = table) := by
  induction ms generalizing table with
  | nil => cases h
  | cons m ms ih =>
    rw [register] at h ⊢
    cases htaken : Assoc.get? m table with
    | some taken =>
      rw [htaken] at h
      exact ⟨[], m, ms, taken.label, rfl, (Option.some.inj h).symm, by simp, fun _ => rfl⟩
    | none =>
      rw [htaken] at h
      -- the first method was free, so the route is entered under it whatever comes then
      obtain ⟨before, m', behind, taken, rfl, rfl, hfound, -⟩ := ih h
      refine ⟨m :: before, m', behind, taken, rfl, rfl, fun k => ?_, fun hnil => ?_⟩
      · simp only [hfound, Assoc.get?_set, List.mem_cons]
        by_cases hk : k ∈ before <;> by_cases hm : k = m <;> simp [hk, hm]
      · exact absurd hnil (List.cons_ne_nil m before)

/-- Where nothing is, a registration is refused only when it enters its route. -/
theorem not_refused_empty {route : Route E} {segments : List Segment}
    (hrefused : (insert route segments empty).2 ≠ none)
    (hsame : clash? segments (empty : Trie E) = none →
      (register route route.methods (table (follow (edgesOf segments) empty))).1 =
        table (follow (edgesOf segments) empty)) : False := by
  rw [insert_refusal, clash?_empty] at hrefused
  have htable := hsame (clash?_empty segments)
  rw [follow_empty, table_empty] at hrefused htable
  by_cases hmethods : route.methods = []
  · rw [hmethods] at hrefused
    exact hrefused rfl
  · exact register_ne_nil route hmethods [] htable

/-- A registration that is refused changes nothing when its table stays what it is. -/
theorem insert_eq_self {route : Route E} {segments : List Segment} {t : Trie E}
    (hrefused : (insert route segments t).2 ≠ none)
    (hsame : clash? segments t = none →
      (register route route.methods (table (follow (edgesOf segments) t))).1 =
        table (follow (edgesOf segments) t)) :
    (insert route segments t).1 = t := by
  induction segments using tailOf_induction generalizing t with
  | nil =>
    obtain ⟨routes, children, param, catchAll⟩ := t
    have hown : (register route route.methods routes).1 = routes := hsame rfl
    rw [insert, hown]
  | cons s segments ih =>
    cases hhead : headClash? s t with
    | some names => rw [insert_of_headClash hhead]
    | none =>
      rw [(insert_cons hhead route segments).1] at hrefused
      rw [clash?_cons_of_none hhead, edgesOf_cons, follow] at hsame
      have hbelow := ih hrefused hsame
      -- an edge that is missing would have been made, and then the table is not what it was
      have hthere : child s.edge t ≠ empty := by
        intro hempty
        rw [hempty] at hrefused hsame
        exact not_refused_empty hrefused hsame
      obtain ⟨routes, children, param, catchAll⟩ := t
      cases s with
      | fixed text =>
        cases hchild : Assoc.get? text children with
        | none => simp [Segment.edge, child, hchild] at hthere
        | some next =>
          have hnext : (insert route segments next).1 = next := by
            simpa [Segment.edge, child, hchild, tailOf] using hbelow
          simp only [insert, hchild, Option.getD_some, hnext, Assoc.set_of_get? hchild]
      | param written name converter =>
        cases converter with
        | rest =>
          cases catchAll with
          | none => exact absurd rfl hthere
          | some edge =>
            have hown : (register route route.methods edge.2).1 = edge.2 := by
              simpa [Segment.edge, child, tailOf, insert] using hbelow
            simp only [insert, Option.getD_some, hown]
        | text | digits =>
          cases param with
          | none => exact absurd rfl hthere
          | some edge =>
            obtain ⟨taken, first, next⟩ := edge
            have hnext : (insert route segments next).1 = next := by
              simpa [Segment.edge, child, tailOf] using hbelow
            simp only [insert, hnext]
            split <;> rfl

/-- **What a refused registration leaves in a trie**: its route under some of its methods at the end of its
edges, and nothing else. -/
theorem insert_refused {route : Route E} (hdistinct : route.methods.Nodup) {segments : List Segment}
    {t : Trie E} {refusal : Refusal} (h : (insert route segments t).2 = some refusal) :
    (∀ es m, Assoc.get? m (table (follow es (insert route segments t).1)) =
      if es = edgesOf segments ∧ m ∈ refusal.leaves route.methods then some route
      else Assoc.get? m (table (follow es t))) ∧
    (refusal.leaves route.methods = [] → (insert route segments t).1 = t) ∧
    (route.methods ≠ [] → (refusal.leaves route.methods).length < route.methods.length) := by
  have hrefused : (insert route segments t).2 ≠ none := by simp [h]
  rw [insert_refusal] at h
  cases hclash : clash? segments t with
  | some names =>
    rw [hclash] at h
    obtain rfl := Option.some.inj h
    -- a parameter clashes on the way, before the table is reached
    have hsame : (insert route segments t).1 = t :=
      insert_eq_self hrefused fun hnone => by rw [hclash] at hnone; cases hnone
    exact ⟨fun es m => by simp [hsame, Refusal.leaves], fun _ => hsame, List.length_pos_of_ne_nil⟩
  | none =>
    rw [hclash] at h
    obtain ⟨before, m, behind, taken, hmethods, rfl, hfound, hsame⟩ := register_refused h
    have hleaves : Refusal.leaves route.methods (.duplicateRoute m route.path taken) = before := by
      rw [hmethods] at hdistinct ⊢
      exact leaves_eq hdistinct route.path taken
    rw [hleaves]
    refine ⟨fun es k => ?_, fun hnil => insert_eq_self hrefused fun _ => hsame hnil, fun _ => ?_⟩
    swap
    · simp [hmethods]
    rw [table_follow_insert]
    by_cases hes : es = edgesOf segments
    · rw [if_pos ⟨hes, hclash⟩, hes, hfound]
      simp
    · rw [if_neg fun hown => hes hown.1, if_neg fun hown => hes hown.1]

end Trie

/-! ## Refusals of a router -/

/-- A router has the same routes as another in the same order, and finds the same for every request. -/
structure Router.Alike (router other : Router E) : Prop where
  routes : other.routes = router.routes
  matches_eq : ∀ method path, other.match? method path = router.match? method path
  depth : ∀ method path, other.isTooDeepFor method path = router.isTooDeepFor method path

theorem alike_of_trie_eq {router other : Router E} (h : other.trie = router.trie) : router.Alike other where
  routes := by rw [Router.routes, h, Router.routes]
  matches_eq method path := by simp only [Router.match?, h]
  depth method path := by rw [Router.isTooDeepFor, h, Router.isTooDeepFor]

/-- What a refused registration changes in a router: its route is entered under the methods that it leaves. -/
theorem add_refused {router next : Router E} {r : Registration E} (hmethods : r.methods ≠ [])
    (hdistinct : r.methods.Nodup) {refusal : Refusal}
    (h : router.add r.path r.methods r.endpoint = (next, some refusal)) :
    (∀ es m, Assoc.get? m (Trie.table (Trie.follow es next.trie)) =
      if es = edgesOf (r.route router.count).pattern ∧ m ∈ refusal.leaves r.methods
      then some (r.route router.count)
      else Assoc.get? m (Trie.table (Trie.follow es router.trie))) ∧
    (refusal.leaves r.methods = [] → next.trie = router.trie) ∧
    (refusal.leaves r.methods).length < r.methods.length := by
  rcases add_cases router r with ⟨other, hadd, hother⟩ | hadd
  · rw [hadd, Prod.mk.injEq, Option.some.injEq] at h
    obtain ⟨rfl, rfl⟩ := h
    have hnone : other.leaves r.methods = [] := by
      cases other with
      | duplicateRoute m path taken => exact absurd rfl (hother m path taken)
      | _ => rfl
    simp [hnone, List.length_pos_of_ne_nil hmethods]
  · rw [hadd, Prod.mk.injEq] at h
    obtain ⟨rfl, hrefusal⟩ := h
    have hroute : (r.route router.count).methods.Nodup := hdistinct
    obtain ⟨htables, hsame, hlength⟩ := Trie.insert_refused hroute hrefusal
    exact ⟨htables, hsame, hlength hmethods⟩

/-- **Registrations are undone only in part.** When a router that can be built refuses a route, it has lost
none of its routes, and it has gained this one exactly when the route stays under some of its methods; under
these it is found at the end of its edges, and every other table entry is what it was. The router is alike to
what it was exactly when the route stays under none: when it was refused for its first method or not for a
method at all. A route with one method always is. -/
theorem router_after_refusal {router next : Router E} (built : router.Built) {r : Registration E}
    (hmethods : r.methods ≠ []) (hdistinct : r.methods.Nodup) {refusal : Refusal}
    (h : router.add r.path r.methods r.endpoint = (next, some refusal)) :
    (∀ route, route ∈ next.routes ↔
      route ∈ router.routes ∨ refusal.leaves r.methods ≠ [] ∧ route = r.route router.count) ∧
    (∀ es m, Assoc.get? m (Trie.table (Trie.follow es next.trie)) =
      if es = edgesOf (r.route router.count).pattern ∧ m ∈ refusal.leaves r.methods
      then some (r.route router.count)
      else Assoc.get? m (Trie.table (Trie.follow es router.trie))) ∧
    (router.Alike next ↔ refusal.leaves r.methods = []) ∧
    (refusal.leaves r.methods).length < r.methods.length := by
  obtain ⟨htables, hsame, hlength⟩ := add_refused hmethods hdistinct h
  have hnext : next.Built := by simpa [h] using built.add hmethods r.path r.endpoint
  have hroutes : ∀ route, route ∈ next.routes ↔
      route ∈ router.routes ∨ refusal.leaves r.methods ≠ [] ∧ route = r.route router.count := by
    intro route
    rw [hnext.mem_routes, built.mem_routes]
    constructor
    · rintro ⟨es, m, hfound⟩
      rw [htables] at hfound
      split at hfound
      · next hown => exact .inr ⟨List.ne_nil_of_mem hown.2, (Option.some.inj hfound).symm⟩
      · exact .inl ⟨es, m, hfound⟩
    · rintro (hold | ⟨hne, rfl⟩)
      · have hkept := hold.add r
        rwa [h] at hkept
      · obtain ⟨m, hm⟩ := List.exists_mem_of_ne_nil _ hne
        exact ⟨edgesOf (r.route router.count).pattern, m, by rw [htables, if_pos ⟨rfl, hm⟩]⟩
  refine ⟨hroutes, htables, ⟨fun halike => ?_, fun hnil => alike_of_trie_eq (hsame hnil)⟩, hlength⟩
  -- the number of the route is one that no route of the router has
  by_contra hne
  have hmem : r.route router.count ∈ router.routes :=
    halike.routes ▸ (hroutes _).mpr (.inr ⟨hne, rfl⟩)
  exact Nat.lt_irrefl _ (built.coherent.serial_lt _ (built.mem_routes.mp hmem))

/-- A router that serves one method at each of two paths. -/
def Router.desks : Router Unit := ((Router.add {} "/a" ["GET"] ()).1.add "/b" ["POST"] ()).1

theorem Router.built_desks : Router.desks.Built := .add (.add .new (by decide) _ _) (by decide) _ _

theorem refused_desks : Router.desks.add "/b" ["GET", "POST"] () =
    ((Router.desks.add "/b" ["GET", "POST"] ()).1, some (.duplicateRoute "POST" "/b" "POST /b")) := by
  have hrefusal : (Router.desks.add "/b" ["GET", "POST"] ()).2 =
      some (.duplicateRoute "POST" "/b" "POST /b") := by decide +kernel
  exact Prod.ext rfl hrefusal

/-- A route for both methods is refused at the second path for the method that is there, and by then it is
entered under the other. -/
theorem router_after_refusal_desks :
    ∃ next, Router.desks.add "/b" ["GET", "POST"] () =
        (next, some (.duplicateRoute "POST" "/b" "POST /b")) ∧
      ⟨"/b", ["GET", "POST"], (), 2⟩ ∈ next.routes ∧ ¬ Router.desks.Alike next := by
  obtain ⟨hroutes, -, halike, -⟩ := router_after_refusal (r := ⟨"/b", ["GET", "POST"], ()⟩)
    Router.built_desks (by decide) (by decide) refused_desks
  have hleaves : (Refusal.duplicateRoute "POST" "/b" "POST /b").leaves ["GET", "POST"] ≠ [] := by decide
  exact ⟨_, refused_desks, (hroutes _).mpr (.inr ⟨hleaves, rfl⟩), fun h => hleaves (halike.mp h)⟩

/-- A refused registration is not always undone: a path that had no route for a method has one afterwards. -/
theorem registration_is_not_atomic :
    ¬ ∀ (router next : Router Unit) (r : Registration Unit) (refusal : Refusal),
      router.Built → r.methods ≠ [] → r.methods.Nodup →
      router.add r.path r.methods r.endpoint = (next, some refusal) → router.Alike next := by
  intro hatomic
  have halike := hatomic Router.desks _ ⟨"/b", ["GET", "POST"], ()⟩ _ Router.built_desks (by decide) (by decide)
    refused_desks
  have hbefore : (Router.desks.match? "GET" "/b").toOption.isSome = false := by decide +kernel
  have hafter : ((Router.desks.add "/b" ["GET", "POST"] ()).1.match? "GET" "/b").toOption.isSome = true := by
    decide +kernel
  rw [halike.matches_eq, hbefore] at hafter
  cases hafter

end ServerTree
