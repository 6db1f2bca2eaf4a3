import ServerTree.Routing.Depth
import ServerTree.Proofs.Routing.Search

/-!
# Methods that are served alike

A search asks every table on its way whether it serves the method, and is otherwise the same for every method. Where
no table has a route for HEAD, each of them serves HEAD as it serves GET, so that both searches take the same edges and
come to the same end, also when they fail or go too far down.

## Main definitions
- `Trie.Lacks`, `Router.BuiltWithout`: tries without routes for a method, and the routers that have them
- `Trie.ServesAlike`: two methods are served alike by every table

## Main statements
- `Router.BuiltWithout.lacks`: a method that is not registered has no routes
- `Trie.find_eq`: methods that are served alike are found alike
- `Router.match?_head`: HEAD is found as GET is
-/

namespace ServerTree

variable {E : Type}

/-! ## Routers without routes for a method -/

namespace Trie

/-- No table of a trie has a route for a method. -/
def Lacks (method : String) (t : Trie E) : Prop := ∀ es, Assoc.get? method (table (follow es t)) = none

/-- Entering a route under other methods leaves a table without one for this method. -/
theorem get?_register_of_not_mem {route : Route E} {method : String} {ms : List String} (hms : method ∉ ms)
    {table : MethodTable E} (h : Assoc.get? method table = none) :
    Assoc.get? method (register route ms table).1 = none := by
  induction ms generalizing table with
  | nil => exact h
  | cons m ms ih =>
    obtain ⟨hne, hrest⟩ := not_or.mp (mt List.mem_cons.mpr hms)
    rw [register]
    cases Assoc.get? m table with
    | some taken => exact h
    | none =>
      refine ih hrest ?_
      rw [Assoc.get?_set, if_neg hne]
      exact h

/-- **Step lemma**: a registration under other methods enters no route for this method, however far it comes. -/
theorem Lacks.insert {method : String} {t : Trie E} (h : t.Lacks method) {route : Route E}
    (hmethods : method ∉ route.methods) (segments : List Segment) : (insert route segments t).1.Lacks method := by
  intro es
  rw [table_follow_insert]
  split
  · exact get?_register_of_not_mem hmethods (h es)
  · exact h es

end Trie

/-- The routers for which a method was never asked for: a new one, and what becomes of one when it is asked to register
a route for other methods, which it may refuse, or when its registrations end. -/
inductive Router.BuiltWithout (method : String) : Router E → Prop
  | new : Router.BuiltWithout method {}
  | add {router : Router E} (built : router.BuiltWithout method) {methods : List String}
      (hmethods : method ∉ methods) (path : String) (endpoint : E) :
      Router.BuiltWithout method (router.add path methods endpoint).1
  | compile {router : Router E} (built : router.BuiltWithout method) : Router.BuiltWithout method router.compile

/-- **Run lemma**: a method that was never asked for has no routes. -/
theorem Router.BuiltWithout.lacks {method : String} {router : Router E} (h : router.BuiltWithout method) :
    router.trie.Lacks method := by
  induction h with
  | new =>
    intro es
    show Assoc.get? method (Trie.table (Trie.follow es Trie.empty)) = none
    rw [Trie.follow_empty]
    rfl
  | @add router _ methods hmethods path endpoint ih =>
    -- what is refused before the trie is reached changes nothing
    rw [Router.add]
    split
    · exact ih
    · cases parsePattern path with
      | error refusal => exact ih
      | ok segments => exact ih.insert hmethods segments
  | compile _ ih => exact ih

/-! ## Searches for methods that are served alike -/

namespace Trie

/-- Every table of a trie serves two methods by the same route, or neither of them. -/
def ServesAlike (m m' : String) (t : Trie E) : Prop :=
  ∀ es, serving (table (follow es t)) m = serving (table (follow es t)) m'

/-- Where no route is for HEAD, those for GET serve it. -/
theorem Lacks.servesAlike {t : Trie E} (h : t.Lacks "HEAD") : t.ServesAlike "HEAD" "GET" := by
  intro es
  have hget : ("GET" : String) ≠ "HEAD" := by decide
  simp only [serving, h es, if_true, hget, if_false]
  cases Assoc.get? "GET" (table (follow es t)) <;> rfl

theorem ServesAlike.child {m m' : String} {t : Trie E} (h : t.ServesAlike m m') (e : Edge) :
    (child e t).ServesAlike m m' := fun es => h (e :: es)

theorem ServesAlike.answers_eq {m m' : String} {t : Trie E} (h : t.ServesAlike m m') :
    answers (table t) (some m) = answers (table t) (some m') := congrArg Option.isSome (h [])

/-- **Methods that are served alike are found alike.** The induction is on the path; the three edges that are tried
lead to tries that serve the methods alike. -/
theorem find_eq {m m' : String} {t : Trie E} (h : t.ServesAlike m m') (parts : List String)
    (params : List (String × String)) : find (some m) parts params t = find (some m') parts params t := by
  induction parts generalizing t params with
  | nil =>
    obtain ⟨routes, children, param, catchAll⟩ := t
    have hanswers : answers routes (some m) = answers routes (some m') := h.answers_eq
    rw [find, find, hanswers]
  | cons part parts ih =>
    have hparam : viaParam (some m) part parts params t = viaParam (some m') part parts params t := by
      simp only [viaParam, ih (h.child .param)]
    have hrest : viaRest (some m) part parts params t = viaRest (some m') part parts params t := by
      simp only [viaRest, Option.isNone_some, Bool.false_or, (h.child .rest).answers_eq]
    rw [find_cons, find_cons, ih (h.child (.fixed part)), hparam, hrest]

/-- Searches for them go as far down. -/
theorem comesTo_eq {m m' : String} {t : Trie E} (h : t.ServesAlike m m') (n : Nat) (parts : List String) :
    comesTo m n parts t = comesTo m' n parts t := by
  induction n generalizing t parts with
  | zero => rfl
  | succ n ih =>
    cases parts with
    | nil => rfl
    | cons part parts =>
      obtain ⟨routes, children, param, catchAll⟩ := t
      have hchild : ∀ next, Assoc.get? part children = some next → next.ServesAlike m m' := by
        intro next hnext
        have hbelow := h.child (.fixed part)
        rwa [Trie.child, hnext, Option.getD_some] at hbelow
      have hviaChild : (Assoc.get? part children).any (fun next => comesTo m n parts next) =
          (Assoc.get? part children).any fun next => comesTo m' n parts next := by
        cases hnext : Assoc.get? part children with
        | none => rfl
        | some next => exact ih (hchild next hnext) parts
      have hfound : (Assoc.get? part children).any (fun next => (find (some m) parts [] next).isSome) =
          (Assoc.get? part children).any fun next => (find (some m') parts [] next).isSome := by
        cases hnext : Assoc.get? part children with
        | none => rfl
        | some next => simp only [Option.any_some, find_eq (hchild next hnext)]
      simp only [comesTo, hviaChild, hfound]
      cases param with
      | none => rfl
      | some edge =>
        have hparam : edge.2.2.ServesAlike m m' := h.child .param
        simp only [Option.any_some, ih hparam]

end Trie

namespace Router

/-- **HEAD is found as GET is** by a router without a route for HEAD: the same route with the same parameters, or the
same miss. -/
theorem match?_head {router : Router E} (h : router.trie.Lacks "HEAD") (path : String) :
    router.match? "HEAD" path = router.match? "GET" path := by
  have halike := h.servesAlike
  rw [match?, match?, Trie.find_eq halike]
  cases hfind : router.trie.find (some "GET") (pathSegments path) [] with
  | none => rfl
  | some r =>
    obtain ⟨found, params⟩ := r
    obtain ⟨es, bs, -, rfl, -⟩ := Trie.find_sound hfind
    simp only [halike es]

theorem isTooDeepFor_head {router : Router E} (h : router.trie.Lacks "HEAD") (path : String) :
    router.isTooDeepFor "HEAD" path = router.isTooDeepFor "GET" path :=
  Trie.comesTo_eq h.servesAlike Trie.maxDepth (pathSegments path)

end Router

end ServerTree
