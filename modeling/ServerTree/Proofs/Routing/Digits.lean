import ServerTree.Proofs.Routing.Entered
import ServerTree.Proofs.Routing.Path

/-!
# What a parameter for digits is bound to

A parameter for digits accepts a segment that is a number, and it also accepts one with a line feed behind
the number. So where every route of a router writes such a parameter at some place, what is bound there is a
number up to this line feed, and a number itself as long as the path has none.

## Main definitions
- `IsNumber`: a row of decimal digits

## Main statements
- `accepts_digits_iff`: what a parameter for digits accepts
- `exists_binding_at_param`: what a parameter at some place is bound to
- `bound_to_number`: what reaches a handler
- `bound_to_line_feed`: a line feed does
-/

namespace ServerTree

/-! ## Segments of digits -/

/-- A row of decimal digits that is not empty. -/
def IsNumber (text : String) : Prop := text.toList ≠ [] ∧ ∀ c ∈ text.toList, Text.isDecimal c = true

theorem not_isNumber_of_line_feed {text : String} (h : '\n' ∈ text.toList) : ¬ IsNumber text := by
  rintro ⟨-, hdigits⟩
  exact absurd (hdigits _ h) (by decide)

/-- A parameter for digits accepts numbers, and numbers with a line feed behind them. -/
theorem accepts_digits_iff {text : String} :
    Converter.digits.accepts text = true ↔
      IsNumber text ∨ ∃ number, IsNumber number ∧ text = number ++ "\n" := by
  have haccepts : Converter.digits.accepts text = true ↔ IsNumber (String.ofList (dropFinalNewline text.toList)) := by
    simp [Converter.accepts, IsNumber]
  exact haccepts.trans (of_dropFinalNewline_iff fun _ hnumber hline => not_isNumber_of_line_feed hline hnumber)

/-! ## Parameters at a place -/

/-- A parameter on the way is bound to the segment of the path at its place, which its converter accepts. Its
binding comes behind those of the parameters before it. -/
theorem exists_binding_at_param {label : Labels} {es : List Edge} {parts : List String}
    {bs : List (String × String)} (h : bindingsAlong label es parts = some bs) {before : List Edge}
    (hat : (before ++ [.param]) <+: es) :
    ∃ l text earlier later, label before .param = some l ∧ l.2.accepts text = true ∧
      parts[before.length]? = some text ∧ bs = earlier ++ (l.1, text) :: later ∧
      earlier.length = before.count .param := by
  induction before generalizing label es parts bs with
  | nil =>
    obtain ⟨es, rfl⟩ := hat
    cases parts with
    | nil => simp [bindingsAlong] at h
    | cons part parts =>
      cases hl : label [] .param with
      | none => simp [bindingsAlong, hl] at h
      | some l =>
        by_cases haccepts : l.2.accepts part = true
        · simp only [List.nil_append, List.cons_append, bindingsAlong, hl, haccepts, if_true,
            Option.map_eq_some_iff] at h
          obtain ⟨later, -, rfl⟩ := h
          exact ⟨l, part, [], later, rfl, haccepts, rfl, rfl, rfl⟩
        · simp [bindingsAlong, hl, haccepts] at h
  | cons b before ih =>
    cases es with
    | nil => simp at hat
    | cons e es =>
      obtain ⟨rfl, hrest⟩ : b = e ∧ (before ++ [.param]) <+: es := by simpa using hat
      cases parts with
      | nil => simp [bindingsAlong] at h
      | cons part parts =>
        cases b with
        | fixed text =>
          by_cases heq : text = part
          · simp only [bindingsAlong, heq, if_true] at h
            obtain ⟨l, text', earlier, later, hl, haccepts, hpart, rfl, hcount⟩ := ih h hrest
            exact ⟨l, text', earlier, later, heq ▸ hl, haccepts, hpart, rfl, by simp [hcount]⟩
          · simp [bindingsAlong, heq] at h
        | param =>
          cases hfirst : label [] .param with
          | none => simp [bindingsAlong, hfirst] at h
          | some first =>
            by_cases hpassed : first.2.accepts part = true
            · simp only [bindingsAlong, hfirst, hpassed, if_true, Option.map_eq_some_iff] at h
              obtain ⟨bs', hbs', rfl⟩ := h
              obtain ⟨l, text, earlier, later, hl, haccepts, hpart, rfl, hcount⟩ := ih hbs' hrest
              exact ⟨l, text, (first.1, part) :: earlier, later, hl, haccepts, hpart, rfl, by simp [hcount]⟩
            · simp [bindingsAlong, hfirst, hpassed] at h
        | rest =>
          -- nothing comes behind an edge for the rest of a path
          obtain ⟨e', es', rfl⟩ := List.exists_cons_of_ne_nil (show es ≠ [] by rintro rfl; simp at hrest)
          simp [bindingsAlong] at h

/-! ## What reaches a handler -/

/-- **What is bound behind a parameter for digits.** In a router that can be built, let every route that has
a parameter at some place write one for digits of the same name there. When a route is found that has this
parameter, it is bound to the segment of the path at its place, and this is a number or a number with a line
feed behind it. It is a number when the path has no line feed. A handler finds it under its name, unless the
route gives this name to a later parameter too. -/
theorem bound_to_number {router : Router E} (built : router.Built) {before : List Edge} {name : String}
    (honly : ∀ r ∈ router.routes, ∀ l, labelAt r.pattern before .param = some l → l = (name, .digits))
    {method path : String} {found : RouteMatch E} (h : router.match? method path = .ok found)
    (hat : (before ++ [.param]) <+: edgesOf found.route.pattern) :
    ∃ earlier text later, found.params = Assoc.ofList (earlier ++ (name, text) :: later) ∧
      earlier.length = before.count .param ∧ (pathSegments path)[before.length]? = some text ∧
      (IsNumber text ∨ ∃ number, IsNumber number ∧ text = number ++ "\n") ∧
      ('\n' ∉ path.toList → IsNumber text) ∧
      (name ∉ later.map Prod.fst → Assoc.get? name found.params = some text) := by
  obtain ⟨es, bs, hfirst, hserving, hparams⟩ := match?_eq_ok h
  have hplace : edgesOf found.route.pattern = es := by
    rcases (serving_eq_some_iff _ _ _).mp hserving with hown | ⟨-, -, hget⟩
    · exact (built.coherent.place es method found.route hown).1
    · exact (built.coherent.place es "GET" found.route hget).1
  obtain ⟨l, text, earlier, later, hlabel, haccepts, hpart, rfl, hcount⟩ :=
    exists_binding_at_param hfirst.accepts.bindings (hplace ▸ hat)
  -- the label of the edge comes from some route, and they all write the same one there
  obtain ⟨r, hr, hown⟩ := built.coherent.labelled before .param l hlabel
  obtain rfl := honly r (built.mem_routes.mpr hr) l hown
  have hnumber := accepts_digits_iff.mp haccepts
  refine ⟨earlier, text, later, hparams, hcount, hpart, hnumber, fun hline => ?_, fun hlater => ?_⟩
  · rcases hnumber with hnumber | ⟨number, -, rfl⟩
    · exact hnumber
    · exact absurd (mem_of_mem_pathSegments (List.mem_of_getElem? hpart) (by simp)) hline
  · -- the value that is written last counts, and none behind this one has its name
    have hbehind : (later.filter fun e => e.1 == name) = [] := by
      rw [List.filter_eq_nil_iff]
      intro e he hname
      exact hlater (eq_of_beq hname ▸ List.mem_map_of_mem he)
    rw [hparams, Assoc.ofList, Assoc.get?_update_eq]
    simp [Assoc.values, hbehind]

/-- A router that serves users by their number. -/
def Router.users : Router Unit := (Router.add {} "/users/{id:int}" ["GET"] ()).1

theorem Router.built_users : Router.users.Built := .add .new (by decide) _ _

/-- Its only route is the one that was registered. -/
theorem Router.pattern_of_mem_users : ∀ r ∈ Router.users.routes,
    r.pattern = [.fixed "users", .param "{id:int}" "id" .digits] := by
  have hpaths : Router.users.routes.map Route.path = ["/users/{id:int}"] := by decide +kernel
  have hpattern : (parsePattern "/users/{id:int}").toOption.getD [] =
      [.fixed "users", .param "{id:int}" "id" .digits] := by decide +kernel
  intro r hr
  have hpath : r.path = "/users/{id:int}" := by simpa [hpaths] using List.mem_map_of_mem (f := Route.path) hr
  rw [Route.pattern, hpath, hpattern]

theorem Router.label_of_mem_users : ∀ r ∈ Router.users.routes, ∀ l,
    labelAt r.pattern [.fixed "users"] .param = some l → l = ("id", .digits) := by
  intro r hr l hl
  rw [Router.pattern_of_mem_users r hr] at hl
  exact (Option.some.inj hl).symm

theorem Router.exists_match?_users (path : String)
    (h : (Router.users.match? "GET" path).toOption.isSome = true) :
    ∃ found, Router.users.match? "GET" path = .ok found ∧ found.route ∈ Router.users.routes := by
  cases hmatch : Router.users.match? "GET" path with
  | error miss => simp [hmatch, Except.toOption] at h
  | ok found => exact ⟨found, rfl, Router.built_users.mem_routes.mpr (enters_of_match? hmatch)⟩

/-- The number of a user reaches the handler. -/
theorem bound_to_number_users :
    ∃ found text, Router.users.match? "GET" "/users/42" = .ok found ∧
      (pathSegments "/users/42")[1]? = some text ∧ IsNumber text := by
  obtain ⟨found, hmatch, hmem⟩ := Router.exists_match?_users "/users/42" (by decide +kernel)
  have hat : ([.fixed "users"] ++ [.param]) <+: edgesOf found.route.pattern := by
    rw [Router.pattern_of_mem_users _ hmem]
    decide
  obtain ⟨-, text, -, -, -, hpart, -, hnumber, -⟩ :=
    bound_to_number Router.built_users Router.label_of_mem_users hmatch hat
  exact ⟨found, text, hmatch, hpart, hnumber (by decide)⟩

/-- A line feed reaches a handler, too. -/
theorem bound_to_line_feed :
    ¬ ∀ (router : Router Unit) (before : List Edge) (name method path : String) (found : RouteMatch Unit)
      (text : String), router.Built →
      (∀ r ∈ router.routes, ∀ l, labelAt r.pattern before .param = some l → l = (name, .digits)) →
      router.match? method path = .ok found → (before ++ [.param]) <+: edgesOf found.route.pattern →
      Assoc.get? name found.params = some text → IsNumber text := by
  intro hdigits
  obtain ⟨found, hmatch, hmem⟩ := Router.exists_match?_users "/users/42\n" (by decide +kernel)
  have hat : ([.fixed "users"] ++ [.param]) <+: edgesOf found.route.pattern := by
    rw [Router.pattern_of_mem_users _ hmem]
    decide
  have hbound : (Router.users.match? "GET" "/users/42\n").toOption.bind (fun found => Assoc.get? "id" found.params) =
      some "42\n" := by decide +kernel
  rw [hmatch] at hbound
  have hnumber := hdigits Router.users _ "id" _ _ found "42\n" Router.built_users Router.label_of_mem_users
    hmatch hat hbound
  exact not_isNumber_of_line_feed (by decide) hnumber

end ServerTree
