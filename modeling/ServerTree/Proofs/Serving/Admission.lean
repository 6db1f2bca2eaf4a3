import ServerTree.Proofs.Http.Fields
import ServerTree.Proofs.Serving.Enforced

/-!
# Whom the cross-origin middleware admits

The cross-origin middleware is there for the origins that its rules allow and for no others. To the request of
any other origin, or of none, it makes no difference. To the response for an allowed origin it appends headers,
which say that this origin may read it, and only a preflight request of an allowed origin goes no further.

## Main definitions
- `OriginSetting`, `DeclaredCors`: rules with fields of the types that they are declared with
- `OriginSetting.Admits`: what an allowed origin is answered with
- `appendHeaders`: more headers on what comes back

## Main statements
- `DeclaredCors.allowedOrigin_eq`: the rules judge an origin as their setting says
- `only_allowed_origins_are_admitted`: what the middleware makes of a request, for every application behind it
-/

namespace ServerTree

/-! ## Rules -/

/-- Which origins may read responses: one of them or any, all or none, or several of them. -/
inductive OriginSetting where
  | text (origin : String)
  | flag (all : Bool)
  | row (origins : List String)
deriving DecidableEq, Repr

namespace OriginSetting

/-- A setting as a value. -/
def value : OriginSetting → Value
  | text origin => .str origin
  | flag all => .bool all
  | row origins => .tuple (origins.map .str)

/-- What a setting that allows an origin answers it with: the mark for any origin, or the origin itself. -/
inductive Admits : OriginSetting → String → String → Prop
  | any (origin : String) : Admits (.text "*") origin "*"
  | named {origin : String} (hnot : origin ≠ "*") : Admits (.text origin) origin origin
  | all (origin : String) : Admits (.flag true) origin origin
  | anyListed {origins : List String} (origin : String) (h : "*" ∈ origins) : Admits (.row origins) origin "*"
  | listed {origins : List String} {origin : String} (h : origin ∈ origins) (hnot : "*" ∉ origins) :
      Admits (.row origins) origin origin

/-! ### One setting at a time -/

variable {origin value : String}

theorem admits_text_iff {own : String} :
    (text own).Admits origin value ↔ own = "*" ∧ value = "*" ∨ own ≠ "*" ∧ own = origin ∧ value = origin := by
  constructor
  · intro h
    cases h with
    | any _ => exact .inl ⟨rfl, rfl⟩
    | named hnot => exact .inr ⟨hnot, rfl, rfl⟩
  · rintro (⟨rfl, rfl⟩ | ⟨hnot, rfl, rfl⟩)
    · exact .any origin
    · exact .named hnot

theorem admits_flag_iff {all : Bool} : (flag all).Admits origin value ↔ all = true ∧ value = origin := by
  constructor
  · rintro ⟨⟩
    exact ⟨rfl, rfl⟩
  · rintro ⟨rfl, rfl⟩
    exact .all value

theorem admits_row_iff {origins : List String} :
    (row origins).Admits origin value ↔
      "*" ∈ origins ∧ value = "*" ∨ "*" ∉ origins ∧ origin ∈ origins ∧ value = origin := by
  constructor
  · intro h
    cases h with
    | anyListed _ hany => exact .inl ⟨hany, rfl⟩
    | listed hlisted hnot => exact .inr ⟨hnot, hlisted, rfl⟩
  · rintro (⟨hany, rfl⟩ | ⟨hnot, hlisted, rfl⟩)
    · exact .anyListed origin hany
    · exact .listed hlisted hnot

end OriginSetting

/-- Cross-origin rules whose fields have the types that they are declared with. -/
structure DeclaredCors where
  setting : OriginSetting
  methods : List String
deriving DecidableEq, Repr

/-- Looking for a text among texts. -/
theorem any_beq_str (xs : List String) (s : String) :
    (xs.map Value.str).any (· == .str s) = decide (s ∈ xs) := by
  induction xs with
  | nil => rfl
  | cons x xs ih =>
    rw [List.map_cons, List.any_cons, ih, Value.beq_str]
    by_cases hx : x = s
    · simp [hx]
    · simp [hx, Ne.symm hx]

namespace DeclaredCors

/-- The rules over values. -/
def spec (rules : DeclaredCors) : CorsSpec Value := ⟨rules.setting.value, rules.methods.map .str⟩

/-- **The rules judge an origin as their setting says**, and never fail to. -/
theorem allowedOrigin_eq (rules : DeclaredCors) (origin : String) :
    ∃ allowed, rules.spec.allowedOrigin origin = .ok allowed ∧
      ∀ value, allowed = some value ↔ rules.setting.Admits origin value := by
  obtain ⟨setting, methods⟩ := rules
  cases setting with
  | text own =>
    have hjudged : (spec ⟨.text own, methods⟩).allowedOrigin origin =
        if own = "*" then .ok (some "*") else if own = origin then .ok (some origin) else .ok none := rfl
    rw [hjudged]
    simp only [OriginSetting.admits_text_iff]
    by_cases hany : own = "*"
    · exact ⟨some "*", if_pos hany, fun value => by simp [hany, eq_comm]⟩
    · by_cases hown : own = origin
      · subst hown
        exact ⟨some own, by rw [if_neg hany, if_pos rfl], fun value => by simp [hany, eq_comm]⟩
      · exact ⟨none, by rw [if_neg hany, if_neg hown], fun value => by simp [hany, hown]⟩
  | flag all =>
    simp only [OriginSetting.admits_flag_iff]
    cases all with
    | false => exact ⟨none, rfl, fun value => by simp⟩
    | true => exact ⟨some origin, rfl, fun value => by simp [eq_comm]⟩
  | row origins =>
    have hjudged : (spec ⟨.row origins, methods⟩).allowedOrigin origin =
        if "*" ∈ origins then .ok (some "*") else if origin ∈ origins then .ok (some origin) else .ok none := by
      simp only [CorsSpec.allowedOrigin, spec, OriginSetting.value, any_beq_str, decide_eq_true_eq]
    rw [hjudged]
    simp only [OriginSetting.admits_row_iff]
    by_cases hany : "*" ∈ origins
    · exact ⟨some "*", if_pos hany, fun value => by simp [hany, eq_comm]⟩
    · by_cases hlisted : origin ∈ origins
      · exact ⟨some origin, by rw [if_neg hany, if_pos hlisted],
          fun value => by simp [hany, hlisted, eq_comm]⟩
      · exact ⟨none, by rw [if_neg hany, if_neg hlisted], fun value => by simp [hany, hlisted]⟩

end DeclaredCors

/-! ## Requests -/

/-- The origin of a request: what its first header of that name says, however the name is spelled. -/
def Request.origin? (r : Request) : Option String := r.headers.first? "origin"

/-- A request asks for permission only: it names the method that it would be sent with. -/
def Request.AsksFirst (r : Request) : Prop :=
  r.method = "OPTIONS" ∧ ∃ method, r.headers.first? "access-control-request-method" = some method ∧ method ≠ ""

theorem get?_origin (r : Request) : r.headers.get? "origin" = r.origin? :=
  r.headers.get?_eq_first? "origin"

theorem isPreflight_iff (r : Request) : isPreflight r = true ↔ r.AsksFirst := by
  have hget : r.headers.get? "access-control-request-method" = r.headers.first? "access-control-request-method" :=
    r.headers.get?_eq_first? _
  rw [isPreflight, hget, Bool.and_eq_true, beq_iff_eq, bne_iff_ne, Request.AsksFirst]
  cases r.headers.first? "access-control-request-method" <;> simp

/-- The rules admit a request, and answer it with a value. -/
def DeclaredCors.Admits (rules : DeclaredCors) (request : Request) (value : String) : Prop :=
  ∃ origin, request.origin? = some origin ∧ rules.setting.Admits origin value

/-! ## The middleware -/

section

variable {U : Type} (b : Behaviour U)

/-- Appends headers to a response; what is none is asked to. -/
def appendHeaders (headers : List (String × String)) : Value → Act U Value
  | .response r => return .response (r.withHeaders (Value.ofPairs headers))
  | v => askForHeaders b headers v

variable {b} {rules : DeclaredCors} {maxAge : Value} {next : Next U} {request : Request} {w : World U}
  {value : String}

/-- A request that is not admitted passes. -/
theorem outcome_corsServe_of_not_admits (h : ∀ value, ¬ rules.Admits request value) :
    outcome (corsServe b rules.spec maxAge next request) w = outcome (next request) w := by
  cases horigin : request.origin? with
  | none => simp only [corsServe, get?_origin, horigin]
  | some origin =>
    obtain ⟨allowed, hallowed, hadmits⟩ := rules.allowedOrigin_eq origin
    obtain rfl : allowed = none :=
      Option.eq_none_iff_forall_ne_some.mpr fun value hsome => h value ⟨origin, horigin, (hadmits value).mp hsome⟩
    exact outcome_corsServe_refused ((get?_origin request).trans horigin) hallowed

/-- How the rules judge the origin of a request that they admit. -/
theorem DeclaredCors.Admits.judged (h : rules.Admits request value) :
    ∃ origin, request.headers.get? "origin" = some origin ∧
      rules.spec.allowedOrigin origin = .ok (some value) := by
  obtain ⟨origin, horigin, hadmits⟩ := h
  obtain ⟨allowed, hallowed, hiff⟩ := rules.allowedOrigin_eq origin
  exact ⟨origin, (get?_origin request).trans horigin, by rw [hallowed, (hiff value).mpr hadmits]⟩

/-- What comes back for a request that is admitted, and does not only ask, gets the headers. -/
theorem outcome_corsServe_of_admits (h : rules.Admits request value) (hasks : ¬ request.AsksFirst) :
    outcome (corsServe b rules.spec maxAge next request) w =
      outcome (next request >>= appendHeaders b (corsHeaders value)) w := by
  obtain ⟨origin, horigin, hallowed⟩ := h.judged
  have hpreflight : isPreflight request = false := by
    rw [← Bool.not_eq_true, isPreflight_iff]
    exact hasks
  simp only [corsServe, horigin, outcome_bind, outcome_ofAttempt, hallowed, Except.mapError, hpreflight,
    Bool.false_eq_true, if_false]
  cases outcome (next request) w with
  | mk r w' =>
    cases r with
    | error stop => rfl
    | ok v => cases v <;> rfl

/-- The names of the headers that only the answer to a preflight request has. -/
def preflightNames : List String :=
  ["Access-Control-Allow-Methods", "Access-Control-Allow-Headers", "Access-Control-Max-Age"]

theorem textRow_map_str (xs : List String) (position : Nat) : textRow position (xs.map .str) = .ok xs := by
  induction xs generalizing position with
  | nil => rfl
  | cons x xs ih =>
    rw [List.map_cons, textRow, ih]
    rfl

/-- A response without a body, with the given headers. -/
def Response.bare (headers : List (String × String)) : Response Value :=
  { Response.empty with headers := Value.ofPairs headers }

theorem withHeader_bare (headers : List (String × String)) (name value : String) :
    (Response.bare headers).withHeader (.str name) (.str value) = Response.bare (headers ++ [(name, value)]) := by
  simp [Response.bare, Response.withHeader, Value.ofPairs]

/-- The answer to a preflight request has the headers for the origin in front, and more that do not say who may
read it. It is given whenever the time for which it holds can be shown. -/
theorem preflightResponse_eq (rules : DeclaredCors) (request : Request) {seconds : String}
    (hseconds : maxAge.text = .ok seconds) :
    ∃ rest, preflightResponse rules.spec maxAge request value = .ok (.bare (corsHeaders value ++ rest)) ∧
      ∀ h ∈ rest, h.1 ∈ preflightNames := by
  have hstart : addCorsHeaders .empty value = .bare (corsHeaders value) := rfl
  rw [preflightResponse, DeclaredCors.spec, textRow_map_str, ok_bind, hseconds, hstart]
  simp only [withHeader_bare, ok_bind]
  split
  · refine ⟨[_, _], by rw [withHeader_bare, List.append_assoc]; rfl, ?_⟩
    simp [preflightNames]
  · refine ⟨[_, _, _], by rw [withHeader_bare, List.append_assoc, List.append_assoc]; rfl, ?_⟩
    simp [preflightNames]

theorem preflightResponse_eq_error {f : Fault} (hfails : maxAge.text = .error f) :
    preflightResponse rules.spec maxAge request value = .error f := by
  rw [preflightResponse, DeclaredCors.spec, textRow_map_str, ok_bind, hfails]
  rfl

/-! ## All together -/

/-- **The middleware admits allowed origins only, and is otherwise transparent.** The request of an origin that the
rules do not allow, or of none, comes to what it comes to without the middleware. The request of an allowed origin
is passed on as it is, and what comes back, if it does, gets the headers that say that this origin may read it. Only
one that asks first is not passed on: it is answered in the same world, with these headers and with others that do
not say who may read the answer. -/
theorem only_allowed_origins_are_admitted (b : Behaviour U) (rules : DeclaredCors) (maxAge : Value)
    (next : Next U) (request : Request) (w : World U) :
    let served := outcome (corsServe b rules.spec maxAge next request) w
    ((∀ value, ¬ rules.Admits request value) → served = outcome (next request) w) ∧
    (∀ value, rules.Admits request value → ¬ request.AsksFirst →
      served = outcome (next request >>= appendHeaders b (corsHeaders value)) w) ∧
    ∀ value, rules.Admits request value → request.AsksFirst → served.2 = w ∧
      (∀ answer, served.1 = .ok answer →
        ∃ rest, answer = .response (.bare (corsHeaders value ++ rest)) ∧ ∀ h ∈ rest, h.1 ∈ preflightNames) ∧
      ∀ seconds, maxAge.text = .ok seconds → ∃ answer, served.1 = .ok answer := by
  intro served
  refine ⟨outcome_corsServe_of_not_admits, fun value => outcome_corsServe_of_admits, fun value hadmits hasks => ?_⟩
  obtain ⟨origin, horigin, hallowed⟩ := hadmits.judged
  have hserved : served = (((preflightResponse rules.spec maxAge request value).map .response).mapError .failed, w) :=
    outcome_corsServe_preflight horigin hallowed ((isPreflight_iff request).mpr hasks)
  rw [hserved]
  refine ⟨rfl, ?_⟩
  cases hseconds : maxAge.text with
  | error f =>
    rw [preflightResponse_eq_error hseconds]
    exact ⟨fun answer h => (nomatch h), fun seconds h => (nomatch h)⟩
  | ok seconds =>
    obtain ⟨rest, hanswer, hnames⟩ := preflightResponse_eq rules request hseconds
    rw [hanswer]
    refine ⟨fun answer h => ⟨rest, ?_, hnames⟩, fun _ _ => ⟨_, rfl⟩⟩
    exact (Except.ok.inj h).symm

end

end ServerTree
