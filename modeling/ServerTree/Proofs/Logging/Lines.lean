import ServerTree.Proofs.Logging.Flat
import ServerTree.Proofs.Logging.Functions
import ServerTree.Proofs.Serving.Enforced
import ServerTree.Proofs.Serving.Errors

/-!
# What a request leaves in the log

While a request is served the library makes records: of middleware and handlers that failed, of keys that are not
merged, of response hooks that failed, and the line of the access log. What these show of the request and of
exceptions is prepared for the log, so that their control characters are those of the application's own texts. Two
lines are no such records: those of an HTTP error that comes out of the router and of an internal error show the path
of the request as it is, and the first one the detail of the error.

## Main definitions
- `Log.Adds`: records of a kind were added to a log
- `App.OwnText`: the texts of an application that its log shows as they are
- `ShowsRequest`: the lines that show the request as it is

## Main statements
- `WrappedHandler.Remarks.isComposed`, `isComposed_of_accessRecord`: what other records are composed of
- `ShowsRequest.isComposed`, `ShowsRequest.path_subset`: when these lines are, too
- `records_are_composed`: what a request leaves in the log
-/

namespace ServerTree

variable {U : Type}

/-! ## Records that are added -/

/-- Records of a kind were added to a log. -/
def Log.Adds (A : LogRecord → Prop) (l l' : Log) : Prop :=
  ∃ added : List LogRecord, l'.records.toList = l.records.toList ++ added ∧ ∀ r ∈ added, A r

section

variable {A B : LogRecord → Prop} {l l₁ l₂ : Log}

theorem Log.Adds.refl (l : Log) : l.Adds A l := ⟨[], (List.append_nil _).symm, fun _ hr => nomatch hr⟩

theorem Log.Adds.trans (h : l.Adds A l₁) (h' : l₁.Adds A l₂) : l.Adds A l₂ := by
  obtain ⟨added, heq, hadded⟩ := h
  obtain ⟨added', heq', hadded'⟩ := h'
  refine ⟨added ++ added', by rw [heq', heq, List.append_assoc], fun r hr => ?_⟩
  exact (List.mem_append.mp hr).elim (hadded r) (hadded' r)

theorem Log.Adds.mono (h : l.Adds A l₁) (hA : ∀ r, A r → B r) : l.Adds B l₁ := by
  obtain ⟨added, heq, hadded⟩ := h
  exact ⟨added, heq, fun r hr => hA r (hadded r hr)⟩

theorem Log.adds_append {logger : Logger} {severity : Severity} {message : Option String}
    (h : A ⟨logger, severity, message⟩) (l : Log) : l.Adds A (l.append logger severity message) := by
  rw [Log.append]
  split
  · exact ⟨[_], Array.toList_push, fun r hr => List.mem_singleton.mp hr ▸ h⟩
  · exact .refl l

end

/-! ## What records are composed of -/

/-- The message of a record, if it has one, is flat. -/
def LogRecord.IsFlat (r : LogRecord) : Prop := ∀ m ∈ r.message, ServerTree.IsFlat m.toList

/-- The message of a record, if it has one, is put together from flat texts and from texts of a kind. -/
def LogRecord.IsComposed (own : String → Prop) (r : LogRecord) : Prop := ∀ m ∈ r.message, Composed own m

/-- The texts of a handler of the tree that the log shows as they are. -/
inductive WrappedHandler.OwnText (h : WrappedHandler) : String → Prop where
  | route : OwnText h h.route
  | timeout {limit : String} (text : h.timeout.text = .ok limit) : OwnText h limit
  | middleware {m : ScopedMiddleware Value} (declared : m ∈ h.config.middleware) : OwnText h m.fn.functionName

/-- The texts of an application that the log shows as they are while a request with a method is served: the method,
texts of its handlers, and its response hooks. -/
inductive App.OwnText (app : App) (method : String) : String → Prop where
  | method : OwnText app method method
  | handler {r : Route Registered} {h : WrappedHandler} {text : String} (entered : app.router.Enters r)
      (wrapped : r.endpoint.endpoint = .wrapped h) (own : h.OwnText text) : OwnText app method text
  | hook {hook : Hook} {text : String} (registered : hook ∈ app.responseHooks) (shown : hook.shown = .ok text) :
      OwnText app method text

section

variable {own : String → Prop}

/-- A text of the library in front of a composed one. -/
theorem Composed.after {s t : String} (h : Composed own s) (ht : IsFlat t.toList) :
    Composed own (t ++ s) := .append (.flat ht) h

/-- A text of the library behind a composed one. -/
theorem Composed.before {s t : String} (h : Composed own s) (ht : IsFlat t.toList) :
    Composed own (s ++ t) := .append h (.flat ht)

/-- **What is noted while a handler of the tree is served** is composed of flat texts and of texts of the handler. -/
theorem WrappedHandler.Remarks.isComposed {h : WrappedHandler} {severity : Severity} {message : Option String}
    (hremark : h.Remarks severity message) (hown : ∀ text, h.OwnText text → own text) :
    LogRecord.IsComposed own ⟨.pipeline, severity, message⟩ := by
  rintro m (hm : message = some m)
  cases hremark with
  | reserved =>
    obtain rfl := Option.some.inj hm
    exact .flat (isFlat_reservedKeyWarning _)
  | timedOut declared =>
    cases hlimit : h.timeout.text with
    | error f =>
      rw [hlimit] at hm
      cases hm
    | ok limit =>
      rw [hlimit] at hm
      obtain rfl := Option.some.inj hm
      have hname : Composed own _ := .own (hown _ (.middleware declared))
      have hnamed := (hname.after (t := "Middleware ") (by decide)).before (t := " timed out after ")
        (by decide +kernel)
      exact (hnamed.append (.own (hown _ (.timeout hlimit)))).before (by decide)
  | failed declared shown =>
    obtain rfl := Option.some.inj hm
    have hname : Composed own _ := .own (hown _ (.middleware declared))
    have hnamed := (hname.after (t := "Middleware ") (by decide)).before (t := " failed: ") (by decide)
    exact hnamed.append (.flat (isFlat_of_failureForLog shown))
  | handlerFailed =>
    obtain rfl := Option.some.inj hm
    have hroute : Composed own _ := .own (hown _ .route)
    exact (hroute.after (t := "Handler for ") (by decide)).before (by decide)
  | handlerRaised status =>
    obtain rfl := Option.some.inj hm
    have hroute : Composed own _ := .own (hown _ .route)
    have hraised := (hroute.after (t := "Handler for ") (by decide)).before (t := " raised ") (by decide)
    exact hraised.append (.flat (isFlat_intText status))

/-- The line of a response in the access log is composed of flat texts and of the method: the URL is prepared for the
log, and a status that is compared with a number is one. -/
theorem isComposed_of_accessRecord {request : Request} {response : Value} {elapsed : Float} {severity : Severity}
    {line : String} (h : accessRecord request response elapsed = .ok (severity, line)) (hown : own request.method) :
    LogRecord.IsComposed own ⟨.access, severity, some line⟩ := by
  rintro m (hm : some line = some m)
  obtain rfl := Option.some.inj hm
  obtain ⟨status, hstatus, h⟩ := exists_of_bind_eq_ok h
  obtain ⟨bad, hbad, h⟩ := exists_of_bind_eq_ok h
  rw [accessLine, hstatus, ok_bind] at h
  obtain ⟨written, hline, h⟩ := exists_of_bind_eq_ok h
  obtain ⟨text, htext, hline⟩ := exists_of_bind_eq_ok hline
  obtain ⟨-, rfl⟩ := Prod.mk.inj (Except.ok.inj h)
  obtain rfl := Except.ok.inj hline
  have hnumber : status.IsNumber := by
    cases status with
    | int _ | bool _ | float _ | nan _ => trivial
    | _ => cases hbad
  have hmethod : Composed own request.method := .own hown
  have hurl := (hmethod.before (t := " ") (by decide)).append
    (.flat (isFlat_forLog accessUrlLimit request.url))
  have htold := (hurl.before (t := " -> ") (by decide)).append
    (.flat (isFlat_text_of_isNumber hnumber htext))
  exact ((htold.before (t := " ") (by decide)).append (.flat (isFlat_roundedWhole elapsed))).before
    (by decide)

/-- So is the record of a response hook that failed, with the text that shows the hook. -/
theorem isComposed_of_shown {hook : Hook} (hown : ∀ shown, hook.shown = .ok shown → own shown) :
    LogRecord.IsComposed own
      ⟨.server, .error, (hook.shown.map fun shown => "Response hook " ++ shown ++ " failed").toOption⟩ := by
  rintro m (hm : _ = some m)
  cases hshown : hook.shown with
  | error f =>
    rw [hshown] at hm
    cases hm
  | ok shown =>
    rw [hshown] at hm
    obtain rfl := Option.some.inj hm
    have htext : Composed own shown := .own (hown shown hshown)
    exact (htext.after (t := "Response hook ") (by decide)).before (by decide)

end

/-! ## The lines that show a request -/

/-- What the middleware and the router of an application make of a request. -/
def served (b : Behaviour U) (w : World U) (request : Request) (inbox : Inbox) : Except Stop Value :=
  (outcome (serveThrough b w.app.freeze.middleware (dispatch b) (w.arriving request)) (w.opened inbox)).1

/-- The lines that show a request as it is: that of the HTTP error which the middleware and the router come to, and
that of an internal error. -/
inductive ShowsRequest (b : Behaviour U) (w : World U) (request : Request) (inbox : Inbox) : LogRecord → Prop where
  | httpError {e : HttpError Value} (failed : served b w request inbox = .error (.failed (.http e))) :
      ShowsRequest b w request inbox ⟨.server, .debug, e.line? request⟩
  | internalError :
      ShowsRequest b w request inbox ⟨.server, .error, some ("500 " ++ request.method ++ " " ++ request.path)⟩

/-- A number without its fraction is flat. -/
theorem isFlat_of_wholeDigits? {v : Value} {digits : String} (h : wholeDigits? v = some digits) :
    IsFlat digits.toList := by
  cases v with
  | int n =>
    rw [wholeDigits?] at h
    cases htext : (Value.int n).text with
    | error f =>
      rw [htext] at h
      cases h
    | ok text =>
      rw [htext] at h
      obtain rfl := Option.some.inj h
      exact isFlat_text_of_isNumber (v := .int n) trivial htext
  | bool x =>
    obtain rfl := Option.some.inj h
    cases x <;> decide
  | float x =>
    rw [wholeDigits?] at h
    split at h
    · cases h
    · obtain rfl := Option.some.inj h
      exact isFlat_intText _
  | _ => cases h

/-- The line of an HTTP error, when it has one: its status, the method and the path of the request, and its detail. -/
theorem exists_of_line? {e : HttpError Value} {request : Request} {m : String} (h : e.line? request = some m) :
    ∃ status detail, wholeDigits? e.status = some status ∧ e.detail.text = .ok detail ∧
      m = status ++ " " ++ request.method ++ " " ++ request.path ++ " — " ++ detail := by
  rw [HttpError.line?] at h
  cases hstatus : wholeDigits? e.status with
  | none =>
    rw [hstatus] at h
    cases h
  | some status =>
    cases htext : e.detail.text with
    | error f =>
      rw [hstatus, htext] at h
      cases h
    | ok detail =>
      rw [hstatus, htext] at h
      exact ⟨status, detail, rfl, rfl, (Option.some.inj h).symm⟩

section

variable {b : Behaviour U} {w : World U} {request : Request} {inbox : Inbox} {r : LogRecord}

/-- **These lines are composed like the others** when the path is flat, and the detail of the error is. -/
theorem ShowsRequest.isComposed (h : ShowsRequest b w request inbox r) {own : String → Prop}
    (hown : own request.method) (hpath : IsFlat request.path.toList)
    (hdetail : ∀ e, served b w request inbox = .error (.failed (.http e)) →
      ∀ text, e.detail.text = .ok text → IsFlat text.toList) : r.IsComposed own := by
  have hmethod : Composed own request.method := .own hown
  cases h with
  | @httpError e failed =>
    rintro m (hm : e.line? request = some m)
    obtain ⟨status, detail, hstatus, htext, rfl⟩ := exists_of_line? hm
    have hnumber : Composed own status := .flat (isFlat_of_wholeDigits? hstatus)
    have hfront := (hnumber.before (t := " ") (by decide)).append hmethod
    have hshown := (hfront.before (t := " ") (by decide)).append (.flat hpath)
    exact (hshown.before (t := " — ") (by decide)).append (.flat (hdetail e failed detail htext))
  | internalError =>
    rintro m (hm : some _ = some m)
    obtain rfl := Option.some.inj hm
    exact ((hmethod.after (t := "500 ") (by decide)).before (t := " ") (by decide)).append (.flat hpath)

/-- **These lines have every character of the path**, whether it is flat or not. -/
theorem ShowsRequest.path_subset (h : ShowsRequest b w request inbox r) :
    ∀ m ∈ r.message, request.path.toList ⊆ m.toList := by
  intro m hm c hc
  cases h with
  | @httpError e _ =>
    obtain ⟨status, detail, -, -, rfl⟩ := exists_of_line? hm
    simp only [String.toList_append, List.mem_append, hc, true_or, or_true]
  | internalError =>
    obtain rfl := Option.some.inj hm
    simp only [String.toList_append, List.mem_append, hc, or_true]

end

/-! ## Serving -/

/-- What holds while a request is served: the application is as it was, and records of a kind were added to the
log. -/
def World.Adding (app : App) (base : Log) (R : LogRecord → Prop) (w : World U) : Prop :=
  w.app = app ∧ base.Adds R w.env.log

theorem World.Adding.noting {app : App} {base : Log} {R : LogRecord → Prop} {w : World U} (h : w.Adding app base R)
    {logger : Logger} {severity : Severity} {message : Option String} (hr : R ⟨logger, severity, message⟩) :
    (w.noting logger severity message).Adding app base R :=
  ⟨h.1, h.2.trans (Log.adds_append hr _)⟩

section

variable {b : Behaviour U} {A R : LogRecord → Prop} (hb : b.Logs (Log.Adds A)) (hA : ∀ r, A r → R r) (app : App)
  (base : Log)

include hb hA

/-- The functions of an application add their own records to what is there. -/
theorem Behaviour.Logs.agreeWhere_adding : b.AgreeWhere (World.Adding app base R) b :=
  hb.agreeWhere (Q := fun app' l => app' = app ∧ base.Adds R l)
    fun _ _ _ h hstep => ⟨h.1, h.2.trans (hstep.mono hA)⟩

/-- **Step lemma**: the router adds records that are composed. -/
theorem Act.preserves_dispatch_adding {method : String} (hR : ∀ r, r.IsComposed (app.OwnText method) → R r)
    (request : Request) : Act.Preserves (World.Adding app base R) (dispatch b request) := by
  have hfunctions := hb.agreeWhere_adding hA app base
  refine Act.agree_dispatch hfunctions (fun {w r h} hw hentered hwrapped request => ?_) request
  rw [hw.1] at hentered
  refine Act.agree_serve hfunctions (fun hv hremark => ?_) (fun hv _ => hv) request
  exact hv.noting (hR _ (hremark.isComposed fun text => .handler hentered hwrapped))

end

section

variable {b : Behaviour U} {A : LogRecord → Prop} {w : World U}

/-- Freezing an application gives it no new texts. -/
theorem App.OwnText.of_freeze {app : App} {method text : String} (h : app.freeze.OwnText method text) :
    app.OwnText method text := by
  have hhooks : app.freeze.responseHooks = app.responseHooks := by
    rw [App.freeze]
    split <;> rfl
  cases h with
  | method => exact .method
  | handler entered wrapped own => exact .handler ((App.enters_freeze _ _).mp entered) wrapped own
  | hook registered shown => exact .hook (hhooks ▸ registered) shown

theorem LogRecord.IsComposed.mono {own own' : String → Prop} {r : LogRecord} (h : r.IsComposed own)
    (hown : ∀ text, own text → own' text) : r.IsComposed own' := fun m hm => (h m hm).mono hown

/-- **Run lemma**: all that a request adds to the log, from its arrival to its last hook. -/
theorem serveRequest_leaves (hb : b.Logs (Log.Adds A)) (request : Request) (inbox : Inbox) (w : World U) :
    w.env.log.Adds
      (fun r => A r ∨ r.IsComposed (w.app.OwnText request.method) ∨ ShowsRequest b w request inbox r)
      (outcome (serveRequest b request inbox) w).2.env.log := by
  let R : LogRecord → Prop := fun r =>
    A r ∨ r.IsComposed (w.app.OwnText request.method) ∨ ShowsRequest b w request inbox r
  let P : World U → Prop := World.Adding w.app.freeze w.env.log R
  have hA : ∀ r, A r → R r := fun r => .inl
  have hcomposed : ∀ r, r.IsComposed (w.app.freeze.OwnText request.method) → R r :=
    fun r hr => .inr (.inl (hr.mono fun _ => App.OwnText.of_freeze))
  have hfunctions : b.AgreeWhere P b := hb.agreeWhere_adding hA _ _
  have hinternal : ∀ {v : World U}, P v → P (v.noting .server .error
      (some ("500 " ++ (w.arriving request).method ++ " " ++ (w.arriving request).path))) :=
    fun hv => hv.noting (.inr (.inr .internalError))
  -- the failure that is answered is the one that the middleware and the router come to
  have hanswer : P (outcome (answerRequest b (w.arriving request)) (w.opened inbox)).2 := by
    have hserve := Act.agree_serveThrough hfunctions (Act.preserves_dispatch_adding hb hA _ _ hcomposed)
      w.app.freeze.middleware (w.arriving request)
    have hopened : P (w.opened inbox) := ⟨rfl, .refl _⟩
    rw [answerRequest, Act.outcome_get_bind]
    refine Act.holds_bind ((Act.agree_attempt hserve).holds hopened) fun r v hr hv => ?_
    cases r with
    | ok value => exact hv
    | error f =>
      have hfailed : served b w request inbox = .error (.failed f) :=
        congrArg Prod.fst (Act.returns_attempt_error.mp hr)
      have hfailure := Act.agree_answerFailure (P := P) (w.opened inbox).app.config.debug.truthy
        (fun hv he => hv.noting (.inr (.inr (.httpError (he ▸ hfailed))))) hinternal
      exact (Act.agree_bind hfailure fun r => Act.agree_pure _).holds hv
  have hsend (answer : Value) := Act.agree_sendAnswer hfunctions (w.opened inbox) answer hinternal
    (fun hv hline => hv.noting (hcomposed _ (isComposed_of_accessRecord hline .method)))
    fun hv hhook => hv.noting (hcomposed _ (isComposed_of_shown fun shown hshown => .hook hhook hshown))
  exact (Act.holds_bind hanswer fun answer v _ hv => (hsend answer).holds hv).2

/-- **Run lemma**: calls that were given up add flat records when they go on. -/
theorem settleAll_leaves (hb : b.Logs (Log.Adds A)) (w : World U) :
    w.env.log.Adds (fun r => A r ∨ r.IsFlat) (outcome (settleAll b) w).2.env.log := by
  have hstart : w.Adding w.app w.env.log fun r => A r ∨ r.IsFlat := ⟨rfl, .refl _⟩
  have hfunctions := hb.agreeWhere_adding (R := fun r => A r ∨ r.IsFlat) (fun r => .inl) w.app w.env.log
  refine ((Act.agree_settleAll hfunctions fun {v f logged} hv hlogged => hv.noting (.inr ?_)).holds hstart).2
  rintro m (hm : some _ = some m)
  obtain rfl := Option.some.inj hm
  rw [String.toList_append]
  exact isFlat_append.mpr ⟨by decide +kernel, isFlat_of_failureForLog hlogged⟩

/-- **Control characters in the log come from the application's own texts**, whatever a request and the exceptions
that it leads to hold, and whatever the threshold: all records that are made for it are put together from these and
from flat texts, but for the lines that show the request as it is. When the path of the request is flat, and the
detail of an HTTP error that comes out of the router, these lines are no exception. What is recorded later, when calls
that were given up go on, is flat. -/
theorem records_are_composed (hb : b.Logs (Log.Adds A)) (w : World U) (request : Request) (inbox : Inbox) :
    w.env.log.Adds
        (fun r => A r ∨ r.IsComposed (w.app.OwnText request.method) ∨ ShowsRequest b w request inbox r)
        (outcome (serveRequest b request inbox) w).2.env.log ∧
      (∀ r, ShowsRequest b w request inbox r → ∀ m ∈ r.message, request.path.toList ⊆ m.toList) ∧
      (IsFlat request.path.toList →
        (∀ e, served b w request inbox = .error (.failed (.http e)) →
          ∀ text, e.detail.text = .ok text → IsFlat text.toList) →
        w.env.log.Adds (fun r => A r ∨ r.IsComposed (w.app.OwnText request.method))
          (outcome (serveRequest b request inbox) w).2.env.log) ∧
      w.env.log.Adds (fun r => A r ∨ r.IsFlat) (outcome (settleAll b) w).2.env.log := by
  have hleaves := serveRequest_leaves hb request inbox w
  refine ⟨hleaves, fun r => ShowsRequest.path_subset, fun hpath hdetail => hleaves.mono fun r hr => ?_,
    settleAll_leaves hb w⟩
  rcases hr with hown | hcomposed | hshows
  · exact .inl hown
  · exact .inr hcomposed
  · exact .inr (hshows.isComposed .method hpath hdetail)

end

/-! ### A line break in an exception, and in a path -/

/-- A failure whose text has a line break. -/
def brokenText : Fault := .raised .runtime [.str "boom\nFAKE"] [] 0

theorem logs_raising (f : Fault) : (raising f).Logs (Log.Adds fun _ => False) where
  handle _ _ _ _ := .refl _
  call _ _ _ _ := .refl _
  resume _ _ := .refl _
  provide _ _ := .refl _
  plugin _ _ _ _ := .finish (.refl _)
  endpoint _ _ _ := .finish (.refl _)
  around _ _ _ := .finish (.refl _)
  hook _ _ _ _ _ := .refl _
  load _ _ := .refl _

/-- A middleware raises this failure: its text is in one line of the log. -/
theorem records_are_composed_guarded :
    (raising brokenText).Logs (Log.Adds fun _ => False) ∧
      (outcome (serveRequest (raising brokenText) { path := "/x" } {}) guarded).2.env.log.records =
        #[⟨.pipeline, .warning, some "Middleware m1 failed: boom FAKE"⟩] ∧
      guarded.env.log.Adds (fun r => False ∨ r.IsComposed (guarded.app.OwnText "GET"))
        (outcome (serveRequest (raising brokenText) { path := "/x" } {}) guarded).2.env.log := by
  refine ⟨logs_raising brokenText, by decide +kernel, ?_⟩
  obtain ⟨-, -, hcomposed, -⟩ := records_are_composed (logs_raising brokenText) guarded { path := "/x" } {}
  refine hcomposed (by decide) fun e he => ?_
  -- the failure is answered behind the router
  have hanswered : (served (raising brokenText) guarded { path := "/x" } {}).toOption.isSome = true := by
    decide +kernel
  rw [he] at hanswered
  cases hanswered

/-- An application without routes, with the log at the level for debugging. -/
def routeless : World Unit := { env := { user := (), log := { level := .int 10 } }, app := {} }

/-- There is no route for a path with a line break, and the record that says so has this line break. -/
theorem path_breaks_line :
    (outcome (serveRequest (raising brokenText) { path := "/a\nFAKE" } {}) routeless).2.env.log.records =
        #[⟨.server, .debug, some "404 GET /a\nFAKE — Not Found"⟩] ∧
      ¬ Composed (routeless.app.OwnText "GET") "404 GET /a\nFAKE — Not Found" := by
  refine ⟨by decide +kernel, fun h => ?_⟩
  obtain ⟨text, hown, hmem⟩ := h.exists_mem (c := '\n') (by decide) (by decide)
  cases hown with
  | method => exact absurd hmem (by decide)
  | handler entered => exact not_enters_empty _ entered
  | hook registered => exact absurd registered List.not_mem_nil

end ServerTree
