import ServerTree.Proofs.Assoc
import ServerTree.Proofs.Pipeline.Endings
import ServerTree.Proofs.Pipeline.Likeness
import ServerTree.Proofs.Pipeline.Sights

/-!
# Augmentations that do no harm

The pipeline finds three things in a context under their names: the methods that augment it and that make the
contexts of middleware, and the reply. An augmentation is harmless when it leaves them as they are. Behind
harmless augmentations every stage that lets a request go on is followed by the next one, and a stage that does
not look for what was added cannot tell that anything was: the rest of the request ends as it would without the
augmentation. Any other augmentation makes a difference even to such stages.

## Main definitions
- `lastAccepted`: what an augmentation stores under a name
- `Intact`: fields in which the pipeline finds what is its own
- `Harmless`: augmentations that keep fields intact
- `Behaviour.Overlooks`: functions of stages that do not look for what was added

## Main statements
- `intact_mergeFields_iff`: intact fields stay intact exactly under harmless augmentations
- `runMiddleware_goesOn`, `runChain_goesOn`: the next stage is called behind harmless augmentations
- `harmless_iff_overlooked`: exactly the harmless augmentations make no difference to the rest of a request
-/

namespace ServerTree

variable {U : Type}

/-! ## What is stored -/

/-- What an augmentation stores under a name: the last value that is accepted. -/
def lastAccepted (name : String) (source : Value) : Option Value :=
  Assoc.get? name (acceptedFields source).reverse

theorem get?_set_text {α : Type} (name key : String) (v : α) (fields : List (Value × α)) :
    Assoc.get? (.str name) (Assoc.set (.str key) v fields) =
      if name = key then some v else Assoc.get? (.str name) fields := by
  split
  · next h =>
    subst h
    have hself : (Value.str name == .str name) = true := by rw [Value.beq_str, beq_self_eq_true]
    induction fields with
    | nil => simp [Assoc.set, Assoc.get?, hself]
    | cons e fields ih =>
      by_cases hkey : (e.1 == .str name) = true
      · simp [Assoc.set, Assoc.get?, hkey]
      · simp only [Assoc.set, hkey, Bool.false_eq_true, if_false, Assoc.get?, ih]
  · next h => exact get?_set_text_other h v fields

/-- Of what is stored under one name the last counts. -/
theorem get?_update_text (name : String) (fields : Fields) (entries : List (String × Value)) :
    Assoc.get? (.str name) (Assoc.update fields (entries.map fun e => (.str e.1, e.2))) =
      (Assoc.get? name entries.reverse).or (Assoc.get? (.str name) fields) := by
  induction entries using List.reverseRecOn with
  | nil => rfl
  | append_singleton entries e ih =>
    have hstep : Assoc.update fields ((entries ++ [e]).map fun e => (Value.str e.1, e.2)) =
        Assoc.set (.str e.1) e.2 (Assoc.update fields (entries.map fun e => (.str e.1, e.2))) := by
      simp [Assoc.update]
    rw [hstep, get?_set_text, ih, List.reverse_append]
    show _ = (if (e.1 == name) = true then some e.2 else Assoc.get? name entries.reverse).or _
    by_cases hname : name = e.1
    · simp [hname]
    · simp [hname, Ne.symm hname]

/-- **What is found in merged fields**: what was stored last under a name, or else what was there. -/
theorem methodField?_merged (name : String) (fields : Fields) (source : Value) :
    methodField? name (mergeFields fields source) =
      (lastAccepted name source).or (methodField? name fields) :=
  get?_update_text name fields (acceptedFields source)

theorem methodField?_view (name : String) (m : ScopedMiddleware Value) (fields : Fields) :
    methodField? name (m.view fields) =
      (Assoc.get? name [("config", .config m.config), ("service", m.captured.service)]).or
        (methodField? name fields) :=
  get?_update_text name fields [("service", m.captured.service), ("config", .config m.config)]

/-! ## Intact fields -/

/-- The pipeline finds in fields what is its own: no field has the name of a method that it calls, and the reply
is the reply. -/
structure Intact (fields : Fields) : Prop where
  augment : methodField? "augment" fields = none
  fork : methodField? "fork" fields = none
  reply : methodField? "reply" fields = some .reply

/-- An augmentation stores nothing under the name of a method that the pipeline calls, and nothing but the reply
under that of the reply. -/
structure Harmless (source : Value) : Prop where
  augment : lastAccepted "augment" source = none
  fork : lastAccepted "fork" source = none
  reply : ∀ v, lastAccepted "reply" source = some v → v = .reply

/-- The fields of a new context are intact. -/
theorem intact_coreFields (h : WrappedHandler) (request : Request) (body : Value) (level : Int) :
    Intact (coreFields h request body level) :=
  ⟨rfl, rfl, rfl⟩

/-- **Intact fields stay intact** exactly under harmless augmentations. -/
theorem intact_mergeFields_iff {fields : Fields} (h : Intact fields) (source : Value) :
    Intact (mergeFields fields source) ↔ Harmless source := by
  have hreply : methodField? "reply" (mergeFields fields source) = some .reply ↔
      ∀ v, lastAccepted "reply" source = some v → v = .reply := by
    rw [methodField?_merged, h.reply]
    cases lastAccepted "reply" source with
    | none => simp
    | some v => simp
  constructor
  · intro hmerged
    have haugment := hmerged.augment
    have hfork := hmerged.fork
    rw [methodField?_merged, h.augment, Option.or_none] at haugment
    rw [methodField?_merged, h.fork, Option.or_none] at hfork
    exact ⟨haugment, hfork, hreply.mp hmerged.reply⟩
  · intro hharmless
    refine ⟨?_, ?_, hreply.mpr hharmless.reply⟩
    · rw [methodField?_merged, hharmless.augment, h.augment]
      rfl
    · rw [methodField?_merged, hharmless.fork, h.fork]
      rfl

/-! ## Going on -/

namespace Act

variable (b : Behaviour U)

/-- A warning about reserved keys makes records, and the request goes on. -/
theorem returns_warnReserved (source : Value) (w : World U) :
    ∃ w', Returns (warnReserved source : Act U Unit) w () w' := by
  obtain ⟨w', -, hwarned⟩ :=
    exists_returns_forIn_log .pipeline .warning (reservedKeys source) reservedKeyWarning w
  exact ⟨w', hwarned.bind_iff.mpr (returns_pure.mpr ⟨rfl, rfl⟩)⟩

variable {b}

/-- A request goes on with intact fields from a signal that says so, unless it augments with harm. -/
theorem returns_applySignal_of_harmless {v : Visit} (h : Intact v.fields) {signal : Signal Value}
    (hsignal : signal = .proceed ∨ ∃ source, signal = .augment source ∧ Harmless source) (w : World U) :
    ∃ v' w', Returns (applySignal b v signal) w (.proceed v') w' ∧ Intact v'.fields := by
  rcases hsignal with rfl | ⟨source, rfl, hharmless⟩
  · exact ⟨v, w, returns_pure.mpr ⟨rfl, rfl⟩, h⟩
  · obtain ⟨w', hwarned⟩ := returns_warnReserved source w
    refine ⟨{ v with fields := mergeFields v.fields source }, w', ?_, (intact_mergeFields_iff h source).mpr hharmless⟩
    simp only [applySignal, h.augment]
    rw [hwarned.bind_iff]
    exact returns_pure.mpr ⟨rfl, rfl⟩

variable (b) {timeout : Value}

/-- A function is called as middleware when its time limit makes sense. -/
theorem callMiddleware_called (htimeout : checkTimeout timeout = .ok ()) {m : ScopedMiddleware Value} {fn : Func}
    (hm : m.fn = .func fn) (view : Argument) (reply : Reply) (w : World U) :
    ∃ ended reply' w', Returns (callMiddleware b timeout m view reply) w (ended, reply') w' ∧
      Records World.withCalls (callMiddleware b.recorded timeout m view reply)
        (callMiddleware b timeout m view reply) w [.stage ⟨fn, ended, w'.env.user⟩] := by
  have hcall (b : Behaviour U) : callMiddleware b timeout m view reply = callStage b (.func fn) view reply := by
    simp only [callMiddleware, callWithin, hm, Value.isCallable, if_true, htimeout]
  have hcall' : callMiddleware b.recorded timeout m view reply =
      callStage b.recorded (.func fn) view reply := by
    simp only [callMiddleware, callWithin, hm, Value.isCallable, if_true, htimeout]
  rw [hcall, hcall']
  refine ⟨_, _, _, returns_withEnv.mpr ⟨rfl, rfl⟩, records_withEnv fun calls => ?_⟩
  rfl

/-- **Step lemma**: a middleware is called on a visit whose fields are intact. If it lets the request go on, and
does not augment it with harm, the request goes on with intact fields. -/
theorem runMiddleware_goesOn (htimeout : checkTimeout timeout = .ok ()) {m : ScopedMiddleware Value} {fn : Func}
    (hm : m.fn = .func fn) {v : Visit} (hv : Intact v.fields) (w : World U) :
    ∃ calls s, Records World.withCalls (runMiddleware b.recorded timeout m v) (runMiddleware b timeout m v)
        w calls ∧
      stageCalls calls = [s] ∧
      (s.Continues b → (∀ source ∈ s.augmentations b, Harmless source) →
        ∃ v' w', Returns (runMiddleware b timeout m v) w (.proceed v') w' ∧ Intact v'.fields) := by
  have hview : viewOf b m v = pure (.context (m.view v.fields)) := by simp only [viewOf, hv.fork]
  have hview' : viewOf b.recorded m v = pure (.context (m.view v.fields)) := by simp only [viewOf, hv.fork]
  rw [runMiddleware_eq, runMiddleware_eq, hview, hview', pure_bind, pure_bind]
  obtain ⟨ended, reply, w₁, hcall, hcalled⟩ :=
    callMiddleware_called b htimeout hm (.context (m.view v.fields)) v.reply w
  obtain ⟨rest, hrest, hconcluded⟩ := callsOnly_conclude b timeout m { v with reply := reply } ended w₁
  refine ⟨_, ⟨fn, ended, w₁.env.user⟩, hcalled.bind hcall hconcluded, ?_, ?_⟩
  · rw [stageCalls_append, stageCalls_eq_nil hrest]
    rfl
  · rintro ⟨result, signal, rfl, hsignal, hgoes⟩ hharmless
    have hgoes' : signal = .proceed ∨ ∃ source, signal = .augment source ∧ Harmless source := by
      refine hgoes.imp_right ?_
      rintro ⟨source, rfl⟩
      refine ⟨source, rfl, hharmless source ?_⟩
      have hmade : (outcome (interpret b.expand result) w₁.env.user).1 = .ok (.augment source) := hsignal
      simp [StageCall.augmentations, hmade]
    obtain ⟨v', w', happlied, hintact⟩ := returns_applySignal_of_harmless (b := b)
      (v := { v with reply := reply }) hv hgoes'
      { w₁ with env := { w₁.env with user := (outcome (interpret b.expand result) w₁.env.user).2 } }
    refine ⟨v', w', ?_, hintact⟩
    rw [hcall.bind_iff, conclude, (returns_expand.mpr ⟨hsignal, rfl⟩).bind_iff]
    exact happlied

end Act

/-- Behind every call of a row after which the next stage runs, when no call so far has augmented with harm,
another call follows, unless something else comes. -/
def GoesOn (b : Behaviour U) (calls : List (StageCall U)) (comes : Prop) : Prop :=
  ∀ before s after, calls = before ++ s :: after → s.Continues b →
    (∀ source ∈ augmentations b (before ++ [s]), Harmless source) → after ≠ [] ∨ comes

theorem goesOn_nil {b : Behaviour U} {comes : Prop} : GoesOn b [] comes := by
  intro before s after hsplit
  simp at hsplit

theorem GoesOn.mono {b : Behaviour U} {calls : List (StageCall U)} {comes comes' : Prop}
    (h : GoesOn b calls comes) (hcomes : comes → comes') : GoesOn b calls comes' :=
  fun before s after hsplit hcontinues hharmless =>
    (h before s after hsplit hcontinues hharmless).imp_right hcomes

/-- A first call, when another one follows it. -/
theorem GoesOn.cons {b : Behaviour U} {s : StageCall U} {calls : List (StageCall U)} {comes : Prop}
    (hrest : (∀ source ∈ s.augmentations b, Harmless source) → GoesOn b calls comes)
    (hfirst : s.Continues b → (∀ source ∈ s.augmentations b, Harmless source) → calls ≠ [] ∨ comes) :
    GoesOn b (s :: calls) comes := by
  intro before s' after hsplit hcontinues hharmless
  have hmem : ∀ s'' ∈ before ++ [s'], ∀ source ∈ s''.augmentations b, Harmless source :=
    fun s'' hs source hsource => hharmless source (List.mem_flatMap.mpr ⟨s'', hs, hsource⟩)
  cases before with
  | nil =>
    obtain ⟨rfl, rfl⟩ := List.cons.inj hsplit
    exact hfirst hcontinues (hmem s (by simp))
  | cons first before =>
    obtain ⟨rfl, htail⟩ := List.cons.inj hsplit
    refine hrest (hmem s (by simp)) before s' after htail hcontinues fun source hsource => ?_
    obtain ⟨s'', hs, hsource⟩ := List.mem_flatMap.mp hsource
    exact hmem s'' (List.mem_cons_of_mem _ hs) source hsource

namespace Act

variable (b : Behaviour U) {timeout : Value}

/-- A middleware that a request comes through has let it go on. -/
theorem continues_of_proceed {m : ScopedMiddleware Value} {v v' : Visit} {w w' : World U}
    {called : List (Call U)} {s : StageCall U}
    (hrecords : Records World.withCalls (runMiddleware b.recorded timeout m v) (runMiddleware b timeout m v) w called)
    (hcalled : stageCalls called = [s]) (hrun : Returns (runMiddleware b timeout m v) w (.proceed v') w') :
    s.Continues b := by
  obtain ⟨called', hrecords', -, hpassed⟩ := runMiddleware_records b timeout m v w
  obtain rfl := hrecords'.unique hrecords
  exact (hpassed v' w' hrun).continues s (by simp [hcalled])

/-- **Run lemma**: behind every middleware of a chain that lets the request go on, when nothing was augmented
with harm so far, the next one is called, or the request comes through. -/
theorem runChain_goesOn (htimeout : checkTimeout timeout = .ok ()) {ms : List (ScopedMiddleware Value)}
    (hms : ∀ m ∈ ms, ∃ fn, m.fn = .func fn) {v : Visit} (hv : Intact v.fields) (w : World U) :
    ∃ calls, Records World.withCalls (runChain b.recorded timeout ms v) (runChain b timeout ms v) w calls ∧
      (stageCalls calls = [] → ms = []) ∧
      GoesOn b (stageCalls calls) (∃ v' w', Returns (runChain b timeout ms v) w (.proceed v') w') := by
  induction ms generalizing v w with
  | nil => exact ⟨[], records_pure _ w, fun _ => rfl, goesOn_nil⟩
  | cons m ms ih =>
    obtain ⟨fn, hm⟩ := hms m (List.mem_cons_self ..)
    have hms' : ∀ m' ∈ ms, ∃ fn, m'.fn = .func fn := fun m' hm' => hms m' (List.mem_cons_of_mem _ hm')
    obtain ⟨called, first, hrecords, hfirst, hgoes⟩ := runMiddleware_goesOn b htimeout hm hv w
    have hcalled : stageCalls called ≠ [] := by rw [hfirst]; exact List.cons_ne_nil _ _
    rw [runChain, runChain]
    cases hrun : outcome (runMiddleware b timeout m v) w with
    | mk r w₁ =>
      -- a chain that ends here does so because its first middleware does not let the request go on
      have hends {comes : Prop} (hother : ∀ v', r ≠ .ok (.proceed v')) :
          GoesOn b (stageCalls called) comes := by
        rw [hfirst]
        refine GoesOn.cons (fun _ => goesOn_nil) ?_
        intro hcontinues hharmless
        obtain ⟨v', w', hreturns, -⟩ := hgoes hcontinues hharmless
        exact absurd (congrArg Prod.fst (hrun.symm.trans hreturns)) (hother v')
      cases r with
      | error e =>
        exact ⟨called, hrecords.bind_stop hrun, fun hnone => absurd hnone hcalled, hends fun _ h => by cases h⟩
      | ok p =>
        cases p with
        | answered answer =>
          refine ⟨called ++ [], hrecords.bind hrun (records_pure _ w₁), ?_, ?_⟩
          · rw [List.append_nil]
            exact fun hnone => absurd hnone hcalled
          · rw [List.append_nil]
            exact hends fun _ h => by cases h
        | proceed v₁ =>
          have hsplit : ∀ rest, stageCalls (called ++ rest) = first :: stageCalls rest := fun rest => by
            rw [stageCalls_append, hfirst, List.singleton_append]
          by_cases hharmless : ∀ source ∈ first.augmentations b, Harmless source
          · have hcontinues := continues_of_proceed b hrecords hfirst hrun
            obtain ⟨v', w', hreturns, hintact⟩ := hgoes hcontinues hharmless
            obtain ⟨rfl, rfl⟩ : v' = v₁ ∧ w' = w₁ := by
              have hsame := hreturns.symm.trans hrun
              cases hsame
              exact ⟨rfl, rfl⟩
            obtain ⟨rest, hrest, hnone, hrestgoes⟩ := ih hms' hintact w'
            refine ⟨called ++ rest, hrecords.bind hrun hrest, fun h => ?_, ?_⟩
            · rw [hsplit] at h
              cases h
            · rw [hsplit]
              refine GoesOn.cons (fun _ => hrestgoes.mono ?_) fun _ _ => ?_
              · rintro ⟨v₂, w₂, hcomes⟩
                exact ⟨v₂, w₂, (Returns.bind_iff hrun).mpr hcomes⟩
              · -- when nothing more is called there is no more middleware
                rw [or_iff_not_imp_left, not_not]
                intro hlast
                obtain rfl := hnone hlast
                exact ⟨v', w', (Returns.bind_iff hrun).mpr (returns_pure.mpr ⟨rfl, rfl⟩)⟩
          · -- what an augmentation with harm leads to is not looked at
            obtain ⟨rest, hrest, -, -⟩ := runChain_records b timeout ms v₁ w₁
            refine ⟨called ++ rest, hrecords.bind hrun hrest, fun h => ?_, ?_⟩
            · rw [hsplit] at h
              cases h
            · rw [hsplit]
              exact GoesOn.cons (fun h => absurd h hharmless) fun _ h => absurd h hharmless

/-- A handler that is a function is called. -/
theorem runHandler_called {h : WrappedHandler} {fn : Func} (hh : h.handler = .func fn) (v : Visit) (w : World U) :
    ∃ calls s, Records World.withCalls (runHandler b.recorded h v) (runHandler b h v) w calls ∧
      stageCalls calls = [s] := by
  rw [runHandler_eq, runHandler_eq, hh]
  let r := b.handle fn (.context v.fields) v.reply w.env
  have hcall : Returns (callStage b (.func fn) (.context v.fields) v.reply) w (r.outcome, r.reply)
      { w with env := r.env } := returns_withEnv.mpr ⟨rfl, rfl⟩
  have hcalled : Records World.withCalls (callStage b.recorded (.func fn) (.context v.fields) v.reply)
      (callStage b (.func fn) (.context v.fields) v.reply) w [.stage ⟨fn, r.outcome, r.env.user⟩] :=
    records_withEnv fun calls => rfl
  obtain ⟨rest, hrest, hconcluded⟩ := callsOnly_concludeHandler b h r.reply r.outcome { w with env := r.env }
  refine ⟨_, ⟨fn, r.outcome, r.env.user⟩, hcalled.bind hcall hconcluded, ?_⟩
  rw [stageCalls_append, stageCalls_eq_nil hrest]
  rfl

end Act

/-- All stages of an endpoint can be called: they are functions, and the time limit of its middleware makes
sense. -/
structure WrappedHandler.Invocable (h : WrappedHandler) : Prop where
  middleware : ∀ m ∈ h.config.middleware, ∃ fn, m.fn = .func fn
  handler : ∃ fn, h.handler = .func fn
  timeout : checkTimeout h.timeout = .ok ()

open Act

/-- The stages of a request go on behind each middleware that lets it go on, up to the handler. -/
theorem runStages_goesOn (b : Behaviour U) {h : WrappedHandler} (hh : h.Invocable) (request : Request)
    (body : Value) (level : Int) (w : World U) :
    ∃ calls, Records World.withCalls (h.runStages b.recorded request body level)
        (h.runStages b request body level) w calls ∧
      ∀ before s after, stageCalls calls = before ++ s :: after →
        before.length < h.config.middleware.length → s.Continues b →
        (∀ source ∈ augmentations b (before ++ [s]), Harmless source) → after ≠ [] := by
  have hcore := intact_coreFields h request body level
  obtain ⟨called, hrecords, -, hgoes⟩ := runChain_goesOn b hh.timeout hh.middleware
    (v := ⟨coreFields h request body level, {}⟩) hcore w
  by_cases hproceeds : ∃ v w₁, Returns (runChain b h.timeout h.config.middleware
      ⟨coreFields h request body level, {}⟩) w (.proceed v) w₁
  · -- the handler was called behind all of the middleware
    obtain ⟨v, w₁, hrun⟩ := hproceeds
    obtain ⟨fn, hfn⟩ := hh.handler
    obtain ⟨rest, last, hrest, hlast⟩ := runHandler_called b hfn v w₁
    have hcount : (stageCalls called).length = h.config.middleware.length := by
      obtain ⟨called', hrecords', -, hpassed⟩ := runChain_records b h.timeout h.config.middleware
        ⟨coreFields h request body level, {}⟩ w
      obtain rfl := hrecords'.unique hrecords
      simpa using congrArg List.length (hpassed v w₁ hrun).inOrder
    refine ⟨called ++ rest, hrecords.runStages_of_proceed hrun hrest, fun before s after hsplit hlt _ _ hnil => ?_⟩
    have hlength := congrArg List.length hsplit
    rw [stageCalls_append, hlast, hnil] at hlength
    simp only [List.length_append, List.length_cons, List.length_nil] at hlength
    omega
  · have hstop := fun v w₁ hrun => hproceeds ⟨v, w₁, hrun⟩
    refine ⟨called, hrecords.runStages_of_stop hstop, fun before s after hsplit _ hcontinues hharmless => ?_⟩
    exact (hgoes before s after hsplit hcontinues hharmless).resolve_right hproceeds

/-- **Behind harmless augmentations** a request goes on: when a middleware lets it go on, and nothing was
augmented with harm so far, the next stage is called. -/
theorem serve_goesOn (b : Behaviour U) {h : WrappedHandler} (hh : h.Invocable) (request : Request) (w : World U) :
    ∃ calls, Records World.withCalls (h.serve b.recorded request) (h.serve b request) w calls ∧
      ∀ before s after, stageCalls calls = before ++ s :: after →
        before.length < h.config.middleware.length → s.Continues b →
        (∀ source ∈ augmentations b (before ++ [s]), Harmless source) →
        ∃ next rest, after = next :: rest ∧ h.stages[before.length + 1]? = some (.func next.fn) := by
  obtain ⟨calls, hrecords, hstaged⟩ := serve_staged b h request w
  refine ⟨calls, hrecords, fun before s after hsplit hlt hcontinues hharmless => ?_⟩
  have hnext : after ≠ [] := by
    rcases serve_cases b h request w with hnothing | ⟨w₁, body, w₂, -, -, hserve⟩
    · obtain rfl := hrecords.unique hnothing
      simp [stageCalls] at hsplit
    · obtain ⟨calls', hcalls', hgoes⟩ := runStages_goesOn b hh request body w₂.env.log.effective w₂
      obtain rfl := hrecords.unique (hserve calls' hcalls')
      exact hgoes before s after hsplit hlt hcontinues hharmless
  obtain ⟨next, rest, rfl⟩ := List.exists_cons_of_ne_nil hnext
  obtain ⟨others, hstages⟩ := hstaged.inOrder
  refine ⟨next, rest, rfl, ?_⟩
  rw [← hstages, hsplit]
  simp

/-! ## Stages that do not look for what was added -/

/-- Two rows of fields hold the same under all names but those of an augmentation; under that of the reply as
well. -/
def SameBeside (source : Value) (f f' : Fields) : Prop :=
  ∀ name, name = "reply" ∨ lastAccepted name source = none → methodField? name f = methodField? name f'

/-- Functions of stages do not look for what an augmentation adds: they do the same on contexts that hold the
same beside it. -/
def Behaviour.Overlooks (b : Behaviour U) (source : Value) : Prop :=
  ∀ (fn : Func) (f f' : Fields) (reply : Reply) (env : Env U), SameBeside source f f' →
    let r := b.handle fn (.context f) reply env
    let r' := b.handle fn (.context f') reply env
    r.outcome = r'.outcome ∧ r.reply = r'.reply ∧ r.env = r'.env

/-- A harmless augmentation changes nothing beside what it adds. -/
theorem sameBeside_mergeFields {source : Value} (hs : Harmless source) {fields : Fields} (h : Intact fields) :
    SameBeside source (mergeFields fields source) fields := by
  intro name hname
  rw [methodField?_merged]
  rcases hname with rfl | hnone
  · cases hreply : lastAccepted "reply" source with
    | none => rfl
    | some v =>
      rw [hs.reply v hreply, h.reply]
      rfl
  · rw [hnone]
    rfl

/-- Neither the pipeline nor such functions tell fields apart that are the same beside a harmless
augmentation. -/
theorem indistinct_sameBeside {b : Behaviour U} {source : Value} (hb : b.Overlooks source)
    (hs : Harmless source) : Indistinct b (SameBeside source) where
  augment h := h "augment" (.inr hs.augment)
  fork h := h "fork" (.inr hs.fork)
  reply h := h "reply" (.inl rfl)
  merge source' h name hname := by rw [methodField?_merged, methodField?_merged, h name hname]
  view m h name hname := by rw [methodField?_view, methodField?_view, h name hname]
  handle fn reply env h := hb fn _ _ reply env h

/-- What follows the middleware of a request comes to the same as well. -/
theorem alike_finish {P : App → Inbox → Inbox → Prop} {V : Fields → Fields → Prop} {b : Behaviour U}
    (hV : Indistinct b V) (h : WrappedHandler) {p p' : Progress} (hp : Progress.Like V p p') :
    Alike (World.Like P) Eq (finish b h p) (finish b h p') := by
  cases hp with
  | answered answer => exact alike_pure rfl
  | proceed reply hf => exact (alike_runHandler hV hf h reply).bind_eq fun r => alike_pure rfl

/-! ## Augmentations that do harm -/

/-- Stages that return one value, a handler that returns nothing, and functions in the place of methods that
fail. -/
def Behaviour.returning (result : Value) : Behaviour Unit where
  __ := Behaviour.idle
  handle fn argument reply env := ⟨.returned (if fn.name = "handler" then .none else result), argument, reply, env⟩
  call _ _ _ env := (.raised (.refused .tooDeep), env)

/-- One middleware. -/
def guard : ScopedMiddleware Value := ⟨.func ⟨"guard", 0, false⟩, .empty⟩

/-- A handler behind it. -/
def behindGuard : WrappedHandler where
  handler := .func ⟨"handler", 1, false⟩
  config := ⟨.empty, [guard]⟩
  timeout := .none
  route := "GET /x"
  logger := ⟨"GET /x", none⟩
  number := 0

/-- What stands in the place of a method fails when it is called. -/
theorem not_returns_callInPlace (result fn : Value) (arguments : List Value) (named : List (String × Value))
    {w w' : World Unit} {v : Value} :
    ¬ Returns (callInPlace (.returning result) fn arguments named) w v w' := by
  intro h
  obtain ⟨ended, w₁, hcall, hrest⟩ := returns_bind.mp h
  obtain ⟨f, rfl⟩ : ∃ f, ended = .raised f := by
    rw [← (returns_withEnv.mp hcall).1]
    cases fn <;> exact ⟨_, rfl⟩
  exact returns_fail hrest

/-- When the middleware comes through, nothing stands in the place of the method that makes its context, and the
signal of its result is applied. -/
theorem applied_of_returns_guard {result : Value} {v : Visit} {w w' : World Unit} {p : Progress}
    (h : Returns (runMiddleware (.returning result) .none guard v) w p w') :
    methodField? "fork" v.fields = none ∧ ∃ signal w₁,
      (outcome (interpret Behaviour.idle.expand result) ()).1 = .ok signal ∧
      Returns (applySignal (.returning result) v signal) w₁ p w' := by
  rw [runMiddleware_eq] at h
  obtain ⟨view, w₁, hview, hrest⟩ := returns_bind.mp h
  constructor
  · cases hfork : methodField? "fork" v.fields with
    | none => rfl
    | some fn =>
      simp only [viewOf, hfork] at hview
      obtain ⟨_, _, hcall, -⟩ := returns_bind.mp hview
      exact absurd hcall (not_returns_callInPlace result fn _ _)
  · obtain ⟨r, w₂, hcall, hconclude⟩ := returns_bind.mp hrest
    have hreturned : (Settled.returned result, v.reply) = r := (returns_withEnv.mp hcall).1
    subst hreturned
    obtain ⟨signal, w₃, hsignal, happly⟩ := returns_bind.mp hconclude
    exact ⟨signal, w₃, (returns_expand.mp hsignal).1, happly⟩

/-- What is answered in the place of a reply that is none is an empty response. -/
theorem empty_of_returns_haltedAnswer {result other : Value} {v : Visit} {w w' : World Unit} {answer : Value}
    (hother : methodField? "reply" v.fields = some other) (hne : other ≠ .reply)
    (h : Returns (haltedAnswer (.returning result) v) w answer w') : answer = .response .empty := by
  have hlookup : Assoc.get? (.str "reply") v.fields = some other := hother
  have hempty (h : Returns (do
      let sent ← ofAttempt (other.part "sent")
      if sent.truthy then
        let fn ← ofAttempt (other.part "to_response")
        callInPlace (.returning result) fn [] []
      else return Value.response .empty) w answer w') : answer = .response .empty := by
    obtain ⟨sent, _, -, hrest⟩ := returns_bind.mp h
    split at hrest
    · obtain ⟨fn, _, -, hcall⟩ := returns_bind.mp hrest
      exact absurd hcall (not_returns_callInPlace result fn _ _)
    · exact (returns_pure.mp hrest).1.symm
  simp only [haltedAnswer, hlookup] at h
  cases other with
  | reply => exact absurd rfl hne
  | _ => exact hempty h

/-- The rest of a request behind an augmentation: the middleware and the handler. -/
def guardedRun (result : Value) (v : Visit) : Act Unit Value :=
  runChain (.returning result) .none [guard] v >>= finish (.returning result) behindGuard

theorem returns_guard_of_run {result : Value} {v : Visit} {w w' : World Unit} {answer : Value}
    (h : Returns (guardedRun result v) w answer w') :
    ∃ p w₁, Returns (runMiddleware (.returning result) .none guard v) w p w₁ ∧
      ∀ response, p = .answered response → answer = response := by
  obtain ⟨p, w₁, hchain, hfinish⟩ := returns_bind.mp h
  rw [runChain] at hchain
  obtain ⟨p', w₂, hrun, hrest⟩ := returns_bind.mp hchain
  refine ⟨p', w₂, hrun, ?_⟩
  rintro response rfl
  obtain ⟨rfl, rfl⟩ := returns_pure.mp hrest
  exact (returns_pure.mp hfinish).1.symm

/-- The fields that the middleware finds. -/
def guardedFields : Fields := coreFields behindGuard {} .none 0

theorem intact_guardedFields : Intact guardedFields := intact_coreFields behindGuard {} .none 0

/-- With an augmentation the run comes to what it comes to without, whatever the middleware returns and whatever
the reply is so far. -/
def GuardedAlike (source : Value) : Prop :=
  ∀ (result : Value) (reply : Reply) (answer : Value) (w' : World Unit),
    Returns (guardedRun result ⟨guardedFields, reply⟩) { env := { user := () } } answer w' →
      Returns (guardedRun result ⟨mergeFields guardedFields source, reply⟩) { env := { user := () } } answer w'

/-- The names of methods are free: a middleware that augments is called, and its result is merged. -/
theorem GuardedAlike.methods {source : Value} (h : GuardedAlike source) :
    lastAccepted "fork" source = none ∧ lastAccepted "augment" source = none := by
  obtain ⟨answer, w', hplain⟩ : ∃ answer w', Returns (guardedRun (.mapping []) ⟨guardedFields, {}⟩)
      { env := { user := () } } answer w' := ⟨_, _, rfl⟩
  obtain ⟨p, w₁, hrun, -⟩ := returns_guard_of_run (h _ _ _ _ hplain)
  obtain ⟨hfork, signal, w₂, hsignal, happly⟩ := applied_of_returns_guard hrun
  obtain rfl : .augment (.mapping []) = signal := Except.ok.inj hsignal
  rw [methodField?_merged, intact_guardedFields.fork, Option.or_none] at hfork
  refine ⟨hfork, ?_⟩
  cases haugment : lastAccepted "augment" source with
  | none => rfl
  | some fn =>
    have hreplaced : methodField? "augment" (mergeFields guardedFields source) = some fn := by
      rw [methodField?_merged, haugment]
      rfl
    -- what stands in its place would be called, and would fail
    simp only [applySignal, hreplaced] at happly
    obtain ⟨_, _, hcall, -⟩ := returns_bind.mp happly
    exact absurd hcall (not_returns_callInPlace _ fn _ _)

/-- The name of the reply is free: a middleware that halts behind a reply that was sent gives this reply. -/
theorem GuardedAlike.reply {source other : Value} (h : GuardedAlike source)
    (hother : lastAccepted "reply" source = some other) : other = .reply := by
  by_contra hne
  obtain ⟨response, w', hplain, hstatus⟩ : ∃ response w', Returns (guardedRun (.bool false)
      ⟨guardedFields, { status := .int 201, sent := true }⟩) { env := { user := () } }
      (.response response) w' ∧ response.status = .int 201 := ⟨_, _, rfl, rfl⟩
  obtain ⟨p, w₁, hrun, hanswer⟩ := returns_guard_of_run (h _ _ _ _ hplain)
  obtain ⟨-, signal, w₂, hsignal, happly⟩ := applied_of_returns_guard hrun
  obtain rfl : .halt = signal := Except.ok.inj hsignal
  obtain ⟨answer, w₃, hhalted, hrest⟩ := returns_bind.mp happly
  have hreplaced : methodField? "reply" (mergeFields guardedFields source) = some other := by
    rw [methodField?_merged, hother]
    rfl
  obtain rfl : .response .empty = answer := (empty_of_returns_haltedAnswer hreplaced hne hhalted).symm
  have hempty : Value.response response = .response .empty := hanswer _ (returns_pure.mp hrest).1.symm
  rw [Value.response.inj hempty] at hstatus
  cases hstatus

/-- **Exactly the harmless augmentations make no difference** to stages that do not look for what was added:
from any intact fields on, all further middleware and the handler come to the same with the augmentation as
without it. -/
theorem harmless_iff_overlooked (source : Value) :
    Harmless source ↔ ∀ (U : Type) (b : Behaviour U), b.Overlooks source →
      ∀ (h : WrappedHandler) (timeout : Value) (ms : List (ScopedMiddleware Value)) (v : Visit) (w : World U),
        Intact v.fields →
        outcome (runChain b timeout ms { v with fields := mergeFields v.fields source } >>= finish b h) w =
          outcome (runChain b timeout ms v >>= finish b h) w := by
  constructor
  · intro hs U b hb h timeout ms v w hv
    have hV := indistinct_sameBeside hb hs
    refine outcome_eq_of_alike (P := fun _ i j => i = j) (fun _ _ _ hsame => hsame) ?_ rfl
    exact (alike_runChain hV (sameBeside_mergeFields hs hv) timeout ms v.reply).bind fun p p' hp =>
      alike_finish hV h hp
  · intro hsame
    have hguarded : GuardedAlike source := fun result reply answer w' hreturns =>
      (hsame Unit (.returning result) (fun _ _ _ _ _ _ => ⟨rfl, rfl, rfl⟩) behindGuard .none [guard]
        ⟨guardedFields, reply⟩ { env := { user := () } } intact_guardedFields).trans hreturns
    exact ⟨hguarded.methods.2, hguarded.methods.1, fun other => hguarded.reply⟩

/-! ## Requests -/

/-- An augmentation under other names than the three is harmless. -/
theorem harmless_of_names {source : Value}
    (h : ∀ e ∈ acceptedFields source, e.1 ∉ ["augment", "fork", "reply"]) : Harmless source := by
  have hnone (name : String) (hname : name ∈ ["augment", "fork", "reply"]) : lastAccepted name source = none := by
    cases hlast : lastAccepted name source with
    | none => rfl
    | some v => exact absurd hname (h _ (List.mem_reverse.mp (Assoc.mem_of_get? hlast)))
  refine ⟨hnone _ (by simp), hnone _ (by simp), fun v hv => ?_⟩
  rw [hnone _ (by simp)] at hv
  cases hv

/-- **Augmentations go on exactly when they are harmless.** Behind a middleware that lets a request go on, the
next stage is called as long as nothing was augmented with harm. An augmentation is harmless when it stores
nothing under the names of the methods that the pipeline calls on a context, nor anything but the reply under
that of the reply. Then, and only then, what comes later is as it would be without it, wherever stages do not
look for what was added: a halt, an augmentation, a reply and whatever else. -/
theorem augmentations_go_on {U : Type} (b : Behaviour U) (h : WrappedHandler) (request : Request) (w : World U)
    (source : Value) :
    (h.Invocable →
      ∃ calls, Records World.withCalls (h.serve b.recorded request) (h.serve b request) w calls ∧
        ∀ (before : List (StageCall U)) (s : StageCall U) (after : List (StageCall U)),
          stageCalls calls = before ++ s :: after → before.length < h.config.middleware.length →
          s.Continues b → (∀ given ∈ augmentations b (before ++ [s]), Harmless given) →
          ∃ next rest, after = next :: rest ∧ h.stages[before.length + 1]? = some (.func next.fn)) ∧
    ((∀ e ∈ acceptedFields source, e.1 ∉ ["augment", "fork", "reply"]) → Harmless source) ∧
    (Harmless source ↔ ∀ (U : Type) (b : Behaviour U), b.Overlooks source →
      ∀ (h : WrappedHandler) (timeout : Value) (ms : List (ScopedMiddleware Value)) (v : Visit) (w : World U),
        Intact v.fields →
        outcome (runChain b timeout ms { v with fields := mergeFields v.fields source } >>= finish b h) w =
          outcome (runChain b timeout ms v >>= finish b h) w) :=
  ⟨fun hh => serve_goesOn b hh request w, harmless_of_names, harmless_iff_overlooked source⟩

/-- The first middleware augments the context with a text that has the name of the method which makes the contexts
of middleware, and all other stages return nothing. -/
def forking : Behaviour Unit :=
  { Behaviour.idle with
    handle := fun fn argument reply env =>
      let result : Value := if fn.name = "first" then .mapping [(.str "fork", .str "left")] else .none
      ⟨.returned result, argument, reply, env⟩ }

/-- It lets the request go on, but the second middleware is not called. -/
theorem serve_stops_behind_fork :
    replaced.Invocable ∧ ∃ s,
      Records World.withCalls (replaced.serve forking.recorded {}) (replaced.serve forking {})
        { env := { user := () } } [.stage s] ∧
      s.Continues forking ∧ s.augmentations forking = [.mapping [(.str "fork", .str "left")]] ∧
      replaced.stages = [.func s.fn, .func ⟨"second", 3, false⟩, .func ⟨"handler", 1, false⟩] := by
  refine ⟨⟨?_, ⟨_, rfl⟩, rfl⟩, ⟨⟨"first", 2, false⟩, .returned (.mapping [(.str "fork", .str "left")]), ()⟩, ?_, ?_,
    rfl, rfl⟩
  · intro m hm
    have hfns : replaced.config.middleware =
        [⟨.func ⟨"first", 2, false⟩, .empty⟩, ⟨.func ⟨"second", 3, false⟩, .empty⟩] := rfl
    rw [hfns] at hm
    rcases List.mem_cons.mp hm with rfl | hm
    · exact ⟨_, rfl⟩
    · exact ⟨_, congrArg ScopedMiddleware.fn (List.mem_singleton.mp hm)⟩
  · intro calls
    rfl
  · exact ⟨_, .augment (.mapping [(.str "fork", .str "left")]), rfl, rfl, .inr ⟨_, rfl⟩⟩

end ServerTree
