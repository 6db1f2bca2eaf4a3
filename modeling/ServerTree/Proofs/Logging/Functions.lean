import ServerTree.Proofs.Serving.Invariants

/-!
# What functions do to the log

Functions of an application get at the log like at all that they can reach. What each of them does to it at each of
its steps says what serving and walking leave of it: they keep whatever these steps and the records of the library
keep. A log that is always in the same state where functions look at it might as well be put in their way.

## Main definitions
- `Behaviour.Logs`: functions change the log by steps of a relation
- `Behaviour.shown`: functions that are shown something else

## Main statements
- `Behaviour.Logs.agreeWhere_shown`: while requests are served, functions may be shown what they reach anyway
- `Behaviour.Logs.keptByVisits`: a walk keeps what the steps and records keep
-/

namespace ServerTree

variable {U : Type}

/-! ## Steps -/

/-- An engine function that starts with a log changes it by steps of a relation, from wherever it goes on. -/
inductive Course.Logs (S : Log → Log → Prop) : Log → Course U → Prop where
  | finish {l : Log} {env : Env U} {result : Attempt Value} (left : S l env.log) : Logs S l (.finish env result)
  | next {l : Log} {env : Env U} {request : Request} {resume : Env U → Attempt Value → Course U}
      (left : S l env.log) (resumes : ∀ e r, Logs S e.log (resume e r)) : Logs S l (.next env request resume)
  | readBody {l : Log} {env : Env U} {request : Request} {resume : Env U → Attempt Bytes → Course U}
      (left : S l env.log) (resumes : ∀ e r, Logs S e.log (resume e r)) : Logs S l (.readBody env request resume)

/-- So does a plugin. -/
inductive PluginCourse.Logs (S : Log → Log → Prop) : Log → PluginCourse U → Prop where
  | finish {l : Log} {env : Env U} {result : Attempt Unit} (left : S l env.log) : Logs S l (.finish env result)
  | act {l : Log} {env : Env U} {step : PluginStep} {resume : Env U → Attempt Unit → PluginCourse U}
      (left : S l env.log) (resumes : ∀ e r, Logs S e.log (resume e r)) : Logs S l (.act env step resume)

/-- The functions of an application change the log by steps of a relation, in each of their roles. -/
structure Behaviour.Logs (S : Log → Log → Prop) (b : Behaviour U) : Prop where
  handle : ∀ fn argument reply env, S env.log (b.handle fn argument reply env).env.log
  call : ∀ fn arguments named env, S env.log (b.call fn arguments named env).2.log
  resume : ∀ rest env, S env.log (b.resume rest env).2.log
  provide : ∀ fn env, S env.log (b.provide fn env).2.log
  plugin : ∀ fn options config env, PluginCourse.Logs S env.log (b.plugin fn options config env)
  endpoint : ∀ fn request env, Course.Logs S env.log (b.endpoint fn request env)
  around : ∀ fn request env, Course.Logs S env.log (b.around fn request env)
  hook : ∀ fn request response elapsed env, S env.log (b.hook fn request response elapsed env).2.log
  load : ∀ path env, S env.log (b.load path env).2.log

/-! ## Functions that are shown something else -/

/-- An engine function that is shown something else whenever it goes on. -/
def Course.shown (g : Env U → Env U) : Course U → Course U
  | .finish env result => .finish env result
  | .next env request resume => .next env request fun e r => (resume (g e) r).shown g
  | .readBody env request resume => .readBody env request fun e r => (resume (g e) r).shown g

/-- A plugin that is. -/
def PluginCourse.shown (g : Env U → Env U) : PluginCourse U → PluginCourse U
  | .finish env result => .finish env result
  | .act env step resume => .act env step fun e r => (resume (g e) r).shown g

/-- The same functions, which are shown something else than what application code can reach, in each of their
roles. -/
def Behaviour.shown (b : Behaviour U) (g : Env U → Env U) : Behaviour U where
  expand := b.expand
  handle fn argument reply env := b.handle fn argument reply (g env)
  call fn arguments named env := b.call fn arguments named (g env)
  resume rest env := b.resume rest (g env)
  provide fn env := b.provide fn (g env)
  plugin fn options config env := (b.plugin fn options config (g env)).shown g
  endpoint fn request env := (b.endpoint fn request (g env)).shown g
  around fn request env := (b.around fn request (g env)).shown g
  hook fn request response elapsed env := b.hook fn request response elapsed (g env)
  load path env := b.load path (g env)

section

variable {b : Behaviour U} {S : Log → Log → Prop} {Q : App → Log → Prop}
  (hS : ∀ app l l', Q app l → S l l' → Q app l')

include hS

/-- A function whose steps keep a statement is the same when it is shown what it reaches anyway. -/
theorem Course.Logs.agreeWhere_shown {g : Env U → Env U} (hg : ∀ app env, Q app env.log → g env = env)
    {course : Course U} {l : Log} (h : course.Logs S l) {w : World U} (hl : w.env.log = l) (hw : Q w.app w.env.log) :
    Course.AgreeWhere (fun w => Q w.app w.env.log) w course (course.shown g) := by
  induction h generalizing w with
  | finish left => exact .finish (hS _ _ _ hw (hl ▸ left))
  | @next l env request resume left _ ih =>
    refine .next (hS _ _ _ hw (hl ▸ left)) fun v r hv => ?_
    rw [hg _ _ hv]
    exact ih v.env r rfl hv
  | @readBody l env request resume left _ ih =>
    refine .readBody (hS _ _ _ hw (hl ▸ left)) fun v r hv => ?_
    rw [hg _ _ hv]
    exact ih v.env r rfl hv

/-- While requests are served, functions may be shown what they reach anyway. -/
theorem Behaviour.Logs.agreeWhere_shown (hb : b.Logs S) {g : Env U → Env U}
    (hg : ∀ app env, Q app env.log → g env = env) :
    b.AgreeWhere (fun w => Q w.app w.env.log) (b.shown g) where
  composites h _ := h
  inbox h _ := h
  abandoned h _ := h
  expand := rfl
  handle {w} h fn argument reply := by
    refine ⟨?_, hS _ _ _ h (hb.handle fn argument reply w.env)⟩
    show _ = b.handle fn argument reply (g w.env)
    rw [hg _ _ h]
  call {w} h fn arguments named := by
    refine ⟨?_, hS _ _ _ h (hb.call fn arguments named w.env)⟩
    show _ = b.call fn arguments named (g w.env)
    rw [hg _ _ h]
  resume {w} h rest := by
    refine ⟨?_, hS _ _ _ h (hb.resume rest w.env)⟩
    show _ = b.resume rest (g w.env)
    rw [hg _ _ h]
  endpoint {w} h fn request := by
    show Course.AgreeWhere _ w _ ((b.endpoint fn request (g w.env)).shown g)
    rw [hg _ _ h]
    exact (hb.endpoint fn request w.env).agreeWhere_shown hS hg rfl h
  around {w} h fn request := by
    show Course.AgreeWhere _ w _ ((b.around fn request (g w.env)).shown g)
    rw [hg _ _ h]
    exact (hb.around fn request w.env).agreeWhere_shown hS hg rfl h
  hook {w} h fn request response elapsed := by
    refine ⟨?_, hS _ _ _ h (hb.hook fn request response elapsed w.env)⟩
    show _ = b.hook fn request response elapsed (g w.env)
    rw [hg _ _ h]

end

/-- An engine function that agrees with any agrees with itself. -/
theorem Course.AgreeWhere.left {P : World U → Prop} {w : World U} {course course' : Course U}
    (h : Course.AgreeWhere P w course course') : Course.AgreeWhere P w course course := by
  induction h with
  | finish left => exact .finish left
  | next left _ ih => exact .next left ih
  | readBody left _ ih => exact .readBody left ih

/-- Functions whose steps keep a statement keep it while requests are served. -/
theorem Behaviour.Logs.agreeWhere {b : Behaviour U} {S : Log → Log → Prop} {Q : App → Log → Prop} (hb : b.Logs S)
    (hS : ∀ app l l', Q app l → S l l' → Q app l') : b.AgreeWhere (fun w => Q w.app w.env.log) b :=
  have hid : b.AgreeWhere (fun w => Q w.app w.env.log) (b.shown id) := hb.agreeWhere_shown hS fun _ _ _ => rfl
  { hid with
    expand := rfl
    handle := fun h fn argument reply => ⟨rfl, (hid.handle h fn argument reply).2⟩
    call := fun h fn arguments named => ⟨rfl, (hid.call h fn arguments named).2⟩
    resume := fun h rest => ⟨rfl, (hid.resume h rest).2⟩
    endpoint := fun h fn request => (hid.endpoint h fn request).left
    around := fun h fn request => (hid.around h fn request).left
    hook := fun h fn request response elapsed => ⟨rfl, (hid.hook h fn request response elapsed).2⟩ }

/-! ## Walks -/

section

variable {b : Behaviour U} {S : Log → Log → Prop} {Q : Log → Prop} (hS : ∀ l l', Q l → S l l' → Q l')

include hS

theorem PluginCourse.Logs.keeps {course : PluginCourse U} {l : Log} (h : course.Logs S l) {w : World U}
    (hl : w.env.log = l) (hw : Q w.env.log) : course.Keeps (fun w => Q w.env.log) w := by
  induction h generalizing w with
  | finish left => exact .finish (hS _ _ hw (hl ▸ left))
  | act left _ ih => exact .act (hS _ _ hw (hl ▸ left)) fun v r hv => ih v.env r rfl hv

/-- A node keeps a statement about the log that the steps of functions and the records of the library keep. -/
theorem Behaviour.Logs.keptByVisits (hb : b.Logs S)
    (hrecords : ∀ l, Q l → ∀ logger severity message, Q (l.append logger severity message))
    (c : RouteConfig Value) : World.KeptByVisits b c fun w => Q w.env.log where
  records h := hrecords _ h
  composites h _ := h
  modules h names := hS _ _ h (hb.load names _)
  providers {w} h fn := by
    cases fn with
    | func f => exact hS _ _ h (hb.provide f w.env)
    | _ => exact h
  plugins {w} h fn options := by
    cases fn with
    | func f => exact (hb.plugin f options c w.env).keeps hS rfl h
    | _ => exact .finish h
  route h _ _ _ _ _ := h
  wrapped {_} h _ {_ _ _} _ _ _ _ _ _ := h
  middleware h _ := h
  hook h _ := h

end

end ServerTree
