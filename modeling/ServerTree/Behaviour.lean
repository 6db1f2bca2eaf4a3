import ServerTree.Log
import ServerTree.Pipeline.Reply
import ServerTree.Pipeline.Signal
import ServerTree.Http.Body

/-!
# What application code does

Functions of the application are values that only carry a name and a number. A `Behaviour` says what they
do when they are called, in each of the roles that a function can have. Functions that call back are
described by their course: a tree that says what they ask for and how they go on with each answer. All
of application code shares a state of a type `U` of its own, next to the clock and the log.

## Main definitions
- `Env`: what application code can reach
- `Settled`, `ScopedResult`: calls of handlers and scoped middleware
- `Course`: calls of engine functions
- `PluginCourse`: calls of plugins
- `Behaviour`: what every function does
-/

namespace ServerTree

/-- The fields of a handler context, in order. They are named by texts, unless application code put
other keys in their place. -/
abbrev Fields : Type := List (Value × Value)

/-- What a handler or scoped middleware is called with: a context, or what application code put in its
place. -/
inductive Argument where
  | context (fields : Fields)
  | value (v : Value)

/-- What application code can reach: its own state, the clock in seconds and the log. -/
structure Env (U : Type) where
  user : U
  clock : Float := 0.0
  log : Log := {}

variable {U : Type}

/-- Makes a record. -/
def Env.emit (e : Env U) (logger : Logger) (severity : Severity) (message : String) : Env U :=
  { e with log := e.log.emit logger severity message }

/-- How a call ends: with a value, with a failure, or not within its time. What is left to do is known by
a number. -/
inductive Settled where
  | returned (v : Value)
  | raised (f : Fault)
  | suspended (rest : Nat)

/-- The end of a call of a handler or scoped middleware: its argument and the reply as it left them. -/
structure ScopedResult (U : Type) where
  outcome : Settled
  argument : Argument
  reply : Reply
  env : Env U

/-- What an engine function does. -/
inductive Course (U : Type) where
  /-- It returns or fails. -/
  | finish (env : Env U) (result : Attempt Value)
  /-- It passes a request on and goes on with the result. -/
  | next (env : Env U) (request : Request) (resume : Env U → Attempt Value → Course U)
  /-- It reads the body of a request. -/
  | readBody (env : Env U) (request : Request) (resume : Env U → Attempt Bytes → Course U)

/-- What a plugin may do to the application. -/
inductive PluginStep where
  | route (method path endpoint name : Value)
  | middleware (use : Value)
  | onResponse (hook : Value)

/-- What a plugin does. -/
inductive PluginCourse (U : Type) where
  | finish (env : Env U) (result : Attempt Unit)
  | act (env : Env U) (step : PluginStep) (resume : Env U → Attempt Unit → PluginCourse U)

/-- The names that a module binds. -/
abbrev Exports : Type := List (String × Value)

/-- What the functions of an application do in each of their roles. -/
structure Behaviour (U : Type) where
  /-- A composite: called with properties and, if it accepts them, children. -/
  expand : Expander U
  /-- A handler or a scoped middleware: called with its context. -/
  handle : Func → Argument → Reply → Env U → ScopedResult U
  /-- A function in the place of a method: called with arguments and named arguments. -/
  call : Func → List Value → List (String × Value) → Env U → Settled × Env U
  /-- A suspended call goes on. -/
  resume : Nat → Env U → Settled × Env U
  /-- A provider, or a hook of startup or shutdown: called without arguments. -/
  provide : Func → Env U → Settled × Env U
  /-- A plugin: called with its options and the configuration in effect. -/
  plugin : Func → List (Value × Value) → RouteConfig Value → Env U → PluginCourse U
  /-- An endpoint of the engine: called with a request. -/
  endpoint : Func → Request → Env U → Course U
  /-- A middleware of the engine: called with a request and what it may pass it on to. -/
  around : Func → Request → Env U → Course U
  /-- A response hook: called with the request, the response and the elapsed milliseconds. -/
  hook : Func → Request → Value → Float → Env U → Attempt Unit × Env U
  /-- A module: loaded from its path. -/
  load : List String → Env U → Attempt Exports × Env U

namespace Behaviour

/-- Calls a handler or a scoped middleware. -/
def callScoped (b : Behaviour U) (fn : Value) (argument : Argument) (reply : Reply) (env : Env U) :
    ScopedResult U :=
  match fn with
  | .func f => b.handle f argument reply env
  | v => ⟨.raised (.refused (notCallable v)), argument, reply, env⟩

/-- Calls a value with arguments and named arguments. -/
def callValue (b : Behaviour U) (fn : Value) (arguments : List Value) (named : List (String × Value))
    (env : Env U) : Settled × Env U :=
  match fn with
  | .func f => b.call f arguments named env
  | v => (.raised (.refused (notCallable v)), env)

/-- Calls a provider or a hook without arguments. -/
def callProvide (b : Behaviour U) (fn : Value) (env : Env U) : Settled × Env U :=
  match fn with
  | .func f => b.provide f env
  | v => (.raised (.refused (notCallable v)), env)

/-- Calls a plugin. -/
def callPlugin (b : Behaviour U) (fn : Value) (options : List (Value × Value))
    (config : RouteConfig Value) (env : Env U) : PluginCourse U :=
  match fn with
  | .func f => b.plugin f options config env
  | v => .finish env (refuse (notCallable v))

/-- Calls an endpoint of the engine. -/
def callEndpoint (b : Behaviour U) (fn : Value) (request : Request) (env : Env U) : Course U :=
  match fn with
  | .func f => b.endpoint f request env
  | v => .finish env (refuse (notCallable v))

/-- Calls a middleware of the engine. -/
def callAround (b : Behaviour U) (fn : Value) (request : Request) (env : Env U) : Course U :=
  match fn with
  | .func f => b.around f request env
  | v => .finish env (refuse (notCallable v))

/-- Calls a response hook. -/
def callHook (b : Behaviour U) (fn : Value) (request : Request) (response : Value)
    (elapsed : Float) (env : Env U) : Attempt Unit × Env U :=
  match fn with
  | .func f => b.hook f request response elapsed env
  | v => (refuse (notCallable v), env)

end Behaviour

end ServerTree
