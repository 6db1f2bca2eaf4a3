import ServerTree.Node.Build
import ServerTree.Script.Reads

/-!
# Evaluating expressions

Expressions are evaluated from left to right, each time they are reached. A function expression makes a new
function each time; it remembers the scope that it stands in.
-/

namespace ServerTree.Script

/-- One less than a number. -/
def predecessor : Value → Run Value
  | .int n => return .int (n - 1)
  | .bool b => return .int (if b then 0 else -1)
  | .float x => return .float (x - 1.0)
  | .nan _ => do
    let id ← Run.newObject
    return .nan id
  | v => Run.refuse (.wrongType
      ("unsupported operand type(s) for -: '" ++ v.typeName ++ "' and 'int'"))

/-! ## Failures -/

/-- Which attributes of a failure have a meaning of their own, whatever its other attributes are. -/
def isFixedAttribute (form : ErrorClass) (name : String) : Bool :=
  ["__cause__", "__context__", "__suppress_context__", "__traceback__"].contains name ||
    form = .connection && ["errno", "strerror", "filename", "filename2", "characters_written"].contains name

/-- Sets an attribute of a failure with the given arguments and attributes. The arguments can be replaced,
and so can all attributes that have no meaning of their own. -/
def setAttribute (form : ErrorClass) (made : List Value × List (String × Value)) (name : String)
    (v : Value) : Attempt (List Value × List (String × Value)) :=
  let (arguments, attributes) := made
  let plain : Attempt (List Value × List (String × Value)) :=
    .ok (arguments, Assoc.set name v attributes)
  let mustBe (text : String) : Attempt (List Value × List (String × Value)) := refuse (.wrongType text)
  match name, v with
  | "args", v => v.iterate.map fun xs => (xs, attributes)
  | "__dict__", .mapping es =>
    .ok (arguments, attributes.filter (fun e => isFixedAttribute form e.1) ++ Value.textFields es)
  | "__dict__", v => mustBe ("__dict__ must be set to a dictionary, not a '" ++ v.typeName ++ "'")
  | "__class__", v => mustBe ("__class__ must be set to a class, not '" ++ v.typeName ++ "' object")
  | "__cause__", .none | "__cause__", .failure _ =>
    .ok (arguments, Assoc.set "__suppress_context__" (.bool true) (Assoc.set name v attributes))
  | "__cause__", _ => mustBe "exception cause must be None or derive from BaseException"
  | "__context__", .none | "__context__", .failure _ => plain
  | "__context__", _ => mustBe "exception context must be None or derive from BaseException"
  | "__suppress_context__", .bool _ => plain
  | "__suppress_context__", _ => mustBe "attribute value type must be bool"
  | "__traceback__", .none => plain
  | "__traceback__", _ => mustBe "__traceback__ must be a traceback or None"
  | "__weakref__", _ =>
    if form.isOwn then
      refuse (.noAttribute ("attribute '__weakref__' of '" ++ form.name ++ "' objects is not writable"))
    else plain
  | _, _ => plain

/-- A failure with a number of its own. Its attributes are set in order. -/
def makeFailure (form : ErrorClass) (given : List Value) (attributes : List (String × Value))
    (id : Nat) : Attempt Value := do
  let made ← attributes.foldlM (fun made e => setAttribute form made e.1 e.2) (given, [])
  return .failure (.raised form made.1 made.2 id)

/-! ## Names -/

/-- A tree expression: a call of a composite or of a constructor that is no class, or else a node of a named
class. -/
def makeTree (s : State) (name : String) (props : List (Value × Value)) (children : List Value) :
    Attempt Value :=
  match s.treeFunction? name with
  | some fn => Node.element fn props children
  | none => Node.make name props children

/-- An argument of the composite in whose body an expression stands. -/
def argumentOf (scope : Scope) (name : String) : Attempt Value :=
  match scope.arguments with
  | none => refuse (.wrongType "'NoneType' object is not subscriptable")
  | some arguments =>
    match Assoc.get? name arguments with
    | some v => .ok v
    | none => .error (Value.str name).missingKey

/-- The value of a variable of a module. -/
def variableOf (s : State) (scope : Scope) (name : String) : Attempt Value :=
  match (scope.module?.bind fun id => s.namespaces[id]?).bind (Assoc.get? name) with
  | some v => .ok v
  | none => .error (Value.str name).missingKey

mutual

/-- Evaluates an expression. -/
def eval : Expr → Run Value
  | .literal v => return v
  | .notANumber => do
    let id ← Run.newObject
    return .nan id
  | .object text => do
    let id ← Run.newObject
    return .object text id
  | .list xs => do
    let vs ← evalAll xs
    return .list vs
  | .tuple xs => do
    let vs ← evalAll xs
    return .tuple vs
  | .mapping es => do
    let vs ← evalEntries es
    return .ofEntries vs
  | .node name fields => do
    let vs ← evalFields fields
    Run.ofAttempt (Node.ofFields name vs)
  | .tree name props children => do
    let ps ← evalEntries props
    let cs ← evalAll children
    let frame ← get
    Run.ofAttempt (makeTree frame.env.user name (Assoc.ofList ps) cs)
  | .fragment children => do
    let cs ← evalAll children
    return .list (flattenChildren cs)
  | .plugin handler name options children => do
    let h ← eval handler
    let n ← eval name
    let os ← evalEntries options
    let cs ← evalOption children
    Run.ofAttempt (Node.plugin h n (Assoc.ofList os) cs)
  | .composite name => do
    let frame ← get
    match frame.env.user.compositeFunction? name with
    | some fn => return fn
    | none => throw (Value.str name).missingKey
  | .function name body isAsync => do
    let frame ← get
    Run.define name (.function body isAsync { module? := frame.scope.module? })
  | .response body status contentType headers => do
    let b ← eval body
    let s ← eval status
    let t ← eval contentType
    let hs ← evalPairs headers
    return .response ⟨b, s, t, hs⟩
  | .augment fields => do
    let v ← eval fields
    return .signal (.augment v)
  | .halted status message => do
    let s ← eval status
    let m ← eval message
    return .signal (.fail s m)
  | .failure form arguments attributes => do
    let vs ← evalAll arguments
    let id ← Run.newObject
    let as ← evalFields attributes
    Run.ofAttempt (makeFailure form vs as id)
  | .argument name => do
    let frame ← get
    Run.ofAttempt (argumentOf frame.scope name)
  | .pred e => do
    let v ← eval e
    predecessor v
  | .variable name => do
    let frame ← get
    Run.ofAttempt (variableOf frame.env.user frame.scope name)
  | .read what key fallback => do
    let k ← eval key
    let f ← eval fallback
    let frame ← get
    frame.caller.read what k f

/-- Evaluates expressions in order. -/
def evalAll : List Expr → Run (List Value)
  | [] => return []
  | e :: es => do
    let v ← eval e
    let vs ← evalAll es
    return v :: vs

/-- Evaluates an expression that may be missing. -/
def evalOption : Option Expr → Run (Option Value)
  | none => return none
  | some e => do
    let v ← eval e
    return some v

/-- Evaluates named expressions in order. -/
def evalFields : List (String × Expr) → Run (List (String × Value))
  | [] => return []
  | (k, e) :: es => do
    let v ← eval e
    let vs ← evalFields es
    return (k, v) :: vs

/-- Evaluates entries in order. Each key must be able to be one. -/
def evalEntries : List (Expr × Expr) → Run (List (Value × Value))
  | [] => return []
  | (k, e) :: es => do
    let key ← eval k
    let v ← eval e
    let key ← Run.ofAttempt key.asKey
    let vs ← evalEntries es
    return (key, v) :: vs

/-- Evaluates pairs in order. -/
def evalPairs : List (Expr × Expr) → Run (List (Value × Value))
  | [] => return []
  | (a, e) :: es => do
    let x ← eval a
    let v ← eval e
    let vs ← evalPairs es
    return (x, v) :: vs

end

/-- Evaluates a value that must be a failure. -/
def evalFailure (e : Expr) : Run Fault := do
  match ← eval e with
  | .failure f => return f
  | _ => Run.refuse (.wrongType "exceptions must derive from BaseException")

/-- Runs a computation outside of any call. -/
def atTop {α : Type} (calls : Calls) (x : Run α) (env : Env State) : Attempt α × Env State :=
  let r := x.run { env := env, calls := calls }
  (r.1, r.2.env)

end ServerTree.Script
