import ServerTree.Pipeline.Respond

/-!
# What a middleware's result means

A middleware may return nothing, `false`, a mapping, a node, a composite or a signal. Interpreting its
result gives exactly one signal.
-/

namespace ServerTree

/-- The signal of a node: augmenting, stopping, failing, or none of these. -/
def nodeSignal : Payload Value → Attempt (Signal Value)
  | .augment data => do
    let es ← asEntries data
    return .augment (.mapping es)
  | .halt .none .none => .ok .halt
  | .halt code message => .ok (.fail (code.orElse (.int 500)) (message.orElse (.str "Request halted")))
  | .err code message _ => .ok (.fail (code.orElse (.int 500)) (message.orElse (.str "Error")))
  | _ => .ok .proceed

variable {U : Type}

/-- The signal of a middleware's result. -/
def interpret (call : Expander U) (result : Value) : Expand U (Signal Value) :=
  match result with
  | .signal s => return s
  | .none => return .proceed
  | .bool false => return .halt
  | .element .. => do
    match ← resolve call result with
    | .node p _ => Expand.ofAttempt (nodeSignal p)
    | _ => return .proceed
  | .node p _ => Expand.ofAttempt (nodeSignal p)
  | v =>
    match v.entries? with
    | some es => return .augment (.mapping es)
    | none => return .proceed

end ServerTree
