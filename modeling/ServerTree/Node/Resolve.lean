import ServerTree.Value.Equality

/-!
# Expanding composites

A composite is a function that returns a node. Resolving a value expands composites until a node, a row
of siblings or nothing is left. The children of a composite go to the node that it ends in, when that has
none. A composite that keeps returning composites is refused after `maxExpansions` calls.

Calls are made by an `Expander`, which may keep a state of type `U`.

## Main definitions
- `Expander`, `Expand`: calls of composites
- `Resolved`, `resolve`
-/

namespace ServerTree

/-- A computation that calls application code with state `U` and may fail. -/
abbrev Expand (U : Type) : Type → Type := ExceptT Fault (StateM U)

/-- Calls a composite with properties and, when it accepts them, children. -/
abbrev Expander (U : Type) : Type :=
  Func → List (String × Value) → Option (List Value) → Expand U Value

/-- What a value stands for in a tree. -/
inductive Resolved where
  | node (payload : Payload Value) (children : List Value)
  | items (xs : List Value)
  | nothing

/-- The resolved value as a value. -/
def Resolved.toValue : Resolved → Value
  | .node p cs => .node p cs
  | .items xs => .list xs
  | .nothing => .none

/-- Gives children to a node that has none. -/
def Resolved.adopt (children : List Value) : Resolved → Resolved
  | .node p [] => .node p children
  | r => r

/-- How many calls a composite may take to expand. -/
def maxExpansions : Nat := 100

variable {U : Type}

/-- Calls the function of a composite. Every property must be named by a text. -/
def callComposite (call : Expander U) (type : Value) (props : List (Value × Value))
    (children : List Value) : Expand U Value :=
  match type with
  | .func f =>
    let named := Value.textFields props
    if named.length = props.length then
      call f named (if f.takesChildren then some children else none)
    else throw (.refused (.wrongType "keywords must be strings"))
  | v => throw (.refused (notCallable v))

/-- Expands a value with at most the given number of calls. -/
def resolveWithin (call : Expander U) : Nat → Value → Expand U Resolved
  | _, .node p cs => return .node p cs
  | _, .list xs => return .items xs
  | _, .tuple xs => return .items xs
  | 0, .element type _ _ =>
    throw (.refused (.endlessComposite type.functionName maxExpansions))
  | n + 1, .element type props children => do
    let v ← callComposite call type props children
    let r ← resolveWithin call n v
    return r.adopt children
  | _, _ => return .nothing

/-- Expands a value. -/
def resolve (call : Expander U) (v : Value) : Expand U Resolved :=
  resolveWithin call maxExpansions v

/-- How deep trees may be nested: lists, and most nodes, are one step deeper than what they stand in. -/
def nestingLimit : Nat := 960

end ServerTree
