import ServerTree.Node.Resolve
import ServerTree.Node.Build
import ServerTree.Http.Wire

/-!
# Response trees

A handler may return a tree of response nodes. Its leaves are taken in order: the last status and the
last body count, headers are merged key by key, and an error sets both status and body.

## Main definitions
- `Descriptor`, `Descriptor.applyLeaf`: what the leaves add up to
- `describeResponse`: folds a tree
- `Descriptor.response`: the HTTP response
- `isResponseNode`
-/

namespace ServerTree

/-- What a response tree says. -/
structure Descriptor where
  status : Value := .int 200
  headers : List (Value × Value) := []
  body : Value := .none
  isError : Bool := false

instance : Inhabited Descriptor := ⟨{}⟩

/-- The element at a position of a row of pairs, as an entry. Its key must be able to be one. -/
def asEntry (position : Nat) (v : Value) : Attempt (Value × Value) :=
  match v.iterate with
  | .ok [a, b] => a.asKey.map fun k => (k, b)
  | .ok xs => refuse (.notAPair position xs.length)
  | .error _ =>
    refuse (.wrongType ("cannot convert dictionary update sequence element #" ++ toString position ++
      " to a sequence"))

/-- The elements of a row of pairs, as entries; `position` is that of the first. -/
def asEntriesFrom (position : Nat) : List Value → Attempt (List (Value × Value))
  | [] => .ok []
  | v :: vs => do
    let e ← asEntry position v
    let es ← asEntriesFrom (position + 1) vs
    return e :: es

/-- A value as the entries of a mapping: a mapping, or a row of pairs. -/
def asEntries (v : Value) : Attempt (List (Value × Value)) :=
  match v.entries? with
  | some es => .ok es
  | none => do
    let xs ← v.iterate
    let es ← asEntriesFrom 0 xs
    return Assoc.ofList es

/-- Takes one leaf into account. Kinds that say nothing about a response change nothing. -/
def Descriptor.applyLeaf (d : Descriptor) : Payload Value → Attempt Descriptor
  | .status code => .ok { d with status := code }
  | .body data => .ok { d with body := data }
  | .headers h => do
    let es ← asEntries h
    return { d with headers := Assoc.update d.headers es }
  | .err code message details =>
    let fields := [("error", message)] ++
      (match details with
        | .none => []
        | v => [("details", v)])
    .ok { d with status := code, body := .ofFields fields, isError := true }
  | _ => .ok d

variable {U : Type}

/-- A possible failure as a computation. -/
def Expand.ofAttempt {α : Type} (a : Attempt α) : Expand U α :=
  match a with
  | .ok x => pure x
  | .error e => throw e

mutual

/-- Takes a tree into account. The fuel bounds the nesting. -/
def applyTree (call : Expander U) : Nat → Value → Descriptor → Expand U Descriptor
  | 0, _, _ => throw (.refused .tooDeep)
  | fuel + 1, v, d => do
    match ← resolve call v with
    | .nothing => return d
    | .items xs => applyTrees call fuel xs d
    | .node .response cs => applyTrees call fuel cs d
    | .node p _ => Expand.ofAttempt (d.applyLeaf p)
termination_by fuel => (fuel, 0)

/-- Takes a row of trees into account, in order. -/
def applyTrees (call : Expander U) (fuel : Nat) : List Value → Descriptor → Expand U Descriptor
  | [], d => return d
  | v :: vs, d => do
    let d ← applyTree call fuel v d
    applyTrees call fuel vs d
termination_by vs => (fuel, vs.length + 1)

end

/-- Folds a response tree. -/
def describeResponse (call : Expander U) (v : Value) : Expand U Descriptor :=
  applyTree call nestingLimit v {}

/-- The headers apart from content types, and the first content type. -/
def splitContentType : List (Value × Value) → Attempt (List (Value × Value) × Option Value)
  | [] => .ok ([], none)
  | (k, v) :: r => do
    let name ← k.inSmallLetters
    let (headers, contentType) ← splitContentType r
    if name == .str "content-type" then return (headers, some v)
    else return ((k, v) :: headers, contentType)

/-- What a body is sent as, and its usual content type. Texts and bytes are sent as they are. -/
def Value.asContent (body : Value) : Attempt (Value × String) :=
  match body with
  | .none => .ok (.str "", textContentType)
  | .str _ | .bytes _ => .ok (body, textContentType)
  | v => do
    let s ← Json.write v
    return (.str s, jsonContentType)

/-- The response of a descriptor. A content type among the headers wins over the usual one. -/
def Descriptor.response (d : Descriptor) : Attempt (Response Value) := do
  let (headers, contentType) ← splitContentType d.headers
  let (content, usual) ← d.body.asContent
  let headers ← headerTexts headers
  return ⟨content, d.status, (contentType.getD .none).orElse (.str usual), headers⟩

/-- Whether a value is a node of a response kind. -/
def isResponseLeaf : Value → Bool
  | .node p _ => p.kind.isResponse
  | _ => false

/-- Whether a handler's result is a response tree. -/
def isResponseNode : Value → Bool
  | .node p _ => p.kind.isResponse
  | .element .. => true
  | .list xs | .tuple xs => !xs.isEmpty && xs.all isResponseLeaf
  | _ => false

end ServerTree
