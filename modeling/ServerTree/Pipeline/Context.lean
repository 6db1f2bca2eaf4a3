import ServerTree.Sanitize
import ServerTree.App.World
import ServerTree.Pipeline.Respond
import ServerTree.Value.Attribute
import ServerTree.Value.Order

/-!
# Contexts

A context is a bag of fields that are reachable by name. Copies of a context have fields of their own, but a
list that a field holds is shared by all copies until the field is set again. A field that has the name of
a method of contexts takes the place of the method: it is what gets called.

## Main definitions
- `methodField?`: what stands in the place of a method
- `FieldChange`: what setting an attribute does
- `Slot`, `Contexts`: contexts and the lists that they share
- `ContextCall`, `Contexts.run`: what can be done to contexts
-/

namespace ServerTree

/-- The methods of a context that fields can take the place of. -/
def contextMethods : List String := ["augment", "fork", "get"]

/-- The field that stands in the place of a method. -/
def methodField? {α : Type} (name : String) (fields : List (Value × α)) : Option α :=
  Assoc.get? (.str name) fields

/-- The name of an attribute, which must be a text. -/
def attributeName : Value → Attempt String
  | .str s => .ok s
  | v => refuse (.wrongType ("attribute name must be string, not '" ++ v.typeName ++ "'"))

/-- What setting an attribute of a context does: fields are set, over the old ones or in their place. -/
structure FieldChange where
  replaces : Bool := false
  fields : List (Value × Value)

namespace FieldChange

/-- Setting an attribute. The one that holds the fields replaces them all; those that say what a context is
cannot be set. -/
def ofAttribute (name v : Value) : Attempt FieldChange := do
  match ← attributeName name with
  | "__dict__" =>
    match v with
    | .mapping es => return { replaces := true, fields := es }
    | v => refuse (.wrongType ("__dict__ must be set to a dictionary, not a '" ++ v.typeName ++ "'"))
  | "__class__" =>
    refuse (.wrongType ("__class__ must be set to a class, not '" ++ v.typeName ++ "' object"))
  | "__weakref__" =>
    refuse (.noAttribute "attribute '__weakref__' of 'HandlerContext' objects is not writable")
  | name => return { fields := [(.str name, v)] }

/-- The fields after a change. -/
def apply (c : FieldChange) (fields : List (Value × Value)) : List (Value × Value) :=
  c.fields.foldl (fun fs e => Assoc.set e.1 e.2 fs) (if c.replaces then [] else fields)

end FieldChange

/-- The names of a context, sorted, as it is shown. -/
def showContext (names : List Value) : Attempt String := do
  let sorted ← Value.sorted names
  let texts ← sorted.mapIdxM fun i v =>
    match v with
    | .str s => .ok s
    | v => refuse (.wrongType
        ("sequence item " ++ toString i ++ ": expected str instance, " ++ v.typeName ++ " found"))
  return "HandlerContext(" ++ Text.join ", " texts ++ ")"

/-- The named arguments that a mapping gives. Every key must be a text. -/
def namedArguments (source : Value) : Attempt (List (String × Value)) :=
  match source.entries? with
  | none => refuse (.wrongType ("argument after ** must be a mapping, not " ++ source.typeName))
  | some es =>
    let fields := Value.textFields es
    if fields.length ≠ es.length then refuse (.wrongType "keywords must be strings")
    else .ok fields

/-- The fields that named arguments give a context, which has a name of its own among them. -/
def contextFields (source : Value) : Attempt (List (String × Value)) := do
  let named ← namedArguments source
  if Assoc.has "self" named then refuse (.wrongType "got multiple values for argument 'self'")
  else return named

/-- Warns of the reserved keys of a mapping, which are not merged. -/
def warnReserved {U : Type} (source : Value) : Act U Unit := do
  for key in reservedKeys source do
    Act.log .pipeline .warning (reservedKeyWarning key)

/-! ## Contexts that share lists -/

/-- What a field holds: a value, or a list that may be shared. -/
inductive Slot where
  | plain (v : Value)
  | shared (id : Nat)

/-- A context, or what a function in the place of the method that copies gave instead of one. -/
inductive Bag where
  | fields (slots : List (Value × Slot))
  | other (v : Value)

/-- Contexts and their shared lists. -/
structure Contexts where
  lists : Array (List Value) := #[]
  bags : Array Bag := #[]

/-- What can be done to a context. -/
inductive ContextCall where
  | augment (source : Value)
  | fork (overrides : Value)
  | assign (key v : Value)
  | append (key v : Value)
  | item (key : Value)
  | get (arguments : List Value)
  | has (key : Value)
  | shown

namespace Contexts

/-- Makes a slot of a value. A list becomes one that copies will share. -/
def hold (s : Contexts) (v : Value) : Slot × Contexts :=
  match v with
  | .list xs => (.shared s.lists.size, { s with lists := s.lists.push xs })
  | v => (.plain v, s)

/-- The value of a slot. -/
def read (s : Contexts) : Slot → Value
  | .plain v => v
  | .shared id => .list ((s.lists[id]?).getD [])

/-- The fields that something has as a bag of attributes. -/
def dictionary (v : Value) : Attempt (List (Value × Value)) :=
  match v with
  | .func _ => .ok []
  | .failure (.raised _ _ attributes _) => .ok (attributes.map fun e => (.str e.1, e.2))
  | v => refuse (noAttribute v "__dict__")

/-- The fields of a bag. -/
def fieldsOf (s : Contexts) : Bag → Attempt (List (Value × Value))
  | .fields slots => .ok (slots.map fun e => (e.1, s.read e.2))
  | .other v => dictionary v

/-- The fields of every context, in the order in which the contexts were made. -/
def all (s : Contexts) : Attempt (List (List (Value × Value))) :=
  s.bags.toList.mapM s.fieldsOf

/-- The slots of a context, on which a method of the given name is called. -/
def slots (s : Contexts) (i : Nat) (method : String) : Attempt (List (Value × Slot)) :=
  match s.bags[i]? with
  | some (.fields slots) => .ok slots
  | some (.other v) => refuse (noAttribute v method)
  | none => refuse (.outOfRange "list index out of range")

/-- Changes the slots of a context. -/
def modifySlots (s : Contexts) (i : Nat) (f : List (Value × Slot) → List (Value × Slot)) : Contexts :=
  { s with bags := s.bags.modify i fun b =>
      match b with
      | .fields slots => .fields (f slots)
      | b => b }

/-- Sets a field of a context. -/
def assign (s : Contexts) (i : Nat) (name v : Value) : Contexts :=
  let r := s.hold v
  r.2.modifySlots i (Assoc.set name r.1)

/-- Sets fields of a context in order. -/
def assignAll (s : Contexts) (i : Nat) (fields : List (Value × Value)) : Contexts :=
  fields.foldl (fun s e => s.assign i e.1 e.2) s

/-- Sets an attribute of a context. -/
def change (s : Contexts) (i : Nat) (c : FieldChange) : Contexts :=
  let s := if c.replaces then s.modifySlots i fun _ => [] else s
  s.assignAll i c.fields

/-- A context of its own. -/
def make (s : Contexts) (fields : List (Value × Value)) : Contexts :=
  assignAll { s with bags := s.bags.push (.fields []) } s.bags.size fields

/-- Copies a context and sets fields of the copy. -/
def copy (s : Contexts) (slots : List (Value × Slot)) (overrides : List (String × Value)) : Contexts :=
  assignAll { s with bags := s.bags.push (.fields slots) } s.bags.size
    (overrides.map fun e => (.str e.1, e.2))

/-- Appends to the list that a slot holds. -/
def appendTo (s : Contexts) (slot : Slot) (v : Value) : Attempt Contexts :=
  match slot with
  | .shared id => .ok { s with lists := s.lists.modify id fun xs => xs ++ [v] }
  | .plain other => refuse (noAttribute other "append")

/-- The slot of a field, which must be there. -/
def slotOf (key : Value) (slots : List (Value × Slot)) : Attempt Slot := do
  match ← key.lookUp slots with
  | some slot => return slot
  | none => .error key.missingKey

variable {U : Type}

/-- Calls what stands in the place of a method. -/
def callField (b : Behaviour U) (s : Contexts) (slot : Slot) (arguments : List Value)
    (named : List (String × Value)) : Act U Value := do
  match ← Act.withEnv (b.callValue (s.read slot) arguments named) with
  | .returned v => return v
  | .raised f => Act.fail f
  | .suspended _ => throw .unsettled

/-- Does something to a context: what it gives, and the contexts afterwards. -/
def run (b : Behaviour U) (s : Contexts) (i : Nat) (call : ContextCall) :
    Act U (Value × Contexts) := do
  match call with
  | .augment source => do
    let slots ← Act.ofAttempt (s.slots i "augment")
    match methodField? "augment" slots with
    | some slot => do
      let _ ← callField b s slot [source] []
      return (.none, s)
    | none => do
      warnReserved source
      return (.none, s.assignAll i ((acceptedFields source).map fun e => (.str e.1, e.2)))
  | .fork overrides => do
    let slots ← Act.ofAttempt (s.slots i "fork")
    let named ← Act.ofAttempt (namedArguments overrides)
    match methodField? "fork" slots with
    | some slot => do
      let v ← callField b s slot [] named
      return (.none, { s with bags := s.bags.push (.other v) })
    | none => do
      let _ ← Act.ofAttempt (contextFields overrides)
      match methodField? "__getstate__" slots with
      | some slot => do
        -- what says how a context is copied can be replaced as well
        let state ← callField b s slot [] []
        let copied ← Act.ofAttempt (match state with
          | .none => .ok []
          | state => asEntries state)
        let s := s.make copied
        return (.none, s.assignAll (s.bags.size - 1) (named.map fun e => (.str e.1, e.2)))
      | none => return (.none, s.copy slots named)
  | .assign key v => do
    let change ← Act.ofAttempt (FieldChange.ofAttribute key v)
    let _ ← Act.ofAttempt (s.slots i "__dict__")
    return (.none, s.change i change)
  | .append key v => do
    let slot ← Act.ofAttempt ((s.slots i "__getitem__").bind (slotOf key))
    let s ← Act.ofAttempt (s.appendTo slot v)
    return (.none, s)
  | .item key => do
    let slot ← Act.ofAttempt ((s.slots i "__getitem__").bind (slotOf key))
    return (s.read slot, s)
  | .get arguments => do
    let slots ← Act.ofAttempt (s.slots i "get")
    match methodField? "get" slots with
    | some slot => do
      let v ← callField b s slot arguments []
      return (v, s)
    | none => do
      let found ← Act.ofAttempt ((arguments.headD .none).lookUp slots)
      return ((found.map s.read).getD (arguments.getD 1 .none), s)
  | .has key => do
    let slots ← Act.ofAttempt (s.slots i "__contains__")
    let found ← Act.ofAttempt (key.lookUp slots)
    return (.bool found.isSome, s)
  | .shown => do
    let slots ← Act.ofAttempt (s.slots i "__repr__")
    let shown ← Act.ofAttempt (showContext (slots.map Prod.fst))
    return (.str shown, s)

end Contexts

end ServerTree
