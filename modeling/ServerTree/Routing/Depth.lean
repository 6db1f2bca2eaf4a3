import ServerTree.Routing.Router

/-!
# How deep routes lie

A search goes one node down for each segment that has an edge, and a listing goes down every edge. Neither
goes further down than a limit: a router whose routes lie deeper refuses to be listed, and refuses the
searches that would get there.

## Main definitions
- `Router.isTooDeepFor`: whether a search would go beyond the limit
- `Router.list`: every registered route
-/

namespace ServerTree

variable {E : Type}

namespace Trie

/-- How many nodes down a search or a listing may go. -/
def maxDepth : Nat := 980

mutual

/-- How many nodes there are on the longest way down. -/
def height : Trie E → Nat
  | .node _ children param _ => 1 + max (heightChildren children) (heightParam param)

/-- The height of the highest child. -/
def heightChildren : List (String × Trie E) → Nat
  | [] => 0
  | (_, t) :: r => max t.height (heightChildren r)

/-- The height of what is behind a parameter edge. -/
def heightParam : Option (String × Converter × Trie E) → Nat
  | none => 0
  | some (_, _, t) => t.height

end

/-- Whether a search comes to a node that is a number of nodes down. -/
def comesTo (method : String) : Nat → List String → Trie E → Bool
  | 0, _, _ => true
  | _ + 1, [], _ => false
  | n + 1, part :: parts, .node _ children param _ =>
    let child := Assoc.get? part children
    let viaChild := child.any fun t => comesTo method n parts t
    let viaParam := param.any fun (_, converter, next) =>
      converter.accepts part && comesTo method n parts next
    let found := child.any fun t => (find (some method) parts [] t).isSome
    viaChild || (!found && viaParam)

end Trie

namespace Router

/-- Whether a search would go further down than it may. -/
def isTooDeepFor (router : Router E) (method path : String) : Bool :=
  router.trie.comesTo method Trie.maxDepth (pathSegments path)

/-- Every registered route, each once. -/
def list (router : Router E) : Except Refusal (List (Route E)) :=
  if Trie.maxDepth < router.trie.height then .error .tooDeep else .ok router.routes

end Router

end ServerTree
