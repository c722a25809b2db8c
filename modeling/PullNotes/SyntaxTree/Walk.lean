import PullNotes.SyntaxTree.Node

/-!
# Walking a syntax tree

A walk keeps a stack of nodes: a step takes the top node and puts its children in its place, the
first child on top.  The nodes of a tree in this order are its pre-order, and the search for the
first error is the same walk, cut below the nodes that have no error.
-/

namespace PullNotes

namespace Node

/-! ### The pre-order by recursion -/

mutual

/-- A node and all nodes below it, each before what is below it. -/
def preorder : Node → List Node
  | mk k b cs n m f p kc vc => mk k b cs n m f p kc vc :: preorderAll cs

/-- The nodes of several trees, one tree after another. -/
def preorderAll : List Node → List Node
  | [] => []
  | n :: ns => preorder n ++ preorderAll ns

end

mutual

/-- The number of nodes of a tree. -/
def size : Node → Nat
  | mk _ _ cs _ _ _ _ _ _ => sizeAll cs + 1

/-- The number of nodes of several trees. -/
def sizeAll : List Node → Nat
  | [] => 0
  | n :: ns => size n + sizeAll ns

end

end Node

/-! ### The walk with a stack -/

namespace Walk

/-- A step of a walk: the top node of the stack, and the stack after it. -/
def step : List Node → Option (Node × List Node)
  | [] => none
  | n :: stack => some (n, n.children ++ stack)

/-- The nodes that a number of steps yields. -/
def run : Nat → List Node → List Node
  | 0, _ => []
  | k + 1, stack =>
    match step stack with
    | none => []
    | some (n, stack) => n :: run k stack

/-- A step of the search for an error: the children of a node without an error are left out. -/
def searchStep (n : Node) (stack : List Node) : List Node :=
  if n.hasError then n.children ++ stack else stack

/-- The first error node that a number of steps of the search meets. -/
def search : Nat → List Node → Option Node
  | 0, _ => none
  | _ + 1, [] => none
  | k + 1, n :: stack => if n.isError then some n else search k (searchStep n stack)

end Walk

namespace Node

/-- The nodes of a tree in the order of the walk. -/
def walk (root : Node) : List Node := Walk.run root.size [root]

/-- The place of the first error of a tree, or of its root if the search meets none. -/
def firstErrorPoint (root : Node) : Point :=
  match Walk.search root.size [root] with
  | some n => n.start
  | none => root.start

end Node

end PullNotes
