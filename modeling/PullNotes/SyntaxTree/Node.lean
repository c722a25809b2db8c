import PullNotes.Text.Utf8

/-!
# Syntax trees

A node has a kind, the bytes that it spans, its children in order, and marks: whether it is named
(punctuation is not), whether it stands for something that the source lacks, and whether there is a
syntax error at or below it.  Two of its children may be marked as the key and the value of a
property.
-/

namespace PullNotes

/-- A place in a source: row and column from zero, the column counted in bytes. -/
structure Point where
  row : Nat
  column : Nat
deriving DecidableEq, Repr

/-- A node of a syntax tree, with the tree below it. -/
inductive Node where
  | mk (kind : String) (bytes : Bytes) (children : List Node) (named missing faulty : Bool)
    (start : Point) (keyIndex valueIndex : Option Nat)

namespace Node

instance : Inhabited Node := ⟨mk "" [] [] false false false ⟨0, 0⟩ none none⟩

/-- The kind of a node. -/
def kind : Node → String
  | mk k _ _ _ _ _ _ _ _ => k

/-- The bytes that a node spans. -/
def bytes : Node → Bytes
  | mk _ b _ _ _ _ _ _ _ => b

/-- The children of a node, in order. -/
def children : Node → List Node
  | mk _ _ cs _ _ _ _ _ _ => cs

/-- Whether a node is more than punctuation. -/
def isNamed : Node → Bool
  | mk _ _ _ n _ _ _ _ _ => n

/-- Whether a node stands for something that the source lacks. -/
def isMissing : Node → Bool
  | mk _ _ _ _ m _ _ _ _ => m

/-- Whether a node is marked as having an error at or below it. -/
def hasError : Node → Bool
  | mk _ _ _ _ _ f _ _ _ => f

/-- Where a node starts. -/
def start : Node → Point
  | mk _ _ _ _ _ _ p _ _ => p

/-- The child that is marked as the key. -/
def keyChild? : Node → Option Node
  | mk _ _ cs _ _ _ _ k _ => k.bind (cs[·]?)

/-- The child that is marked as the value. -/
def valueChild? : Node → Option Node
  | mk _ _ cs _ _ _ _ _ v => v.bind (cs[·]?)

/-- The text that a node spans, a replacement character standing for what is not UTF-8. -/
def text (n : Node) : Text := Utf8.readForgiving n.bytes

/-- The kind of nodes that hold what fits no rule. -/
def errorKind : String := "ERROR"

/-- Whether a node is itself an error: of the error kind, or missing. -/
def isError (n : Node) : Bool := n.kind == errorKind || n.isMissing

/-! ### Kinds -/

/-- The kind of nodes that are a key and a value in an object. -/
def pairKind : String := "pair"

/-- The kind of string literals. -/
def stringKind : String := "string"

/-- The kinds of function expressions; arrow functions and methods are none of them. -/
def functionKinds : List String := ["function_expression", "function", "generator_function"]

/-- Whether a node is a function expression. -/
def isFunction (n : Node) : Bool := functionKinds.contains n.kind

end Node

end PullNotes
