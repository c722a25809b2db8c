import Mathlib.Data.List.Forall2
import PullNotes.Source.Document

/-!
# Objects in a grammar

What is proved of bare objects holds for every parser of which a few facts are known.  The facts are
about its grammar: which texts are keys, values and expressions and what their trees are, that an
object of keys and values is an expression, that an expression may stand in parentheses, and in
which ways a source can be taken that is an object alone.

* `ObjectGrammar` : keys, values and expressions, with their trees.
* `ObjectGrammar.ObjectText`, `ObjectGrammar.BareObject` : objects, and sources that are an object
alone.
* `ObjectGrammar.BareObject.Reading` : such a source is an object, or a block with a labelled
statement.
* `Parser.Follows` : the facts about a parser.
-/

namespace PullNotes

/-! ### Trees -/

namespace Node

mutual

/-- A tree without its places. -/
def unplaced : Node → Node
  | mk k b cs n m f _ kc vc => mk k b (unplacedAll cs) n m f ⟨0, 0⟩ kc vc

/-- Several trees without their places. -/
def unplacedAll : List Node → List Node
  | [] => []
  | n :: ns => unplaced n :: unplacedAll ns

end

theorem unplacedAll_eq_map (ns : List Node) : unplacedAll ns = ns.map unplaced := by
  induction ns with
  | nil => rfl
  | cons n ns ih => rw [unplacedAll, ih, List.map_cons]

@[simp] theorem kind_unplaced (n : Node) : n.unplaced.kind = n.kind := by
  cases n
  rfl

@[simp] theorem hasError_unplaced (n : Node) : n.unplaced.hasError = n.hasError := by
  cases n
  rfl

/-- A node over some others: of a kind, with these as its children, and faulty only where they
are. -/
structure IsOver (n : Node) (kind : String) (children : List Node) : Prop where
  kind_eq : n.kind = kind
  children_eq : n.children = children
  hasError_eq : n.hasError = children.any hasError

/-- A token: nothing is below it, and it is not faulty. -/
abbrev IsToken (n : Node) (kind : String) : Prop := n.IsOver kind []

end Node

/-! ### Texts -/

namespace Source

/-- White space between tokens. -/
def Blank (cs : List Char) : Prop := ∀ c ∈ cs, Lexeme.isSpace c = true

instance (cs : List Char) : Decidable (Blank cs) :=
  decidable_of_iff (cs.all Lexeme.isSpace = true) List.all_eq_true

/-- Blanks between tokens, or none. -/
abbrev Blanks := { ws : List Char // Blank ws }

end Source

open Source (Blanks)

/-- What a grammar says about objects in each dialect: the texts of some kinds, each with its tree,
places aside. -/
structure ObjectGrammar where
  /-- Keys of properties. -/
  key : Dialect → List Char → Node → Prop
  /-- Values of properties. -/
  value : Dialect → List Char → Node → Prop
  /-- Expressions, wherever one may stand. -/
  expression : Dialect → List Char → Node → Prop

namespace ObjectGrammar

variable (g : ObjectGrammar) (d : Dialect)

/-- A key that is a name or a string literal. -/
structure Key where
  text : List Char
  tree : Node
  isKey : g.key d text tree
  isNameOrString : tree.kind = "property_identifier" ∨ tree.kind = Node.stringKind

/-- A value that is a string literal or a function expression. -/
structure Value where
  text : List Char
  tree : Node
  isValue : g.value d text tree
  isStringOrFunction : tree.kind = Node.stringKind ∨ tree.isFunction = true

/-- A property: a key, a colon and a value, and blanks between them. -/
structure PropertyText where
  key : g.Key d
  beforeColon : Blanks
  afterColon : Blanks
  value : g.Value d

/-- A further property, with the comma before it. -/
structure ItemText where
  beforeComma : Blanks
  afterComma : Blanks
  property : g.PropertyText d

/-- An object: one property or more in braces, with commas between them and perhaps one after the
last, and blanks anywhere between the tokens. -/
structure ObjectText where
  front : Blanks
  initial : g.PropertyText d
  more : List (g.ItemText d)
  /-- The blanks before the last comma, if there is one. -/
  trailing : Option Blanks
  back : Blanks

/-- A source that is an object alone, with blanks around it; those in front also count as white
space of a text. -/
structure BareObject where
  front : Blanks
  isTrimmed : ∀ c ∈ front.1, (CodePoint.ofChar c).isBlank = true
  object : g.ObjectText d
  back : Blanks

variable {g d}

namespace PropertyText

variable (p : g.PropertyText d)

/-- The characters of a property from its colon on, with the blanks in front. -/
def rest : List Char := p.beforeColon.1 ++ ':' :: (p.afterColon.1 ++ p.value.text)

/-- The characters of a property. -/
def text : List Char := p.key.text ++ p.rest

/-- The tree of a property: a pair of its key and its value. -/
structure IsTree (n : Node) : Prop where
  isOver : ∃ colon, n.IsOver Node.pairKind [p.key.tree, colon, p.value.tree] ∧ colon.IsToken ":"
  keyChild_eq : n.keyChild? = some p.key.tree
  valueChild_eq : n.valueChild? = some p.value.tree

end PropertyText

/-- The characters of a further property, with the comma and the blanks before it. -/
def ItemText.text (i : g.ItemText d) : List Char :=
  i.beforeComma.1 ++ ',' :: (i.afterComma.1 ++ i.property.text)

/-- The characters of the last comma, with the blanks before it. -/
def trailingText : Option Blanks → List Char
  | none => []
  | some ws => ws.1 ++ [',']

/-- The characters of the further properties and of the last comma. -/
def itemsText (items : List (g.ItemText d)) (trailing : Option Blanks) : List Char :=
  items.flatMap ItemText.text ++ trailingText trailing

namespace ObjectText

variable (o : g.ObjectText d)

/-- What follows the first property, up to the closing brace. -/
def items : List Char := itemsText o.more o.trailing

/-- The characters of an object. -/
def text : List Char :=
  '\x7b' :: (o.front.1 ++ (o.initial.text ++ (o.items ++ (o.back.1 ++ ['\x7d']))))

/-- The properties, in order. -/
def properties : List (g.PropertyText d) := o.initial :: o.more.map ItemText.property

/-- The tree of an object: without an error, over its text, and its pairs are the properties. -/
structure IsTree (n : Node) : Prop where
  kind_eq : n.kind = "object"
  hasError_eq : n.hasError = false
  bytes_eq : n.bytes = Utf8.writeChars o.text
  pairs : List.Forall₂ PropertyText.IsTree o.properties
    (n.children.filter fun c => c.kind == Node.pairKind)

end ObjectText

namespace BareObject

variable (b : g.BareObject d)

/-- The characters of a source that is an object alone. -/
def text : List Char := b.front.1 ++ (b.object.text ++ b.back.1)

/-- How a source can be taken that is an object alone, with the number of labels around the values:
as an expression, or, if one name with a value and no comma is in the braces, as a block with a
labelled statement. -/
inductive Reading : Nat → Node → Prop where
  | object {root statement object : Node} (hroot : root.IsOver "program" [statement])
      (hstatement : statement.IsOver "expression_statement" [object])
      (hobject : g.expression d b.object.text object) : Reading 0 root
  | block {root block opening labelled closing label colon body : Node}
      (hsingle : b.object.more = [] ∧ b.object.trailing = none)
      (hname : b.object.initial.key.tree.kind = "property_identifier")
      (hroot : root.IsOver "program" [block])
      (hblock : block.IsOver "statement_block" [opening, labelled, closing])
      (hlabelled : labelled.IsOver "labeled_statement" [label, colon, body]) : Reading 1 root

end BareObject

end ObjectGrammar

/-- What has to be known of a parser, given what its grammar says about objects. -/
structure Parser.Follows (parse : Parser) (g : ObjectGrammar) : Prop where
  /-- An object is an expression, with a pair for each property. -/
  object : ∀ {d} (o : g.ObjectText d), ∃ n, g.expression d o.text n ∧ o.IsTree n
  /-- An expression in parentheses is a source, a statement of these parentheses around it. -/
  parenthesized : ∀ {d cs n} (front back : Blanks), g.expression d cs n →
    ∃ statement parentheses opening closing,
      (parse d ('(' :: (front.1 ++ (cs ++ back.1)) ++ [')'])).unplaced.IsOver "program" [statement] ∧
        statement.IsOver "expression_statement" [parentheses] ∧
        parentheses.IsOver "parenthesized_expression" [opening, n, closing] ∧
        opening.IsToken "(" ∧ closing.IsToken ")"
  /-- Where an object alone is read without an error, it is taken in one of the ways that there
  are. -/
  alone : ∀ {d} (b : g.BareObject d), (parse d b.text).hasError = false →
    ∃ labels, b.Reading labels (parse d b.text).unplaced
  /-- Of several ways it is one with the fewest labels, which count against it. -/
  preferred : ∀ {d} (b : g.BareObject d), (parse d b.text).hasError = false →
    ∀ {labels others n}, b.Reading labels (parse d b.text).unplaced → b.Reading others n →
      labels ≤ others

end PullNotes
