import PullNotes.Source.Binding

/-!
# Markup elements

Elements with attributes and children among the expressions.  The text between elements is read as
it stands, blanks and what looks like comments included.
-/

namespace PullNotes

namespace Source

namespace Reader

/-- A name in markup. -/
def markupName : Reader := token "identifier" Lexeme.markupName

/-- The name of an element: names with dots or a colon between them. -/
def elementName : Reader :=
  chain markupName fun size => first [
    seq [symbol ".", markupName, gather "member_expression" size noFields],
    seq [symbol ":", markupName, gather "jsx_namespace_name" size noFields]]

/-- A string in markup, in which a backslash is a character like any other. -/
def markupString (quote : Char) : Reader :=
  node Node.stringKind (seq [opening quote,
    maybe (adjacent "string_fragment" true fun cs => (cs.takeWhile (· != quote)).length),
    adjacentMark (String.singleton quote)])

/-- An expression in braces, which may be left out. -/
def bracedExpression (rules : Rules) : Reader :=
  node "jsx_expression" (within true (seq [symbol "\x7b",
    maybe (first [spread rules, rules .expressions]), opening '\x7d']))

/-- An attribute of an element. -/
def elementAttribute (rules : Rules) : Reader :=
  first [
    bracedExpression rules,
    node "jsx_attribute" (seq [
      chain markupName fun size =>
        seq [symbol ":", markupName, gather "jsx_namespace_name" size noFields],
      maybe (seq [symbol "=", first [markupString '"', markupString '\'',
        bracedExpression rules, rules .element]])])]

/-- A child of an element. -/
def child (rules : Rules) : Reader :=
  first [adjacent "jsx_text" true Lexeme.markupText, bracedExpression rules, rules .element]

/-- The children of an element and its closing tag. -/
def children (rules : Rules) : Reader :=
  seq [many (child rules), node "jsx_closing_element" (seq [opening '<', opening '/',
    maybe elementName, opening '>'])]

/-- An element. -/
def element (rules : Rules) : Reader :=
  within true (first [
    node "jsx_element" (seq [
      node "jsx_opening_element" (seq [opening '<',
        maybe (seq [elementName, maybe (typed (rules .typeArguments)), many (elementAttribute rules)]),
        opening '>']),
      children rules]),
    node "jsx_self_closing_element" (seq [opening '<', elementName,
      maybe (typed (rules .typeArguments)), many (elementAttribute rules), opening '/', opening '>'])])

end Reader

end Source

end PullNotes
