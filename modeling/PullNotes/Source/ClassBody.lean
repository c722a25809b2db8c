import PullNotes.Source.Expression
import PullNotes.Source.Typing

/-!
# Classes

The heads and bodies of classes: methods, fields, blocks, and in the typed dialects signatures.
-/

namespace PullNotes

namespace Source

namespace Reader

/-- A decorator: a name with members and perhaps arguments, or an expression in parentheses. -/
def decorator (rules : Rules) : Reader :=
  node "decorator" (seq [symbol "@", first [parenthesized rules,
    chain identifier fun size => first [
      seq [symbol ".", memberName, gather "member_expression" size noFields],
      seq [arguments rules, gather "call_expression" size noFields],
      seq [callTypes rules, arguments rules, gather "call_expression" size noFields]]]])

/-- What a class extends and implements. -/
def heritage (rules : Rules) : Reader :=
  seq [
    maybe (node "class_heritage" (seq [word "extends", rules .access,
      maybe (typed (rules .typeArguments)),
      many (typed (seq [symbol ",", rules .access, maybe (rules .typeArguments)]))])),
    maybe (typed (node "implements_clause" (seq [word "implements", listed (rules .type)])))]

/-- A field, with a type and a value or without. -/
def field (rules : Rules) : Reader :=
  seq [node "field_definition" (seq [modifiers, propertyName rules,
    maybe (typed (first [symbol "?", symbol "!"])), maybe (typed (rules .ascription)),
    maybe (seq [symbol "=", rules .expression])]), first [semicolon, typed (symbol ",")]]

/-- A method without a body. -/
def methodSignature (rules : Rules) : Reader :=
  typed (seq [node "method_signature" (seq [modifiers, propertyName rules, maybe (symbol "?"),
    rules .signature]), first [signatureEnd, symbol ","]])

/-- A member of a class. -/
def classMember (rules : Rules) : Reader :=
  seq [many (rules .decorator), first [
    symbol ";",
    node "class_static_block" (seq [word "static", within false (rules .block)]),
    method rules,
    methodSignature rules,
    typed (seq [indexSignature rules, first [semicolon, symbol ","]]),
    field rules]]

/-- The type parameters and the heritage of a class, and its members in braces. -/
def classBody (rules : Rules) : Reader :=
  seq [maybe (typed (rules .typeParameters)), heritage rules,
    node "class_body" (within false (seq [symbol "\x7b", many (classMember rules),
      symbol "\x7d"]))]

end Reader

end Source

end PullNotes
