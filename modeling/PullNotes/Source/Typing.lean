import PullNotes.Source.Binding

/-!
# Types

The types of the typed dialects.  A type goes on over a line end only inside brackets, and where the
line end implies no semicolon.
-/

namespace PullNotes

namespace Source

namespace Reader

/-- The words in front of a type that belong to it. -/
def typeWords : List String := ["keyof", "readonly", "unique"]

/-- Names with dots between them. -/
def dottedName (kind : String) : Reader :=
  chain (anyName kind) fun size =>
    seq [symbol ".", anyName kind, gather "nested_type_identifier" size noFields]

/-- A type in brackets after another one, on the same line. -/
def indexed (rules : Rules) (size : Nat) : Reader :=
  seq [check sameLine, symbol "[", within true (maybe (rules .type)), symbol "]",
    gather "array_type" size noFields]

/-- An element of a tuple type. -/
def tupleElement (rules : Rules) : Reader :=
  first [
    seq [maybe (symbol "..."), anyName "identifier", maybe (symbol "?"), rules .ascription],
    seq [maybe (symbol "..."), rules .type, maybe (symbol "?")]]

/-- The sign and the word that change a mark of a mapped type. -/
def signed (mark : Reader) : Reader := seq [maybe (first [symbol "+", symbol "-"]), mark]

/-- An index in brackets as a member of an object type. -/
def indexSignature (rules : Rules) : Reader :=
  node "index_signature" (seq [maybe (signed (word "readonly")), symbol "[",
    anyName "identifier",
    first [rules .ascription,
      seq [word "in", rules .type, maybe (seq [word "as", rules .type])]],
    symbol "]", maybe (signed (symbol "?")), maybe (rules .ascription)])

/-- A member of an object type. -/
def typeMember (rules : Rules) : Reader :=
  first [
    indexSignature rules,
    node "call_signature" (rules .signature),
    node "construct_signature" (seq [word "new", rules .signature]),
    node "method_signature" (seq [modifiers, propertyName rules, maybe (symbol "?"),
      rules .signature]),
    node "property_signature" (seq [modifiers, propertyName rules, maybe (symbol "?"),
      maybe (rules .ascription)])]

/-- Members of an object type in braces, with commas, semicolons or line ends between them. -/
def objectType (rules : Rules) : Reader :=
  let separator := first [symbol ",", semicolon]
  node "object_type" (within false (seq [symbol "\x7b",
    maybe (seq [typeMember rules, many (seq [separator, typeMember rules]), maybe separator]),
    symbol "\x7d"]))

/-- The start of a type that has no operator in front. -/
def plainType (rules : Rules) : Reader :=
  first [
    seq [symbol "(", within true (rules .type), symbol ")"],
    node "tuple_type" (within true (seq [symbol "[", sparse (tupleElement rules), symbol "]"])),
    objectType rules,
    rules .string,
    seq [maybe (symbol "-"), number],
    within true (templateOf "template_literal_type" "template_type" (rules .type)),
    seq [word "typeof", chain queried fun size =>
      seq [symbol ".", first [anyName "property_identifier", privateName],
        gather "member_expression" size noFields],
      maybe (rules .typeArguments)],
    seq [word "import", symbol "(", rules .string, symbol ")", many (seq [symbol ".",
      anyName "identifier"]), maybe (rules .typeArguments)],
    seq [dottedName "type_identifier", maybe (rules .typeArguments)]]
where
  /-- A value whose type is asked for: a name, or a module. -/
  queried : Reader := first [word "this", identifier,
    node "call_expression" (seq [word "import", arguments rules])]

/-- A type with the words in front of it and the indices after it; one that is inferred may have a
bound. -/
def simpleType (rules : Rules) : Nat → Reader
  | 0 => fail
  | n + 1 => first [
      seq [first (typeWords.map word), simpleType rules n],
      seq [word "infer", anyName "type_identifier",
        maybe (seq [check sameLine, word "extends", simpleType rules n])],
      chain (plainType rules) (indexed rules)]

/-- A function type or a constructor type. -/
def functionType (rules : Rules) : Reader :=
  first [
    node "constructor_type" (seq [maybe (word "abstract"), word "new",
      maybe (rules .typeParameters), rules .parameters, symbol "=>", rules .type]),
    node "function_type" (seq [
      check fun ctx s => atSymbol "<" ctx s || atArrowParameters ctx s,
      maybe (rules .typeParameters), rules .parameters, symbol "=>", predicateOr rules])]
where
  /-- A statement about a parameter, or a type. -/
  predicateOr (rules : Rules) : Reader := first [
    node "type_predicate" (seq [anyName "identifier", word "is", rules .type]), rules .type]

/-- The greatest number of words in front of a type. -/
def typeWordLimit : Nat := 8

/-- A type. -/
def typeReader (rules : Rules) : Reader :=
  let operator := first [symbol "|", symbol "&"]
  let simple := first [functionType rules, simpleType rules typeWordLimit]
  chain (chain (seq [maybe operator, simple]) fun size =>
      seq [operator, simple, gather "union_type" size noFields]) fun size =>
    seq [check sameLine, word "extends", rules .type, symbol "?", rules .type, symbol ":",
      rules .type, gather "conditional_type" size noFields]

/-- A colon and a type, or a statement about a parameter. -/
def ascription (rules : Rules) : Reader :=
  node "type_annotation" (seq [symbol ":", first [
    node "asserts" (seq [word "asserts", check fun _ s => !s.name.isEmpty && !s.afterLine,
      anyName "identifier", maybe (seq [word "is", rules .type])]),
    node "type_predicate" (seq [anyName "identifier", check fun _ s => !s.afterLine, word "is",
      rules .type]),
    rules .type]])

/-- Types in angle brackets. -/
def typeArguments (rules : Rules) : Reader :=
  node "type_arguments" (within true (seq [opening '<', listed (rules .type), opening '>']))

/-- Type parameters in angle brackets. -/
def typeParameters (rules : Rules) : Reader :=
  let parameter := node "type_parameter" (seq [
    many (seq [first [word "const", word "in", word "out"], check fun _ s => !s.name.isEmpty]),
    anyName "type_identifier", maybe (seq [word "extends", rules .type]),
    maybe (seq [symbol "=", rules .type])])
  node "type_parameters" (within true (seq [opening '<', listed parameter, opening '>']))

end Reader

end Source

end PullNotes
