import PullNotes.Source.Literal

/-!
# Patterns and parameters

What can be bound or assigned to: names, patterns that look like objects and arrays, and in an
assignment also members.  A property of a pattern is no property of an object.
-/

namespace PullNotes

namespace Source

namespace Reader

/-- A pattern with a value that is taken when there is none. -/
def defaulted (rules : Rules) (kind : String) (target : Reader) : Reader := fun ctx s =>
  seq [target, maybe (seq [symbol "=", rules .expression, gather kind s.size noFields])] ctx s

/-- A property of an object pattern, whose value is a target. -/
def patternProperty (rules : Rules) (target : Reader) : Reader :=
  first [
    node "pair_pattern" (seq [propertyName rules, symbol ":",
      defaulted rules "assignment_pattern" target]),
    node "rest_pattern" (seq [symbol "...", target]),
    defaulted rules "object_assignment_pattern" (anyName "shorthand_property_identifier_pattern")]

/-- A pattern that looks like an object. -/
def objectPattern (rules : Rules) (target : Reader) : Reader :=
  node "object_pattern" (within true (seq [symbol "\x7b", sparse (patternProperty rules target),
    symbol "\x7d"]))

/-- A pattern that looks like an array. -/
def arrayPattern (rules : Rules) (target : Reader) : Reader :=
  node "array_pattern" (within true (seq [symbol "[",
    sparse (first [node "rest_pattern" (seq [symbol "...", target]),
      defaulted rules "assignment_pattern" target]), symbol "]"]))

/-- What can be bound. -/
def binding (rules : Rules) : Reader :=
  first [objectPattern rules (rules .binding), arrayPattern rules (rules .binding), identifier,
    node "rest_pattern" (seq [symbol "...", rules .binding])]

/-- The kinds of expressions that can be assigned to. -/
def targetKinds : List String :=
  ["identifier", "member_expression", "subscript_expression", "non_null_expression", "undefined",
    "parenthesized_expression", "object_pattern", "array_pattern"]

/-- Goes on only if the last node can be assigned to. -/
def assignable : Reader := check fun _ s =>
  (s.parts.head?.map fun p => targetKinds.contains p.node.kind).getD false

/-- Whether the next token goes on with an operand. -/
def atMember (_ : Context) (s : State) : Bool :=
  s.symbol == ['.'] || s.symbol == ['['] || s.symbol == ['('] || s.symbol == ['?', '.']

/-- Goes on only if the operand is over. -/
def operandOver : Reader := check fun ctx s => !atMember ctx s

/-- What can be assigned to. -/
def pattern (rules : Rules) : Reader :=
  first [
    seq [first [objectPattern rules (rules .pattern), arrayPattern rules (rules .pattern)],
      operandOver],
    node "rest_pattern" (seq [symbol "...", rules .pattern]),
    seq [rules .access, assignable]]

/-! ### Parameters -/

/-- The words in front of a parameter that is also a member. -/
def parameterWords : List String := ["public", "private", "protected", "override", "readonly"]

/-- A parameter. -/
def parameter (rules : Rules) : Reader :=
  node "required_parameter" (seq [many (rules .decorator),
    maybe (typed (many (beforeBinding (first (parameterWords.map word))))),
    first [typed (word "this"), rules .binding],
    maybe (typed (symbol "?")), maybe (typed (rules .ascription)),
    maybe (seq [symbol "=", rules .expression])])
where
  /-- A word before what can be bound. -/
  beforeBinding (p : Reader) : Reader := fun ctx s =>
    match p ctx s with
    | .ok after =>
      if !after.name.isEmpty || after.symbol == ['['] || after.symbol == ['\x7b'] then .ok after
      else .error s.stuck
    | .error e => .error e

/-- The parameters of a function, with their brackets. -/
def parameters (rules : Rules) : Reader :=
  node "formal_parameters" (within true (withArrows true (seq [symbol "(",
    sparse (parameter rules), symbol ")"])))

/-- The type parameters, parameters and result type of a function. -/
def signature (rules : Rules) : Reader :=
  seq [maybe (typed (rules .typeParameters)), rules .parameters,
    maybe (typed (rules .ascription))]

end Reader

end Source

end PullNotes
