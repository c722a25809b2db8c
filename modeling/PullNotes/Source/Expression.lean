import PullNotes.Source.Function
import PullNotes.Source.Operator

/-!
# Expressions

An expression is made of operands, the operators before, after and between them, and conditions.  An
assignment counts as an operand, since nothing but its target may stand before its symbol.
-/

namespace PullNotes

namespace Source

namespace Reader

/-! ### Simple operands -/

/-- The words that stand for a value, and the kinds of their nodes. -/
def valueWords : List (String × String) := [
  ("this", "this"), ("super", "super"), ("null", "null"), ("true", "true"), ("false", "false")]

/-- A word that stands for a value. -/
def valueWord : Reader := first (valueWords.map fun (text, kind) => node kind (word text))

/-- An expression in parentheses. -/
def parenthesized (rules : Rules) : Reader :=
  node "parenthesized_expression" (within true (withArrows true (seq [symbol "(",
    rules .expressions, maybe (typed (rules .ascription)), symbol ")"])))

/-- A class used as an expression. -/
def classExpression (rules : Rules) : Reader :=
  node "class" (seq [many (rules .decorator), word "class", maybe className,
    rules .classBody])
where
  /-- A name that is not the start of what a class extends. -/
  className : Reader := seq [check fun _ s => s.name != "implements".toList, identifier]

/-- Whether the next token starts with a character. -/
def startsWith (condition : Char → Bool) (_ : Context) (s : State) : Bool :=
  s.cursor.rest.head?.any condition

/-- Types in angle brackets that belong to a call. -/
def callTypes (rules : Rules) : Reader := typed (seq [rules .typeArguments,
  check fun ctx s => atSymbol "(" ctx s || startsWith (· == '`') ctx s])

/-- An expression in brackets as an index. -/
def index (rules : Rules) : Reader := within true (seq [symbol "[", rules .expressions, symbol "]"])

/-- The name of a member. -/
def memberName : Reader := first [anyName "property_identifier", privateName]

/-- A member of an operand after a dot, or in brackets. -/
def member (rules : Rules) (size : Nat) : Reader :=
  first [
    seq [symbol ".", memberName, gather "member_expression" size noFields],
    seq [index rules, gather "subscript_expression" size noFields]]

/-- A creation: a constructor, which may be a member, and its arguments. -/
def creation (rules : Rules) : Reader :=
  first [
    node "meta_property" (seq [word "new", symbol ".", word "target"]),
    node "new_expression" (seq [word "new", chain (rules .primary) (member rules),
      maybe (callTypes rules), maybe (arguments rules)])]

/-- A word before an operand that belongs to the language's modules. -/
def importOperand : Reader :=
  first [
    node "meta_property" (seq [word "import", symbol ".", anyName "property_identifier"]),
    seq [node "import" (word "import"), check (atSymbol "(")]]

/-- An operand without operators. -/
def primary (rules : Rules) : Reader :=
  choose (fun _ s => !s.name.isEmpty)
    (first [arrowFunction rules, functionExpression rules, identifier, valueWord,
      classExpression rules, creation rules, importOperand])
    (choose (startsWith fun c => c == '"' || c == '\'') (rules .string)
      (choose (startsWith (· == '`')) (template rules)
        (choose (startsWith (· == '(')) (first [arrowFunction rules, parenthesized rules])
          (choose (startsWith (· == '[')) (array rules)
            (choose (startsWith (· == '\x7b')) (rules .object)
              (choose (startsWith (· == '<'))
                (first [arrowFunction rules, marked (rules .element)])
                (choose (startsWith (· == '/')) regex
                  (first [number, seq [privateName, check (atWord ["in".toList])],
                    classExpression rules, supply suppliedKind]))))))))

/-! ### What follows an operand -/

/-- Types in angle brackets after an expression that is not called. -/
def instanceTypes (rules : Rules) : Reader := typed (seq [rules .typeArguments,
  check fun _ s => s.cursor.rest.isEmpty || s.afterLine ||
    [";", ")", "]", ",", ".", "?.", "=", "\x7d", ":"].any fun t => s.symbol == t.toList])

/-- What follows an operand: a member, arguments, a template or a mark. -/
def suffix (rules : Rules) (size : Nat) : Reader :=
  first [
    member rules size,
    seq [arguments rules, gather "call_expression" size noFields],
    seq [symbol "?.", first [
      seq [memberName, gather "member_expression" size noFields],
      seq [index rules, gather "subscript_expression" size noFields],
      seq [maybe (callTypes rules), arguments rules, gather "call_expression" size noFields]]],
    seq [check (startsWith (· == '`')), template rules, gather "call_expression" size noFields],
    seq [check (atSymbol "!"), check sameLine, typed (symbol "!"),
      gather "non_null_expression" size noFields],
    seq [check (startsWith (· == '<')), callTypes rules,
      first [arguments rules, template rules], gather "call_expression" size noFields],
    seq [check (startsWith (· == '<')), instanceTypes rules,
      gather "instantiation_expression" size noFields]]

/-- An operand with all that follows it. -/
def access (rules : Rules) : Reader := chain (rules .primary) (suffix rules)

/-! ### Operators -/

/-- An operator in front of an operand. -/
def signedOperand (rules : Rules) : Reader :=
  let sign := first [first (Operator.signs.map symbol), first (Operator.signWords.map word)]
  first [
    node "update_expression" (seq [first (Operator.steps.map symbol), rules .operand]),
    node "unary_expression" (seq [sign, rules .operand])]

/-- A type in angle brackets in front of an operand. -/
def assertion (rules : Rules) : Reader :=
  choose (fun ctx _ => ctx.dialect.hasMarkup) fail
    (node "type_assertion" (seq [check (startsWith (· == '<')), rules .typeArguments,
      rules .operand]))

/-- The symbol and the value of an assignment, after its target. -/
def assignment (rules : Rules) (size : Nat) : Reader :=
  seq [assignable, first (Operator.assignments.map symbol), rules .expression,
    gather "assignment_expression" size noFields]

/-- A pattern that is assigned to. -/
def patternAssignment (rules : Rules) : Reader :=
  node "assignment_expression" (seq [
    check fun ctx s => startsWith (fun c => c == '[' || c == '\x7b') ctx s,
    check atAssignedPattern, rules .pattern, symbol "=", rules .expression])

/-- An operand with the operators before and after it, or an assignment. -/
def operandReader (rules : Rules) : Reader := fun ctx s =>
  first [
    patternAssignment rules,
    signedOperand rules,
    seq [rules .access, maybe (first [
      seq [check sameLine, first (Operator.steps.map symbol),
        gather "update_expression" s.size noFields],
      assignment rules s.size])],
    assertion rules] ctx s

/-- An operator between operands that binds at least as strongly as a level, and its right side. -/
def operation (rules : Rules) (least size : Nat) : Reader := fun ctx s =>
  match Operator.at? s with
  | some o =>
    if o.level < least || (o.text == Operator.membership && !ctx.inBinds) then .error s.stuck
    else
      let right := if o.fromRight then o.level else o.level + 1
      seq [if s.name.isEmpty then symbol o.text else word o.text, rules (.binary right),
        gather "binary_expression" size noFields] ctx s
  | none =>
    if Operator.comparison < least then .error s.stuck
    else
      typed (seq [check sameLine, first (Operator.typeWords.map word),
        first [word "const", rules .type], gather "as_expression" size noFields]) ctx s

/-- Operators that bind at least as strongly as a level, and their operands. -/
def binary (rules : Rules) (least : Nat) : Reader :=
  chain (rules .operand) (operation rules least)

/-- The two cases of a condition.  An arrow function in the first one has no result type if the
colon would otherwise be taken for the start of one. -/
def cases (rules : Rules) (size : Nat) : Reader :=
  let both (typed : Bool) := seq [symbol "?", withArrows typed (rules .expression), symbol ":",
    rules .expression, gather "ternary_expression" size noFields]
  first [both true, both false]

/-- An expression that yields a value, or none. -/
def yielding (rules : Rules) : Reader :=
  node "yield_expression" (seq [word "yield",
    first [seq [symbol "*", rules .expression],
      seq [check fun ctx s => !semicolonImplied false ctx s, rules .expression], done]])

/-- An expression without a comma. -/
def expression (rules : Rules) : Reader := operand (fun ctx s =>
  first [yielding rules, seq [rules (.binary 1), maybe (cases rules s.size)]] ctx s)

/-- Expressions with commas between them. -/
def expressions (rules : Rules) : Reader :=
  operand (chain (rules .expression) fun size =>
    seq [symbol ",", rules .expression, gather "sequence_expression" size noFields])

end Reader

end Source

end PullNotes
