import PullNotes.Source.Binding

/-!
# Functions

Function expressions, arrow functions, and the braces after an arrow, which hold statements or the
properties of an object.
-/

namespace PullNotes

namespace Source

namespace Reader

/-- Statements in braces as the body of a function. -/
def body (rules : Rules) : Reader := within false (rules .block)

/-- The start of a function. -/
def functionHead : Reader := seq [maybe (word "async"), word "function"]

/-- A function with statements, from its name on.  In the typed dialects it goes on over comments to
the place where a semicolon is implied. -/
def functionRest (rules : Rules) : Reader :=
  let rest := seq [maybe identifier, rules .signature, body rules]
  choose (fun ctx _ => ctx.dialect.isTyped) (upToImplied rest) rest

/-- A function expression. -/
def functionExpression (rules : Rules) : Reader :=
  first [
    node "generator_function" (seq [functionHead, symbol "*", functionRest rules]),
    node "function_expression" (seq [functionHead, functionRest rules])]

/-! ### Braces that hold statements or properties -/

/-- The words that start a statement or an expression, and are no key after a brace. -/
def startingWords : List String := [
  "break", "class", "const", "continue", "debugger", "delete", "do", "false", "for", "function",
  "if", "import", "null", "return", "super", "switch", "this", "throw", "true", "try", "typeof",
  "undefined", "var", "void", "while", "with", "yield"]

/-- The starting words of the plain dialect alone. -/
def plainStartingWords : List String := ["new"]

/-- The starting words of the typed dialects alone. -/
def typedStartingWords : List String := ["abstract", "enum", "interface"]

/-- The starting words of a dialect. -/
def startingWordsOf (dialect : Dialect) : List String :=
  startingWords ++ if dialect.isTyped then typedStartingWords else plainStartingWords

/-- Whether the next token is a brace that may open an object where a statement may stand: there is
something in the braces, and it starts with no starting word. -/
def atLooseObject (ctx : Context) (s : State) : Bool :=
  match s.cursor.rest with
  | '\x7b' :: rest =>
    let inside := (passBlanks { ctx with patches := [] } (ctx.length + 1) (.ofChars rest) []).1.rest
    let first := inside.take (Lexeme.name inside)
    inside.head? != some '\x7d' && !(startingWordsOf ctx.dialect).any fun w => w.toList == first
  | _ => false

/-! ### Arrow functions -/

/-- What an arrow function does: statements in braces or an expression. -/
def arrowBody (rules : Rules) : Reader :=
  choose (atSymbol "\x7b")
    (first [seq [check atLooseObject, rules .expression], body rules])
    (rules .expression)

/-- The arrow and what follows it. -/
def arrow (rules : Rules) : Reader := seq [symbol "=>", arrowBody rules]

/-- An arrow function. -/
def arrowFunction (rules : Rules) : Reader :=
  first [
    node "arrow_function" (seq [word "async", identifier, arrow rules]),
    node "arrow_function" (seq [identifier, arrow rules]),
    node "arrow_function" (seq [word "async", arrowSignature]),
    node "arrow_function" arrowSignature]
where
  /-- The parameters in parentheses of an arrow function, and the rest of it. -/
  arrowSignature : Reader :=
    first [
      seq [check atArrowParameters, rules .parameters, arrow rules],
      seq [check atTypedParameters, rules .parameters, typed (rules .ascription), arrow rules],
      seq [check (atSymbol "<"), typed (rules .typeParameters), rules .parameters,
        maybe (rules .ascription), arrow rules]]

end Reader

end Source

end PullNotes
