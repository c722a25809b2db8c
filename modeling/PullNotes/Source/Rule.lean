import PullNotes.Source.Bracket
import PullNotes.Source.Semicolon

/-!
# Rules

The rules of the grammar that refer to one another.  What a rule reads is given by readers that take
the readers of all rules as an argument; a grammar ties this knot.
-/

namespace PullNotes

namespace Source

/-- A rule of the grammar. -/
inductive Rule where
  /-- An expression without a comma. -/
  | expression
  /-- Expressions with commas between them. -/
  | expressions
  /-- Operators that bind at least as strongly as a level, and their operands. -/
  | binary (least : Nat)
  /-- An operand with the operators before and after it, or an assignment. -/
  | operand
  /-- An operand without operators and without what may follow it. -/
  | primary
  /-- An operand with what may follow it: members, arguments, templates. -/
  | access
  /-- A string literal. -/
  | string
  /-- An object. -/
  | object
  /-- What can be bound or assigned to. -/
  | pattern
  /-- What can be bound by parameters and declarations. -/
  | binding
  /-- The parameters of a function, with their brackets. -/
  | parameters
  /-- The type parameters, parameters and result type of a function. -/
  | signature
  /-- Statements in braces. -/
  | block
  /-- A statement. -/
  | statement
  /-- The body of a class. -/
  | classBody
  /-- A decorator. -/
  | decorator
  /-- A markup element. -/
  | element
  /-- A type. -/
  | type
  /-- Types in angle brackets. -/
  | typeArguments
  /-- Type parameters in angle brackets. -/
  | typeParameters
  /-- A colon and a type. -/
  | ascription
deriving DecidableEq, Repr

/-- The readers of all rules. -/
abbrev Rules := Rule → Reader

namespace Reader

/-! ### Names -/

/-- The words that name nothing. -/
def reservedWords : List (List Char) := [
  "break", "case", "catch", "class", "const", "continue", "debugger", "default", "delete", "do",
  "else", "enum", "export", "extends", "false", "finally", "for", "function", "if", "import", "in",
  "instanceof", "new", "null", "return", "super", "switch", "this", "throw", "true", "try",
  "typeof", "var", "void", "while", "with"].map String.toList

/-- A name that may stand for a value. -/
def identifier : Reader := fun ctx s =>
  if s.name.isEmpty || reservedWords.contains s.name then .error s.stuck
  else shift "identifier" true s.name.length ctx s

/-- The kind of the names that may be supplied for an operand. -/
def suppliedKind : String := "identifier"

/-- Any name, as the kind of node it is. -/
def anyName (kind : String) : Reader := fun ctx s => shift kind true s.name.length ctx s

/-- A name after a number sign. -/
def privateName : Reader := token "private_property_identifier" fun cs =>
  match cs with
  | '#' :: rest => let n := Lexeme.name rest; if n = 0 then 0 else n + 1
  | _ => 0

/-- Whether the next token starts the name of a property. -/
def atPropertyName (_ : Context) (s : State) : Bool :=
  !s.name.isEmpty || s.symbol == ['['] ||
    s.cursor.rest.head?.any fun c => c == '"' || c == '\'' || c == '#' || c.isDigit

/-- A number. -/
def number : Reader := token "number" Lexeme.number

/-- The name of a property. -/
def propertyName (rules : Rules) : Reader :=
  first [anyName "property_identifier", rules .string, number, privateName,
    node "computed_property_name"
      (within true (seq [symbol "[", rules .expression, symbol "]"]))]

/-! ### Lists -/

/-- Items with commas between them, any of which may be left out. -/
def sparse (item : Reader) : Reader := seq [maybe item, many (seq [symbol ",", maybe item])]

/-- Items with commas between them, with a comma after each but perhaps the last. -/
def listed (item : Reader) : Reader :=
  seq [item, many (seq [symbol ",", item]), maybe (symbol ",")]

end Reader

end Source

end PullNotes
