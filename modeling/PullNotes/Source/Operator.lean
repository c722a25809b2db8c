import PullNotes.Source.Reader

/-!
# Operators

The operators between two operands, with the levels at which they bind, and the symbols of
assignments.
-/

namespace PullNotes

namespace Source

/-- An operator between two operands. -/
structure Operator where
  text : String
  /-- How strongly it binds. -/
  level : Nat
  /-- Whether it groups from the right. -/
  fromRight : Bool := false
deriving DecidableEq, Repr

namespace Operator

/-- The level of the operators that compare. -/
def comparison : Nat := 8

/-- The operator that is also a word in the head of a loop. -/
def membership : String := "in"

/-- All operators between operands. -/
def all : List Operator := [
  ⟨"??", 1, false⟩, ⟨"||", 2, false⟩, ⟨"&&", 3, false⟩, ⟨"|", 4, false⟩, ⟨"^", 5, false⟩,
  ⟨"&", 6, false⟩, ⟨"==", 7, false⟩, ⟨"!=", 7, false⟩, ⟨"===", 7, false⟩, ⟨"!==", 7, false⟩,
  ⟨"<", comparison, false⟩, ⟨">", comparison, false⟩, ⟨"<=", comparison, false⟩,
  ⟨">=", comparison, false⟩, ⟨membership, comparison, false⟩, ⟨"instanceof", comparison, false⟩,
  ⟨"<<", 9, false⟩, ⟨">>", 9, false⟩, ⟨">>>", 9, false⟩, ⟨"+", 10, false⟩, ⟨"-", 10, false⟩,
  ⟨"*", 11, false⟩, ⟨"/", 11, false⟩, ⟨"%", 11, false⟩, ⟨"**", 12, true⟩]

/-- The operator that is the next token. -/
def at? (s : State) : Option Operator :=
  let text := if s.name.isEmpty then s.symbol else s.name
  if text.isEmpty then none else all.find? fun o => o.text.toList == text

/-- The words of the typed dialects that stand between an expression and a type. -/
def typeWords : List String := ["as", "satisfies"]

/-- The symbols of assignments. -/
def assignments : List String := [
  "=", "+=", "-=", "*=", "/=", "%=", "**=", "<<=", ">>=", ">>>=", "&=", "|=", "^=", "&&=", "||=",
  "??="]

/-- The symbols in front of an operand. -/
def signs : List String := ["!", "~", "-", "+"]

/-- The words in front of an operand. -/
def signWords : List String := ["typeof", "void", "delete", "await"]

/-- The symbols of a step up or down. -/
def steps : List String := ["++", "--"]

end Operator

end Source

end PullNotes
