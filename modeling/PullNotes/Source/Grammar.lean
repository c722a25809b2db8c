import PullNotes.Source.Markup
import PullNotes.Source.Statement

/-!
# The grammar

The rules tied together.  Rules refer to one another only below themselves in the source, up to a
bounded number of steps for one token, so a depth given by the source's length is enough.
-/

namespace PullNotes

namespace Source

namespace Grammar

open Reader

/-- What a rule reads, given the readers of all rules. -/
def rule (rules : Rules) : Rules
  | .expression => Reader.expression rules
  | .expressions => Reader.expressions rules
  | .binary least => Reader.binary rules least
  | .operand => operandReader rules
  | .primary => Reader.primary rules
  | .access => Reader.access rules
  | .string => stringLiteral
  | .object => Reader.object rules
  | .pattern => Reader.pattern rules
  | .binding => Reader.binding rules
  | .parameters => Reader.parameters rules
  | .signature => Reader.signature rules
  | .block => Reader.block rules
  | .statement => Reader.statement rules
  | .classBody => Reader.classBody rules
  | .decorator => Reader.decorator rules
  | .element => Reader.element rules
  | .type => typeReader rules
  | .typeArguments => Reader.typeArguments rules
  | .typeParameters => Reader.typeParameters rules
  | .ascription => Reader.ascription rules

/-- The readers of all rules to a depth. -/
def readers : Nat → Rules
  | 0 => fun _ => fail
  | depth + 1 => fun r ctx s => rule (readers depth) r ctx s

/-- The greatest number of rules within one another for one character of a source. -/
def depthPerCharacter : Nat := 40

/-- A depth that is enough for a source of a length. -/
def depthFor (length : Nat) : Nat := depthPerCharacter * (length + 2)

/-- Goes on only at the end of the source. -/
def atEnd : Reader := check fun _ s => s.cursor.rest.isEmpty

/-- A whole source. -/
def program (depth : Nat) : Reader :=
  let rules := readers depth
  seq [maybe (token "hash_bang_line" Lexeme.interpreterLine), many (rules .statement),
    many pageComment, atEnd]

end Grammar

end Source

end PullNotes
