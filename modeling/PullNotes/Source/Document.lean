import PullNotes.Source.Recovery
import PullNotes.SyntaxTree.Walk
import PullNotes.Text.Blank
import PullNotes.Text.Encoding

/-!
# Documents

A document is a source, or a bare object: a text that starts with a brace and has errors as a
source, but none within parentheses, is read within parentheses.

What parses a source is a parameter.  `Source.tree` is the parser that the program comes with.
-/

namespace PullNotes

/-- A parser: the tree of a source in a dialect. -/
abbrev Parser := Dialect → List Char → Node

/-- A document that was read: its tree, and whether it was read as a bare object. -/
structure Document where
  tree : Node
  isBareObject : Bool

namespace Document

/-- Whether a text starts with a brace, blanks aside. -/
def startsWithBrace (t : Text) : Bool := t.trimStart.head? == some ('\x7b' : Char)

/-- A source within parentheses, the closing one on a line of its own. -/
def inParentheses (cs : List Char) : List Char := '(' :: cs ++ ['\n', ')']

/-- Reads the characters of a document. -/
def ofCharsBy (parse : Parser) (dialect : Dialect) (cs : List Char) : Document :=
  let tree := parse dialect cs
  if tree.hasError && startsWithBrace (Text.ofChars cs) then
    let inside := parse dialect (inParentheses cs)
    if inside.hasError then ⟨tree, false⟩ else ⟨inside, true⟩
  else ⟨tree, false⟩

/-- Reads a document; a text with surrogates is none. -/
def readBy (parse : Parser) (dialect : Dialect) (t : Text) : Except CodingError Document := do
  .ok (ofCharsBy parse dialect (← t.toCharsOrError))

/-- Reads a document with the parser that the program comes with. -/
def read (dialect : Dialect) (t : Text) : Except CodingError Document := readBy Source.tree dialect t

/-- The place of the first error, if there is one. -/
def errorPoint? (d : Document) : Option Point :=
  if d.tree.hasError then some d.tree.firstErrorPoint else none

end Document

end PullNotes
