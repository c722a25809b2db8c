import PullNotes.Text.Printable

/-!
# Quoted texts

A text in quotes, as error messages show it: in single quotes, or in double quotes if it holds a
single quote and no double quote.  The quote and the backslash are escaped by a backslash, tab, line
feed and carriage return by their letters, and any other unprintable code point by its hexadecimal
number in two, four or eight digits.
-/

namespace PullNotes

namespace Text

/-- The quote that a text is put in. -/
def quoteFor (t : Text) : CodePoint :=
  if t.contains ('\'' : Char) && !t.contains ('"' : Char) then ('"' : Char) else ('\'' : Char)

/-- How a code point is shown between quotes. -/
def quotedPoint (quote c : CodePoint) : Text :=
  if c = quote ∨ c = ('\\' : Char) then [('\\' : Char), c]
  else if c = ('\t' : Char) then ofChars ['\\', 't']
  else if c = ('\n' : Char) then ofChars ['\\', 'n']
  else if c = ('\r' : Char) then ofChars ['\\', 'r']
  else if c.isPrintable then [c]
  else if c.val ≤ 0xFF then ofChars ['\\', 'x'] ++ hex 2 c.val
  else if c.val ≤ 0xFFFF then ofChars ['\\', 'u'] ++ hex 4 c.val
  else ofChars ['\\', 'U'] ++ hex 8 c.val

/-- The text in quotes. -/
def quoted (t : Text) : Text :=
  let quote := t.quoteFor
  quote :: t.flatMap (quotedPoint quote) ++ [quote]

end Text

end PullNotes
