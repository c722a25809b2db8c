import PullNotes.Text.Basic

/-!
# Blanks

The code points that count as white space in a text, and texts without the blanks at their ends.
-/

namespace PullNotes

/-- White space: the ASCII controls that separate, the spaces of Unicode, and its line and
paragraph separators. -/
def CodePoint.isBlank (c : CodePoint) : Bool :=
  (9 ≤ c.val && c.val ≤ 13) || (28 ≤ c.val && c.val ≤ 32) || c.val = 0x85 || c.val = 0xA0 ||
    c.val = 0x1680 || (0x2000 ≤ c.val && c.val ≤ 0x200A) || c.val = 0x2028 || c.val = 0x2029 ||
    c.val = 0x202F || c.val = 0x205F || c.val = 0x3000

namespace Text

/-- Whether a text holds nothing but blanks. -/
def isBlank (t : Text) : Bool := t.all CodePoint.isBlank

/-- A text without the blanks at its start. -/
def trimStart (t : Text) : Text := t.dropWhile CodePoint.isBlank

/-- A text without the blanks at its end. -/
def trimEnd (t : Text) : Text := (trimStart t.reverse).reverse

/-- A text without the blanks at its ends. -/
def trim (t : Text) : Text := t.trimStart.trimEnd

end Text

end PullNotes
