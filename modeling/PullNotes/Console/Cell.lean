import PullNotes.Console.CellWidth
import PullNotes.Text.Basic

/-!
# Cells

A screen shows a text in cells.  A text falls into glyphs, each a code point with the ones that are
attached to it, and every glyph takes up none, one or two cells.
-/

namespace PullNotes

namespace CodePoint

/-- The number of cells that a code point takes up by itself; control characters take up none. -/
def cells (c : CodePoint) : Nat :=
  if c.val < 32 || (0x7F ≤ c.val && c.val < 0xA0) then 0
  else if c.val < 0x7F then 1
  else if CellWidth.attached.has c.val then 0
  else if CellWidth.wide.has c.val then 2
  else 1

/-- The joiner, which attaches the code point after it too. -/
def joiner : CodePoint := ⟨0x200D, by decide⟩

/-- The selector of emoji style. -/
def emojiSelector : CodePoint := ⟨0xFE0F, by decide⟩

/-- The selector of text style. -/
def textSelector : CodePoint := ⟨0xFE0E, by decide⟩

/-- The space. -/
def space : CodePoint := ' '

end CodePoint

/-- What is shown as one, and the number of its cells. -/
structure Glyph where
  text : Text
  width : Nat
deriving DecidableEq, Repr

namespace Glyph

/-- A glyph with more code points. -/
def and (g : Glyph) (more : Text) : Glyph := { g with text := g.text ++ more }

end Glyph

namespace Text

open CodePoint (joiner emojiSelector space)

/-- The glyphs of a text after some that are done, the latest first, of which the last code point
with a width may still be widened. -/
def glyphsAfter (done : List Glyph) (measured : Option CodePoint) : Text → List Glyph
  | [] => done.reverse
  | c :: rest =>
    match done with
    | [] => glyphsAfter [⟨[c], c.cells⟩] (if c.cells = 0 then none else some c) rest
    | g :: gs =>
      if c = joiner then
        match rest with
        | [] => (g.and [c] :: gs).reverse
        | d :: rest => glyphsAfter (g.and [c, d] :: gs) measured rest
      else if c = emojiSelector then
        if measured.any fun m => CellWidth.widened.has m.val then
          glyphsAfter (⟨g.text ++ [c], g.width + 1⟩ :: gs) none rest
        else glyphsAfter (g.and [c] :: gs) measured rest
      else if c.cells = 0 then glyphsAfter (g.and [c] :: gs) measured rest
      else glyphsAfter (⟨[c], c.cells⟩ :: g :: gs) (some c) rest

/-- The glyphs of a text. -/
def glyphs (t : Text) : List Glyph := glyphsAfter [] none t

/-- The number of cells that a text takes up. -/
def cells (t : Text) : Nat := t.glyphs.foldr (fun g n => g.width + n) 0

/-- A number of spaces. -/
def spaces (n : Nat) : Text := List.replicate n space

/-- As many glyphs as fit in a number of cells; a space takes the place of the half of a wide
one. -/
def fill : Nat → List Glyph → Text
  | _, [] => []
  | n, g :: gs => if g.width ≤ n then g.text ++ fill (n - g.width) gs else spaces n

/-- A text with exactly a number of cells, cut off or filled up with spaces. -/
def fitted (n : Nat) (t : Text) : Text :=
  let width := t.cells
  if width ≤ n then t ++ spaces (n - width) else fill n t.glyphs

/-- A text with no more than a number of cells. -/
def cropped (n : Nat) (t : Text) : Text := if t.cells ≤ n then t else fill n t.glyphs

end Text

end PullNotes
