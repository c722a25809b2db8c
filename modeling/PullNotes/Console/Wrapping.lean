import PullNotes.Console.Cell
import PullNotes.Text.Blank
import PullNotes.Text.Line

/-!
# Wrapping

A text is laid out in lines of a width in cells.  Lines break between words; a word that is wider
than a line is folded, or is left whole and cut off with an ellipsis.
-/

namespace PullNotes

namespace Wrapping

/-- What is done with a word that is wider than a line. -/
inductive Overflow where
  | fold
  | ellipsis
deriving DecidableEq, Repr

/-- Where the text of a line goes: to the left, or to the middle. -/
inductive Side where
  | left
  | centre
deriving DecidableEq, Repr

/-! ### Tabs -/

/-- The tab. -/
def tab : CodePoint := '\t'

/-- The number of cells from one tab stop to the next. -/
def tabWidth : Nat := 8

/-- The text of a line with spaces for its tabs, given what is before it since the last tab and
where that starts. -/
def expandFrom (start : Nat) (before : Text) : Text → Text
  | [] => before.reverse
  | c :: rest =>
    if c = tab then
      let place := start + Text.cells before.reverse
      let next := (place / tabWidth + 1) * tabWidth
      before.reverse ++ Text.spaces (next - place) ++ expandFrom next [] rest
    else expandFrom start (c :: before) rest

/-- A line with spaces for its tabs. -/
def expanded (line : Text) : Text := if line.contains tab then expandFrom 0 [] line else line

/-! ### Words -/

/-- The first word of a text with the blanks around it, and what follows. -/
def splitWord (t : Text) : Text × Text :=
  let before := t.takeWhile CodePoint.isBlank
  let rest := t.drop before.length
  let word := rest.takeWhile fun c => !c.isBlank
  let after := (rest.drop word.length).takeWhile CodePoint.isBlank
  let length := before.length + word.length + after.length
  (t.take length, t.drop length)

/-- A number of words at most, each with the blanks after it and the first with those before it. -/
def wordsUpTo : Nat → Text → List Text
  | 0, _ => []
  | n + 1, t =>
    if t.all CodePoint.isBlank then []
    else
      let (word, rest) := splitWord t
      word :: wordsUpTo n rest

/-- The words of a text. -/
def words (t : Text) : List Text := wordsUpTo t.length t

/-- Glyphs in pieces of a width, after the start of a piece with its width. -/
def foldAfter (width : Nat) (piece : Text) (used : Nat) : List Glyph → List Text
  | [] => [piece]
  | g :: gs =>
    if width < used + g.width then piece :: foldAfter width g.text g.width gs
    else foldAfter width (piece ++ g.text) (used + g.width) gs

/-- A word in pieces of a width. -/
def folded (width : Nat) (word : Text) : List Text := foldAfter width [] 0 word.glyphs

/-! ### Lines -/

/-- A place between words, unless it is at the start of the text. -/
def breakAt (place : Nat) : List Nat := if place = 0 then [] else [place]

/-- The places where pieces of a word start. -/
def pieceBreaks : Nat → List Text → List Nat
  | _, [] => []
  | place, piece :: pieces => breakAt place ++ pieceBreaks (place + piece.length) pieces

/-- The places where the lines of a text break, given the place of the next word and how much of the
line is used. -/
def breaks (overflow : Overflow) (width : Nat) : Nat → Nat → List Text → List Nat
  | _, _, [] => []
  | place, used, word :: more =>
    let next := place + word.length
    let needed := (Text.trimEnd word).cells
    if used + needed ≤ width then breaks overflow width next (used + word.cells) more
    else if width < needed then
      match overflow with
      | .fold =>
        let pieces := folded width word
        pieceBreaks place pieces ++
          breaks overflow width next ((pieces.getLast?.getD []).cells) more
      | .ellipsis => breakAt place ++ breaks overflow width next word.cells more
    else if used ≠ 0 ∧ place ≠ 0 then place :: breaks overflow width next word.cells more
    else breaks overflow width next used more

/-- A text cut at places, counted from one that lies before it. -/
def cutAt : Nat → List Nat → Text → List Text
  | _, [], t => [t]
  | start, place :: places, t =>
    t.take (place - start) :: cutAt place places (t.drop (place - start))

/-- A line without so many blanks at its end as are beyond a width. -/
def withoutExcess (width : Nat) (line : Text) : Text :=
  let blanks := line.length - (Text.trimEnd line).length
  line.take (line.length - min blanks (line.length - width))

/-- The ellipsis. -/
def ellipsis : CodePoint := '…'

/-- A line that is too wide, cut off. -/
def clipped (overflow : Overflow) (width : Nat) (line : Text) : Text :=
  if line.cells ≤ width then line
  else
    match overflow with
    | .fold => line.fitted width
    | .ellipsis => line.fitted (width - 1) ++ [ellipsis]

/-- A line as wide as all, with its text on a side. -/
def placed (side : Side) (overflow : Overflow) (width : Nat) (line : Text) : Text :=
  match side with
  | .left =>
    let line := clipped overflow width line
    line ++ Text.spaces (width - line.cells)
  | .centre =>
    let line := clipped overflow width (Text.trimEnd line)
    let before := (width - line.cells) / 2
    Text.spaces before ++ line ++ Text.spaces (width - before - line.cells)

/-- The lines of a text. -/
def lines (side : Side) (overflow : Overflow) (width : Nat) (t : Text) : List Text :=
  (t.splitOn CodePoint.lineFeed).flatMap fun line =>
    let line := expanded line
    (cutAt 0 (breaks overflow width 0 0 (words line)) line).map fun part =>
      placed side overflow width (withoutExcess width part)

end Wrapping

end PullNotes
