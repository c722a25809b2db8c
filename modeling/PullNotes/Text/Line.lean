import PullNotes.Text.Basic

/-!
# Lines of a text

A text is cut into lines at every line boundary: the line feed, the vertical tab, the form feed,
the carriage return, the three information separators U+001C to U+001E, the next-line control and
the two Unicode separators.  A carriage return and the line feed right after it are one boundary.

* `Text.lines_boundary_free` : no line holds a boundary.
-/

namespace PullNotes

namespace CodePoint

/-- The code points that end a line. -/
def isLineBoundary (c : CodePoint) : Bool :=
  (10 ≤ c.val && c.val ≤ 13) || (28 ≤ c.val && c.val ≤ 30) || c.val = 0x85 ||
    c.val = 0x2028 || c.val = 0x2029

/-- The carriage return. -/
def carriageReturn : CodePoint := '\r'

/-- The line feed. -/
def lineFeed : CodePoint := '\n'

end CodePoint

namespace Text

open CodePoint (carriageReturn lineFeed)

/-- Puts a code point in front of the first line. -/
def consToFirst (c : CodePoint) : List Text → List Text
  | [] => [[c]]
  | line :: lines => (c :: line) :: lines

/-- The lines of a text, without their boundaries; a boundary at the end opens no further line. -/
def lines : Text → List Text
  | [] => []
  | [c] => if c.isLineBoundary then [[]] else [[c]]
  | c :: d :: rest =>
    if c = carriageReturn ∧ d = lineFeed then [] :: lines rest
    else if c.isLineBoundary then [] :: lines (d :: rest)
    else consToFirst c (lines (d :: rest))

/-- Carriage returns, alone or before a line feed, become line feeds. -/
def withLineFeeds : Text → Text
  | [] => []
  | [c] => if c = carriageReturn then [lineFeed] else [c]
  | c :: d :: rest =>
    if c = carriageReturn ∧ d = lineFeed then lineFeed :: withLineFeeds rest
    else if c = carriageReturn then lineFeed :: withLineFeeds (d :: rest)
    else c :: withLineFeeds (d :: rest)

theorem lines_boundary_free (t : Text) : ∀ l ∈ t.lines, ∀ c ∈ l, c.isLineBoundary = false := by
  fun_induction lines t with
  | case1 => simp
  | case2 c h => simp
  | case3 c h => simpa using h
  | case4 c d rest h ih => simpa using ih
  | case5 c d rest h1 h2 ih => simpa using ih
  | case6 c d rest h1 h2 ih =>
    intro l hl x hx
    generalize hls : lines (d :: rest) = ls at hl ih
    cases ls with
    | nil =>
      simp only [consToFirst, List.mem_singleton] at hl
      subst hl
      simp only [List.mem_singleton] at hx
      subst hx
      simpa using h2
    | cons a as =>
      simp only [consToFirst, List.mem_cons] at hl
      rcases hl with rfl | hl
      · rcases List.mem_cons.1 hx with rfl | hx
        · simpa using h2
        · exact ih a (by simp) x hx
      · exact ih l (by simp [hl]) x hx

end Text

end PullNotes
