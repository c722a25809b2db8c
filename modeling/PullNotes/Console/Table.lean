import PullNotes.Console.Wrapping
import PullNotes.Decimal.Binary64

/-!
# Tables

A table has a title, a row of headings and rows of cells, in a box of lines.  A column is as wide as
its widest cell.  If that is too wide altogether, the widest columns are narrowed first.
-/

namespace PullNotes

/-- A table: its title, if it has one, its headings and its rows. -/
structure Table where
  title : Option Text
  headings : List Text
  rows : List (List Text)
deriving DecidableEq, Repr

namespace Table

/-! ### Widths -/

/-- The sum of widths. -/
def altogether (widths : List Nat) : Nat := widths.foldr (· + ·) 0

/-- The spaces at the sides of a cell. -/
def padding : Nat := 2

/-- The width of a text that is not wrapped. -/
def textWidth (t : Text) : Nat := (t.lines.map Text.cells).foldl max 0

/-- The width that a cell asks for within a limit. -/
def cellWidth (limit : Nat) (t : Text) : Nat :=
  if limit ≤ padding then limit else min limit (min limit (textWidth t) + padding)

/-- The width that a column asks for within a limit. -/
def columnWidth (limit : Nat) (cells : List Text) : Nat :=
  (cells.map (cellWidth limit)).foldl max 0

/-- A part of a total by its share, rounded to the nearest whole number, halves to the even one. -/
def part (total share shares : Nat) : Nat := Binary64.nearest (total * share) shares

/-- Widths reduced by a total in proportion to their shares, each by no more than a limit. -/
def reduce (total shares : Nat) : List (Nat × Nat × Nat) → List Nat
  | [] => []
  | (share, limit, width) :: rest =>
    if share ≠ 0 ∧ 0 < shares then
      let taken := min limit (part total share shares)
      (width - taken) :: reduce (total - taken) (shares - share) rest
    else width :: reduce total shares rest

/-- Widths reduced by a total; only those with a share and a limit above zero are. -/
def reduced (total : Nat) (shares limits widths : List Nat) : List Nat :=
  let shares := (shares.zip limits).map fun (share, limit) => if limit = 0 then 0 else share
  if altogether shares = 0 then widths
  else reduce total (altogether shares) (shares.zip (limits.zip widths))

/-- Widths with the greatest ones reduced to the next greatest as long as the total is too great; a
number of times at most. -/
def narrowed (limit : Nat) : Nat → List Nat → List Nat
  | 0, widths => widths
  | n + 1, widths =>
    let excess := altogether widths - limit
    if excess = 0 then widths
    else
      let greatest := widths.foldl max 0
      let next := (widths.filter (· ≠ greatest)).foldl max 0
      if greatest = next then widths
      else
        let shares := widths.map fun width => if width = greatest then 1 else 0
        narrowed limit n
          (reduced excess shares (widths.map fun _ => min excess (greatest - next)) widths)

/-- Widths with a total within a limit as far as possible. -/
def within (limit : Nat) (widths : List Nat) : List Nat :=
  let widths := narrowed limit (altogether widths) widths
  if limit < altogether widths then
    reduced (altogether widths - limit) (widths.map fun _ => 1) widths widths
  else widths

/-- The columns of a table. -/
def columns (t : Table) : List (List Text) :=
  t.headings.zipIdx.map fun (heading, i) => heading :: t.rows.map fun row => row.getD i []

/-- The widths of the columns within a limit. -/
def widths (t : Table) (limit : Nat) : List Nat :=
  let asked := t.columns.map fun column => max 1 (columnWidth limit column)
  if altogether asked ≤ limit then asked
  else ((within limit asked).zip t.columns).map fun (width, column) => columnWidth width column

/-! ### Lines -/

/-- The lines of a box: at the left, between columns, at the right, and along a column. -/
structure Border where
  left : String
  between : String
  right : String
  along : String := ""

/-- The border above the headings. -/
def above : Border := ⟨"┏", "┳", "┓", "━"⟩

/-- The border around the headings. -/
def aroundHeadings : Border := ⟨"┃", "┃", "┃", ""⟩

/-- The border below the headings. -/
def belowHeadings : Border := ⟨"┡", "╇", "┩", "━"⟩

/-- The border around other cells. -/
def aroundCells : Border := ⟨"│", "│", "│", ""⟩

/-- The border below all rows. -/
def below : Border := ⟨"└", "┴", "┘", "─"⟩

/-- Parts of a line within a border. -/
def bordered (b : Border) (parts : List Text) : Text :=
  .concat [b.left, Text.join b.between parts, b.right]

/-- A line of a border alone. -/
def ruled (b : Border) (widths : List Nat) : Text :=
  bordered b (widths.map fun width => (List.replicate width (Text.ofString b.along)).flatten)

/-- The lines of a cell; without room for its text there are none. -/
def cellLines (width : Nat) (t : Text) : List Text :=
  if width ≤ padding then []
  else
    (Wrapping.lines .left .ellipsis (width - padding) t).map fun line =>
      Text.concat [" ", line.fitted (width - padding), " "]

/-- The lines of a row. -/
def rowLines (b : Border) (widths : List Nat) (row : List Text) : List Text :=
  let cells := (widths.zip row).map fun (width, t) => cellLines width t
  let height := (cells.map List.length).foldl max 1
  (List.range height).map fun i =>
    bordered b ((widths.zip cells).map fun (width, cell) => cell.getD i (Text.spaces width))

/-- The lines of the box around a number of columns that take up cells of their own. -/
def borderWidth (t : Table) : Nat := t.headings.length + 1

/-- The lines of a table on a screen of a width. -/
def lines (t : Table) (width : Nat) : List Text :=
  let widths := t.widths (width - t.borderWidth)
  let title := t.title.toList.flatMap
    (Wrapping.lines .centre .fold (altogether widths + t.borderWidth))
  let all := title ++ [ruled above widths] ++ rowLines aroundHeadings widths t.headings
    ++ [ruled belowHeadings widths] ++ t.rows.flatMap (rowLines aroundCells widths)
    ++ [ruled below widths]
  all.map (Text.cropped width)

end Table

end PullNotes
