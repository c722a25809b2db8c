import PullNotes.Console.Markup
import PullNotes.Console.Table
import PullNotes.Digest.Basic

/-!
# Messages on the console

A message is a line with a mark in front: done, failed, or said.  The digest of a file is shown as a
table.  Messages and the texts of a table are markup; what reads the markup is a parameter.
-/

namespace PullNotes

namespace Console

/-- What a message is about. -/
inductive Mood where
  | success
  | problem
  | info
deriving DecidableEq, Repr

/-- The mark in front of a message, as markup. -/
def Mood.mark : Mood → Text
  | success => "[green]✓[/green] "
  | problem => "[red]✗[/red] "
  | info => "[blue]i[/blue] "

/-- Lines with a line feed after each. -/
def asLines (lines : List Text) : Text := lines.flatMap fun line => line ++ [CodePoint.lineFeed]

/-- A message; it is not wrapped. -/
def messageBy (render : Renderer) (mood : Mood) (text : Text) : Except MarkupError Text := do
  let shown ← render (mood.mark ++ text)
  .ok (asLines ((shown.splitOn CodePoint.lineFeed).map Wrapping.expanded))

/-- A message, by the reader of markup that the program comes with. -/
def message (mood : Mood) (text : Text) : Except MarkupError Text :=
  messageBy Markup.standard mood text

/-- The message about what was done to the comment of a review. -/
def syncMessage (action : Text) (commentId : Int) : Text :=
  .concat ["Review comment ", action, " (id ", .ofInt commentId, ")"]

/-- The rows of the table of a digest: the kind of an entry, its name, and its script. -/
def rows (d : Digest) : List (List Text) :=
  d.pairs.map (fun p => [Text.ofString "pair", p.handler.name, p.script])
    ++ d.scripts.map (fun script => [Text.ofString "script", [], script])
    ++ d.handlers.map fun h => [Text.ofString "function", h.name, []]

/-- The headings of the table of a digest. -/
def headings : List Text := ["Kind", "Name", "Script"]

/-- A column of the table of a digest, as it is shown. -/
def shownColumn (render : Renderer) (d : Digest) (i : Nat) : Except MarkupError (List Text) :=
  (rows d).mapM fun row => render (row.getD i [])

/-- The title of the table of a digest, as it is shown. -/
def shownTitle (render : Renderer) (d : Digest) : Except MarkupError (Option Text) :=
  if d.filePath.isEmpty then .ok none
  else do
    let title ← render d.filePath
    .ok (some title)

/-- The table of a digest. -/
def table (render : Renderer) (d : Digest) : Except MarkupError Table := do
  let kinds ← shownColumn render d 0
  let names ← shownColumn render d 1
  let scripts ← shownColumn render d 2
  let title ← shownTitle render d
  .ok ⟨title, headings, (kinds.zip (names.zip scripts)).map fun (kind, name, script) =>
    [kind, name, script]⟩

/-- The digest of a file on a screen of a width: a table, or a message if there is nothing in it. -/
def digestBy (render : Renderer) (width : Nat) (d : Digest) : Except MarkupError Text :=
  if d.isEmpty then messageBy render .info (.concat [d.filePath, ": no scripts or functions found"])
  else do
    let t ← table render d
    .ok (asLines (t.lines width))

/-- The digest of a file on a screen of a width, by the reader of markup that the program comes
with. -/
def digest (width : Nat) (d : Digest) : Except MarkupError Text := digestBy Markup.standard width d

end Console

end PullNotes
