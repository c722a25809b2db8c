import PullNotes.Digest.Basic
import PullNotes.Markdown.Code

/-!
# Reports in Markdown

The comment on a pull request: a marker line by which it is recognised, a heading, and one section
for each digest.  A comment beyond a limit is clipped and says so.
-/

namespace PullNotes

namespace Markdown

/-- Each text as a line: the texts joined by line feeds, and one at the end. -/
def asLines (ls : List Text) : Text := Text.join [lineEnd] ls ++ [lineEnd]

/-- The lines of a pair: its script, the name of its handler, and the handler's source. -/
def pairLines (language : Text) (p : Pair) : List Text :=
  [Text.concat ["**Script:** ", codeSpan p.script], Text.concat ["**", p.handler.name, "(function):**"]]
    ++ codeBlock p.handler.source language ++ [[]]

/-- The line of a script without a handler. -/
def scriptLine (script : Text) : Text := .concat ["- ", codeSpan script]

/-- The lines of a handler without a script. -/
def handlerLines (language : Text) (h : Handler) : List Text :=
  [Text.concat ["**", h.name, ":**"]] ++ codeBlock h.source language ++ [[]]

/-- The lines of the scripts without a handler, if there are any. -/
def scriptsLines (scripts : List Text) : List Text :=
  if scripts.isEmpty then []
  else [Text.ofString "### Single Scripts:"] ++ scripts.map scriptLine ++ [[]]

/-- The lines of the handlers without a script, if there are any. -/
def handlersLines (language : Text) (handlers : List Handler) : List Text :=
  if handlers.isEmpty then []
  else [Text.ofString "### Single Functions:"] ++ handlers.flatMap (handlerLines language)

/-- The lines of the section of a digest. -/
def sectionLines (language : Text) (d : Digest) : List Text :=
  [Text.concat ["## ", d.filePath, ":"], "### Info:"] ++ d.pairs.flatMap (pairLines language)
    ++ scriptsLines d.scripts ++ handlersLines language d.handlers

/-- The section of a digest. -/
def digestSection (language : Text) (d : Digest) : Text := asLines (sectionLines language d)

/-- The line of a marker. -/
def markerLine (marker : Text) : Text := .concat [marker, " \n"]

/-- The comment with some sections. -/
def comment (marker : Text) (sections : List Text) : Text :=
  .concat [markerLine marker, "# Overview\n", .concat sections]

/-- The comment for no section at all. -/
def emptyComment (marker : Text) : Text :=
  .concat [markerLine marker, "# No files changed ☑️ ", markerLine marker]

/-- What is said at the end of a clipped comment. -/
def clippedNote : Text := "\n\n> Report truncated: it exceeds GitHub's comment size limit.\n"

/-- The length that is kept of a comment beyond a limit. -/
def keptLength (limit : Int) : Nat := (limit - clippedNote.length).toNat

/-- A comment within a limit as it is, any other clipped and with the note, so that it has the
length of the limit if the note alone does not exceed it. -/
def clip (limit : Int) (body : Text) : Text :=
  if body.length ≤ limit then body else body.take (keptLength limit) ++ clippedNote

/-- The greatest length of a comment that is accepted. -/
def acceptedLength : Nat := 65536

end Markdown

end PullNotes
