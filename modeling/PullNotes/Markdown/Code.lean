import PullNotes.Text.Line

/-!
# Code in Markdown

A code span is closed by a run of backticks as long as the one that opens it, and a code block by a
fence at least as long as its own.  Both are made longer than every run inside the code, so the code
cannot close them.
-/

namespace PullNotes

namespace Markdown

/-- The backtick. -/
def tick : CodePoint := '`'

/-- The line feed, which ends a line of Markdown. -/
def lineEnd : CodePoint := '\n'

/-- The space. -/
def space : CodePoint := ' '

/-- A number of backticks. -/
def ticks (n : Nat) : Text := List.replicate n tick

/-- The lengths of the run of backticks at the start of a text and of its longest run. -/
def runs (t : Text) : Nat × Nat :=
  t.foldr (fun c (leading, longest) =>
    if c = tick then (leading + 1, max longest (leading + 1)) else (0, longest)) (0, 0)

/-- The length of the longest run of backticks in a text. -/
def longestRun (t : Text) : Nat := (runs t).2

/-- Whether a text starts or ends with a backtick. -/
def touchesTick (t : Text) : Bool := t.head? == some tick || t.getLast? == some tick

/-- A text with a space at either end if it starts or ends with a backtick. -/
def padded (t : Text) : Text := if touchesTick t then space :: t ++ [space] else t

/-- The lines of a text as one line, with a space between neighbours. -/
def oneLine (t : Text) : Text := Text.join [space] t.lines

/-- A code span with a text made one line. -/
def codeSpan (t : Text) : Text :=
  let line := oneLine t
  let mark := ticks (longestRun line + 1)
  mark ++ padded line ++ mark

/-- The least length of a fence. -/
def leastFence : Nat := 3

/-- The fence for a source. -/
def fenceFor (source : Text) : Text := ticks (max leastFence (longestRun source + 1))

/-- The lines of a code block: the fence with the language, the source and the fence. -/
def codeBlock (source language : Text) : List Text :=
  let fence := fenceFor source
  [fence ++ language, source, fence]

end Markdown

end PullNotes
