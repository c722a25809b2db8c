import PullNotes.Text.Basic

/-!
# Digests

What a source file has to say in a review: its scripts, its handlers, and the handlers that belong
to a script, each list in the order of the source.
-/

namespace PullNotes

/-- A handler is a property whose value is a function: its key and the source text of the
function. -/
structure Handler where
  name : Text
  source : Text
deriving DecidableEq, Repr

/-- A script and the handler that comes next. -/
structure Pair where
  script : Text
  handler : Handler
deriving DecidableEq, Repr

/-- The digest of a file: the scripts without a handler, the handlers without a script, and the
pairs. -/
structure Digest where
  filePath : Text
  language : Text
  scripts : List Text := []
  handlers : List Handler := []
  pairs : List Pair := []
deriving DecidableEq, Repr

/-- Whether a digest lists nothing. -/
def Digest.isEmpty (d : Digest) : Bool :=
  d.scripts.isEmpty && d.handlers.isEmpty && d.pairs.isEmpty

end PullNotes
