import PullNotes.CommandLine.Program

/-!
# The program in a shell

The files that a command line may be about are read before anything is done, and those that changed
are written afterwards; in between `CommandLine.run` decides alone.  No other program is started
from here, so a command comes to nothing but a program that is not installed.
-/

namespace PullNotes

namespace Shell

/-- The number by which the system says that a folder was read as a file. -/
def folderCode : UInt32 := 21

/-- A text as the system takes it; one with surrogates is empty. -/
def systemText (t : Text) : String := .ofList (t.toChars?.getD [])

/-- The texts in a command line that may be paths: each word, what is behind a short option, and
what is behind an equals sign. -/
def mentioned (words : List Text) : List Text :=
  (words.flatMap fun word =>
    [word, word.drop 2, ((Text.cutAt? ('=' : Char) word).map (·.2)).getD []]).filter (· ≠ [])

/-- The paths that a command line may be about: those that are mentioned, also as seen from one
another, the settings of each of them, and the event. -/
def candidates (environment : Environment) (words : List Text) : List Text :=
  let paths := mentioned words
  environment.eventPath.toList ++ (Path.here :: paths).flatMap fun folder =>
    folder :: Settings.filePath folder :: paths.map (Path.append folder)

/-- The files with what is at a path, if there is anything. -/
def load (fs : Files) (path : Text) : IO Files := do
  match fs.place? path with
  | none => return fs
  | some place =>
    match ← (IO.FS.readBinFile (systemText (fs.pathOf place))).toBaseIO with
    | .ok bytes => return fs.put place bytes.toList
    | .error (.inappropriateType _ code _) =>
      return if code = folderCode then { fs with folders := place :: fs.folders } else fs
    | .error _ => return fs

/-- Writes what is not as it was before. -/
def save (before after : Files) : IO Unit := do
  for place in after.folders do
    unless before.folders.contains place do
      IO.FS.createDirAll (systemText (after.pathOf place))
  for (place, bytes) in after.contents do
    unless before.contents.contains (place, bytes) do
      IO.FS.writeBinFile (systemText (after.pathOf place)) ⟨bytes.toArray⟩

/-- The environment variables that count. -/
def environment : IO Environment := do
  let read (name : String) : IO (Option Text) := do
    return (← IO.getEnv name).map Text.ofString
  return {
    repository := ← read "GITHUB_REPOSITORY"
    eventPath := ← read "GITHUB_EVENT_PATH"
    number := ← read "PR_NUMBER"
    baseRef := ← read "GITHUB_BASE_REF" }

/-- Writes a text. -/
def put (stream : IO.FS.Stream) (t : Text) : IO Unit := do
  stream.write ⟨(Utf8.write t).toArray⟩
  stream.flush

/-- What is said about the failure that ended the program at once. -/
def lastWords (f : Failure) : Text := f.message ++ [CodePoint.lineFeed]

/-- Does what the arguments of the program ask for, and says its status. -/
def run (arguments : List String) : IO UInt32 := do
  let words := arguments.map Text.ofString
  let environment ← environment
  let root := toString (← IO.currentDir)
  let before ← (candidates environment words).foldlM load { root := root }
  let (ending, after) := CommandLine.run words { files := before, environment := environment }
  save before after.files
  put (← IO.getStdout) ending.printed
  put (← IO.getStderr) (ending.complaints ++ (ending.failure.map lastWords).getD [])
  return ending.status.toUInt32

end Shell

end PullNotes

/-- The program. -/
def main (arguments : List String) : IO UInt32 := PullNotes.Shell.run arguments
