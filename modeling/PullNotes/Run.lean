import PullNotes.Failure

/-!
# Runs

An operation of the program works on its surroundings: the files of a checkout, a few environment
variables, and other programs that answer its commands.  A run keeps the commands that it gave, what
it noted and what it printed on the way, also when it fails.
-/

namespace PullNotes

/-- A command: a program with its arguments, what it is given to read, and how long it may take. -/
structure Command where
  arguments : List Text
  input : Option Text := none
  seconds : Int
deriving DecidableEq, Repr

/-- What comes of a command. -/
inductive Reply where
  | finished (status : Int) (output : Text) (errors : Option Text)
  | timedOut
  | notInstalled
deriving DecidableEq, Repr

/-- How important a note is. -/
inductive NoteLevel where
  | debug
  | info
deriving DecidableEq, Repr

/-- The name of a level. -/
def NoteLevel.name : NoteLevel → String
  | debug => "DEBUG"
  | info => "INFO"

/-- Something noted on the way, with the part of the program that it is from. -/
structure Note where
  level : NoteLevel
  topic : String
  text : Text
deriving DecidableEq, Repr

/-- A note as a line. -/
def Note.line (n : Note) : Text :=
  .concat ["[reviewbot] ", n.level.name, " ", n.topic, ": ", n.text]

/-- The environment variables that count; one that is not set is nothing. -/
structure Environment where
  repository : Option Text := none
  eventPath : Option Text := none
  number : Option Text := none
  baseRef : Option Text := none
deriving DecidableEq, Repr

/-- What a run works on: the files, the environment, the replies still to come, and what every
command comes to after them.  Commands and notes are kept with the oldest first, and so is all that
was printed. -/
structure Surroundings where
  files : Files
  environment : Environment := {}
  replies : List Reply := []
  afterwards : Reply := .notInstalled
  commands : List Command := []
  notes : List Note := []
  printed : Text := []

/-- An operation that may fail and that works on its surroundings. -/
abbrev Run := ExceptT Failure (StateM Surroundings)

namespace Run

/-- The outcome of a run and its surroundings afterwards. -/
def outcome {α : Type} (r : Run α) (s : Surroundings) : Except Failure α × Surroundings := r s

/-- Goes on with a value, or fails for a reason. -/
def ofExcept {ε α : Type} (reason : ε → Failure) : Except ε α → Run α
  | .ok a => pure a
  | .error e => throw (reason e)

/-- Gives a command and waits for its reply. -/
def command (c : Command) : Run Reply := do
  let s ← get
  match s.replies with
  | [] =>
    set { s with commands := s.commands ++ [c] }
    return s.afterwards
  | reply :: rest =>
    set { s with commands := s.commands ++ [c], replies := rest }
    return reply

/-- Notes something. -/
def note (level : NoteLevel) (topic : String) (text : Text) : Run Unit :=
  modify fun s => { s with notes := s.notes ++ [⟨level, topic, text⟩] }

/-- Prints a text that can be written, or fails for a reason. -/
def printOr (reason : CodingError → Failure) (text : Text) : Run Unit := do
  let _ ← ofExcept reason text.toCharsOrError
  modify fun s => { s with printed := s.printed ++ text }

/-- The outcome of an operation, which is no failure of its own. -/
def observe {α : Type} (r : Run α) : Run (Except Failure α) := ExceptT.lift r.run

/-- The content of a file. -/
def readBytes (path : Text) : Run Bytes := do
  ofExcept .file ((← get).files.read path)

/-- The name of the encoding of the program's own files. -/
def ownEncoding : Text := "utf-8"

/-- The text of a file in a named encoding; the file is opened before the name is looked at. -/
def readText (encoding path : Text) : Run Text := do
  let bytes ← readBytes path
  ofExcept .coding (Encoding.readFile encoding bytes)

/-- Changes the files. -/
def changeFiles (f : Files → Except FileError Files) : Run Unit := do
  let s ← get
  let files ← ofExcept .file (f s.files)
  set { s with files := files }

end Run

end PullNotes
