import PullNotes.CommandLine.Page
import PullNotes.Text.Quoted

/-!
# Complaints

What is said about a command line that does not fit: how the command is used, where there is help,
and what is wrong.
-/

namespace PullNotes

namespace CommandLine

/-- What is wrong with a command line. -/
inductive Mistake where
  | nothingGiven
  | noCommandGiven
  | unknownCommand (name : Text) (similar : List Text)
  | unknownOption (name : Text) (similar : List Text)
  | valueRequired (option : Text)
  | valueRefused (option : Text)
  | argumentRequired (name : String)
  | unexpected (arguments : List Text)
  | notWhole (value : Text)
  | fileMissing (path : Text)
  | fileIsFolder (path : Text)
deriving DecidableEq, Repr

/-- A command line that does not fit a command. -/
structure Complaint where
  page : Page
  mistake : Mistake
deriving DecidableEq, Repr

/-- What may be meant instead. -/
def suggestion : List Text → Text
  | [] => []
  | [one] => .concat [" Did you mean ", one.quoted, "?"]
  | many => .concat [" (Did you mean one of: ", Text.join ", " (many.map Text.quoted), "?)"]

namespace Mistake

/-- The start of a message about the files. -/
def aboutFiles : Text := "Invalid value for 'FILES...': File "

/-- The mistake in words. -/
def message : Mistake → Text
  | nothingGiven => []
  | noCommandGiven => "Missing command."
  | unknownCommand name similar =>
    .concat ["No such command ", name.quoted, ".", suggestion similar]
  | unknownOption name similar => .concat ["No such option ", name.quoted, ".", suggestion similar]
  | valueRequired option => .concat ["Option ", option.quoted, " requires an argument."]
  | valueRefused option => .concat ["Option ", option.quoted, " does not take a value."]
  | argumentRequired name => .concat ["Missing argument '", name, "'."]
  | unexpected arguments =>
    .concat ["Got unexpected extra argument", if arguments.length = 1 then "" else "s", " (",
      Text.join " " arguments, ")"]
  | notWhole value =>
    .concat ["Invalid value for '--pr': ", value.quoted, " is not a valid integer."]
  | fileMissing path => .concat [aboutFiles, path.quoted, " does not exist."]
  | fileIsFolder path => .concat [aboutFiles, path.quoted, " is a directory."]

/-- Whether a complaint says how the command is used: not about the value of an option. -/
def showsUsage : Mistake → Bool
  | valueRequired _ => false
  | valueRefused _ => false
  | _ => true

end Mistake

namespace Complaint

/-- How the command is used, and where there is help. -/
def usage (c : Complaint) : Text :=
  .concat [c.page.usage, "Try '", c.page.words, " --help' for help.\n\n"]

/-- The complaint in words; to nothing at all the answer is the help page. -/
def text (c : Complaint) : Text :=
  match c.mistake with
  | .nothingGiven => c.page.help
  | mistake =>
    .concat [if mistake.showsUsage then c.usage else [], "Error: ", mistake.message, "\n"]

end Complaint

end CommandLine

end PullNotes
