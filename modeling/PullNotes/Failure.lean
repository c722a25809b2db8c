import PullNotes.Console.Markup
import PullNotes.Digest.OfSource
import PullNotes.Files
import PullNotes.Json.Reading
import PullNotes.Validation

/-!
# Failures

Every way in which an operation of the program can fail, by cause.  The reported failures are those
that the program is prepared for: its settings, the pull request that is meant, a source, the
listing of changes, and the commands that it runs.
-/

namespace PullNotes

/-- What is wrong with the content of a settings file. -/
inductive SettingsFault where
  | malformed (e : JsonError)
  | notObject (typeName : String)
  | invalid (issues : List Issue)

/-- Why the changes could not be listed. -/
inductive ListingFault where
  | timedOut (arguments : List Text) (seconds : Int)
  | notInstalled (program : Text)
  | refused (base errors : Text)
deriving DecidableEq, Repr

/-- Why a remote request did not succeed. -/
inductive RemoteFault where
  | timedOut (seconds : Int)
  | notInstalled
  | refused (endpoint errors : Text) (status : Int)
deriving DecidableEq, Repr

/-- What is wrong with an event or with the number that it gives. -/
inductive EventFault where
  | notObject
  | notNumber
  | infinite
  | undefined
deriving DecidableEq, Repr

/-- What is wrong with the answer to a remote request. -/
inductive AnswerFault where
  | notObject
  | withoutId
  | invalid (issues : List Issue)

/-- Why an operation failed. -/
inductive Failure where
  | settings (path : Text) (fault : SettingsFault)
  | repositoryUnknown
  | numberUnknown
  | requestRequired
  | source (e : SourceError)
  | listing (fault : ListingFault)
  | listingWithoutErrors
  | remote (fault : RemoteFault)
  | unknownKey (key : Text)
  | invalid (model : String) (issues : List Issue)
  | event (fault : EventFault)
  | answer (fault : AnswerFault)
  | numeral (e : NumeralError)
  | json (e : JsonError)
  | file (e : FileError)
  | coding (e : CodingError)
  | markup (e : MarkupError)
  | display (e : CodingError)

namespace SettingsFault

/-- The fault in words. -/
def message : SettingsFault → Text
  | malformed e => e.message
  | notObject typeName =>
    .concat ["reviewbot.config.BotConfig() argument after ** must be a mapping, not ", typeName]
  | invalid issues => Issue.messageOfAll "BotConfig" issues

end SettingsFault

namespace ListingFault

/-- The fault in words. -/
def message : ListingFault → Text
  | timedOut arguments seconds =>
    .concat ["Could not run git diff: Command '", (Json.list (arguments.map .text)).shown,
      "' timed out after ", .ofInt seconds, " seconds"]
  | notInstalled program =>
    .concat ["Could not run git diff: ", (FileError.notFound program).message]
  | refused base errors => .concat ["git diff against '", base, "' failed: ", errors]

end ListingFault

namespace RemoteFault

/-- The fault in words; one without errors gives its status. -/
def message : RemoteFault → Text
  | timedOut seconds => .concat ["gh api timed out after ", .ofInt seconds, "s"]
  | notInstalled => "The GitHub CLI (gh) is not installed"
  | refused endpoint errors status =>
    .concat ["gh api ", endpoint, ": ",
      if errors.isEmpty then .concat ["exit status ", .ofInt status] else errors]

/-- The status that a command ended with, if it ended by itself. -/
def status? : RemoteFault → Option Int
  | refused _ _ status => some status
  | _ => none

end RemoteFault

/-- The fault in words, if it has any. -/
def EventFault.message : EventFault → Text
  | notObject => []
  | notNumber => []
  | infinite => "cannot convert float infinity to integer"
  | undefined => "cannot convert float NaN to integer"

/-- The fault in words, if it has any. -/
def AnswerFault.message : AnswerFault → Text
  | notObject => []
  | withoutId => ("id" : Text).quoted
  | invalid issues => Issue.messageOfAll "IssueComment" issues

namespace Failure

/-- The beginning of a message about a settings file. -/
def settingsPrelude (path : Text) : Text := .concat ["Invalid config file ", path, ": "]

/-- What is advised when a text cannot be displayed. -/
def displayAdvice : Text :=
  "\n*** You may need to add PYTHONIOENCODING=utf-8 to your environment ***"

/-- The failure in words, if it has any. -/
def message : Failure → Text
  | settings path fault => settingsPrelude path ++ fault.message
  | repositoryUnknown => "Repository unknown. Pass --repo owner/name or set GITHUB_REPOSITORY."
  | numberUnknown => "Pull request number unknown. Pass --pr or run on a pull_request event."
  | requestRequired => "A pull request is required unless dry_run is set"
  | source e => e.message
  | listing fault => fault.message
  | listingWithoutErrors => []
  | remote fault => fault.message
  | unknownKey key => (Text.concat ["Invalid config key: ", key]).quoted
  | invalid model issues => Issue.messageOfAll model issues
  | event fault => fault.message
  | answer fault => fault.message
  | numeral e => e.message
  | json e => e.message
  | file e => e.message
  | coding e => e.message
  | markup e => e.message
  | display e => e.message ++ displayAdvice

/-- Whether the program is prepared for a failure and reports it. -/
def isReported : Failure → Bool
  | settings .. => true
  | repositoryUnknown => true
  | numberUnknown => true
  | requestRequired => true
  | source (.unknownLanguage _) => true
  | source (.malformed _) => true
  | listing _ => true
  | remote _ => true
  | _ => false

end Failure

end PullNotes
