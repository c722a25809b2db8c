import PullNotes.Json.Written
import PullNotes.Run
import PullNotes.Settings.Checking

/-!
# The settings file

A project keeps its settings in a file of its own folder.  Without the file the defaults hold.
-/

namespace PullNotes

namespace Settings

/-- The name of the folder that the settings are in. -/
def folderName : Text := ".reviewbot"

/-- The folder of a project that the settings are in. -/
def folder (root : Text) : Text := Path.append root folderName

/-- The file of a project that the settings are in. -/
def filePath (root : Text) : Text := Path.append (folder root) "config.json"

/-- The settings from the members of an object. -/
def ofMembersOrFail (ms : List (Text × Json)) : Run Settings :=
  match ofMembers ms with
  | .ok s => return s
  | .error issues => throw (.invalid "BotConfig" issues)

/-- The settings that a text spells, or why it spells none. -/
def ofText (levels : Json.Levels) (path t : Text) : Except Failure Settings :=
  match Json.readWithin levels t with
  | .error (.malformed (.tooDeep bracket) line column index) =>
    .error (.json (.malformed (.tooDeep bracket) line column index))
  | .error (.malformed fault line column index) =>
    .error (.settings path (.malformed (.malformed fault line column index)))
  | .error (.numeral e) => .error (.json (.numeral e))
  | .ok (.object ms) =>
    match ofMembers ms with
    | .ok s => .ok s
    | .error issues => .error (.settings path (.invalid issues))
  | .ok v => .error (.settings path (.notObject v.typeName))

/-- The settings of a project, in a file that is read to a number of levels. -/
def loadWithin (levels : Json.Levels) (root : Text) : Run Settings := do
  let path := filePath root
  if ← Run.ofExcept .file ((← get).files.isThere path) then
    Run.ofExcept id (ofText levels path (← Run.readText Run.ownEncoding path))
  else return {}

/-- The settings of a project. -/
def load (root : Text) : Run Settings := loadWithin none root

/-- The settings as the text of a file. -/
def written (s : Settings) : Text := (Json.object s.toMembers).written (.indented 2)

/-- Saves the settings of a project. -/
def save (root : Text) (s : Settings) : Run Unit := do
  Run.changeFiles (Files.makeFolder · (folder root))
  Run.changeFiles (Files.write · (filePath root) (Utf8.write s.written))

/-- The settings with the one of a dotted key replaced. -/
def withKey (s : Settings) (key : Text) (value : Json) : Run Settings :=
  match s.withMember? key value with
  | none => throw (.unknownKey key)
  | some ms => ofMembersOrFail ms

end Settings

end PullNotes
