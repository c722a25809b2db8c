import PullNotes.Change.Basic
import PullNotes.CommandLine.Arguments
import PullNotes.Files
import PullNotes.Numeral

/-!
# What a command line asks for

The words of a command line lead to a command, and the options and arguments after them say what it
is asked to do.  The options for help and for the version go before all else, and then every
argument is checked in order.
-/

namespace PullNotes

namespace CommandLine

/-- What a review is asked to do. -/
structure ReviewRequest where
  path : Option Text
  base : Option Text
  repository : Option Text
  number : Option Int
  paths : ChangedPaths
  dryRun : Bool
  verbose : Bool
deriving DecidableEq, Repr

/-- What a scan is asked to do. -/
structure ScanRequest where
  files : List Text
  markdown : Bool
  strict : Bool
deriving DecidableEq, Repr

/-- What a command line asks for. -/
inductive Request where
  | help (page : Page)
  | version
  | review (r : ReviewRequest)
  | scan (r : ScanRequest)
  | showSettings (path : Option Text)
  | changeSetting (key value : Text) (path : Option Text)
deriving DecidableEq, Repr

namespace Request

/-! ### Checks -/

/-- The number of the pull request that is given, if one is. -/
def number? (a : Arguments) : Except Mistake (Option Int) :=
  match a.value? .number with
  | none => .ok none
  | some value =>
    match Numeral.read 10 value with
    | .ok n => .ok (some n)
    | .error _ => .error (.notWhole value)

/-- The path of a file, which has to be there. -/
def file (fs : Files) (path : Text) : Except Mistake Text :=
  match fs.isThere path with
  | .ok true => if fs.hasFolderAt path then .error (.fileIsFolder path) else .ok path
  | _ => .error (.fileMissing path)

/-- No more words. -/
def nothingMore (words : List Text) : Except Mistake Unit :=
  if words.isEmpty then .ok () else .error (.unexpected words)

/-! ### Commands -/

/-- What a review is asked to do by its arguments. -/
def ofReview (a : Arguments) : Except Mistake Request := do
  let number ← number? a
  nothingMore a.words
  .ok (.review {
    path := a.value? .path
    base := a.value? .base
    repository := a.value? .repo
    number := number
    paths := ⟨a.values .modified, a.values .created⟩
    dryRun := a.has .dryRun
    verbose := a.has .verbose })

/-- What a scan is asked to do by its arguments. -/
def ofScan (fs : Files) (a : Arguments) : Except Mistake Request := do
  if a.words.isEmpty then .error (.argumentRequired "FILES...")
  let files ← a.words.mapM (file fs)
  .ok (.scan ⟨files, a.has .markdown, a.has .strict⟩)

/-- What the command that shows the settings is asked to do by its arguments. -/
def ofConfigShow (a : Arguments) : Except Mistake Request := do
  nothingMore a.words
  .ok (.showSettings (a.value? .path))

/-- What the command that changes a setting is asked to do by its arguments. -/
def ofConfigSet (a : Arguments) : Except Mistake Request :=
  match a.words with
  | [] => .error (.argumentRequired "KEY")
  | [_] => .error (.argumentRequired "VALUE")
  | key :: value :: more => do
    nothingMore more
    .ok (.changeSetting key value (a.value? .path))

/-- What a command is asked to do by its arguments. -/
def ofArguments (fs : Files) (page : Page) (a : Arguments) : Except Mistake Request :=
  match page with
  | .review => ofReview a
  | .scan => ofScan fs a
  | .configShow => ofConfigShow a
  | .configSet => ofConfigSet a
  | _ => .error .noCommandGiven

/-- What a command is asked to do, if help or the version is asked for. -/
def first? (page : Page) (a : Arguments) : Option Request :=
  match a.first? [.help, .version] with
  | some .version => some .version
  | some _ => some (.help page)
  | none => none

/-! ### Words -/

/-- A mistake in the use of a command. -/
def on {α : Type} (page : Page) : Except Mistake α → Except Complaint α
  | .ok a => .ok a
  | .error mistake => .error ⟨page, mistake⟩

/-- What is wrong with the name of a command; one that looks like an option is also taken for
one. -/
def unknown (page : Page) (words : List Text) (name : Text) : Except Mistake Request := do
  let complaint := Mistake.unknownCommand name
    (Similar.suggestions name (page.commands.map fun (known, _) => Text.ofString known))
  if name.head? = some Arguments.dash then
    let a ← Arguments.read page.switches false words
    match first? page a with
    | some request => .ok request
    | none => .error complaint
  else .error complaint

/-- What the words after a command that does something ask for. -/
def ofAction (fs : Files) (page : Page) (words : List Text) : Except Complaint Request :=
  on page do
    let a ← Arguments.read page.switches true words
    match first? page a with
    | some request => .ok request
    | none => ofArguments fs page a

/-- What the words after a command that leads to others ask for, given what is asked for by the
words after those. -/
def ofGroup (next : Page → List Text → Except Complaint Request) (page : Page)
    (words : List Text) : Except Complaint Request :=
  if words.isEmpty then .error ⟨page, .nothingGiven⟩
  else do
    let a ← on page (Arguments.read page.switches false words)
    match first? page a, a.words with
    | some request, _ => .ok request
    | none, [] => .error ⟨page, .noCommandGiven⟩
    | none, name :: rest =>
      match page.commands.find? fun (known, _) => Text.ofString known == name with
      | some (_, command) => next command rest
      | none => on page (unknown page (name :: rest) name)

/-- What the words after a command ask for. -/
def ofPage (fs : Files) (page : Page) (words : List Text) : Except Complaint Request :=
  if page.commands.isEmpty then ofAction fs page words else ofGroup (ofAction fs) page words

/-- What a command line asks for. -/
def read (fs : Files) (words : List Text) : Except Complaint Request :=
  ofGroup (ofPage fs) .main words

end Request

end CommandLine

end PullNotes
