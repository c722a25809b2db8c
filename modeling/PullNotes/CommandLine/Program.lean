import PullNotes.CommandLine.Request
import PullNotes.Console.Message
import PullNotes.Console.Sequence
import PullNotes.Review

/-!
# The program

What is asked for on the command line is done, step by step.  A failure that the program is prepared
for is reported on the console and ends the program with a status of its own; any other one ends it
at once.

The program runs on a host: markup is read by the host's console, and settings to the depth that the
host allows.  `CommandLine.runOn` is the program on any host, `CommandLine.run` on the one that it
comes with.
-/

namespace PullNotes

namespace CommandLine

/-- The name and the version of the program. -/
def versionLine : Text := "reviewbot, version 0.1.0\n"

/-- The width of the console. -/
def consoleWidth : Nat := 80

/-- The status of a program that did what it was asked for. -/
def done : Nat := 0

/-- The status of a program that failed. -/
def failed : Nat := 1

/-- The status of a program that was asked for nothing that it can do. -/
def misused : Nat := 2

/-- What the program runs on: the reader of the markup that it prints, and the levels to which it
reads settings. -/
structure Host where
  render : Renderer := Markup.standard
  levels : Json.Levels := none

/-! ### Printing -/

/-- Prints something on the console. -/
def display (shown : Except MarkupError Text) : Run Unit := do
  Run.printOr .display (← Run.ofExcept .markup shown)

/-- Prints a message on the console. -/
def say (host : Host) (mood : Console.Mood) (text : Text) : Run Unit :=
  display (Console.messageBy host.render mood text)

/-- Prints a text as it is, with a line end. -/
def write (text : Text) : Run Unit :=
  Run.printOr .coding (Console.withoutSequences (text ++ [CodePoint.lineFeed]))

/-- Goes on with the outcome of an operation, or reports the failures of a kind, in words. -/
def reporting {α : Type} (host : Host) (reported : Failure → Bool) (words : Failure → Text)
    (action : Run α) (next : α → Run Nat) : Run Nat := do
  match ← Run.observe action with
  | .ok a => next a
  | .error f =>
    if reported f then
      say host .problem (words f)
      return failed
    throw f

/-- Goes on with the outcome of an operation, or reports the failures that the program is prepared
for. -/
def prepared {α : Type} (host : Host) (action : Run α) (next : α → Run Nat) : Run Nat :=
  reporting host Failure.isReported Failure.message action next

/-! ### Commands -/

/-- The directory that is worked in. -/
def here : Text := Path.here

/-- Goes on with the checkout at a path, which has to be there. -/
def inCheckout (host : Host) (path : Option Text) (next : Text → Run Nat) : Run Nat := do
  let given := match path with
    | some (c :: cs) => c :: cs
    | _ => here
  let root := (← get).files.absolute given
  if ← Run.ofExcept .file ((← get).files.isThere root) then next root
  else
    say host .problem (.concat ["Path does not exist: ", path.getD []])
    return failed

/-- The changed paths that a review is about: those given, or else those that differ from the given
base, or else those of the pull request. -/
def changedPaths (r : ReviewRequest) (settings : Settings) : Run ChangedPaths :=
  if r.paths.count ≠ 0 then return r.paths
  else
    match r.base with
    | some (c :: cs) => Discovery.changedPaths (c :: cs)
    | _ => Discovery.requestPaths settings.baseRef

/-- The review that is asked for. -/
def reviewOutcome (root : Text) (settings : Settings) (r : ReviewRequest) : Run Outcome := do
  let paths ← changedPaths r settings
  if r.dryRun then Review.dryRun root settings paths
  else
    let request ← PullRequest.meant r.repository r.number
    Review.run root settings (some request) paths

/-- Prints what came of a review. -/
def announce (host : Host) (o : Outcome) : Run Nat := do
  match o.sync with
  | some s => say host .success (Console.syncMessage s.action.name s.commentId)
  | none => write o.body
  return done

/-- Does a review. -/
def review (host : Host) (r : ReviewRequest) : Run Nat :=
  inCheckout host r.path fun root =>
    prepared host (Settings.loadWithin host.levels root) fun settings =>
      prepared host (reviewOutcome root settings r) (announce host)

/-- Shows the digest of a file. -/
def showDigest (host : Host) (settings : Settings) (markdown : Bool) (d : Digest) : Run Unit :=
  if markdown then write (Markdown.digestSection settings.comment.fenceLanguage d)
  else display (Console.digestBy host.render consoleWidth d)

/-- Scans files one after another, up to one that has no digest. -/
def scanFiles (host : Host) (settings : Settings) (r : ScanRequest) : List Text → Run Nat
  | [] => return done
  | path :: paths =>
    reporting host Failure.isReported (fun f => .concat [path, ": ", f.message])
      (Digest.ofFile path path settings.scan.encoding (r.strict || settings.scan.strictParse))
      fun d => do
        showDigest host settings r.markdown d
        scanFiles host settings r paths

/-- Does a scan. -/
def scan (host : Host) (r : ScanRequest) : Run Nat := do
  prepared host (Settings.loadWithin host.levels ((← get).files.absolute here)) fun settings =>
    scanFiles host settings r r.files

/-- Shows the settings. -/
def showSettings (host : Host) (path : Option Text) : Run Nat :=
  inCheckout host path fun root =>
    prepared host (Settings.loadWithin host.levels root) fun settings => do
      write settings.written
      return done

/-- Whether a failure is a refusal of a key or its value. -/
def isRefusal : Failure → Bool
  | .unknownKey _ => true
  | .invalid .. => true
  | _ => false

/-- Changes one of the settings. -/
def changeSetting (host : Host) (key value : Text) (path : Option Text) : Run Nat :=
  inCheckout host path fun root =>
    prepared host (Settings.loadWithin host.levels root) fun settings =>
      reporting host isRefusal Failure.message (settings.withKey key (.text value)) fun new => do
        Settings.save root new
        say host .success (.concat ["Set ", key, " = ", value])
        return done

/-- Does what is asked for. -/
def perform (host : Host) : Request → Run Nat
  | .help page => do write page.help.dropLast; return done
  | .version => do write versionLine.dropLast; return done
  | .review r => review host r
  | .scan r => scan host r
  | .showSettings path => showSettings host path
  | .changeSetting key value path => changeSetting host key value path

/-! ### The whole program -/

/-- How the program ended: its status, what it printed, what it complained about, and the failure
that ended it at once if there was one. -/
structure Ending where
  status : Nat
  printed : Text := []
  complaints : Text := []
  failure : Option Failure := none

/-- Whether the notes of a run are shown. -/
def Request.isVerbose : Request → Bool
  | .review r => r.verbose
  | _ => false

/-- A text with the number of each surrogate in its place. -/
def withoutSurrogates (t : Text) : Text :=
  t.flatMap fun c => if c.isSurrogate then Text.ofChars ['\\', 'u'] ++ Text.hex 4 c.val else [c]

/-- The notes of a run as lines. -/
def noteLines (notes : List Note) : Text :=
  notes.flatMap fun n => withoutSurrogates n.line ++ [CodePoint.lineFeed]

/-- The ending of a run. -/
def ending (verbose : Bool) (result : Except Failure Nat) (s : Surroundings) : Ending :=
  let complaints := if verbose then noteLines s.notes else []
  match result with
  | .ok status => { status := status, printed := s.printed, complaints := complaints }
  | .error f =>
    { status := failed, printed := s.printed, complaints := complaints, failure := some f }

/-- Does what the words of a command line ask for, on a host. -/
def runOn (host : Host) (words : List Text) (s : Surroundings) : Ending × Surroundings :=
  match Request.read s.files words with
  | .error complaint => ({ status := misused, complaints := complaint.text }, s)
  | .ok request =>
    let (result, s) := (perform host request).outcome s
    (ending request.isVerbose result s, s)

/-- Does what the words of a command line ask for. -/
def run (words : List Text) (s : Surroundings) : Ending × Surroundings := runOn {} words s

end CommandLine

end PullNotes
