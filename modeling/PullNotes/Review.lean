import PullNotes.Change.Discovery
import PullNotes.Comment.Thread
import PullNotes.Markdown.Report
import PullNotes.Settings.Store

/-!
# Reviews

A review digests the changed files that are to be scanned, writes their sections into one comment,
and keeps that comment on the pull request.  A dry run stops before anything is sent.
-/

namespace PullNotes

namespace Digest

/-- The part of the program that notes about reading a source come from. -/
def topic : String := "reviewbot.parser"

/-- The digest of a source in the language that its path suggests. -/
def ofNamedSource (source filePath : Text) (strict : Bool) : Run Digest := do
  let language := languageFor none filePath
  let d ← Run.ofExcept .source (Document.ofSource language strict source)
  match d.remark? with
  | some remark => Run.note .debug topic remark
  | none => pure ()
  Run.ofExcept .source (ofDocument d filePath language)

/-- The digest of a file, shown under a path. -/
def ofFile (path shown encoding : Text) (strict : Bool) : Run Digest := do
  ofNamedSource (← Run.readText encoding (Path.plain path)) shown strict

end Digest

/-- What comes of a review: the body of the comment, the digests in it, and what was done to keep
it, unless it was a dry run. -/
structure Outcome where
  body : Text
  digests : List Digest := []
  sync : Option SyncResult := none
deriving DecidableEq, Repr

namespace Review

/-- The part of the program that notes come from. -/
def topic : String := "reviewbot.review"

/-- What is noted about a digest. -/
def remark (path : Text) (d : Digest) : Text :=
  .concat [path, ": ", .ofNat d.pairs.length, " pair(s), ", .ofNat d.scripts.length,
    " script(s), ", .ofNat d.handlers.length, " function(s)"]

/-- The digest of a changed file of a checkout. -/
def digest (root : Text) (settings : Settings) (path : Text) : Run Digest := do
  let d ← Digest.ofFile (Path.append root path) path settings.scan.encoding
    settings.scan.strictParse
  Run.note .debug topic (remark path d)
  return d

/-- The digests of changed files of a checkout, in order. -/
def digests (root : Text) (settings : Settings) : List Text → Run (List Digest)
  | [] => return []
  | path :: paths => do
    let d ← digest root settings path
    return d :: (← digests root settings paths)

/-- The body of the comment about some digests; about none it says so. -/
def body (settings : CommentSettings) (digests : List Digest) : Text :=
  if digests.isEmpty then Markdown.emptyComment settings.marker
  else
    Markdown.clip settings.maxLength
      (Markdown.comment settings.marker
        (digests.map (Markdown.digestSection settings.fenceLanguage)))

/-- What is noted about the paths that are to be scanned. -/
def selectionRemark (settings : ScanSettings) (paths : ChangedPaths) : Text :=
  .concat [.ofNat (paths.matching settings.pathFilter).length, " of ", .ofNat paths.count,
    " changed file(s) match '", settings.pathFilter, "'"]

/-- The body of the comment about the changed files of a checkout, and the digests in it. -/
def compose (root : Text) (settings : Settings) (paths : ChangedPaths) :
    Run (Text × List Digest) := do
  Run.note .info topic (selectionRemark settings.scan paths)
  let digests ← digests root settings (paths.matching settings.scan.pathFilter)
  return (body settings.comment digests, digests)

/-- A review without its comment being sent. -/
def dryRun (root : Text) (settings : Settings) (paths : ChangedPaths) : Run Outcome := do
  let (body, digests) ← compose root settings paths
  return { body := body, digests := digests }

/-- A review of a pull request. -/
def run (root : Text) (settings : Settings) (request : Option PullRequest) (paths : ChangedPaths) :
    Run Outcome := do
  match request with
  | none => throw .requestRequired
  | some request =>
    let thread : Thread := { request := request }
    let comments ← thread.list
    let (body, digests) ← compose root settings paths
    let done ← thread.sync body comments settings.comment.searchToken
    return { body := body, digests := digests, sync := some done }

end Review

end PullNotes
