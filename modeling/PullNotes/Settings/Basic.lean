import PullNotes.Json.Basic
import PullNotes.Markdown.Report

/-!
# Settings

The settings of a project: the branch that a pull request goes to, how its comment is marked and
rendered, and which files are scanned and how.
-/

namespace PullNotes

/-- How the comment on a pull request is marked and rendered. -/
structure CommentSettings where
  markerId : Text := "review-bot"
  fenceLanguage : Text := "typescript"
  maxLength : Int := Markdown.acceptedLength
deriving DecidableEq, Repr

namespace CommentSettings

/-- What a search for an own comment looks for. -/
def searchToken (c : CommentSettings) : Text := .concat ["id: ", c.markerId]

/-- The marker at the start of an own comment. -/
def marker (c : CommentSettings) : Text := .concat ["<!-- id: ", c.markerId, " -->"]

end CommentSettings

/-- Which changed files are scanned, and how they are read. -/
structure ScanSettings where
  pathFilter : Text := "dev/"
  strictParse : Bool := false
  encoding : Text := "utf-8"
deriving DecidableEq, Repr

/-- The settings of a project. -/
structure Settings where
  baseRef : Text := "main"
  comment : CommentSettings := {}
  scan : ScanSettings := {}
deriving DecidableEq, Repr

namespace Settings

/-- The settings of the comment as members of an object. -/
def commentMembers (c : CommentSettings) : List (Text × Json) := [
  (Text.ofString "marker_id", .text c.markerId),
  (Text.ofString "fence_language", .text c.fenceLanguage),
  (Text.ofString "max_length", .whole c.maxLength)]

/-- The settings of the scan as members of an object. -/
def scanMembers (s : ScanSettings) : List (Text × Json) := [
  (Text.ofString "path_filter", .text s.pathFilter),
  (Text.ofString "strict_parse", .bool s.strictParse),
  (Text.ofString "encoding", .text s.encoding)]

/-- The settings as members of an object. -/
def toMembers (s : Settings) : List (Text × Json) := [
  (Text.ofString "base_ref", .text s.baseRef),
  (Text.ofString "comment", .object (commentMembers s.comment)),
  (Text.ofString "scan", .object (scanMembers s.scan))]

end Settings

end PullNotes
