import PullNotes.Comment.Basic
import PullNotes.Json.Written
import PullNotes.PullRequest

/-!
# The comments of a pull request

Comments are listed, created and replaced by commands that pass requests on.  A body is kept in one
comment: the first one that carries its token is replaced, and without one it is created.
-/

namespace PullNotes

/-- What was done to keep a body in one comment. -/
inductive SyncAction where
  | created
  | updated
deriving DecidableEq, Repr

/-- The name of an action. -/
def SyncAction.name : SyncAction → String
  | created => "created"
  | updated => "updated"

/-- What was done, and the number of the comment. -/
structure SyncResult where
  action : SyncAction
  commentId : Int
deriving DecidableEq, Repr

/-- The comments of a pull request, and how long a request may take. -/
structure Thread where
  request : PullRequest
  seconds : Int := 15
deriving DecidableEq, Repr

namespace Thread

/-- The part of the program that notes come from. -/
def topic : String := "reviewbot.github"

/-! ### Requests -/

/-- The place of all comments of the pull request. -/
def endpoint (t : Thread) : Text :=
  .concat ["repos/", t.request.fullName, "/issues/", .ofInt t.request.number, "/comments"]

/-- The place of one comment. -/
def commentEndpoint (t : Thread) (id : Int) : Text :=
  .concat ["repos/", t.request.fullName, "/issues/comments/", .ofInt id]

/-- A body as it is sent. -/
def payload (body : Text) : Text := (Json.object [(Text.ofString "body", .text body)]).written .line

/-- The command that lists all comments. -/
def listCommand (t : Thread) : Command where
  arguments := ["gh", "api", "--paginate", t.endpoint, "--jq", ".[] | \x7bid, body\x7d | @json"]
  seconds := t.seconds

/-- The command that sends a body to a place in some way. -/
def sendCommand (t : Thread) (way : String) (place body : Text) : Command where
  arguments := ["gh", "api", "--method", way, place, "--input", "-"]
  input := some (payload body)
  seconds := t.seconds

/-- The command that creates a comment. -/
def createCommand (t : Thread) (body : Text) : Command := t.sendCommand "POST" t.endpoint body

/-- The command that replaces the body of a comment. -/
def updateCommand (t : Thread) (id : Int) (body : Text) : Command :=
  t.sendCommand "PATCH" (t.commentEndpoint id) body

/-- The output of a command for a place, which has to succeed. -/
def ask (c : Command) (place : Text) : Run Text := do
  match ← Run.command c with
  | .timedOut => throw (.remote (.timedOut c.seconds))
  | .notInstalled => throw (.remote .notInstalled)
  | .finished status output errors =>
    if status = 0 then return output
    throw (.remote (.refused place (errors.getD []).trim status))

/-! ### Operations -/

/-- All comments, the oldest first. -/
def list (t : Thread) : Run (List Comment) := do
  let comments ← Run.ofExcept id (Comment.ofListing (← ask t.listCommand t.endpoint))
  Run.note .debug topic (.concat ["Found ", .ofNat comments.length, " existing comment(s) on ",
    t.request.fullName, "#", .ofInt t.request.number])
  return comments

/-- Creates a comment. -/
def create (t : Thread) (body : Text) : Run Comment := do
  Run.ofExcept id (Comment.ofText (← ask (t.createCommand body) t.endpoint))

/-- Replaces the body of a comment. -/
def update (t : Thread) (commentId : Int) (body : Text) : Run Comment := do
  Run.ofExcept id
    (Comment.ofText (← ask (t.updateCommand commentId body) (t.commentEndpoint commentId)))

/-- Notes what was done to a comment. -/
def noteDone (t : Thread) (done : String) (commentId : Int) : Run Unit :=
  Run.note .info topic (.concat [done, " review comment ", .ofInt commentId, " on ",
    t.request.fullName, "#", .ofInt t.request.number])

/-- Keeps a body in one comment, which carries a token. -/
def sync (t : Thread) (body : Text) (comments : List Comment) (token : Text) : Run SyncResult := do
  match Comment.marked? token comments with
  | some existing =>
    let _ ← t.update existing.id body
    t.noteDone "Updated" existing.id
    return ⟨.updated, existing.id⟩
  | none =>
    let created ← t.create body
    t.noteDone "Created" created.id
    return ⟨.created, created.id⟩

end Thread

end PullNotes
