import PullNotes.Change.Basic
import PullNotes.Run

/-!
# Finding the changed files

The listing of changes comes from a command that compares the checkout with the point where it left
a base, or with the base itself if there is no such point.  For a pull request the base is the
branch that the request goes to, where that is known.
-/

namespace PullNotes

namespace Discovery

/-- The part of the program that notes come from. -/
def topic : String := "reviewbot.diff"

/-- How long a comparison may take. -/
def seconds : Int := 30

/-- The command that lists the changes since a revision. -/
def listingCommand (revision : Text) : Command where
  arguments := ["git", "diff", "--name-status", "-M", revision]
  seconds := seconds

/-- The point where the checkout left a base. -/
def sinceLeaving (base : Text) : Text := .concat [base, "...HEAD"]

/-- A command that finished: its status, what it wrote, and its errors. -/
structure Finished where
  status : Int
  output : Text
  errors : Option Text

/-- Gives a command that has to finish. -/
def finish (c : Command) : Run Finished := do
  match ← Run.command c with
  | .finished status output errors => return ⟨status, output, errors⟩
  | .timedOut => throw (.listing (.timedOut c.arguments c.seconds))
  | .notInstalled => throw (.listing (.notInstalled (c.arguments.head?.getD [])))

/-- The listing of the changes since a base. -/
def listing (base : Text) : Run Text := do
  let sinceLeaving ← finish (listingCommand (sinceLeaving base))
  if sinceLeaving.status = 0 then return sinceLeaving.output
  Run.note .debug topic (.concat ["No merge base with ", base, ", diffing against it directly"])
  let sinceBase ← finish (listingCommand base)
  if sinceBase.status = 0 then return sinceBase.output
  match sinceBase.errors with
  | some errors => throw (.listing (.refused base errors.trim))
  | none => throw .listingWithoutErrors

/-- The paths changed since a base. -/
def changedPaths (base : Text) : Run ChangedPaths := do
  return .ofChanges (Change.ofListing (← listing base))

/-- The base of the pull request that is being worked on: the branch that it goes to, or else a
given one. -/
def requestBase (environment : Environment) (base : Text) : Text :=
  match environment.baseRef with
  | some (c :: cs) => .concat ["origin/", c :: cs]
  | _ => base

/-- The paths changed by the pull request that is being worked on. -/
def requestPaths (base : Text) : Run ChangedPaths := do
  changedPaths (requestBase (← get).environment base)

end Discovery

end PullNotes
