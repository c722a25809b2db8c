import PullNotes.Run

/-!
# The pull request that is meant

The repository is given, or else set in the environment.  The number is given, or else set in the
environment, or else it is that of the event that the environment points to.
-/

namespace PullNotes

/-- A pull request of a repository. -/
structure PullRequest where
  owner : Text
  repo : Text
  number : Int
deriving DecidableEq, Repr

namespace PullRequest

/-- The name of the repository, with its owner. -/
def fullName (r : PullRequest) : Text := .concat [r.owner, "/", r.repo]

/-- A pull request from the members of an object. -/
def ofMembers (ms : List (Text × Json)) : Checked PullRequest := do
  let ((owner, repo), number) ←
    Check.both (Check.both (Check.field ms "owner" none Check.text)
      (Check.field ms "repo" none Check.text)) (Check.field ms "number" none Check.whole)
  .ok ⟨owner, repo, number⟩

/-- The owner and the name of a repository given together. -/
def ownerAndName? (repository : Text) : Option (Text × Text) := Text.cutAt? Path.slash repository

/-- The repository that is meant: the given one, or else the one that is set. -/
def repositoryText (given : Option Text) (environment : Environment) : Text :=
  match given with
  | some (c :: cs) => c :: cs
  | _ => environment.repository.getD []

/-- The number in an event, which is an object; an event without one has null. -/
def eventNumber (event : Json) : Except EventFault Json :=
  match event with
  | .object ms =>
    match Json.lookup? "pull_request" ms with
    | none => .ok .null
    | some (.object inner) => .ok ((Json.lookup? "number" inner).getD .null)
    | some _ => .error .notObject
  | _ => .error .notObject

/-- A value as a whole number, fractions being cut off. -/
def wholeNumber : Json → Except Failure Int
  | .whole n => .ok n
  | .bool b => .ok (if b then 1 else 0)
  | .real (.infinite _) => .error (.event .infinite)
  | .real x =>
    match x.whole? with
    | some n => .ok n
    | none => .error (.event .undefined)
  | .text t =>
    match Numeral.read 10 t with
    | .ok n => .ok n
    | .error e => .error (.numeral e)
  | _ => .error (.event .notNumber)

/-- The number that is set in the environment, if there is one. -/
def numberSet (environment : Environment) : Except Failure (Option Int) :=
  match environment.number with
  | some (c :: cs) =>
    match Numeral.read 10 (c :: cs) with
    | .ok n => .ok (some n)
    | .error e => .error (.numeral e)
  | _ => .ok none

/-- The number in the event that the environment points to; without an event it is null. -/
def numberOfEvent (environment : Environment) : Run Json :=
  match environment.eventPath with
  | some (c :: cs) => do
    if ← Run.ofExcept .file ((← get).files.isThere (Path.plain (c :: cs))) then
      let event ← Run.ofExcept .json (Json.read (← Run.readText Run.ownEncoding (c :: cs)))
      Run.ofExcept .event (eventNumber event)
    else return .null
  | _ => return .null

/-- The number that is meant, of the first source that has one. -/
def numberMeant (given : Option Int) (environment : Environment) : Run Json := do
  match given with
  | some n => return .whole n
  | none =>
    match ← Run.ofExcept id (numberSet environment) with
    | some n => return .whole n
    | none => numberOfEvent environment

/-- The pull request that is meant. -/
def meant (repository : Option Text) (number : Option Int) : Run PullRequest := do
  let environment := (← get).environment
  match ownerAndName? (repositoryText repository environment) with
  | none => throw .repositoryUnknown
  | some (owner, repo) =>
    let number ← numberMeant number environment
    if number.isEmpty then throw .numberUnknown
    return ⟨owner, repo, ← Run.ofExcept id (wholeNumber number)⟩

end PullRequest

end PullNotes
