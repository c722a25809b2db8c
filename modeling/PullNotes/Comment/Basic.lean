import PullNotes.Json.Reading
import PullNotes.Run
import PullNotes.Text.Blank

/-!
# Comments

A comment of a pull request has a number and a body.  A listing of comments has one JSON object on
each line, and lines of blanks between them say nothing.
-/

namespace PullNotes

/-- A comment: its number and its body. -/
structure Comment where
  id : Int
  body : Text := []
deriving DecidableEq, Repr

namespace Comment

/-- A comment from the members of an object. -/
def ofMembers (ms : List (Text × Json)) : Checked Comment := do
  let (id, body) ←
    Check.both (Check.field ms "id" none Check.whole) (Check.field ms "body" (some []) Check.text)
  .ok ⟨id, body⟩

/-- The body that an answer gives: an empty value is an empty body. -/
def bodyGiven (ms : List (Text × Json)) : Json :=
  match Json.lookup? "body" ms with
  | none => .text []
  | some v => if v.isEmpty then .text [] else v

/-- The comment that an answer describes. -/
def ofAnswer : Json → Except AnswerFault Comment
  | .object ms =>
    match Json.lookup? "id" ms with
    | none => .error .withoutId
    | some id =>
      match ofMembers [(Text.ofString "id", id), (Text.ofString "body", bodyGiven ms)] with
      | .ok c => .ok c
      | .error issues => .error (.invalid issues)
  | _ => .error .notObject

/-- The comment that a text describes. -/
def ofText (t : Text) : Except Failure Comment :=
  match Json.read t with
  | .error e => .error (.json e)
  | .ok v =>
    match ofAnswer v with
    | .ok c => .ok c
    | .error fault => .error (.answer fault)

/-- The comments of a listing. -/
def ofListing (listing : Text) : Except Failure (List Comment) :=
  (listing.lines.filter fun line => !line.isBlank).mapM ofText

/-- Whether a comment has a token in its body. -/
def has (token : Text) (c : Comment) : Bool := Text.isInfixOf token c.body

/-- The first comment with a token in its body. -/
def marked? (token : Text) (comments : List Comment) : Option Comment := comments.find? (has token)

end Comment

end PullNotes
