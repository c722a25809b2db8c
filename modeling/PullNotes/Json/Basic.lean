import PullNotes.Decimal.Binary64
import PullNotes.Text.Quoted

/-!
# JSON values

A JSON value, its members and elements, when it counts as empty, and how an error message shows it.
Whole numbers have any size, and all other numbers are of double width.
-/

namespace PullNotes

/-- A JSON value; the members of an object keep their order. -/
inductive Json where
  | null
  | bool (b : Bool)
  | whole (n : Int)
  | real (x : Binary64)
  | text (t : Text)
  | list (items : List Json)
  | object (members : List (Text × Json))

namespace Json

/-- The value that belongs to a key. -/
def lookup? (key : Text) : List (Text × Json) → Option Json
  | [] => none
  | (k, v) :: rest => if k = key then some v else lookup? key rest

/-- A member of an object. -/
def member? (key : Text) : Json → Option Json
  | object members => lookup? key members
  | _ => none

/-- The members with a value put under a key: in the place of the key's old value, or at the end. -/
def put (key : Text) (value : Json) : List (Text × Json) → List (Text × Json)
  | [] => [(key, value)]
  | (k, v) :: rest => if k = key then (k, value) :: rest else (k, v) :: put key value rest

/-- Members given one after another, of which the last with a key wins. -/
def ofMembers (members : List (Text × Json)) : List (Text × Json) :=
  members.foldl (fun sofar (key, value) => put key value sofar) []

/-- Whether a value is null, false, zero, or without content. -/
def isEmpty : Json → Bool
  | null => true
  | bool b => !b
  | whole n => n == 0
  | real x => x.isZero
  | text t => t.isEmpty
  | list items => items.isEmpty
  | object members => members.isEmpty

/-- The type of a value, as error messages name it. -/
def typeName : Json → String
  | null => "NoneType"
  | bool _ => "bool"
  | whole _ => "int"
  | real _ => "float"
  | text _ => "str"
  | list _ => "list"
  | object _ => "dict"

/-! ### Showing -/

mutual

/-- A value as error messages show it. -/
def shown : Json → Text
  | null => "None"
  | bool true => "True"
  | bool false => "False"
  | whole n => Text.ofInt n
  | real x => x.shown
  | text t => t.quoted
  | list items => "[" ++ Text.join ", " (shownItems items) ++ "]"
  | object members => "\x7b" ++ Text.join ", " (shownMembers members) ++ "\x7d"

/-- Each of several values as error messages show it. -/
def shownItems : List Json → List Text
  | [] => []
  | v :: vs => shown v :: shownItems vs

/-- Each of several members as error messages show it. -/
def shownMembers : List (Text × Json) → List Text
  | [] => []
  | (k, v) :: rest => Text.concat [k.quoted, ": ", shown v] :: shownMembers rest

end

end Json

end PullNotes
