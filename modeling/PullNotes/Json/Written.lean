import PullNotes.Json.Basic

/-!
# Written JSON

A value as a text of ASCII code points, on one line or with each item on a line of its own.  What is
not printable ASCII is escaped by its sixteen-bit code units.
-/

namespace PullNotes

namespace Json

/-- A sixteen-bit code unit, escaped. -/
def escapedUnit (n : Nat) : Text := Text.ofChars ['\\', 'u'] ++ Text.hex 4 n

/-- The letter of a control character that has one after a backslash. -/
def controlLetter? (c : CodePoint) : Option Char :=
  match c.val with
  | 8 => some 'b'
  | 9 => some 't'
  | 10 => some 'n'
  | 12 => some 'f'
  | 13 => some 'r'
  | _ => none

/-- A code point as it stands between quotes. -/
def writtenPoint (c : CodePoint) : Text :=
  if c = ('"' : Char) ∨ c = ('\\' : Char) then [('\\' : Char), c]
  else
    match controlLetter? c with
    | some letter => Text.ofChars ['\\', letter]
    | none =>
      if 32 ≤ c.val ∧ c.val < 127 then [c]
      else if c.val < 0x10000 then escapedUnit c.val
      else
        let n := c.val - 0x10000
        escapedUnit (0xD800 + n / 1024) ++ escapedUnit (0xDC00 + n % 1024)

/-- A text between quotes. -/
def writtenText (t : Text) : Text :=
  let quote : CodePoint := '"'
  quote :: t.flatMap writtenPoint ++ [quote]

/-- A number of double width. -/
def writtenReal : Binary64 → Text
  | .nan => "NaN"
  | .infinite negative => if negative then "-Infinity" else "Infinity"
  | x => x.shown

/-- What stands between the items of a list or an object: on one line, or on lines of their own with
an indentation for each level. -/
inductive Layout where
  | line
  | indented (step : Nat)
deriving DecidableEq, Repr

namespace Layout

/-- The start of a new line at a depth, if the layout has lines. -/
def newLine (depth : Nat) : Layout → Text
  | line => []
  | indented step => Text.ofChars ('\n' :: List.replicate (step * depth) ' ')

/-- What separates items at a depth. -/
def separator (depth : Nat) : Layout → Text
  | line => ", "
  | indented step => "," ++ newLine depth (indented step)

end Layout

/-- Items between brackets, laid out for what is inside a depth. -/
def bracketed (layout : Layout) (depth : Nat) (opening closing : String) (items : List Text) :
    Text :=
  if items.isEmpty then opening ++ closing
  else
    Text.concat [opening, layout.newLine (depth + 1),
      Text.join (layout.separator (depth + 1)) items, layout.newLine depth, closing]

mutual

/-- A value at a depth, written. -/
def writtenAt (layout : Layout) (depth : Nat) : Json → Text
  | null => "null"
  | bool true => "true"
  | bool false => "false"
  | whole n => Text.ofInt n
  | real x => writtenReal x
  | text t => writtenText t
  | list items => bracketed layout depth "[" "]" (writtenItems layout (depth + 1) items)
  | object members =>
    bracketed layout depth "\x7b" "\x7d" (writtenMembers layout (depth + 1) members)

/-- Each of several values at a depth, written. -/
def writtenItems (layout : Layout) (depth : Nat) : List Json → List Text
  | [] => []
  | v :: vs => writtenAt layout depth v :: writtenItems layout depth vs

/-- Each of several members at a depth, written. -/
def writtenMembers (layout : Layout) (depth : Nat) : List (Text × Json) → List Text
  | [] => []
  | (k, v) :: rest =>
    Text.concat [writtenText k, ": ", writtenAt layout depth v]
      :: writtenMembers layout depth rest

end

/-- A value, written. -/
def written (layout : Layout) (v : Json) : Text := writtenAt layout 0 v

end Json

end PullNotes
