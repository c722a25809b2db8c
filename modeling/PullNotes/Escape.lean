import PullNotes.Numeral
import PullNotes.Text.Line

/-!
# Escape sequences of string literals

What an escape sequence stands for.  The first code point is the mark and is dropped unread.  Up to
three octal digits, the hexadecimal forms `x…` and `u…` and the braced form `u{…}` give a code point
by its number; six letters have a control character; a line end gives nothing; anything else stands
for itself.  A hexadecimal form whose number is malformed or is no code point is left as written,
but a number beyond the machine's range is an error.
-/

namespace PullNotes

/-- Why an escape sequence has no meaning: its number is beyond the machine's range. -/
inductive EscapeError where
  | numberTooLarge
deriving DecidableEq, Repr

namespace Escape

/-- Whether a code point is an octal digit. -/
def isOctal (c : CodePoint) : Bool := 48 ≤ c.val && c.val ≤ 55

/-- Whether a text is one to three octal digits. -/
def isOctalNumber (body : Text) : Bool :=
  body.all isOctal && 1 ≤ body.length && body.length ≤ 3

/-- The number of octal digits. -/
def octalValue (body : Text) : Nat := body.foldl (fun n c => n * 8 + (c.val - 48)) 0

/-- The control characters that a letter stands for. -/
def controls : List (Char × Char) :=
  [('n', '\n'), ('t', '\t'), ('r', '\r'), ('b', '\x08'), ('f', '\x0c'), ('v', '\x0b')]

/-- The control character of a letter. -/
def control? (c : CodePoint) : Option CodePoint :=
  (controls.find? fun (letter, _) => CodePoint.ofChar letter = c).map fun (_, meaning) => meaning

/-- Whether an escape with this first code point continues the line. -/
def isLineEnd (c : CodePoint) : Bool :=
  c.val = 10 || c.val = 13 || c.val = 0x2028 || c.val = 0x2029

/-- The least and greatest numbers of the machine's range. -/
def machineRange : Int × Int := (-0x80000000, 0x7FFFFFFF)

/-- The meaning of hexadecimal digits; the sequence itself if they do not name a code point. -/
def hexadecimal (sequence digits : Text) : Except EscapeError Text :=
  match Numeral.read 16 digits with
  | .error _ => .ok sequence
  | .ok n =>
    if n < machineRange.1 ∨ machineRange.2 < n then .error .numberTooLarge
    else if n < 0 then .ok sequence
    else
      match CodePoint.ofNat? n.toNat with
      | some c => .ok [c]
      | none => .ok sequence

/-- A text without its last code point. -/
def withoutLast (t : Text) : Text := t.dropLast

/-- What an escape sequence stands for. -/
def decode (sequence : Text) : Except EscapeError Text :=
  match sequence with
  | [] => .ok sequence
  | [_] => .ok sequence
  | _ :: first :: rest =>
    if isOctalNumber (first :: rest) then
      .ok ((CodePoint.ofNat? (octalValue (first :: rest))).toList)
    else
      match control? first, rest with
      | some c, [] => .ok [c]
      | _, _ =>
        if isLineEnd first then .ok []
        else if first = ('u' : Char) ∧ rest.head? = some ('\x7b' : Char) then
          hexadecimal sequence (withoutLast rest.tail)
        else if (first = ('u' : Char) ∨ first = ('x' : Char)) ∧ rest ≠ [] then
          hexadecimal sequence rest
        else .ok (first :: rest)

end Escape

/-- The error in words. -/
def EscapeError.message : EscapeError → Text
  | .numberTooLarge => "Python int too large to convert to C int"

end PullNotes
