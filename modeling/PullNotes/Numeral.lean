import PullNotes.Text.Blank
import PullNotes.Text.Digit
import PullNotes.Text.Quoted

/-!
# Integer numerals

Reading an integer from a text in a base.  Blanks may stand at both ends, a sign in front, single
underscores between digits, and in base sixteen `0x` before the digits; digits may be of any script.
A base that is not a power of two has a limit on the number of digits.
-/

namespace PullNotes

/-- Why a text is not an integer. -/
inductive NumeralError where
  | malformed (base : Nat) (text : Text)
  | tooLong (digits : Nat)
deriving DecidableEq, Repr

namespace Numeral

/-- The greatest number of decimal digits that is read or written. -/
def maxDigits : Nat := 4300

/-- The greatest length of a refused text, in quotes, in an error message. -/
def shownLength : Nat := 200

end Numeral

/-- The error in words. -/
def NumeralError.message : NumeralError → Text
  | malformed base text =>
    .concat ["invalid literal for int() with base ", .ofNat base, ": ",
      text.quoted.take Numeral.shownLength]
  | tooLong digits =>
    .concat ["Exceeds the limit (", .ofNat Numeral.maxDigits,
      " digits) for integer string conversion: value has ", .ofNat digits,
      " digits; use sys.set_int_max_str_digits() to increase the limit"]

namespace Numeral

/-- The blanks of ASCII. -/
def isAsciiBlank (c : CodePoint) : Bool := (9 ≤ c.val && c.val ≤ 13) || c.val = 32

/-- A text with the digits and blanks of all scripts replaced by those of ASCII, or nothing if it
holds another code point beyond ASCII. -/
def plain? (t : Text) : Option Text :=
  t.mapM fun c =>
    if c.isAscii then some c
    else if c.isBlank then some (' ' : Char)
    else c.decimalValue?.bind fun d => CodePoint.ofNat? (48 + d)

/-- The digits of a base at the start of a text, most significant first, and what follows them.
Nothing if an underscore does not stand between two digits. -/
def digits? (base : Nat) : Bool → Text → Option (List Nat × Text)
  | inside, [] => if inside then some ([], []) else none
  | inside, c :: rest =>
    if c = ('_' : Char) then
      if inside then digits? base false rest else none
    else
      match c.digitValue? with
      | some d =>
        if d < base then (digits? base true rest).map fun (ds, after) => (d :: ds, after)
        else if inside then some ([], c :: rest) else none
      | none => if inside then some ([], c :: rest) else none

/-- The number that digits of a base denote. -/
def value (base : Nat) (digits : List Nat) : Nat := digits.foldl (fun n d => n * base + d) 0

/-- A sign in front of a text: whether it is a minus, and the rest. -/
def sign (t : Text) : Bool × Text :=
  match t with
  | [] => (false, [])
  | c :: rest =>
    if c = ('-' : Char) then (true, rest) else if c = ('+' : Char) then (false, rest) else (false, t)

/-- A text without the mark of base sixteen, and the one underscore that may follow it. -/
def withoutMark (base : Nat) (t : Text) : Text :=
  match t with
  | a :: b :: rest =>
    if base = 16 ∧ a = ('0' : Char) ∧ (b = ('x' : Char) ∨ b = ('X' : Char)) then
      match rest with
      | c :: after => if c = ('_' : Char) then after else rest
      | [] => []
    else t
  | _ => t

/-- Whether the number of digits is limited. -/
def isLimited (base : Nat) : Bool := base = 10

/-- The integer that a text denotes in a base. -/
def read (base : Nat) (t : Text) : Except NumeralError Int :=
  match plain? t with
  | none => .error (.malformed base t)
  | some p =>
    let (negative, rest) := sign (p.dropWhile isAsciiBlank)
    match digits? base false (withoutMark base rest) with
    | none => .error (.malformed base t)
    | some (digits, after) =>
      if isLimited base && maxDigits < digits.length then .error (.tooLong digits.length)
      else if after.all isAsciiBlank then
        let n := value base digits
        .ok (if negative then -(n : Int) else n)
      else .error (.malformed base t)

end Numeral

end PullNotes
