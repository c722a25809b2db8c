import PullNotes.Text.Basic

/-!
# Terminal sequences

An escape character, a bracket, a run of digits and separators, and a letter tell a terminal to do
something.  A text that does not go to a terminal is printed without such sequences.
-/

namespace PullNotes

namespace Console

/-- The escape character. -/
def escape : CodePoint := ⟨0x1B, by decide⟩

/-- Whether a code point may stand between the bracket and the letter of a sequence. -/
def isParameter (c : CodePoint) : Bool :=
  c.isAsciiDigit || c = (';' : Char) || c = ('?' : Char)

/-- The length of the sequence at the start of a text. -/
def sequenceLength? : Text → Option Nat
  | c :: d :: rest =>
    if c = escape ∧ d = ('[' : Char) then
      let parameters := (rest.takeWhile isParameter).length
      match rest.drop parameters with
      | letter :: _ =>
        if letter.isAsciiLower || letter.isAsciiUpper then some (parameters + 3) else none
      | [] => none
    else none
  | _ => none

/-- A text without its sequences, after a number of code points that are dropped. -/
def withoutSequencesAfter : Nat → Text → Text
  | _, [] => []
  | n + 1, _ :: rest => withoutSequencesAfter n rest
  | 0, c :: rest =>
    match sequenceLength? (c :: rest) with
    | some n => withoutSequencesAfter (n - 1) rest
    | none => c :: withoutSequencesAfter 0 rest

/-- A text without its sequences. -/
def withoutSequences (t : Text) : Text := withoutSequencesAfter 0 t

end Console

end PullNotes
