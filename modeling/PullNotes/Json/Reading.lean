import PullNotes.Json.Basic
import PullNotes.Text.Utf8
import PullNotes.Numeral

/-!
# Reading JSON

A value is read from the start of a text, and what remains is passed on; a fault carries what
remained where it was found, so its place is known from a length.  Besides the standard's values
there are `NaN`, `Infinity` and `-Infinity`.

How many brackets within one another a reader can go into depends on how many calls it may still
make, so that is a parameter.  `Json.read` has no such limit.
-/

namespace PullNotes

/-- What a bracket is opened for. -/
inductive JsonBracket where
  | list
  | object
deriving DecidableEq, Repr

/-- The name of what a bracket is opened for. -/
def JsonBracket.name : JsonBracket → String
  | list => "array"
  | object => "object"

/-- What is wrong with a text that is not JSON, or opens more brackets than the reader can go
into. -/
inductive JsonFault where
  | expectingValue
  | expectingKey
  | expectingColon
  | expectingComma
  | unterminatedText
  | controlInText
  | unknownEscape
  | malformedEscape
  | extraData
  | byteOrderMark
  | tooDeep (bracket : JsonBracket)
deriving DecidableEq, Repr

/-- The fault in words. -/
def JsonFault.message : JsonFault → String
  | expectingValue => "Expecting value"
  | expectingKey => "Expecting property name enclosed in double quotes"
  | expectingColon => "Expecting ':' delimiter"
  | expectingComma => "Expecting ',' delimiter"
  | unterminatedText => "Unterminated string starting at"
  | controlInText => "Invalid control character at"
  | unknownEscape => "Invalid \\escape"
  | malformedEscape => "Invalid \\uXXXX escape"
  | extraData => "Extra data"
  | byteOrderMark => "Unexpected UTF-8 BOM (decode using utf-8-sig)"
  | tooDeep bracket =>
    "maximum recursion depth exceeded while decoding a JSON " ++ bracket.name ++
      " from a unicode string"

/-- Why a text could not be read as JSON: a fault at a place, or a number with too many digits. -/
inductive JsonError where
  | malformed (fault : JsonFault) (line column index : Nat)
  | numeral (e : NumeralError)
deriving DecidableEq, Repr

/-- The error in words; the place of a bracket that is one too many is not told. -/
def JsonError.message : JsonError → Text
  | malformed (.tooDeep bracket) _ _ _ => (JsonFault.tooDeep bracket).message
  | malformed fault line column index =>
    .concat [fault.message, ": line ", .ofNat line, " column ", .ofNat column, " (char ",
      .ofNat index, ")"]
  | numeral e => e.message

namespace Json

/-- How reading goes wrong, with what remained of the text at that place. -/
inductive Stop where
  | fault (f : JsonFault) (rest : Text)
  | numeral (e : NumeralError)

/-- The white space of JSON. -/
def isSpace (c : CodePoint) : Bool := c.val = 32 || c.val = 9 || c.val = 10 || c.val = 13

/-- A text without the white space at its start. -/
def skipSpace (t : Text) : Text := t.dropWhile isSpace

/-! ### Texts -/

/-- The number of hexadecimal digits, if all are. -/
def hexValue? (digits : Text) : Option Nat :=
  digits.foldlM (fun n c =>
    match c.digitValue? with
    | some d => if d < 16 then some (n * 16 + d) else none
    | none => none) 0

/-- The number of the four hexadecimal digits at the start of a text that has a code point after
them. -/
def fourDigits? (t : Text) : Option (Nat × Text) :=
  if t.length ≤ 4 then none else (hexValue? (t.take 4)).map fun n => (n, t.drop 4)

/-- The second half of a surrogate pair at the start of a text, if the escape there is one; another
escape is none, and a malformed one is a fault. -/
def lowHalf (t : Text) : Except Stop (Option (Nat × Text)) :=
  match t with
  | a :: b :: rest =>
    if 6 < t.length ∧ a = ('\\' : Char) ∧ b = ('u' : Char) then
      match hexValue? (rest.take 4) with
      | none => .error (.fault .malformedEscape (b :: rest))
      | some low => .ok (if 0xDC00 ≤ low ∧ low ≤ 0xDFFF then some (low, rest.drop 4) else none)
    else .ok none
  | _ => .ok none

/-- The code point of an escape by number, whose digits come next; `here` is what remained before
the letter. -/
def numberedEscape (here t : Text) : Except Stop (CodePoint × Text) :=
  match fourDigits? t with
  | none => .error (.fault .malformedEscape here)
  | some (high, rest) =>
    if 0xD800 ≤ high ∧ high ≤ 0xDBFF then do
      match ← lowHalf rest with
      | some (low, after) =>
        .ok (Utf8.pointOf (0x10000 + (high - 0xD800) * 1024 + (low - 0xDC00)), after)
      | none => .ok (Utf8.pointOf high, rest)
    else .ok (Utf8.pointOf high, rest)

/-- What a letter after a backslash stands for. -/
def lettered? (c : CodePoint) : Option CodePoint :=
  if c = ('"' : Char) ∨ c = ('\\' : Char) ∨ c = ('/' : Char) then some c
  else if c = ('b' : Char) then some ('\x08' : Char)
  else if c = ('f' : Char) then some ('\x0c' : Char)
  else if c = ('n' : Char) then some ('\n' : Char)
  else if c = ('r' : Char) then some ('\r' : Char)
  else if c = ('t' : Char) then some ('\t' : Char)
  else none

/-- The text up to the closing quote; `opening` is what remained at the opening quote. -/
def readText (opening : Text) : Nat → Text → Except Stop (Text × Text)
  | 0, _ => .error (.fault .unterminatedText opening)
  | _ + 1, [] => .error (.fault .unterminatedText opening)
  | fuel + 1, c :: rest =>
    if c = ('"' : Char) then .ok ([], rest)
    else if c.val < 32 then .error (.fault .controlInText (c :: rest))
    else if c = ('\\' : Char) then
      match rest with
      | [] => .error (.fault .unterminatedText opening)
      | letter :: after =>
        if letter = ('u' : Char) then do
          let (point, after) ← numberedEscape rest after
          let (content, remaining) ← readText opening fuel after
          .ok (point :: content, remaining)
        else
          match lettered? letter with
          | none => .error (.fault .unknownEscape (c :: rest))
          | some point => do
            let (content, remaining) ← readText opening fuel after
            .ok (point :: content, remaining)
    else do
      let (content, remaining) ← readText opening fuel rest
      .ok (c :: content, remaining)

/-! ### Numbers -/

/-- The number of decimal digits. -/
def decimalValue (digits : Text) : Nat := digits.foldl (fun n c => n * 10 + (c.val - 48)) 0

/-- The decimal digits at the start of a text, and what follows. -/
def digitRun (t : Text) : Text × Text := t.span CodePoint.isAsciiDigit

/-- The digits before the point: a lone zero, or digits that do not start with one. -/
def wholePart? (t : Text) : Option (Text × Text) :=
  match t with
  | [] => none
  | c :: rest =>
    if c = ('0' : Char) then some ([c], rest)
    else if c.isAsciiDigit then some (digitRun t)
    else none

/-- The digits after a point, if there are any. -/
def fraction? (t : Text) : Option (Text × Text) :=
  match t with
  | point :: rest =>
    if point = ('.' : Char) then
      let (digits, after) := digitRun rest
      if digits.isEmpty then none else some (digits, after)
    else none
  | [] => none

/-- The exponent at the start of a text, if it has digits. -/
def exponent? (t : Text) : Option (Int × Text) :=
  match t with
  | letter :: rest =>
    if letter = ('e' : Char) ∨ letter = ('E' : Char) then
      let (negative, rest) := Numeral.sign rest
      let (digits, after) := digitRun rest
      if digits.isEmpty then none
      else some (if negative then -(decimalValue digits : Int) else decimalValue digits, after)
    else none
  | [] => none

/-- A whole number from its digits; their number is limited. -/
def wholeOf (negative : Bool) (digits : Text) : Except Stop Json :=
  if Numeral.maxDigits < digits.length then .error (.numeral (.tooLong digits.length))
  else
    let n : Int := decimalValue digits
    .ok (whole (if negative then -n else n))

/-- The number at the start of a text, without its sign; `here` is what remained at the sign. -/
def readUnsigned (here : Text) (negative : Bool) (t : Text) : Except Stop (Json × Text) :=
  match wholePart? t with
  | none => .error (.fault .expectingValue here)
  | some (digits, rest) =>
    match fraction? rest, exponent? ((fraction? rest).elim rest (·.2)) with
    | none, none => do .ok (← wholeOf negative digits, rest)
    | none, some (e, after) => .ok (real (.ofDecimal negative (decimalValue digits) e), after)
    | some (more, after), none =>
      .ok (real (.ofDecimal negative (decimalValue (digits ++ more)) (-more.length)), after)
    | some (more, _), some (e, after) =>
      .ok (real (.ofDecimal negative (decimalValue (digits ++ more)) (e - more.length)), after)

/-! ### Values -/

/-- The words that are values. -/
def words : List (String × Json) := [
  ("null", null), ("true", bool true), ("false", bool false), ("NaN", real .nan),
  ("Infinity", real (.infinite false)), ("-Infinity", real (.infinite true))]

/-- The word at the start of a text. -/
def word? (t : Text) : Option (Json × Text) :=
  (words.find? fun (w, _) => (Text.ofString w).isPrefixOf t).map fun (w, v) =>
    (v, t.drop w.length)

/-- How many brackets may still be opened, if that is limited. -/
abbrev Levels := Option Nat

/-- What is left of the levels within a bracket that `here` starts with. -/
def Levels.within (levels : Levels) (bracket : JsonBracket) (here : Text) : Except Stop Levels :=
  match levels with
  | none => .ok none
  | some 0 => .error (.fault (.tooDeep bracket) here)
  | some (n + 1) => .ok (some n)

mutual

/-- The value at the start of a text. -/
def readValue : Levels → Nat → Text → Except Stop (Json × Text)
  | _, 0, t => .error (.fault .expectingValue t)
  | levels, fuel + 1, t =>
    match word? t with
    | some result => .ok result
    | none =>
      match t with
      | [] => .error (.fault .expectingValue t)
      | c :: rest =>
        if c = ('"' : Char) then do
          let (content, after) ← readText t (rest.length + 1) rest
          .ok (text content, after)
        else if c = ('\x7b' : Char) then do
          let levels ← levels.within .object t
          match skipSpace rest with
          | d :: after =>
            if d = ('\x7d' : Char) then .ok (object [], after)
            else
              let (members, after) ← readMembers levels fuel (d :: after)
              .ok (object (ofMembers members), after)
          | [] => .error (.fault .expectingKey [])
        else if c = ('[' : Char) then do
          let levels ← levels.within .list t
          match skipSpace rest with
          | d :: after =>
            if d = (']' : Char) then .ok (list [], after)
            else
              let (items, after) ← readItems levels fuel (d :: after)
              .ok (list items, after)
          | [] => .error (.fault .expectingValue [])
        else
          let (negative, digits) := if c = ('-' : Char) then (true, rest) else (false, t)
          readUnsigned t negative digits

/-- The items of a list up to its closing bracket. -/
def readItems : Levels → Nat → Text → Except Stop (List Json × Text)
  | _, 0, t => .error (.fault .expectingValue t)
  | levels, fuel + 1, t => do
    let (item, after) ← readValue levels fuel t
    match skipSpace after with
    | c :: rest =>
      if c = (']' : Char) then .ok ([item], rest)
      else if c = (',' : Char) then do
        let (items, after) ← readItems levels fuel (skipSpace rest)
        .ok (item :: items, after)
      else .error (.fault .expectingComma (c :: rest))
    | [] => .error (.fault .expectingComma [])

/-- The members of an object up to its closing brace. -/
def readMembers : Levels → Nat → Text → Except Stop (List (Text × Json) × Text)
  | _, 0, t => .error (.fault .expectingKey t)
  | levels, fuel + 1, t => do
    match t with
    | [] => .error (.fault .expectingKey [])
    | quote :: rest =>
      if quote ≠ ('"' : Char) then .error (.fault .expectingKey t)
      else
        let (key, after) ← readText t (rest.length + 1) rest
        match skipSpace after with
        | [] => .error (.fault .expectingColon [])
        | colon :: rest =>
          if colon ≠ (':' : Char) then .error (.fault .expectingColon (colon :: rest))
          else
            let (value, after) ← readValue levels fuel (skipSpace rest)
            match skipSpace after with
            | c :: rest =>
              if c = ('\x7d' : Char) then .ok ([(key, value)], rest)
              else if c = (',' : Char) then do
                let (members, after) ← readMembers levels fuel (skipSpace rest)
                .ok ((key, value) :: members, after)
              else .error (.fault .expectingComma (c :: rest))
            | [] => .error (.fault .expectingComma [])

end

/-- The error of a fault where a part of a whole text remained. -/
def errorAt (whole : Text) (fault : JsonFault) (rest : Text) : JsonError :=
  let index := whole.length - rest.length
  let before := whole.take index
  let feed : CodePoint := '\n'
  .malformed fault (before.count feed + 1)
    ((before.reverse.takeWhile (· ≠ feed)).length + 1) index

/-- The error of a stop in a whole text. -/
def errorOf (whole : Text) : Stop → JsonError
  | .fault f rest => errorAt whole f rest
  | .numeral e => .numeral e

/-- The mark of a byte order, which may not stand in front of a JSON text. -/
def mark : CodePoint := ⟨0xFEFF, by decide⟩

/-- Reads a text that is one JSON value, with white space around it, to a number of levels. -/
def readWithin (levels : Levels) (t : Text) : Except JsonError Json :=
  if t.head? = some mark then .error (errorAt t .byteOrderMark t)
  else
    match readValue levels (2 * t.length + 2) (skipSpace t) with
    | .error stop => .error (errorOf t stop)
    | .ok (value, rest) =>
      match skipSpace rest with
      | [] => .ok value
      | after => .error (errorAt t .extraData after)

/-- Reads a text that is one JSON value, to any depth. -/
def read (t : Text) : Except JsonError Json := readWithin none t

end Json

end PullNotes
