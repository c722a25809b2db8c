import PullNotes.Json.Basic
import PullNotes.Numeral
import PullNotes.Text.Utf8

/-!
# Checking values

A JSON value is checked against what is wanted: a text, a whole number, a truth value or an object
with fields.  A text that spells a number or a truth value will do for it, and so will a number of
the same value; a text with a surrogate spells nothing.  All issues of an object are found, in the
order of its fields.
-/

namespace PullNotes

/-- What is wrong with a value. -/
inductive IssueKind where
  | textExpected
  | textUnreadable
  | wholeExpected
  | wholeUnreadable
  | wholeTooLong
  | wholeFromFraction
  | finiteExpected
  | truthExpected
  | truthUnreadable
  | objectExpected (name : String)
  | missing
deriving DecidableEq, Repr

namespace IssueKind

/-- The name of the kind of an issue. -/
def name : IssueKind → String
  | textExpected => "string_type"
  | textUnreadable => "string_unicode"
  | wholeExpected => "int_type"
  | wholeUnreadable => "int_parsing"
  | wholeTooLong => "int_parsing_size"
  | wholeFromFraction => "int_from_float"
  | finiteExpected => "finite_number"
  | truthExpected => "bool_type"
  | truthUnreadable => "bool_parsing"
  | objectExpected _ => "model_type"
  | missing => "missing"

/-- The issue in words. -/
def message : IssueKind → String
  | textExpected => "Input should be a valid string"
  | textUnreadable =>
    "Input should be a valid string, unable to parse raw data as a unicode string"
  | wholeExpected => "Input should be a valid integer"
  | wholeUnreadable => "Input should be a valid integer, unable to parse string as an integer"
  | wholeTooLong => "Unable to parse input string as an integer, exceeded maximum size"
  | wholeFromFraction => "Input should be a valid integer, got a number with a fractional part"
  | finiteExpected => "Input should be a finite number"
  | truthExpected => "Input should be a valid boolean"
  | truthUnreadable => "Input should be a valid boolean, unable to interpret input"
  | objectExpected name => "Input should be a valid dictionary or instance of " ++ name
  | missing => "Field required"

end IssueKind

/-- Something wrong with a value at a place within an object. -/
structure Issue where
  path : List String
  kind : IssueKind
  input : Json

namespace Issue

/-- An issue of a value that is itself in a field. -/
def below (field : String) (i : Issue) : Issue := { i with path := field :: i.path }

/-- The greatest number of bytes of a value that is shown. -/
def shownLength : Nat := 50

/-- As many code points as take up at most a number of bytes. -/
def within : Nat → Text → Text
  | _, [] => []
  | n, c :: rest =>
    let width := (Utf8.writePoint c).length
    if width ≤ n then c :: within (n - width) rest else []

/-- A text as it is if it is short, and else its beginning and its end. -/
def shortened (t : Text) : Text :=
  if (Utf8.write t).length ≤ shownLength then t
  else
    let half := (shownLength + 1) / 2
    Text.concat [within half t, "...", (within (half - 1) t.reverse).reverse]

/-- Where the kinds of issues are explained. -/
def explanations : Text := Text.concat ["https", "://", "errors.pydantic.dev", "/2.14/v/"]

/-- The issue in words, with the value. -/
def message (i : Issue) : Text :=
  Text.concat [Text.join "." (i.path.map Text.ofString), "\n  ", i.kind.message, " [type=",
    i.kind.name, ", input_value=", shortened i.input.shown, ", input_type=", i.input.typeName,
    "]\n    For further information visit ", explanations, i.kind.name]

/-- All issues of an object in words. -/
def messageOfAll (name : String) (issues : List Issue) : Text :=
  Text.join "\n" (Text.concat [Text.ofNat issues.length,
    if issues.length = 1 then " validation error for " else " validation errors for ", name]
    :: issues.map message)

end Issue

/-- A value that is as wanted, or all that is wrong with it. -/
abbrev Checked (α : Type) := Except (List Issue) α

namespace Check

/-- One issue of a value. -/
def refuse {α : Type} (kind : IssueKind) (input : Json) : Checked α := .error [⟨[], kind, input⟩]

/-- The issues of a check, if there are any. -/
def issues {α : Type} : Checked α → List Issue
  | .ok _ => []
  | .error is => is

/-! ### Texts -/

/-- A text. -/
def text (v : Json) : Checked Text :=
  match v with
  | .text t => .ok t
  | _ => refuse .textExpected v

/-! ### Whole numbers -/

/-- The white space that may stand around a number. -/
def isSpace (c : CodePoint) : Bool := c.isBlank && !(28 ≤ c.val && c.val ≤ 31)

/-- A text without the white space around it. -/
def trimmed (t : Text) : Text :=
  ((t.dropWhile isSpace).reverse.dropWhile isSpace).reverse

/-- The underscore. -/
def underscore : CodePoint := '_'

/-- The digit zero. -/
def zero : CodePoint := '0'

/-- A text without the zeros at its start; underscores count as zeros after the first one.  The last
zero stays if nothing or a point follows.  A text that starts with no digit and no minus is none. -/
def withoutZeros? (t : Text) : Option Text :=
  match t with
  | [] => none
  | c :: rest =>
    if c = zero then
      let zeros := rest.takeWhile fun d => d = zero || d = underscore
      let last := (c :: zeros).getLast?.toList
      match rest.drop zeros.length with
      | [] => some last
      | d :: after =>
        if d.isAsciiDigit then some (d :: after)
        else if d = ('.' : Char) then some (last ++ d :: after)
        else none
    else if c.isAsciiDigit || c = ('-' : Char) then some t
    else none

/-- A text without a point and nothing but zeros after it. -/
def withoutFraction (t : Text) : Text :=
  match Text.cutAt? ('.' : Char) t with
  | some (whole, fraction) => if fraction.all (· = zero) then whole else t
  | none => t

/-- Whether an underscore stands at an end or next to another one. -/
def hasLooseUnderscore (t : Text) : Bool :=
  t.head? = some underscore || t.getLast? = some underscore ||
    Text.isInfixOf [underscore, underscore] t

/-- A text without its underscores, if none of them is loose. -/
def withoutUnderscores (t : Text) : Text :=
  if hasLooseUnderscore t then t else t.filter (· ≠ underscore)

/-- The number of digits with a minus or none in front; a zero in front of other digits is none. -/
def plainWhole? (t : Text) : Option Int :=
  let (negative, digits) := match t with
    | c :: rest => if c = ('-' : Char) then (true, rest) else (false, t)
    | [] => (false, t)
  if digits.isEmpty || !digits.all CodePoint.isAsciiDigit ||
      (digits.head? = some zero && 1 < digits.length) then none
  else
    let n : Int := Numeral.value 10 (digits.map fun c => c.val - 48)
    some (if negative then -n else n)

/-- A text without what a number may be written with beside its plain form. -/
def plainForm? (t : Text) : Option Text :=
  let unsigned? : Option Text := match t with
    | c :: rest =>
      if c = ('+' : Char) then if rest.head? = some ('-' : Char) then none else some rest
      else some t
    | [] => some t
  ((unsigned?.bind withoutZeros?).map withoutFraction).map withoutUnderscores

/-- The whole number that a text spells. -/
def spelledWhole? (t : Text) : Option Int :=
  match plainWhole? t with
  | some n => some n
  | none => (plainForm? t).bind plainWhole?

/-- Numbers of double width below this are whole numbers as they are. -/
def wholeBound : Int := 0x8000000000000000

/-- A number of double width as a whole number. -/
def wholeOfReal (x : Binary64) (v : Json) : Checked Int :=
  match x.whole? with
  | none => refuse .finiteExpected v
  | some n =>
    if !x.isWhole then refuse .wholeFromFraction v
    else if -wholeBound < n ∧ n < wholeBound then .ok n
    else refuse .wholeTooLong v

/-- A whole number, or what will do for one. -/
def whole (v : Json) : Checked Int :=
  match v with
  | .whole n => .ok n
  | .bool b => .ok (if b then 1 else 0)
  | .real x => wholeOfReal x v
  | .text t =>
    let inner := trimmed t
    if t.any CodePoint.isSurrogate then refuse .textUnreadable v
    else if Numeral.maxDigits < (Utf8.write inner).length then refuse .wholeTooLong v
    else
      match spelledWhole? inner with
      | some n => .ok n
      | none => refuse .wholeUnreadable v
  | _ => refuse .wholeExpected v

/-! ### Truth values -/

/-- The spellings of a truth value, in lower case. -/
def truthSpellings : Bool → List String
  | true => ["1", "on", "t", "true", "y", "yes"]
  | false => ["0", "off", "f", "false", "n", "no"]

/-- The truth value that a text spells, in letters of either case. -/
def spelledTruth? (t : Text) : Option Bool :=
  [true, false].find? fun b => (truthSpellings b).any fun s => Text.ofString s == t.asciiLower

/-- The truth value that a whole number stands for. -/
def truthOfWhole (n : Int) (v : Json) : Checked Bool :=
  if n = 0 then .ok false
  else if n = 1 then .ok true
  else if -wholeBound ≤ n ∧ n < wholeBound then refuse .truthUnreadable v
  else refuse .truthExpected v

/-- A truth value, or what will do for one. -/
def truth (v : Json) : Checked Bool :=
  match v with
  | .bool b => .ok b
  | .text t =>
    if t.any CodePoint.isSurrogate then refuse .textUnreadable v
    else
      match spelledTruth? t with
      | some b => .ok b
      | none => refuse .truthUnreadable v
  | .whole n => truthOfWhole n v
  | .real x =>
    match wholeOfReal x v with
    | .ok n => truthOfWhole n v
    | .error _ => refuse .truthExpected v
  | _ => refuse .truthExpected v

/-! ### Objects -/

/-- A check of the field of an object, which has a default value if it may be left out. -/
def field {α : Type} (members : List (Text × Json)) (name : String) (default : Option α)
    (check : Json → Checked α) : Checked α :=
  match Json.lookup? name members, default with
  | some v, _ =>
    match check v with
    | .ok a => .ok a
    | .error is => .error (is.map (Issue.below name))
  | none, some a => .ok a
  | none, none => .error [⟨[name], .missing, .object members⟩]

/-- The members of an object. -/
def members (name : String) (v : Json) : Checked (List (Text × Json)) :=
  match v with
  | .object ms => .ok ms
  | _ => refuse (.objectExpected name) v

/-- Two checked values, or all issues of both. -/
def both {α β : Type} (a : Checked α) (b : Checked β) : Checked (α × β) :=
  match a, b with
  | .ok a, .ok b => .ok (a, b)
  | a, b => .error (issues a ++ issues b)

end Check

end PullNotes
