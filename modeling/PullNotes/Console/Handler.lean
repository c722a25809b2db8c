import PullNotes.Numeral
import PullNotes.Text.Line

/-!
# Parameters of handlers

The parameters of a tag that names a handler are evaluated when the tag is closed: a handler may be
called with what is in parentheses, and anything else is a value.  Values are literals: numbers,
texts in quotes, constants, and lists of values in brackets.

Nothing of a value is shown, so all that counts is whether there is one.  Two faults are told apart,
but `Handler.evaluate` never finds the first: a text that spells no literal is not looked at
further.
-/

namespace PullNotes

/-- Why the parameters of a handler have no value: they cannot be read, or what they spell is no
literal. The fault is given in words. -/
inductive ParameterFault where
  | unreadable (parameters words : Text)
  | noLiteral (words : Text)
deriving DecidableEq, Repr

namespace Handler

/-- Whether a code point may stand in the name of a handler; letters beyond ASCII are left out. -/
def isNamePart (c : CodePoint) : Bool :=
  c.isAsciiDigit || c.isAsciiLower || c.isAsciiUpper || c = ('_' : Char) || c = ('.' : Char)

/-- What a handler is called with: what follows its name in parentheses, if anything does.
Parameters that call no handler are all there is. -/
def arguments (parameters : Text) : Text :=
  match parameters.dropWhile isNamePart with
  | [] => "()"
  | c :: rest =>
    if c = ('(' : Char) ∧ rest.getLast? = some (')' : Char) ∧ ¬ rest.contains CodePoint.lineFeed then
      c :: rest
    else parameters

/-! ### Literals -/

/-- The bracket that closes one. -/
def closing? (c : CodePoint) : Option CodePoint :=
  if c = ('(' : Char) then some (')' : Char)
  else if c = ('[' : Char) then some (']' : Char)
  else if c = ('\x7b' : Char) then some ('\x7d' : Char)
  else none

/-- A text without the blanks at its start. -/
def skipBlanks (t : Text) : Text := t.dropWhile Numeral.isAsciiBlank

/-- What follows the closing quote of a text in quotes. -/
def afterQuote? (quote : CodePoint) : Text → Option Text
  | [] => none
  | [c] => if c = quote then some [] else none
  | c :: d :: rest =>
    if c = quote then some (d :: rest)
    else if c = ('\\' : Char) then afterQuote? quote rest
    else if c = CodePoint.lineFeed then none
    else afterQuote? quote (d :: rest)

/-- The words that may stand in front of a quote. -/
def quotePrefixes : List String := ["", "b", "r", "u", "br", "rb"]

/-- Whether a word in lower case is a number without a sign. -/
def isNumber (word : Text) : Bool :=
  let digits (base : Nat) (t : Text) :=
    (Numeral.digits? base false t).any fun (_, after) => after.isEmpty
  let fraction (t : Text) :=
    match Text.cutAt? ('.' : Char) t with
    | some (whole, part) => (digits 10 whole || (whole.isEmpty && !part.isEmpty)) &&
        (part.isEmpty || digits 10 part)
    | none => digits 10 t
  let real (t : Text) :=
    match Text.cutAt? ('e' : Char) t with
    | some (mantissa, exponent) => fraction mantissa && digits 10 (Numeral.sign exponent).2
    | none => fraction t
  match word with
  | [] => false
  | c :: rest =>
    real word || (word.getLast? = some ('j' : Char) && real word.dropLast) ||
      (c = ('0' : Char) && match rest with
        | mark :: more => (mark = ('x' : Char) && digits 16 more) ||
            (mark = ('o' : Char) && digits 8 more) || (mark = ('b' : Char) && digits 2 more)
        | [] => false)

/-- The word at the start of a text, and what follows it; a sign in an exponent belongs to it. -/
def wordAt : Text → Text × Text
  | [] => ([], [])
  | [c] => if isNamePart c then ([c], []) else ([], [c])
  | c :: d :: rest =>
    if isNamePart c then
      let (word, after) := wordAt (d :: rest)
      let signed := (c = ('e' : Char) ∨ c = ('E' : Char)) ∧ (d = ('-' : Char) ∨ d = ('+' : Char))
      if signed then
        let (digits, after) := wordAt rest
        (c :: d :: digits, after)
      else (c :: word, after)
    else ([], c :: d :: rest)

/-- The words that are values. -/
def constants : List String := ["None", "True", "False", "..."]

mutual

/-- What follows the literal at the start of a text. -/
def afterLiteral? : Nat → Text → Option Text
  | 0, _ => none
  | fuel + 1, t =>
    let (negative, unsigned) := Numeral.sign (skipBlanks t)
    let (word, after) := wordAt (skipBlanks unsigned)
    if isNumber word.asciiLower then some after
    else if negative then none
    else if constants.any fun c => Text.ofString c == word then some after
    else
      match after with
      | [] => none
      | c :: rest =>
        if c = ('"' : Char) ∨ c = ('\'' : Char) then
          if quotePrefixes.any fun p => Text.ofString p == word.asciiLower then afterQuote? c rest
          else none
        else if word.isEmpty then (closing? c).bind fun closing => afterItems? closing fuel rest
        else none

/-- What follows the closing bracket of literals with commas between them. -/
def afterItems? (closing : CodePoint) : Nat → Text → Option Text
  | 0, _ => none
  | fuel + 1, t =>
    match skipBlanks t with
    | [] => none
    | c :: rest =>
      if c = closing then some rest
      else
        (afterLiteral? fuel (c :: rest)).bind fun after =>
          match skipBlanks after with
          | [] => none
          | d :: more =>
            if d = closing then some more
            else if d = (',' : Char) ∨ (d = (':' : Char) ∧ closing = ('\x7d' : Char)) then
              afterItems? closing fuel more
            else none

end

/-- Whether a text is a literal. -/
def isLiteral (t : Text) : Bool :=
  match afterLiteral? (2 * t.length + 1) t with
  | some after => (skipBlanks after).isEmpty
  | none => false

/-- Evaluates the parameters of a handler. -/
def evaluate (parameters : Text) : Except ParameterFault Unit :=
  if isLiteral (arguments parameters.trim) then .ok ()
  else .error (.noLiteral "malformed node or string")

end Handler

end PullNotes
