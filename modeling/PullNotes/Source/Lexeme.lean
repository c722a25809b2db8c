import PullNotes.Source.Cursor

/-!
# Lexemes

What the tokens of a source look like, as lengths: each function gives the number of characters that
a token of its class takes at the start of a text, the longest possible one, and zero if there is
none.
-/

namespace PullNotes

namespace Source

namespace Lexeme

/-! ### White space and comments -/

/-- The spaces of Unicode and the marks that count as white space between tokens. -/
def isSpace (c : Char) : Bool :=
  let n := c.toNat
  (9 ≤ n && n ≤ 13) || n == 32 || n == 0xA0 || n == 0x1680 || (0x2000 ≤ n && n ≤ 0x200B) ||
    n == 0x2028 || n == 0x2029 || n == 0x202F || n == 0x205F || n == 0x2060 || n == 0x3000 ||
    n == 0xFEFF

/-- Whether a character ends a line. -/
def endsLine (c : Char) : Bool := c == '\n' || c == '\r' || c == '\u2028' || c == '\u2029'

/-- The length up to and with the end of a block comment, after its start; zero if it has none. -/
def blockEnd (sofar : Nat) : List Char → Nat
  | [] => 0
  | '*' :: '/' :: _ => sofar + 2
  | _ :: rest => blockEnd (sofar + 1) rest

/-- A comment, to the end of the line or of its block. -/
def comment : List Char → Nat
  | '/' :: '/' :: rest => 2 + (rest.takeWhile fun c => !endsLine c).length
  | '/' :: '*' :: rest => blockEnd 2 rest
  | _ => 0

/-- A run of white space. -/
def spaces (cs : List Char) : Nat := (cs.takeWhile isSpace).length

/-- A line that starts as a comment of a page. -/
def pageComment (cs : List Char) : Nat :=
  if ['<', '!', '-', '-'].isPrefixOf cs || ['-', '-', '>'].isPrefixOf cs then
    (cs.takeWhile fun c => !endsLine c).length
  else 0

/-- The line at the start of a source that names its interpreter. -/
def interpreterLine : List Char → Nat
  | '#' :: '!' :: rest => 2 + (rest.takeWhile fun c => !endsLine c).length
  | _ => 0

/-! ### Names -/

/-- The characters below 128 that are part of no name. -/
def marks : List Char :=
  [':', ';', '`', '"', '\'', '@', '#', '.', ',', '|', '^', '&', '<', '=', '>', '+', '-', '*', '/',
    '\\', '%', '?', '!', '~', '(', ')', '[', ']', '\x7b', '\x7d']

/-- Whether a character may continue a name. -/
def isNamePart (c : Char) : Bool := !(c.toNat < 32 || isSpace c || marks.contains c)

/-- Whether a character is a hexadecimal digit. -/
def isHex (c : Char) : Bool :=
  c.isDigit || ('a' ≤ c && c ≤ 'f') || ('A' ≤ c && c ≤ 'F')

/-- Whether a character is an octal digit. -/
def isOctal (c : Char) : Bool := '0' ≤ c && c ≤ '7'

/-- Hexadecimal digits between braces, with the braces. -/
def bracedHex : List Char → Nat
  | '\x7b' :: rest =>
    let n := (rest.takeWhile isHex).length
    if n ≠ 0 ∧ (rest.drop n).head? = some '\x7d' then n + 2 else 0
  | _ => 0

/-- A number of hexadecimal digits. -/
def hexDigits (n : Nat) (cs : List Char) : Nat :=
  let head := cs.take n
  if head.length = n ∧ head.all isHex then n else 0

/-- A character of a name written by its number. -/
def nameEscape : List Char → Nat
  | '\\' :: 'u' :: rest =>
    let braced := bracedHex rest
    if braced ≠ 0 then braced + 2
    else
      let four := hexDigits 4 rest
      if four ≠ 0 then four + 2 else 0
  | _ => 0

/-- The characters that continue a name, after some that are known to. -/
def nameRest : Nat → List Char → Nat
  | _, [] => 0
  | known + 1, _ :: rest => 1 + nameRest known rest
  | 0, c :: rest =>
    if isNamePart c then 1 + nameRest 0 rest
    else
      match nameEscape (c :: rest) with
      | 0 => 0
      | known + 1 => 1 + nameRest known rest

/-- A name. -/
def name : List Char → Nat
  | [] => 0
  | c :: rest => if c.isDigit then 0 else nameRest 0 (c :: rest)

/-! ### Numbers -/

/-- Digits with single underscores between them, after a digit or not. -/
def digitsFrom (isDigit : Char → Bool) (inside : Bool) : List Char → Nat
  | [] => 0
  | c :: rest =>
    if isDigit c then 1 + digitsFrom isDigit true rest
    else if inside && c == '_' && rest.head?.any isDigit then 1 + digitsFrom isDigit false rest
    else 0

/-- Digits with single underscores between them. -/
def digits (isDigit : Char → Bool) (cs : List Char) : Nat := digitsFrom isDigit false cs

/-- An exponent with digits. -/
def exponent : List Char → Nat
  | e :: rest =>
    if e = 'e' ∨ e = 'E' then
      let signs := match rest with
        | '+' :: _ => 1
        | '-' :: _ => 1
        | _ => 0
      let n := digits Char.isDigit (rest.drop signs)
      if n = 0 then 0 else 1 + signs + n
    else 0
  | [] => 0

/-- The mark of a whole number without a limit. -/
def bigMark : List Char → Nat
  | 'n' :: _ => 1
  | _ => 0

/-- Digits of a base after its mark. -/
def based (isDigit : Char → Bool) (cs : List Char) : Nat :=
  let n := digits isDigit cs
  if n = 0 then 0 else n + bigMark (cs.drop n)

/-- A decimal number. -/
def decimal (cs : List Char) : Nat :=
  let whole := digits Char.isDigit cs
  let point := match cs.drop whole with
    | '.' :: _ => 1
    | _ => 0
  let fraction := if point = 0 then 0 else digits Char.isDigit (cs.drop (whole + point))
  if whole = 0 ∧ fraction = 0 then 0
  else
    let sofar := whole + point + fraction
    let sofar := sofar + exponent (cs.drop sofar)
    if sofar = whole then whole + bigMark (cs.drop whole) else sofar

/-- A number. -/
def number (cs : List Char) : Nat :=
  let marked := match cs with
    | '0' :: c :: rest =>
      if c = 'x' ∨ c = 'X' then based isHex rest
      else if c = 'o' ∨ c = 'O' then based isOctal rest
      else if c = 'b' ∨ c = 'B' then based (fun d => d == '0' || d == '1') rest
      else 0
    | _ => 0
  if marked ≠ 0 then 2 + marked else decimal cs

/-! ### Parts of string literals -/

/-- An escape sequence. -/
def escape : List Char → Nat
  | '\\' :: c :: rest =>
    if isOctal c then 1 + ((c :: rest).take 3 |>.takeWhile isOctal).length
    else if c = 'x' then
      let n := hexDigits 2 rest
      if n = 0 then 0 else 2 + n
    else if c = 'u' then
      let n := bracedHex rest
      let n := if n = 0 then hexDigits 4 rest else n
      if n = 0 then 0 else 2 + n
    else if c = '\r' ∨ c = '?' then
      match rest with
      | d :: _ => if d = '\n' ∨ d = '\u2028' ∨ d = '\u2029' then 3 else 2
      | [] => 2
    else 2
  | _ => 0

/-- The characters of a string literal that stand for themselves. -/
def fragment (quote : Char) (cs : List Char) : Nat :=
  (cs.takeWhile fun c => c != quote && c != '\\' && c != '\n' && c != '\r').length

/-- The characters of a template that stand for themselves. -/
def templateFragment : List Char → Nat
  | [] => 0
  | '`' :: _ => 0
  | '\\' :: _ => 0
  | '$' :: '\x7b' :: _ => 0
  | _ :: rest => 1 + templateFragment rest

/-! ### Regular expressions -/

/-- The pattern of a regular expression up to its closing slash; zero if it has none. -/
def patternFrom (inClass : Bool) (sofar : Nat) : List Char → Nat
  | [] => 0
  | '\\' :: c :: rest => if endsLine c then 0 else patternFrom inClass (sofar + 2) rest
  | c :: rest =>
    if c = '\n' then 0
    else if inClass then patternFrom (c != ']') (sofar + 1) rest
    else if c = '/' then sofar
    else patternFrom (c == '[') (sofar + 1) rest

/-- A regular expression, from its slash to its flags. -/
def regex : List Char → Nat
  | '/' :: rest =>
    match rest with
    | '/' :: _ => 0
    | '*' :: _ => 0
    | _ =>
      let n := patternFrom false 0 rest
      if n = 0 then 0
      else
        n + 2 + ((rest.drop (n + 1)).takeWhile fun c => 'a' ≤ c && c ≤ 'z').length
  | _ => 0

/-! ### Symbols -/

/-- The symbols of more than one character, the longer ones first. -/
def longSymbols : List (List Char) := [
  ">>>=", "...", "===", "!==", "**=", "<<=", ">>=", ">>>", "&&=", "||=", "??=", "=>", "==", "!=",
  "<=", ">=", "&&", "||", "??", "?.", "++", "--", "+=", "-=", "*=", "/=", "%=", "&=", "|=", "^=",
  "<<", ">>", "**"].map String.toList

/-- The characters that are symbols alone. -/
def shortSymbols : List Char :=
  ['\x7b', '\x7d', '(', ')', '[', ']', ';', ',', '<', '>', '+', '-', '*', '/', '%', '&', '|', '^',
    '!', '~', '?', ':', '=', '.', '@', '#']

/-- The symbol at the start of a text, the longest possible one.  A question mark before a decimal
fraction is a symbol of its own. -/
def symbol (cs : List Char) : List Char :=
  match cs with
  | '?' :: '.' :: d :: _ => if d.isDigit then ['?'] else ['?', '.']
  | _ =>
    match longSymbols.find? fun s => s.isPrefixOf cs with
    | some s => s
    | none => (cs.head?.filter shortSymbols.contains).toList

/-! ### Markup -/

/-- A name of an element or attribute, which may hold hyphens. -/
def markupName (cs : List Char) : Nat :=
  match cs with
  | c :: _ =>
    if c.isAlpha || c = '_' || c = '$' then
      (cs.takeWhile fun d => d.isAlphanum || d = '_' || d = '$' || d = '-').length
    else 0
  | [] => 0

/-- The text between elements. -/
def markupText (cs : List Char) : Nat :=
  (cs.takeWhile fun c => c != '\x7b' && c != '\x7d' && c != '<' && c != '>').length

end Lexeme

end Source

end PullNotes
