import PullNotes.Source.Reader

/-!
# Looking past brackets

What follows the bracket that matches an opening one, with strings, templates, comments and regular
expressions passed over.  The look ahead decides between readings that start alike: an arrow
function or an expression in parentheses, a pattern that is assigned to or an object.
-/

namespace PullNotes

namespace Source

namespace Bracket

/-- The bracket that closes an opening one. -/
def closer? (c : Char) : Option Char :=
  if c = '(' then some ')'
  else if c = '[' then some ']'
  else if c = '\x7b' then some '\x7d'
  else if c = '`' then some '`'
  else none

/-- Whether a slash after a character starts a regular expression. -/
def precedesPattern (c : Char) : Bool :=
  c == '(' || c == ',' || c == '=' || c == ':' || c == '[' || c == '!' || c == '&' || c == '|' ||
    c == '?' || c == '\x7b' || c == '\x7d' || c == ';' || c == '+' || c == '-' || c == '*' ||
    c == '%' || c == '<' || c == '>' || c == '~' || c == '^'

/-- What follows the last of the open brackets.  Some characters are passed over first; `previous`
is the last character that is not white space. -/
def afterOpen : Nat → List Char → Char → List Char → Option (List Char)
  | _, _, _, [] => none
  | skip + 1, awaited, previous, _ :: rest => afterOpen skip awaited previous rest
  | 0, awaited, previous, c :: rest =>
    match awaited with
    | [] => some (c :: rest)
    | a :: outer =>
      if c = a then if outer.isEmpty then some rest else afterOpen 0 outer c rest
      else if a = '`' then
        if c = '\\' then afterOpen 1 awaited previous rest
        else if c = '$' ∧ rest.head? = some '\x7b' then afterOpen 1 ('\x7d' :: awaited) '\x7b' rest
        else afterOpen 0 awaited previous rest
      else if a = '"' ∨ a = '\'' then
        if c = '\\' then afterOpen 1 awaited previous rest
        else if c = '\n' then none
        else afterOpen 0 awaited previous rest
      else if c = '"' ∨ c = '\'' then afterOpen 0 (c :: awaited) previous rest
      else if Lexeme.isSpace c then afterOpen 0 awaited previous rest
      else if c = '/' then
        match Lexeme.comment (c :: rest), Lexeme.regex (c :: rest) with
        | n + 1, _ => afterOpen n awaited previous rest
        | 0, n =>
          if precedesPattern previous then afterOpen (n - 1) awaited ')' rest
          else afterOpen 0 awaited c rest
      else
        match closer? c with
        | some b => afterOpen 0 (b :: awaited) c rest
        | none =>
          if c = ')' ∨ c = ']' ∨ c = '\x7d' then none else afterOpen 0 awaited c rest

/-- What follows the bracket that matches the one at the start of a text, and the blanks after
it. -/
def after? (length : Nat) (cs : List Char) : Option (List Char) :=
  match cs with
  | [] => none
  | c :: rest =>
    (closer? c).bind fun b =>
      (afterOpen 0 [b] c rest).map fun after =>
        (passBlanks { dialect := .javascript, length } (length + 1) (.ofChars after) []).1.rest

/-- Whether a text starts with an equals sign that is no part of a longer symbol. -/
def startsAssignment : List Char → Bool
  | '=' :: '=' :: _ => false
  | '=' :: '>' :: _ => false
  | '=' :: _ => true
  | _ => false

end Bracket

namespace Reader

/-- Whether what follows the matching bracket of the next token satisfies a condition. -/
def afterBracket (condition : List Char → Bool) (ctx : Context) (s : State) : Bool :=
  (Bracket.after? ctx.length s.cursor.rest).any condition

/-- Whether the next token opens a pattern that is assigned to. -/
def atAssignedPattern : Context → State → Bool := afterBracket Bracket.startsAssignment

/-- Whether the next token opens the parameters of an arrow function without a result type. -/
def atArrowParameters : Context → State → Bool := afterBracket (['=', '>'].isPrefixOf ·)

/-- Whether the next token opens what may be parameters with a result type after them. -/
def atTypedParameters : Context → State → Bool := fun ctx s =>
  ctx.dialect.isTyped && s.typedArrows && afterBracket ([':'].isPrefixOf ·) ctx s

end Reader

end Source

end PullNotes
