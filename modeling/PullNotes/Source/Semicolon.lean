import PullNotes.Source.Reader

/-!
# Implied semicolons

A statement ends at a semicolon, or where one is implied: at the end of the source, before a closing
brace, and at a line end unless what follows goes on with the statement.  The plain and the typed
dialects differ in what goes on with a statement and in how they look past comments.
-/

namespace PullNotes

namespace Source

namespace Semicolon

/-- Whether a character ends a line for a statement. -/
def isBreak (c : Char) : Bool := c == '\n' || c == '\u2028' || c == '\u2029'

/-- Whether a character is a letter. -/
def isLetter (c : Char) : Bool := c.isAlpha || 128 ≤ c.toNat

/-- What follows a line comment. -/
def afterLine (cs : List Char) : List Char := cs.dropWhile fun c => !isBreak c

/-- Whether a line ends within a block comment, and what follows it. -/
def afterBlock (sawBreak : Bool) : List Char → Bool × List Char
  | [] => (sawBreak, [])
  | '*' :: '/' :: rest => (sawBreak, rest)
  | c :: rest => afterBlock (sawBreak || isBreak c) rest

/-- What follows white space and comments; nothing if a slash follows that starts no comment. -/
def afterBlanks : Nat → List Char → Option (List Char)
  | 0, cs => some cs
  | fuel + 1, cs =>
    match cs.dropWhile Lexeme.isSpace with
    | '/' :: '/' :: rest => afterBlanks fuel (afterLine rest)
    | '/' :: '*' :: rest => afterBlanks fuel (afterBlock false rest).2
    | '/' :: _ => none
    | rest => some rest

/-- What follows white space and comments up to the end of the first block comment without another
comment right after it, and whether the look past it may count as a line end. -/
def afterComments (sawBreak : Bool) : Nat → List Char → Option (Bool × List Char)
  | 0, cs => some (true, cs)
  | fuel + 1, cs =>
    match cs.dropWhile Lexeme.isSpace with
    | '/' :: '/' :: rest => afterComments sawBreak fuel (afterLine rest)
    | '/' :: '*' :: rest =>
      let (found, after) := afterBlock sawBreak rest
      if after.head? = some '/' then afterComments found fuel after else some (found, after)
    | '/' :: _ => none
    | rest => some (true, rest)

/-- Whether a text that starts with an `i` starts with another word than `in` or `instanceof`. -/
def startsOtherWord : List Char → Bool
  | 'i' :: 'n' :: rest =>
    match rest with
    | [] => false
    | c :: _ =>
      if !isLetter c then false
      else
        let tail := "stanceof".toList
        !tail.isPrefixOf rest || (rest.drop tail.length).head?.any isLetter
  | _ => true

/-- Whether a text on a new line does not go on with a statement, whatever the dialect. -/
def startsAnew : List Char → Bool
  | '+' :: rest => rest.head? == some '+'
  | '-' :: rest => rest.head? == some '-'
  | '!' :: rest => rest.head? != some '='
  | 'i' :: rest => startsOtherWord ('i' :: rest)
  | _ => true

/-- The characters that go on with a statement of the plain dialect. -/
def plainContinuations : List Char :=
  ['`', ',', ':', ';', '*', '%', '>', '<', '=', '[', '(', '?', '^', '|', '&', '/']

/-- Whether a text on a new line starts a statement of the plain dialect. -/
def startsPlain : List Char → Bool
  | [] => true
  | '.' :: rest => rest.head?.any Char.isDigit
  | c :: rest => !plainContinuations.contains c && startsAnew (c :: rest)

/-- The characters that go on with a statement of the typed dialects. -/
def typedContinuations : List Char :=
  ['`', ',', '.', ';', '*', '%', '>', '<', '=', '?', '^', '|', '&', '/', ':']

/-- Whether a text on a new line starts a statement of the typed dialects.  After an operand a
bracket goes on with the statement, and after a signature a brace does. -/
def startsTyped (afterOperand signature : Bool) : List Char → Bool
  | [] => true
  | c :: rest =>
    if c = '(' ∨ c = '[' then !afterOperand
    else if c = '\x7b' then !signature
    else !typedContinuations.contains c && startsAnew (c :: rest)

/-- Whether a semicolon is implied before a text in the plain dialect. -/
def impliedPlain (afterOperand : Bool) : Nat → List Char → Bool
  | 0, _ => true
  | fuel + 1, cs =>
    let atCharacter (c : Char) (rest : List Char) : Bool :=
      if c = '\x7d' then true
      else if isBreak c then (afterBlanks (rest.length + 1) rest).any startsPlain
      else if Lexeme.isSpace c then impliedPlain afterOperand fuel rest
      else false
    match cs with
    | [] => true
    | '/' :: _ =>
      match afterComments false (cs.length + 1) cs with
      | none => false
      | some (found, rest) =>
        if found && !afterOperand && rest.head? != some ',' && rest.head? != some '=' then true
        else
          match rest with
          | [] => false
          | c :: rest => atCharacter c rest
    | c :: rest => atCharacter c rest

/-- Whether a semicolon is implied before a text in the typed dialects. -/
def impliedTyped (afterOperand signature : Bool) (cs : List Char) : Bool :=
  match cs.dropWhile fun c => Lexeme.isSpace c && c != '\n' with
  | [] => true
  | '\x7d' :: rest =>
    if (rest.dropWhile Lexeme.isSpace).head? = some ':' then afterOperand else true
  | '\n' :: rest =>
    (afterBlanks (rest.length + 1) rest).any (startsTyped afterOperand signature)
  | _ => false

/-- Whether a semicolon is implied before a text. -/
def implied (dialect : Dialect) (afterOperand signature : Bool) (cs : List Char) : Bool :=
  if dialect.isTyped then impliedTyped afterOperand signature cs
  else impliedPlain afterOperand (cs.length + 1) cs

/-- Whether a semicolon is implied before a text or after one of the comments at its start; the
number of comments looked past is limited by fuel. -/
def impliedAfterComments (test : List Char → Bool) : Nat → List Char → Bool
  | 0, _ => false
  | fuel + 1, cs =>
    test cs ||
      let rest := cs.dropWhile Lexeme.isSpace
      let n := Lexeme.comment rest
      n != 0 && impliedAfterComments test fuel (rest.drop n)

/-- The place after white space and comments at which a semicolon is implied, if it is implied
before something else is read. -/
def impliedPlace? (test : List Char → Bool) : Nat → Cursor → Option Cursor
  | 0, _ => none
  | fuel + 1, k =>
    if test k.rest then some k
    else
      let next := k.advance (Lexeme.spaces k.rest)
      match Lexeme.comment next.rest with
      | 0 => none
      | n => impliedPlace? test fuel (next.advance n)

end Semicolon

namespace Reader

/-- Whether a semicolon is implied at a place between tokens; none is right after a token that was
supplied.  An error that was passed over counts as what follows. -/
def semicolonImplied (signature : Bool) (ctx : Context) (s : State) : Bool :=
  s.supplied != some s.cursor.offset &&
    Semicolon.impliedAfterComments
      (Semicolon.implied ctx.dialect s.afterOperand signature) (ctx.length + 1) s.last.rest

/-- The end of a statement: an implied semicolon or a written one. -/
def semicolon : Reader := choose (semicolonImplied false) done (symbol ";")

/-- The end of a signature, after which a brace would go on with it. -/
def signatureEnd : Reader := choose (semicolonImplied true) done (symbol ";")

/-- Whether the next token is on the line of the last one, or brackets go around both. -/
def sameLine (_ : Context) (s : State) : Bool := s.enclosed || !s.afterLine

/-- A node that goes on to the place where a semicolon is implied after it, over comments. -/
def upToImplied (p : Reader) : Reader := fun ctx s =>
  match p ctx s with
  | .error e => .error e
  | .ok after =>
    match Semicolon.impliedPlace? (Semicolon.implied ctx.dialect true false)
        (ctx.length + 1) after.last with
    | some place => .ok { after with last := place }
    | none => .ok after

end Reader

end Source

end PullNotes
