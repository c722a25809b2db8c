import PullNotes.Console.Emoji
import PullNotes.Console.Handler
import PullNotes.Console.Style

/-!
# Markup

A text may have tags in brackets: a tag opens a style, a tag with a slash closes the style that it
names or the one opened last.  Tags are not shown.  A backslash before a tag makes it a part of the
text, and two backslashes there stand for one.  A tag whose name starts with an at sign names a
handler; when it is closed its parameters are evaluated, and how that is done is left open.
-/

namespace PullNotes

/-- A tag: its name, and what follows the first equals sign. -/
structure Tag where
  name : Text
  parameters : Option Text
deriving DecidableEq, Repr

/-- Why markup could not be understood: a closing tag, at its place, closes nothing, or the
parameters of a handler have no value. -/
inductive MarkupError where
  | nothingToClose (place : Nat)
  | neverOpened (tag : Tag) (place : Nat)
  | unevaluated (parameters : Text) (fault : ParameterFault)
deriving DecidableEq, Repr

namespace Tag

/-- A tag from what is between its brackets. -/
def ofContent (content : Text) : Tag :=
  match Text.cutAt? ('=' : Char) content with
  | some (name, parameters) => ⟨name, some parameters⟩
  | none => ⟨content, none⟩

/-- A tag as it is written. -/
def written (t : Tag) : Text :=
  match t.parameters with
  | some parameters => .concat ["[", t.name, "=", parameters, "]"]
  | none => .concat ["[", t.name, "]"]

/-- The name of what a closing tag closes; no name stands for what was opened last. -/
def closes? (t : Tag) : Option Text :=
  match t.name with
  | c :: rest => if c = ('/' : Char) then some (Text.trim rest) else none
  | [] => none

end Tag

/-- The error in words. -/
def MarkupError.message : MarkupError → Text
  | nothingToClose place =>
    .concat ["closing tag '[/]' at position ", .ofNat place, " has nothing to close"]
  | neverOpened tag place =>
    .concat ["closing tag '", tag.written, "' at position ", .ofNat place,
      " doesn't match any open tag"]
  | unevaluated whole (.unreadable parameters words) =>
    .concat ["error parsing ", parameters.quoted, " in ", whole.quoted, "; ", words]
  | unevaluated whole (.noLiteral words) => .concat ["error parsing ", whole.quoted, "; ", words]

/-- A reader of markup: what a text shows, or why it cannot be understood. -/
abbrev Renderer := Text → Except MarkupError Text

/-- What comes of evaluating the parameters of a handler. -/
abbrev Evaluator := Text → Except ParameterFault Unit

namespace Markup

/-- The backslash. -/
def backslash : CodePoint := '\\'

/-- The opening bracket. -/
def opening : CodePoint := '['

/-- The closing bracket. -/
def closing : CodePoint := ']'

/-- Whether a tag may start with a code point. -/
def startsTag (c : CodePoint) : Bool :=
  c.isAsciiLower || c = ('#' : Char) || c = ('/' : Char) || c = ('@' : Char)

/-- The text up to the first closing bracket, with no opening one before it. -/
def upToClosing? : Text → Option Text
  | [] => none
  | c :: rest =>
    if c = closing then some []
    else if c = opening then none
    else (upToClosing? rest).map (c :: ·)

/-- What is between the brackets of the tag at the start of a text. -/
def tagContent? : Text → Option Text
  | bracket :: c :: rest =>
    if bracket = opening ∧ startsTag c then (upToClosing? rest).map (c :: ·) else none
  | _ => none

/-- A piece of markup: a text, or a tag at a place. -/
inductive Piece where
  | text (t : Text)
  | tag (t : Tag) (place : Nat)
deriving DecidableEq, Repr

/-- The pieces of a tag with backslashes before it, which start at a place. -/
def tagPieces (backslashes place : Nat) (content : Text) : List Piece :=
  let kept := Piece.text (List.replicate (backslashes / 2) backslash)
  if backslashes % 2 = 1 then [kept, .text (opening :: content ++ [closing])]
  else [kept, .tag (.ofContent content) (place + backslashes)]

/-- The pieces of markup, given the plain text before it in reverse, the place, and the number of
code points that are done. -/
def piecesFrom (plain : Text) (place : Nat) : Nat → Text → List Piece
  | _, [] => [.text plain.reverse]
  | done + 1, _ :: rest => piecesFrom plain (place + 1) done rest
  | 0, c :: rest =>
    let backslashes := ((c :: rest).takeWhile (· = backslash)).length
    match tagContent? ((c :: rest).drop backslashes) with
    | some content =>
      .text plain.reverse :: tagPieces backslashes place content
        ++ piecesFrom [] (place + 1) (backslashes + content.length + 1) rest
    | none => piecesFrom (c :: plain) (place + 1) 0 rest

/-- The pieces of markup. -/
def pieces (t : Text) : List Piece := piecesFrom [] 0 0 t

/-- A text without the backslashes before its opening brackets. -/
def unescaped : Text → Text
  | [] => []
  | [c] => [c]
  | c :: d :: rest =>
    if c = backslash ∧ d = opening then opening :: unescaped rest else c :: unescaped (d :: rest)

/-- The control characters that are never shown. -/
def isHidden (c : CodePoint) : Bool :=
  c.val = 7 || c.val = 8 || c.val = 11 || c.val = 12 || c.val = 13

/-- A text as it is shown. -/
def shownText (t : Text) : Text := (Emoji.replace (unescaped t)).filter fun c => !isHidden c

/-- The tag opened last by a name, and the open tags without it. -/
def close? (name : Text) : List Tag → Option (Tag × List Tag)
  | [] => none
  | tag :: tags =>
    if tag.name = name then some (tag, tags)
    else (close? name tags).map fun (closed, others) => (closed, tag :: others)

/-- The mark that the name of a handler starts with. -/
def handlerMark : CodePoint := '@'

/-- The open tags that are left when one is closed; the parameters of a handler are evaluated
then. -/
def leave (evaluate : Evaluator) (closed : Tag) (left : List Tag) : Except MarkupError (List Tag) :=
  match closed.parameters with
  | some (c :: cs) =>
    if closed.name.head? = some handlerMark then
      match evaluate (c :: cs) with
      | .ok () => .ok left
      | .error fault => .error (.unevaluated (c :: cs) fault)
    else .ok left
  | _ => .ok left

/-- The open tags after a tag, the latest first, each with the plain form of its name. -/
def afterTag (evaluate : Evaluator) (t : Tag) (place : Nat) (opened : List Tag) :
    Except MarkupError (List Tag) :=
  match t.closes? with
  | none => .ok (⟨Style.plainName t.name, t.parameters⟩ :: opened)
  | some [] =>
    match opened with
    | [] => .error (.nothingToClose place)
    | closed :: left => leave evaluate closed left
  | some name =>
    match close? (Style.plainName name) opened with
    | some (closed, left) => leave evaluate closed left
    | none => .error (.neverOpened t place)

/-- What pieces of markup show, given the open tags. -/
def renderPieces (evaluate : Evaluator) (opened : List Tag) : List Piece → Except MarkupError Text
  | [] => .ok []
  | .text t :: rest => do
    let shown ← renderPieces evaluate opened rest
    .ok (shownText t ++ shown)
  | .tag t place :: rest => do
    let opened ← afterTag evaluate t place opened
    renderPieces evaluate opened rest

/-- What markup shows, given what comes of evaluating parameters. -/
def render (evaluate : Evaluator) : Renderer := fun t => renderPieces evaluate [] (pieces t)

/-- The reader of markup that the program comes with. -/
def standard : Renderer := render Handler.evaluate

end Markup

end PullNotes
