import PullNotes.Dialect
import PullNotes.Source.Lexeme

/-!
# Readers

A reader goes over a part of a source and leaves the nodes of what it read on a stack, or it is
stuck at a token.  Readers are put together from readers of single tokens: one after another, the
first of several that does not get stuck, repeatedly, and gathered into one node.  The farthest
token at which a reader was stuck is kept, also when another reader went on from an earlier place.
-/

namespace PullNotes

namespace Source

/-- A node and the place where it starts. -/
structure Part where
  start : Cursor
  node : Node

/-- What stands at a place of the source apart from the source's own tokens: a stretch that is
passed over as an error, or a token that is supplied. -/
inductive Patch where
  | hole (start stop : Nat)
  | missing (place : Nat) (kind : String)

/-- What readers know about the source as a whole. -/
structure Context where
  dialect : Dialect
  length : Nat
  patches : List Patch := []
  /-- Whether `in` stands between operands, as it does everywhere but in the head of a loop. -/
  inBinds : Bool := true

/-- A token that fits nowhere: its place, the end of the token before it, and the nodes so far. -/
structure Stuck where
  cursor : Cursor
  last : Cursor
  parts : List Part

/-- How far a reader has come. -/
structure State where
  /-- The start of the next token. -/
  cursor : Cursor
  /-- The end of the last token. -/
  last : Cursor
  /-- Whether a line ends between the two. -/
  afterLine : Bool := false
  /-- The name at the next token, if it is one. -/
  name : List Char := []
  /-- The symbol at the next token, if it is one. -/
  symbol : List Char := []
  /-- The nodes so far, the latest first. -/
  parts : List Part := []
  /-- Their number. -/
  size : Nat := 0
  /-- Errors passed over since the last token, the latest first. -/
  passed : List Part := []
  /-- Whether the innermost brackets hold no statements. -/
  enclosed : Bool := false
  /-- Whether the last token ended an expression. -/
  afterOperand : Bool := false
  /-- Whether arrow functions may have a result type. -/
  typedArrows : Bool := true
  /-- The place of the missing token supplied last. -/
  supplied : Option Nat := none
  /-- The farthest token at which a reader was stuck. -/
  farthest : Option Stuck := none

/-- A reader of a part of a source. -/
abbrev Reader := Context → State → Except Stuck State

/-! ### Places between tokens -/

namespace Context

/-- The hole that starts at a place. -/
def holeAt? (ctx : Context) (place : Nat) : Option Nat :=
  ctx.patches.findSome? fun
    | .hole start stop => if start = place ∧ start < stop then some stop else none
    | _ => none

/-- Whether a token of a kind is supplied before a place. -/
def supplies (ctx : Context) (place : Nat) (kind : String) : Bool :=
  ctx.patches.any fun
    | .missing p k => p == place && k == kind
    | _ => false

end Context

/-- A node that holds what fits nowhere. -/
def errorPart (start stop : Cursor) : Part :=
  ⟨start, .mk Node.errorKind (start.bytesTo stop) [] true false true start.point none none⟩

/-- The place that is a number of bytes on. -/
def Cursor.advanceBytes (bytes : Nat) (k : Cursor) : Cursor :=
  k.advance (Cursor.charsWithin bytes k.rest).length

/-- The place after white space, comments and holes, and the errors passed over, latest first. -/
def passBlanks (ctx : Context) : Nat → Cursor → List Part → Cursor × List Part
  | 0, k, passed => (k, passed)
  | fuel + 1, k, passed =>
    match ctx.holeAt? k.offset with
    | some stop =>
      let after := k.advanceBytes (stop - k.offset)
      passBlanks ctx fuel after (errorPart k after :: passed)
    | none =>
      match Lexeme.spaces k.rest, Lexeme.comment k.rest with
      | 0, 0 => (k, passed)
      | 0, n => passBlanks ctx fuel (k.advance n) passed
      | n, _ => passBlanks ctx fuel (k.advance n) passed

/-- Characters of a source up to a later place. -/
def Cursor.textTo (k later : Cursor) : List Char :=
  Cursor.charsWithin (later.offset - k.offset) k.rest

namespace State

/-- A state whose last token ends at a place. -/
def land (ctx : Context) (s : State) (place : Cursor) : State :=
  let (next, passed) := passBlanks ctx (ctx.length + 1 - place.offset) place []
  { s with
    cursor := next
    last := place
    afterLine := next.row != place.row ||
      (next.offset != place.offset && (place.textTo next).any Lexeme.endsLine)
    name := next.rest.take (Lexeme.name next.rest)
    symbol := Lexeme.symbol next.rest
    passed := passed
    afterOperand := false }

/-- A state with one more node. -/
def push (s : State) (p : Part) : State :=
  { s with
    parts := p :: (s.passed ++ s.parts)
    size := s.size + s.passed.length + 1
    passed := [] }

/-- What is known when a reader is stuck here, or was stuck farther on. -/
def stuck (s : State) : Stuck :=
  let here : Stuck := ⟨s.cursor, s.last, s.parts⟩
  match s.farthest with
  | some before => if s.cursor.offset < before.cursor.offset then before else here
  | none => here

/-- A state that remembers where another reader was stuck. -/
def remember (s : State) (other : Stuck) : State :=
  match s.farthest with
  | some before =>
    if before.cursor.offset < other.cursor.offset then { s with farthest := some other } else s
  | none => { s with farthest := some other }

end State

namespace Reader

/-! ### Putting readers together -/

/-- Reads nothing. -/
def done : Reader := fun _ s => .ok s

/-- Is stuck at once. -/
def fail : Reader := fun _ s => .error s.stuck

/-- Goes on only if a condition holds. -/
def check (condition : Context → State → Bool) : Reader := fun ctx s =>
  if condition ctx s then .ok s else .error s.stuck

/-- One reader after another. -/
def seq : List Reader → Reader
  | [] => done
  | [p] => p
  | p :: ps => fun ctx s =>
    match p ctx s with
    | .ok s => seq ps ctx s
    | .error e => .error e

/-- The first of several readers that is not stuck. -/
def first : List Reader → Reader
  | [] => fail
  | [p] => p
  | p :: ps => fun ctx s =>
    match p ctx s with
    | .ok s => .ok s
    | .error e => first ps ctx (s.remember e)

/-- A reader, or nothing where it is stuck. -/
def maybe (p : Reader) : Reader := first [p, done]

/-- A reader a number of times, until it is stuck or comes no further. -/
def repeated (p : Reader) : Nat → Reader
  | 0 => done
  | n + 1 => fun ctx s =>
    match p ctx s with
    | .error e => .ok (s.remember e)
    | .ok after =>
      if after.last.offset = s.last.offset then .ok after else repeated p n ctx after

/-- A reader as often as it is not stuck. -/
def many (p : Reader) : Reader := fun ctx s => repeated p (ctx.length + 1 - s.last.offset) ctx s

/-- A reader at least once, and with another in between. -/
def separated (separator p : Reader) : Reader := seq [p, many (seq [separator, p])]

/-- A reader whose way is chosen by the place where it starts. -/
def choose (condition : Context → State → Bool) (yes no : Reader) : Reader := fun ctx s =>
  if condition ctx s then yes ctx s else no ctx s

/-- A reader with the innermost brackets holding no statements, or holding some. -/
def within (enclosed : Bool) (p : Reader) : Reader := fun ctx s =>
  match p { ctx with inBinds := true } { s with enclosed := enclosed } with
  | .ok after => .ok { after with enclosed := s.enclosed }
  | .error e => .error e

/-- A reader that leaves `in` to what comes after, outside of further brackets. -/
def withoutIn (p : Reader) : Reader := fun ctx s => p { ctx with inBinds := false } s

/-- A reader of an expression, whose last token ends it. -/
def operand (p : Reader) : Reader := fun ctx s =>
  match p ctx s with
  | .ok after => .ok { after with afterOperand := true }
  | .error e => .error e

/-- A reader with arrow functions that may have a result type, or may not. -/
def withArrows (typed : Bool) (p : Reader) : Reader := fun ctx s =>
  match p ctx { s with typedArrows := typed } with
  | .ok after => .ok { after with typedArrows := s.typedArrows }
  | .error e => .error e

/-- A reader for the typed dialects. -/
def typed (p : Reader) : Reader := choose (fun ctx _ => ctx.dialect.isTyped) p fail

/-- A reader for the dialects with markup. -/
def marked (p : Reader) : Reader := choose (fun ctx _ => ctx.dialect.hasMarkup) p fail

/-! ### Nodes -/

/-- Whether a part is an error that was passed over. -/
def isPassed (p : Part) : Bool := p.node.kind == Node.errorKind

/-- Gathers the nodes since there was a number of them into one; errors in front stay outside. -/
def gather (kind : String) (size : Nat) (fields : List Node → Option Nat × Option Nat) : Reader :=
  fun _ s =>
    let inside := (s.parts.take (s.size - size)).reverse
    let outside := s.parts.drop (s.size - size)
    let before := inside.takeWhile isPassed
    let parts := inside.dropWhile isPassed
    let start := (parts.head?.map (·.start)).getD s.last
    let children := parts.map (·.node)
    let (key, value) := fields children
    let node := Node.mk kind (start.bytesTo s.last) children true false
      (children.any Node.hasError) start.point key value
    .ok { s with
      parts := ⟨start, node⟩ :: (before.reverse ++ outside)
      size := size + before.length + 1 }

/-- No child is a key or a value. -/
def noFields (_ : List Node) : Option Nat × Option Nat := (none, none)

/-- The first child is the key and the last one the value. -/
def keyAndValue (children : List Node) : Option Nat × Option Nat :=
  (some 0, some (children.length - 1))

/-- A reader whose nodes are gathered into one. -/
def node (kind : String) (p : Reader) : Reader := fun ctx s =>
  match p ctx s with
  | .ok after => gather kind s.size noFields ctx after
  | .error e => .error e

/-- A reader and then, as often as possible, one that may gather all since the start. -/
def chain (base : Reader) (step : Nat → Reader) : Reader := fun ctx s =>
  seq [base, many (step s.size)] ctx s

/-! ### Tokens -/

/-- The next characters as a token. -/
def shift (kind : String) (named : Bool) (length : Nat) : Reader := fun ctx s =>
  if length = 0 then .error s.stuck
  else
    let stop := s.cursor.advance length
    let node := Node.mk kind (s.cursor.bytesTo stop) [] named false false s.cursor.point none none
    .ok ((s.push ⟨s.cursor, node⟩).land ctx stop)

/-- A token that the source lacks. -/
def supply (kind : String) : Reader := fun ctx s =>
  if ctx.supplies s.cursor.offset kind && s.supplied != some s.cursor.offset then
    let node := Node.mk kind [] [] true true true s.last.point none none
    .ok { s.push ⟨s.last, node⟩ with supplied := some s.cursor.offset }
  else .error s.stuck

/-- A token with a number of characters at the start of the next one; a missing one if it is
supplied. -/
def token (kind : String) (length : List Char → Nat) : Reader := fun ctx s =>
  shift kind true (length s.cursor.rest) ctx s

/-- A symbol. -/
def symbol (text : String) : Reader := fun ctx s =>
  if s.symbol = text.toList then shift text false s.symbol.length ctx s else supply text ctx s

/-- A character that may be the start of a longer symbol. -/
def opening (c : Char) : Reader := fun ctx s =>
  if s.cursor.rest.head? = some c then shift (String.singleton c) false 1 ctx s
  else .error s.stuck

/-- A word of the language. -/
def word (text : String) : Reader := fun ctx s =>
  if s.name = text.toList then shift text false s.name.length ctx s else .error s.stuck

/-- Whether the next token is a symbol. -/
def atSymbol (text : String) (_ : Context) (s : State) : Bool := s.symbol == text.toList

/-- Whether the next token is one of some words. -/
def atWord (words : List (List Char)) (_ : Context) (s : State) : Bool := words.contains s.name

/-- The characters right after the last token as a token. -/
def adjacent (kind : String) (named : Bool) (length : List Char → Nat) : Reader := fun ctx s =>
  shift kind named (length s.last.rest) ctx { s with cursor := s.last, passed := [] }

end Reader

end Source

end PullNotes
