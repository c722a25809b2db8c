import PullNotes.Text.Basic

/-!
# UTF-8

Writing a text as bytes and reading bytes as a text.  Bytes are read piece by piece: a piece is a
well-formed code point or the longest run of bytes that begins one and goes wrong, and such a run is
either the error of a strict reading or one replacement character of a forgiving one.
-/

namespace PullNotes

/-- A string of bytes. -/
abbrev Bytes := List UInt8

/-- Why bytes are not the code of a text. -/
inductive DecodeReason where
  | invalidStart
  | invalidContinuation
  | unexpectedEnd
  | truncated
  | illegalEncoding
  | illegalSurrogate
  | inSurrogateRange
  | beyondLastPoint
  | notSevenBit
  | unassigned
deriving DecidableEq, Repr

/-- The reason in words. -/
def DecodeReason.text : DecodeReason → String
  | .invalidStart => "invalid start byte"
  | .invalidContinuation => "invalid continuation byte"
  | .unexpectedEnd => "unexpected end of data"
  | .truncated => "truncated data"
  | .illegalEncoding => "illegal encoding"
  | .illegalSurrogate => "illegal UTF-16 surrogate"
  | .inSurrogateRange => "code point in surrogate code point range(0xd800, 0xe000)"
  | .beyondLastPoint => "code point not in range(0x110000)"
  | .notSevenBit => "ordinal not in range(128)"
  | .unassigned => "character maps to <undefined>"

/-- A piece of a byte string, with the number of bytes it takes. -/
inductive Piece where
  | point (c : CodePoint) (width : Nat)
  | fault (reason : DecodeReason) (width : Nat)
deriving DecidableEq, Repr

namespace Piece

/-- The number of bytes of a piece. -/
def width : Piece → Nat
  | point _ w => w
  | fault _ w => w

/-- The replacement character, which stands for what cannot be read. -/
def replacement : CodePoint := ⟨0xFFFD, by decide⟩

/-- The code point of a piece, a faulty one giving the replacement character. -/
def forgiving : Piece → CodePoint
  | point c _ => c
  | fault _ _ => replacement

end Piece

namespace Utf8

/-- The bytes of a code point; a surrogate is written by the same scheme. -/
def writePoint (c : CodePoint) : Bytes :=
  let n := c.val
  if n < 0x80 then [n.toUInt8]
  else if n < 0x800 then [(0xC0 + n / 64).toUInt8, (0x80 + n % 64).toUInt8]
  else if n < 0x10000 then
    [(0xE0 + n / 4096).toUInt8, (0x80 + n / 64 % 64).toUInt8, (0x80 + n % 64).toUInt8]
  else
    [(0xF0 + n / 262144).toUInt8, (0x80 + n / 4096 % 64).toUInt8, (0x80 + n / 64 % 64).toUInt8,
      (0x80 + n % 64).toUInt8]

/-- The bytes of a text, surrogates by the same scheme as all else. -/
def write (t : Text) : Bytes := t.flatMap writePoint

/-- The bytes of a character string. -/
def writeChars (cs : List Char) : Bytes := cs.flatMap fun c : Char => writePoint c

/-- The positions, first and last, of the first run of surrogates in a text, and its first code
point. -/
def surrogateRun? (t : Text) : Option (Nat × Nat × CodePoint) :=
  match t.findIdx? CodePoint.isSurrogate, t.find? CodePoint.isSurrogate with
  | some first, some c =>
    some (first, first + ((t.drop first).takeWhile CodePoint.isSurrogate).length - 1, c)
  | _, _ => none

/-- A byte that continues a code point. -/
def isContinuation (b : Nat) : Bool := 0x80 ≤ b && b < 0xC0

/-- The code point with a number that is known to be in range. -/
def pointOf (n : Nat) : CodePoint :=
  if h : n < 0x110000 then ⟨n, h⟩ else Piece.replacement

/-- The piece that begins with a byte, given the numbers of the bytes after it. -/
def pieceAt (b : Nat) (rest : List Nat) : Piece :=
  if b < 0x80 then .point (pointOf b) 1
  else if b < 0xC2 then .fault .invalidStart 1
  else if b < 0xE0 then
    match rest with
    | [] => .fault .unexpectedEnd 1
    | c :: _ =>
      if isContinuation c then .point (pointOf ((b - 0xC0) * 64 + (c - 0x80))) 2
      else .fault .invalidContinuation 1
  else if b < 0xF0 then
    match rest with
    | [] => .fault .unexpectedEnd 1
    | c :: rest =>
      if !isContinuation c || (b == 0xE0 && c < 0xA0) || (b == 0xED && 0xA0 ≤ c) then
        .fault .invalidContinuation 1
      else
        match rest with
        | [] => .fault .unexpectedEnd 2
        | d :: _ =>
          if isContinuation d then
            .point (pointOf ((b - 0xE0) * 4096 + (c - 0x80) * 64 + (d - 0x80))) 3
          else .fault .invalidContinuation 2
  else if b < 0xF5 then
    match rest with
    | [] => .fault .unexpectedEnd 1
    | c :: rest =>
      if !isContinuation c || (b == 0xF0 && c < 0x90) || (b == 0xF4 && 0x90 ≤ c) then
        .fault .invalidContinuation 1
      else
        match rest with
        | [] => .fault .unexpectedEnd 2
        | d :: rest =>
          if !isContinuation d then .fault .invalidContinuation 2
          else
            match rest with
            | [] => .fault .unexpectedEnd 3
            | e :: _ =>
              if isContinuation e then
                .point (pointOf
                  ((b - 0xF0) * 262144 + (c - 0x80) * 4096 + (d - 0x80) * 64 + (e - 0x80))) 4
              else .fault .invalidContinuation 3
  else .fault .invalidStart 1

/-- The pieces of a byte string after the bytes still to be skipped. -/
def piecesFrom : Nat → Bytes → List Piece
  | _, [] => []
  | skip + 1, _ :: rest => piecesFrom skip rest
  | 0, b :: rest =>
    let piece := pieceAt b.toNat ((rest.take 3).map UInt8.toNat)
    piece :: piecesFrom (piece.width - 1) rest

/-- The pieces of a byte string. -/
def pieces (bs : Bytes) : List Piece := piecesFrom 0 bs

/-- Reads bytes as a text, a replacement character standing for each faulty piece. -/
def readForgiving (bs : Bytes) : Text := (pieces bs).map Piece.forgiving

end Utf8

end PullNotes
