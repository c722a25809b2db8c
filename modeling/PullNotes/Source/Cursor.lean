import PullNotes.SyntaxTree.Node

/-!
# Places in a source

A cursor is a place in a source together with what follows it.  It counts the bytes before it, and
its row and column; a row ends at a line feed only, and columns count bytes.
-/

namespace PullNotes

namespace Source

/-- A place in a source, and what follows it. -/
structure Cursor where
  rest : List Char
  offset : Nat := 0
  row : Nat := 0
  column : Nat := 0

namespace Cursor

/-- The start of a source. -/
def ofChars (cs : List Char) : Cursor := { rest := cs }

/-- The place after a number of characters. -/
def advance : Nat → Cursor → Cursor
  | 0, k => k
  | n + 1, k =>
    match k.rest with
    | [] => k
    | c :: rest =>
      advance n {
        rest := rest
        offset := k.offset + c.utf8Size
        row := if c = '\n' then k.row + 1 else k.row
        column := if c = '\n' then 0 else k.column + c.utf8Size }

/-- The row and column of a place. -/
def point (k : Cursor) : Point := ⟨k.row, k.column⟩

/-- The characters that take up a number of bytes. -/
def charsWithin : Nat → List Char → List Char
  | _, [] => []
  | 0, _ => []
  | n, c :: rest => c :: charsWithin (n - c.utf8Size) rest

/-- The bytes from one place to a later one. -/
def bytesTo (k later : Cursor) : Bytes :=
  Utf8.writeChars (charsWithin (later.offset - k.offset) k.rest)

end Cursor

end Source

end PullNotes
