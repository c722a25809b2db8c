import PullNotes.Text.CodePage
import PullNotes.Text.Line

/-!
# Named encodings

Which encoding a name means, and reading the bytes of a file as a text in it.  A name is taken
without regard to letter case, and any run of marks in it counts as one underscore.  A file is read
with every kind of line end turned into a line feed.

The encodings are the Unicode ones of fixed units and UTF-8, ASCII, Latin-1 and five code pages.  The
others, such as the double-byte encodings of East Asia, UTF-7 and the remaining code pages, are left
out: their names count as unknown.
-/

namespace PullNotes

/-- The order of the bytes of a unit. -/
inductive ByteOrder where
  | little
  | big
deriving DecidableEq, Repr

/-- The encodings that a file may be in.  The UTF-16 and UTF-32 encodings without an order take it
from the mark at the start of the file. -/
inductive Encoding where
  | utf8
  | utf8Marked
  | ascii
  | latin1
  | utf16 (order : Option ByteOrder)
  | utf32 (order : Option ByteOrder)
  | page (p : CodePage)

/-- Why a text could not be read from bytes or written to them. -/
inductive CodingError where
  | undecodable (codec : String) (reason : DecodeReason) (first width : Nat) (byte : UInt8)
  | unmarked (family : String)
  | unknownName (name : Text)
  | notOfTexts (name : Text)
  | nullInName
  | unencodable (first last : Nat) (c : CodePoint)
deriving DecidableEq, Repr

/-- The error in words. -/
def CodingError.message : CodingError → Text
  | undecodable codec reason first width byte =>
    let place : Text :=
      if width = 1 then
        .concat ["byte 0x", .hex 2 byte.toNat, " in position ", .ofNat first]
      else
        .concat ["bytes in position ", .ofNat first, "-", .ofNat (first + width - 1)]
    .concat ["'", codec, "' codec can't decode ", place, ": ", reason.text]
  | unmarked family => .concat [family, " stream does not start with BOM"]
  | unknownName name => .concat ["unknown encoding: ", name]
  | notOfTexts name =>
    .concat ["'", name, "' is not a text encoding; use codecs.open() to handle arbitrary codecs"]
  | nullInName => "embedded null character"
  | unencodable first last c =>
    let place : Text :=
      if first = last then
        .concat ["character '\\u", .hex 4 c.val, "' in position ", .ofNat first]
      else .concat ["characters in position ", .ofNat first, "-", .ofNat last]
    .concat ["'utf-8' codec can't encode ", place, ": surrogates not allowed"]

namespace Text

/-- The characters of a text, or the error of writing its surrogates. -/
def toCharsOrError (t : Text) : Except CodingError (List Char) :=
  match t.toChars? with
  | some cs => .ok cs
  | none =>
    match Utf8.surrogateRun? t with
    | some (first, last, c) => .error (.unencodable first last c)
    | none => .ok []

end Text

namespace Encoding

/-! ### Names -/

/-- A name in lower case, with one underscore for each run of marks between letters and digits. -/
def plainName (name : Text) : Text :=
  go false name.asciiLower
where
  /-- The rest of the name, after marks or not. -/
  go (marks : Bool) : Text → Text
    | [] => []
    | c :: rest =>
      if c.isAsciiLower || c.isAsciiDigit || c = ('.' : Char) then
        if marks then ('_' : Char) :: c :: go false rest else c :: go false rest
      else if c.isAscii then go (true) rest
      else go marks rest

/-- The names of the encodings. -/
def names : List (List String × Encoding) := [
  (["utf_8", "u8", "utf", "utf8", "utf8_ucs2", "utf8_ucs4", "cp65001"], .utf8),
  (["utf_8_sig"], .utf8Marked),
  (["ascii", "646", "ansi_x3.4_1968", "ansi_x3_4_1968", "ansi_x3.4_1986", "cp367", "csascii",
    "ibm367", "iso646_us", "iso_646.irv_1991", "iso_ir_6", "us", "us_ascii"], .ascii),
  (["latin_1", "8859", "cp819", "csisolatin1", "ibm819", "iso8859", "iso8859_1", "iso_8859_1",
    "iso_8859_1_1987", "iso_ir_100", "l1", "latin", "latin1"], .latin1),
  (["utf_16", "u16", "utf16"], .utf16 none),
  (["utf_16_le", "unicodelittleunmarked", "utf_16le"], .utf16 (some .little)),
  (["utf_16_be", "unicodebigunmarked", "utf_16be"], .utf16 (some .big)),
  (["utf_32", "u32", "utf32"], .utf32 none),
  (["utf_32_le", "utf_32le"], .utf32 (some .little)),
  (["utf_32_be", "utf_32be"], .utf32 (some .big)),
  (["cp1252", "1252", "windows_1252"], .page .windows1252),
  (["iso8859_15", "iso_8859_15", "l9", "latin9"], .page .iso8859x15),
  (["cp1251", "1251", "windows_1251"], .page .windows1251),
  (["koi8_r", "cskoi8r"], .page .koi8r),
  (["cp437", "437", "cspc8codepage437", "ibm437"], .page .ibm437)]

/-- The names of codings that do not turn bytes into texts. -/
def otherCodings : List String := [
  "rot_13", "rot13", "hex_codec", "hex", "base64_codec", "base64", "base_64", "bz2_codec", "bz2",
  "zlib_codec", "zip", "zlib", "uu_codec", "uu", "quopri_codec", "quopri", "quoted_printable",
  "quotedprintable"]

/-- The encoding with a name. -/
def named (name : Text) : Except CodingError Encoding :=
  if name.contains CodePoint.null then .error .nullInName
  else
    let plain := plainName name
    match names.find? fun (known, _) => known.any fun k => Text.ofString k == plain with
    | some (_, encoding) => .ok encoding
    | none =>
      if otherCodings.any fun k => Text.ofString k == plain then .error (.notOfTexts name)
      else .error (.unknownName name)

/-! ### Pieces -/

/-- A number from bytes in an order. -/
def unit (order : ByteOrder) (bs : List UInt8) : Nat :=
  let big := match order with
    | .little => bs.reverse
    | .big => bs
  big.foldl (fun n b => n * 256 + b.toNat) 0

/-- The piece at the start of UTF-16 bytes. -/
def utf16Piece (order : ByteOrder) : Bytes → Piece
  | a :: b :: rest =>
    let n := unit order [a, b]
    if n < 0xD800 || 0xE000 ≤ n then .point (Utf8.pointOf n) 2
    else if 0xDC00 ≤ n then .fault .illegalEncoding 2
    else
      match rest with
      | c :: d :: _ =>
        let m := unit order [c, d]
        if 0xDC00 ≤ m && m < 0xE000 then
          .point (Utf8.pointOf (0x10000 + (n - 0xD800) * 1024 + (m - 0xDC00))) 4
        else .fault .illegalSurrogate 2
      | _ => .fault .unexpectedEnd (2 + rest.length)
  | short => .fault .truncated short.length

/-- The piece at the start of UTF-32 bytes. -/
def utf32Piece (order : ByteOrder) : Bytes → Piece
  | a :: b :: c :: d :: _ =>
    let n := unit order [a, b, c, d]
    if 0xD800 ≤ n && n < 0xE000 then .fault .inSurrogateRange 4
    else if 0x110000 ≤ n then .fault .beyondLastPoint 4
    else .point (Utf8.pointOf n) 4
  | short => .fault .truncated short.length

/-- The piece of an ASCII byte. -/
def asciiPiece : Bytes → Piece
  | b :: _ => if b.toNat < 0x80 then .point (Utf8.pointOf b.toNat) 1 else .fault .notSevenBit 1
  | [] => .fault .notSevenBit 1

/-- The piece of a byte of an eight-bit encoding. -/
def bytePiece (piece : UInt8 → Piece) : Bytes → Piece
  | b :: _ => piece b
  | [] => .fault .unassigned 1

/-- The piece at the start of UTF-8 bytes. -/
def utf8Piece : Bytes → Piece
  | b :: rest => Utf8.pieceAt b.toNat ((rest.take 3).map UInt8.toNat)
  | [] => .fault .unexpectedEnd 1

/-! ### Reading -/

/-- Reads bytes from a position on, after some still to be skipped, up to the first faulty piece. -/
def readFrom (codec : String) (piece : Bytes → Piece) (position : Nat) :
    Nat → Bytes → Except CodingError Text
  | _, [] => .ok []
  | skip + 1, _ :: rest => readFrom codec piece (position + 1) skip rest
  | 0, b :: rest =>
    match piece (b :: rest) with
    | .point c width => do
      let text ← readFrom codec piece (position + 1) (width - 1) rest
      .ok (c :: text)
    | .fault reason width => .error (.undecodable codec reason position width b)

/-- The name of a UTF-16 or UTF-32 encoding with a byte order. -/
def orderedName (family : String) : ByteOrder → String
  | .little => family ++ "-le"
  | .big => family ++ "-be"

/-- The byte order that a mark at the start gives, and what follows the mark. -/
def markedOrder? (width : Nat) (bs : Bytes) : Option (ByteOrder × Bytes) :=
  let head := bs.take width
  if head.length < width then none
  else if unit .little head = 0xFEFF then some (.little, bs.drop width)
  else if unit .big head = 0xFEFF then some (.big, bs.drop width)
  else none

/-- Reads bytes of a family of encodings with units of a width, which may need a mark. -/
def readUnits (family shown : String) (width : Nat) (piece : ByteOrder → Bytes → Piece)
    (order : Option ByteOrder) (bs : Bytes) : Except CodingError Text :=
  match order with
  | some order => readFrom (orderedName family order) (piece order) 0 0 bs
  | none =>
    match markedOrder? width bs with
    | some (order, rest) => readFrom (orderedName family order) (piece order) width 0 rest
    | none =>
      if bs.length < width then readFrom (orderedName family .little) (piece .little) 0 0 bs
      else .error (.unmarked shown)

/-- Reads bytes as a text. -/
def read (encoding : Encoding) (bs : Bytes) : Except CodingError Text :=
  match encoding with
  | .utf8 => readFrom "utf-8" utf8Piece 0 0 bs
  | .utf8Marked =>
    match bs with
    | 0xEF :: 0xBB :: 0xBF :: rest => readFrom "utf-8" utf8Piece 0 0 rest
    | _ =>
      if bs.isPrefixOf [0xEF, 0xBB] then .ok [] else readFrom "utf-8" utf8Piece 0 0 bs
  | .ascii => readFrom "ascii" asciiPiece 0 0 bs
  | .latin1 => .ok (bs.map fun b => Utf8.pointOf b.toNat)
  | .utf16 order => readUnits "utf-16" "UTF-16" 2 utf16Piece order bs
  | .utf32 order => readUnits "utf-32" "UTF-32" 4 utf32Piece order bs
  | .page p => readFrom "charmap" (bytePiece p.piece) 0 0 bs

/-- Reads the bytes of a file in a named encoding, with line feeds as line ends. -/
def readFile (name : Text) (bs : Bytes) : Except CodingError Text := do
  let encoding ← named name
  let text ← encoding.read bs
  .ok text.withLineFeeds

end Encoding

end PullNotes
