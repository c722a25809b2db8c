/-!
# Texts as lists of code points

The texts that the program reads and writes may hold surrogate code points: an escape such as a
lone high surrogate in a string literal denotes one.  A `Text` is therefore a list of code points
of the whole range, not a `String`.

* `Text.ofChars_toChars?` : a text without surrogates comes back from its characters.
-/

namespace PullNotes

/-- A Unicode code point, surrogates included. -/
abbrev CodePoint := Fin 0x110000

/-- A text is a list of code points. -/
abbrev Text := List CodePoint

namespace CodePoint

/-- The code point of a character. -/
def ofChar (c : Char) : CodePoint :=
  ⟨c.toNat, by
    have h := c.valid
    rcases h with h | h
    · exact Nat.lt_trans h (by decide)
    · exact h.2⟩

instance : Coe Char CodePoint := ⟨ofChar⟩

/-- The code point with the number zero. -/
def null : CodePoint := '\x00'

/-- The code point with a number, if the number is in range. -/
def ofNat? (n : Nat) : Option CodePoint :=
  if h : n < 0x110000 then some ⟨n, h⟩ else none

/-- Surrogates are the code points that no character has. -/
def isSurrogate (c : CodePoint) : Bool := 0xD800 ≤ c.val && c.val ≤ 0xDFFF

/-- The character of a code point, unless it is a surrogate. -/
def toChar? (c : CodePoint) : Option Char :=
  if h : c.val.isValidChar then some (Char.ofNatAux c.val h) else none

/-- A code point of the seven-bit range given by its character's number. -/
def isAscii (c : CodePoint) : Bool := c.val < 0x80

/-- The decimal digits `0` to `9`. -/
def isAsciiDigit (c : CodePoint) : Bool := 48 ≤ c.val && c.val ≤ 57

/-- The letters `A` to `Z`. -/
def isAsciiUpper (c : CodePoint) : Bool := 65 ≤ c.val && c.val ≤ 90

/-- The letters `a` to `z`. -/
def isAsciiLower (c : CodePoint) : Bool := 97 ≤ c.val && c.val ≤ 122

/-- The value of a digit of a base of up to thirty-six, letters of either case counting on from
ten. -/
def digitValue? (c : CodePoint) : Option Nat :=
  if c.isAsciiDigit then some (c.val - 48)
  else if c.isAsciiLower then some (c.val - 87)
  else if c.isAsciiUpper then some (c.val - 55)
  else none

theorem toChar?_ofChar (c : Char) : (ofChar c).toChar? = some c := by
  have h : c.toNat.isValidChar := c.valid
  unfold toChar? ofChar
  rw [dif_pos h]
  rfl

end CodePoint

namespace Text

/-- The code points of a character string. -/
def ofChars (cs : List Char) : Text := cs.map CodePoint.ofChar

/-- The code points of a string. -/
def ofString (s : String) : Text := ofChars s.toList

instance : Coe String Text := ⟨ofString⟩

/-- The characters of a text, if it holds no surrogate. -/
def toChars? (t : Text) : Option (List Char) := t.mapM CodePoint.toChar?

/-- The text of a natural number, in decimal. -/
def ofNat (n : Nat) : Text := ofChars (Nat.toDigits 10 n)

/-- The text of an integer, in decimal. -/
def ofInt : Int → Text
  | .ofNat n => ofNat n
  | .negSucc n => ofChars ['-'] ++ ofNat (n + 1)

/-- The hexadecimal digits of a number in lower case, filled up with zeros to a width. -/
def hex (width n : Nat) : Text :=
  let digits := Nat.toDigits 16 n
  ofChars (List.replicate (width - digits.length) '0' ++ digits)

/-- Whether the first text occurs in the second, as adjacent code points. -/
def isInfixOf (needle : Text) : Text → Bool
  | [] => needle.isEmpty
  | c :: rest => needle.isPrefixOf (c :: rest) || isInfixOf needle rest

/-- The pieces of a text between the occurrences of a code point; always at least one. -/
def splitOn (mark : CodePoint) : Text → List Text
  | [] => [[]]
  | c :: rest =>
    match splitOn mark rest with
    | [] => [[c]]
    | piece :: pieces => if c = mark then [] :: piece :: pieces else (c :: piece) :: pieces

/-- The text before and after the first occurrence of a code point. -/
def cutAt? (mark : CodePoint) : Text → Option (Text × Text)
  | [] => none
  | c :: rest =>
    if c = mark then some ([], rest)
    else (cutAt? mark rest).map fun (before, after) => (c :: before, after)

/-- Texts one after another. -/
def concat (pieces : List Text) : Text := pieces.flatten

/-- Texts joined with a separator between neighbours. -/
def join (separator : Text) (pieces : List Text) : Text := separator.intercalate pieces

/-- Letters `A` to `Z` in lower case, all else as it is. -/
def asciiLower (t : Text) : Text :=
  t.map fun c => if h : c.isAsciiUpper then ⟨c.val + 32, by
    simp [CodePoint.isAsciiUpper] at h; omega⟩ else c

theorem ofChars_toChars? {t : Text} {cs : List Char} (h : t.toChars? = some cs) :
    ofChars cs = t := by
  induction t generalizing cs with
  | nil => simp [toChars?] at h; subst h; rfl
  | cons c r ih =>
    simp only [toChars?, List.mapM_cons, Option.bind_eq_bind, Option.bind_eq_some_iff] at h
    obtain ⟨ch, hc, cs', hr, h⟩ := h
    have hcs : ch :: cs' = cs := by simpa using h
    subst hcs
    have e : CodePoint.ofChar ch = c := by
      unfold CodePoint.toChar? at hc
      by_cases hv : c.val.isValidChar
      · rw [dif_pos hv] at hc
        rw [← Option.some.inj hc]
        rfl
      · rw [dif_neg hv] at hc
        cases hc
    simp [ofChars, e] at ih ⊢
    exact ih hr

theorem toChars?_ofChars (cs : List Char) : (ofChars cs).toChars? = some cs := by
  induction cs with
  | nil => rfl
  | cons c r ih =>
    simp only [ofChars, List.map_cons, toChars?, List.mapM_cons, CodePoint.toChar?_ofChar] at ih ⊢
    simp [ih]

end Text

end PullNotes
