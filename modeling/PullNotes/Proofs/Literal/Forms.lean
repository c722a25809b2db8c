import PullNotes.Proofs.Digits
import PullNotes.Proofs.Escapes
import PullNotes.Proofs.Surrogates

/-!
# Forms of escape sequences

A code point may be escaped by its number, in hexadecimal or octal digits, by a letter if it is one
of six control characters, or by itself if that means nothing else.  A backslash before the end of a
line stands for nothing.

The forms are tried in a fixed order, and none is taken for another: octal digits are none of the
letters, a letter of a control character stands alone, and hexadecimal digits are never blanks,
signs or marks of a base.

* `Numeral.read_digits` : hexadecimal digits are read as their number, whatever their case is and
  however many zeros are in front.
* `Escape.decode_written` : a sequence of any form stands for what it was written for.
-/

namespace PullNotes

open CodePoint (ofChar)

namespace Numeral

/-! ### Hexadecimal digits -/

/-- A hexadecimal digit: its value, and whether it is in upper case if it is a letter. -/
structure HexDigit where
  value : Fin 16
  upper : Bool
deriving DecidableEq, Repr

/-- The last digit of a number, in lower case. -/
def HexDigit.lower (v : Nat) : HexDigit := ⟨⟨v % 16, Nat.mod_lt v (by decide)⟩, false⟩

/-- The code point of a digit. -/
def HexDigit.written (d : HexDigit) : CodePoint :=
  Utf8.pointOf (d.value + if d.value < 10 then 48 else if d.upper then 55 else 87)

/-- The number of hexadecimal digits. -/
def hexNumber (ds : List HexDigit) : Nat := value 16 (ds.map fun d => d.value.val)

namespace HexDigit

/-- A digit is in ASCII, has its value, and is no blank and nothing else that a numeral may have. -/
theorem written_spec (d : HexDigit) :
    d.written.isAscii = true ∧ d.written.digitValue? = some d.value.val ∧
      isAsciiBlank d.written = false ∧
      d.written ∉ ([ofChar '-', ofChar '+', ofChar '_', ofChar 'x', ofChar 'X', ofChar '\x7b'] :
        List CodePoint) := by
  have hall : ∀ (v : Fin 16) (u : Bool), (HexDigit.mk v u).written.isAscii = true ∧
      (HexDigit.mk v u).written.digitValue? = some v.val ∧
      isAsciiBlank (HexDigit.mk v u).written = false ∧
      (HexDigit.mk v u).written ∉ ([ofChar '-', ofChar '+', ofChar '_', ofChar 'x', ofChar 'X',
        ofChar '\x7b'] : List CodePoint) := by decide
  exact hall d.value d.upper

theorem written_ne (d : HexDigit) {c : CodePoint}
    (h : c ∈ ([ofChar '-', ofChar '+', ofChar '_', ofChar 'x', ofChar 'X', ofChar '\x7b'] :
      List CodePoint)) : d.written ≠ c :=
  fun heq => d.written_spec.2.2.2 (heq ▸ h)

end HexDigit

theorem plain?_of_isAscii {t : Text} (h : ∀ c ∈ t, c.isAscii = true) : plain? t = some t := by
  induction t with
  | nil => rfl
  | cons c t ih =>
    obtain ⟨hc, ht⟩ := List.forall_mem_cons.1 h
    have hrest := ih ht
    rw [plain?] at hrest ⊢
    rw [List.mapM_cons, if_pos hc, hrest]
    rfl

theorem digits?_written (ds : List HexDigit) (inside : Bool) (h : inside = true ∨ ds ≠ []) :
    digits? 16 inside (ds.map HexDigit.written) = some (ds.map fun d => d.value.val, []) := by
  induction ds generalizing inside with
  | nil =>
    obtain rfl : inside = true := h.resolve_right (· rfl)
    rfl
  | cons d ds ih =>
    obtain ⟨-, hvalue, -⟩ := d.written_spec
    have hmark : d.written ≠ ofChar '_' := d.written_ne (by decide)
    rw [List.map_cons, digits?, if_neg hmark, hvalue]
    simp only [d.value.isLt, if_true, ih true (Or.inl rfl), Option.map_some, List.map_cons]

theorem withoutMark_written (ds : List HexDigit) :
    withoutMark 16 (ds.map HexDigit.written) = ds.map HexDigit.written := by
  rcases ds with _ | ⟨d, _ | ⟨e, ds⟩⟩
  · rfl
  · rfl
  · have hlower : e.written ≠ ofChar 'x' := e.written_ne (by decide)
    have hupper : e.written ≠ ofChar 'X' := e.written_ne (by decide)
    simp only [List.map_cons, withoutMark, hlower, hupper, or_self, and_false, if_false]

/-- **Hexadecimal digits are read as their number**, however many they are. -/
theorem read_digits {ds : List HexDigit} (h : ds ≠ []) :
    read 16 (ds.map HexDigit.written) = .ok (hexNumber ds) := by
  obtain ⟨d, more, rfl⟩ := List.exists_cons_of_ne_nil h
  have hascii : ∀ c ∈ (d :: more).map HexDigit.written, c.isAscii = true :=
    List.forall_mem_map.2 fun e _ => e.written_spec.1
  have hblank : ((d :: more).map HexDigit.written).dropWhile isAsciiBlank =
      (d :: more).map HexDigit.written := by
    rw [List.map_cons, List.dropWhile_cons, d.written_spec.2.2.1]
    rfl
  have hminus : d.written ≠ ofChar '-' := d.written_ne (by decide)
  have hplus : d.written ≠ ofChar '+' := d.written_ne (by decide)
  have hsign : sign ((d :: more).map HexDigit.written) =
      (false, (d :: more).map HexDigit.written) := by
    rw [List.map_cons, sign, if_neg hminus, if_neg hplus]
  rw [read, plain?_of_isAscii hascii]
  simp only [hblank, hsign, withoutMark_written, digits?_written (d :: more) false (Or.inr h)]
  rfl

end Numeral

namespace Escape

open Numeral (HexDigit hexNumber)

/-! ### Forms -/

/-- The control characters that have a letter. -/
inductive Control where
  | lineFeed
  | tab
  | carriageReturn
  | backspace
  | formFeed
  | verticalTab
deriving DecidableEq, Repr

namespace Control

/-- The letter of a control character. -/
def letter : Control → Char
  | lineFeed => 'n'
  | tab => 't'
  | carriageReturn => 'r'
  | backspace => 'b'
  | formFeed => 'f'
  | verticalTab => 'v'

/-- The code point of a control character. -/
def point : Control → CodePoint
  | lineFeed => 10
  | tab => 9
  | carriageReturn => 13
  | backspace => 8
  | formFeed => 12
  | verticalTab => 11

end Control

/-- The ends of lines that a backslash may stand before. -/
inductive Break where
  | returnFeed
  | carriageReturn
  | lineFeed
  | lineSeparator
  | paragraphSeparator
deriving DecidableEq, Repr

/-- The code points of the end of a line. -/
def Break.written : Break → Text
  | returnFeed => [13, 10]
  | carriageReturn => [13]
  | lineFeed => [10]
  | lineSeparator => [0x2028]
  | paragraphSeparator => [0x2029]

/-- The code points that mean something else after a backslash than themselves. -/
def meaningful : List CodePoint :=
  [ofChar 'x', ofChar 'u', ofChar '0', ofChar '1', ofChar '2', ofChar '3', ofChar '4', ofChar '5',
    ofChar '6', ofChar '7', ofChar 'n', ofChar 't', ofChar 'r', ofChar 'b', ofChar 'f', ofChar 'v',
    10, 13, 0x2028, 0x2029]

/-- An escape sequence, by its form. -/
inductive Form where
  | control (k : Control)
  | itself (c : CodePoint) (scalar : c.isSurrogate = false) (plain : c ∉ meaningful)
  | octal (first : Fin 8) (more : List (Fin 8)) (short : more.length ≤ 2)
  | twoDigits (a b : HexDigit)
  | fourDigits (a b c d : HexDigit)
  | braced (digits : List HexDigit) (nonempty : digits ≠ []) (inRange : hexNumber digits < 0x110000)
  | lineBreak (b : Break)

namespace Form

/-- The digits of an octal form, most significant first. -/
def octalNumber (first : Fin 8) (more : List (Fin 8)) : Nat :=
  Numeral.value 8 ((first :: more).map Fin.val)

/-- What stands after the backslash. -/
def body : Form → Text
  | control k => [ofChar k.letter]
  | itself c _ _ => [c]
  | octal first more _ => (first :: more).map fun d => CodePoint.digit d.val
  | twoDigits a b => ofChar 'x' :: [a, b].map HexDigit.written
  | fourDigits a b c d => ofChar 'u' :: [a, b, c, d].map HexDigit.written
  | braced digits _ _ =>
    ofChar 'u' :: ofChar '\x7b' :: (digits.map HexDigit.written ++ [ofChar '\x7d'])
  | lineBreak b => b.written

/-- An escape sequence as it is written. -/
def written (f : Form) : Text := ofChar '\\' :: f.body

/-- What an escape sequence was written for: a code point, or nothing before the end of a line. -/
def text : Form → Text
  | control k => [k.point]
  | itself c _ _ => [c]
  | octal first more _ => [Utf8.pointOf (octalNumber first more)]
  | twoDigits a b => [Utf8.pointOf (hexNumber [a, b])]
  | fourDigits a b c d => [Utf8.pointOf (hexNumber [a, b, c, d])]
  | braced digits _ _ => [Utf8.pointOf (hexNumber digits)]
  | lineBreak _ => []

end Form

/-! ### Reading -/

theorem isOctal_digit (d : Fin 8) : isOctal (CodePoint.digit d.val) = true := by
  revert d
  decide

theorem octalValue_digits (ds : List (Fin 8)) :
    octalValue (ds.map fun d => CodePoint.digit d.val) = Numeral.value 8 (ds.map Fin.val) := by
  rw [octalValue, Numeral.value, List.foldl_map, List.foldl_map]
  refine congrArg (fun f => List.foldl f 0 ds) (funext fun n => funext fun d => ?_)
  rw [CodePoint.digit_val (by omega), Nat.add_sub_cancel_left]

/-- Up to three octal digits give a number with nine bits at most. -/
theorem octalNumber_lt (first : Fin 8) {more : List (Fin 8)} (h : more.length ≤ 2) :
    Form.octalNumber first more < 0x200 := by
  rcases more with _ | ⟨b, _ | ⟨c, _ | _⟩⟩
  · simp only [Form.octalNumber, Numeral.value, List.map_cons, List.map_nil, List.foldl_cons,
      List.foldl_nil]
    omega
  · simp only [Form.octalNumber, Numeral.value, List.map_cons, List.map_nil, List.foldl_cons,
      List.foldl_nil]
    omega
  · simp only [Form.octalNumber, Numeral.value, List.map_cons, List.map_nil, List.foldl_cons,
      List.foldl_nil]
    omega
  · simp only [List.length_cons] at h
    omega

theorem decode_octal (first : Fin 8) {more : List (Fin 8)} (h : more.length ≤ 2) :
    decode (ofChar '\\' :: (first :: more).map fun d => CodePoint.digit d.val) =
      .ok [Utf8.pointOf (Form.octalNumber first more)] := by
  have hall : ((first :: more).map fun d => CodePoint.digit d.val).all isOctal = true :=
    List.all_eq_true.2 (List.forall_mem_map.2 fun d _ => isOctal_digit d)
  have hnumber : isOctalNumber ((first :: more).map fun d => CodePoint.digit d.val) = true := by
    rw [isOctalNumber, hall, List.length_map, List.length_cons, Bool.true_and, Bool.and_eq_true,
      decide_eq_true_iff, decide_eq_true_iff]
    omega
  have hvalue := octalValue_digits (first :: more)
  have hlt := octalNumber_lt first h
  rw [Form.octalNumber] at hlt ⊢
  rw [List.map_cons] at hnumber hvalue ⊢
  simp only [decode]
  rw [if_pos hnumber, hvalue, CodePoint.ofNat?, dif_pos (by omega), Utf8.pointOf, dif_pos (by omega)]
  rfl

/-- A sequence with digits stands for the code point with their number. -/
theorem decode_digits {sequence : Text} {ds : List HexDigit}
    (hsequence : Numbered sequence (ds.map HexDigit.written)) (hne : ds ≠ [])
    (hrange : hexNumber ds < 0x110000) :
    decode sequence = .ok [Utf8.pointOf (hexNumber ds)] := by
  rw [decode_of_numbered hsequence]
  refine hexadecimal_of_point sequence (Numeral.read_digits hne) ?_
  rw [Utf8.val_pointOf hrange]

theorem numbered_plain {letter : CodePoint} (hletter : letter = ofChar 'u' ∨ letter = ofChar 'x')
    (d : HexDigit) (ds : List HexDigit) :
    Numbered (ofChar '\\' :: letter :: (d :: ds).map HexDigit.written)
      ((d :: ds).map HexDigit.written) :=
  .plain _ _ hletter fun _ => d.written_ne (by decide)

theorem hexNumber_two_lt (a b : HexDigit) : hexNumber [a, b] < 0x100 := by
  simp only [hexNumber, Numeral.value, List.map_cons, List.map_nil, List.foldl_cons, List.foldl_nil]
  omega

theorem hexNumber_four_lt (a b c d : HexDigit) : hexNumber [a, b, c, d] < 0x10000 := by
  simp only [hexNumber, Numeral.value, List.map_cons, List.map_nil, List.foldl_cons, List.foldl_nil]
  omega

theorem decode_itself {c : CodePoint} (h : c ∉ meaningful) : decode [ofChar '\\', c] = .ok [c] := by
  have hval : ∀ m ∈ meaningful, c.val ≠ m.val := fun m hm heq => h (Fin.ext heq ▸ hm)
  -- octal digits, letters of control characters and line ends are all among the meaningful ones
  have hoctal : isOctal c = false := by
    have hdigits : ∀ n < 56, 48 ≤ n → n ∈ meaningful.map Fin.val := by decide
    refine eq_false_of_ne_true fun hoctal => ?_
    simp only [isOctal, Bool.and_eq_true, decide_eq_true_eq] at hoctal
    obtain ⟨m, hm, heq⟩ := List.mem_map.1 (hdigits c.val (Nat.lt_succ_of_le hoctal.2) hoctal.1)
    exact hval m hm heq.symm
  have hcontrol : control? c = none := by
    rw [control?, Option.map_eq_none_iff, List.find?_eq_none]
    rintro ⟨letter, meaning⟩ hmem
    have hletters : ∀ p ∈ controls, ofChar p.1 ∈ meaningful := by decide
    exact fun heq => h (of_decide_eq_true heq ▸ hletters _ hmem)
  have hline : isLineEnd c = false := by
    have hends : ∀ n ∈ [10, 13, 0x2028, 0x2029], n ∈ meaningful.map Fin.val := by decide
    refine eq_false_of_ne_true fun hline => ?_
    have hmem : c.val ∈ [10, 13, 0x2028, 0x2029] := by
      simpa [isLineEnd, or_assoc] using hline
    obtain ⟨m, hm, heq⟩ := List.mem_map.1 (hends _ hmem)
    exact hval m hm heq.symm
  simp [decode, isOctalNumber, hoctal, hcontrol, hline]

/-- **A sequence of any form stands for what it was written for.** -/
theorem decode_written (f : Form) : decode f.written = .ok f.text := by
  cases f with
  | control k => cases k <;> rfl
  | itself c _ h => exact decode_itself h
  | octal first more h => exact decode_octal first h
  | twoDigits a b =>
    have hlt := hexNumber_two_lt a b
    exact decode_digits (numbered_plain (Or.inr rfl) a [b]) (List.cons_ne_nil _ _) (by omega)
  | fourDigits a b c d =>
    have hlt := hexNumber_four_lt a b c d
    exact decode_digits (numbered_plain (Or.inl rfl) a [b, c, d]) (List.cons_ne_nil _ _) (by omega)
  | braced digits hne hrange =>
    have hnumbered : Numbered (Form.braced digits hne hrange).written
        (digits.map HexDigit.written) := by
      have hlast : (digits.map HexDigit.written ++ [ofChar '\x7d']).dropLast =
          digits.map HexDigit.written := List.dropLast_concat
      exact hlast ▸ .braced _ _
    exact decode_digits hnumbered hne hrange
  | lineBreak b => cases b <;> rfl

end Escape

end PullNotes
