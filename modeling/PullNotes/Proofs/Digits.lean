import Mathlib.Algebra.GroupWithZero.Nat
import Mathlib.Data.List.Induction
import PullNotes.Json.Written
import PullNotes.Json.Reading

/-!
# Digits of numbers

A number is written with its last digit after the digits of its tenth part, so what holds of written
numbers is shown along this split.  The four hexadecimal digits of a sixteen-bit number are given
one by one.

* `Text.ofNat_of_lt`, `Text.ofNat_of_le` : the digits of a number.
* `Json.decimalValue_ofNat` : the value of the digits is the number.
* `Text.length_ofNat_le` : how many digits there are.
* `Text.ofInt_injective` : a written number is that of no other.
* `Text.hex_four`, `Json.hexValue?_digits` : the four hexadecimal digits of a number, and their
value.
-/

namespace PullNotes

namespace CodePoint

/-- The digit with a value. -/
def digit (d : Nat) : CodePoint := ofChar d.digitChar

theorem digit_val {d : Nat} (h : d < 10) : (digit d).val = 48 + d :=
  Nat.toNat_digitChar_of_lt_ten h

theorem digit_isAsciiDigit {d : Nat} (h : d < 10) : (digit d).isAsciiDigit = true := by
  simp only [isAsciiDigit, digit_val h, Bool.and_eq_true, decide_eq_true_eq]
  omega

theorem digitValue?_digit {d : Nat} (h : d < 16) : (digit d).digitValue? = some d := by
  have hall : ∀ d < 16, (digit d).digitValue? = some d := by decide
  exact hall d h

theorem lower_lt {c : CodePoint} (h : c.isAsciiUpper = true) : c.val + 32 < 0x110000 := by
  simp only [isAsciiUpper, Bool.and_eq_true, decide_eq_true_eq] at h
  omega

/-- A letter has the same value in lower case. -/
theorem digitValue?_lower (c : CodePoint) :
    digitValue? (if h : c.isAsciiUpper then ⟨c.val + 32, lower_lt h⟩ else c) = c.digitValue? := by
  by_cases h : c.isAsciiUpper
  · rw [dif_pos h]
    simp only [isAsciiUpper, Bool.and_eq_true, decide_eq_true_eq] at h
    have hdigit : ¬ c.val ≤ 57 := by omega
    have hlower : ¬ 97 ≤ c.val := by omega
    have hdigit' : ¬ c.val + 32 ≤ 57 := by omega
    have hlower' : 97 ≤ c.val + 32 ∧ c.val + 32 ≤ 122 := by omega
    simp only [digitValue?, isAsciiDigit, isAsciiLower, isAsciiUpper, h, hdigit, hlower, hdigit',
      hlower', decide_true, decide_false, Bool.and_true, Bool.and_false, Bool.false_and, if_true,
      Bool.false_eq_true, if_false]
    rfl
  · rw [dif_neg h]

end CodePoint

namespace Text

open CodePoint (digit)

/-! ### Decimal digits -/

theorem ofNat_of_lt {n : Nat} (h : n < 10) : ofNat n = [digit n] := by
  rw [ofNat, Nat.toDigits_of_lt_base h]
  rfl

theorem ofNat_of_le {n : Nat} (h : 10 ≤ n) : ofNat n = ofNat (n / 10) ++ [digit (n % 10)] := by
  rw [ofNat, Nat.toDigits_of_base_le (by decide) h, ofChars, List.map_append]
  rfl

/-- What holds of single digits, and of a number if it holds of the tenth part, holds of all
numbers. -/
theorem tenths_induction {P : Nat → Prop} (digit : ∀ n < 10, P n)
    (more : ∀ n ≥ 10, P (n / 10) → P n) (n : Nat) : P n := by
  induction n using Nat.strongRecOn with
  | ind n ih =>
    by_cases h : n < 10
    · exact digit n h
    · exact more n (by omega) (ih (n / 10) (by omega))

theorem isAsciiDigit_of_mem_ofNat (n : Nat) : ∀ c ∈ ofNat n, c.isAsciiDigit = true := by
  induction n using tenths_induction with
  | digit n h =>
    rw [ofNat_of_lt h, List.forall_mem_singleton]
    exact CodePoint.digit_isAsciiDigit h
  | more n h ih =>
    rw [ofNat_of_le h, List.forall_mem_append, List.forall_mem_singleton]
    exact ⟨ih, CodePoint.digit_isAsciiDigit (Nat.mod_lt n (by decide))⟩

theorem head_ofNat {n : Nat} (h : 0 < n) : ∃ c rest, ofNat n = c :: rest ∧ c ≠ ('0' : Char) := by
  induction n using tenths_induction with
  | digit n hn =>
    refine ⟨digit n, [], ofNat_of_lt hn, fun heq => ?_⟩
    have hval := congrArg Fin.val heq
    rw [CodePoint.digit_val hn] at hval
    have hzero : (CodePoint.ofChar '0').val = 48 := rfl
    omega
  | more n hn ih =>
    obtain ⟨c, rest, hc, hne⟩ := ih (by omega)
    exact ⟨c, rest ++ [digit (n % 10)], by rw [ofNat_of_le hn, hc, List.cons_append], hne⟩

/-- A number has no more digits than the power of ten above it says. -/
theorem length_ofNat_le {n k : Nat} (h : n < 10 ^ k) (hk : 0 < k) : (ofNat n).length ≤ k := by
  induction n using tenths_induction generalizing k with
  | digit n hn =>
    rw [ofNat_of_lt hn]
    exact hk
  | more n hn ih =>
    obtain ⟨k, rfl⟩ := Nat.exists_eq_add_of_lt hk
    have hpos : 0 < k := by
      refine Nat.pos_of_ne_zero fun hzero => ?_
      subst hzero
      omega
    have htenth : n / 10 < 10 ^ k := by
      rw [Nat.zero_add, Nat.pow_succ] at h
      omega
    rw [ofNat_of_le hn, List.length_append, List.length_singleton, Nat.zero_add]
    exact Nat.succ_le_succ (ih htenth hpos)

theorem ofNat_ne_nil (n : Nat) : ofNat n ≠ [] := by
  induction n using tenths_induction with
  | digit n h =>
    rw [ofNat_of_lt h]
    exact List.cons_ne_nil _ _
  | more n h _ =>
    rw [ofNat_of_le h]
    exact List.append_ne_nil_of_right_ne_nil _ (List.cons_ne_nil _ _)

end Text

namespace Json

open CodePoint (digit)

theorem decimalValue_append_digit (ds : Text) {d : Nat} (h : d < 10) :
    decimalValue (ds ++ [digit d]) = decimalValue ds * 10 + d := by
  rw [decimalValue, List.foldl_append, List.foldl_cons, List.foldl_nil, CodePoint.digit_val h,
    Nat.add_sub_cancel_left]
  rfl

theorem decimalValue_ofNat (n : Nat) : decimalValue (Text.ofNat n) = n := by
  induction n using Text.tenths_induction with
  | digit n h =>
    rw [Text.ofNat_of_lt h]
    exact (decimalValue_append_digit [] h).trans (Nat.zero_add n)
  | more n h ih =>
    rw [Text.ofNat_of_le h, decimalValue_append_digit _ (Nat.mod_lt n (by decide)), ih]
    omega

/-- The value of decimal digits is below the power of ten of their number. -/
theorem decimalValue_lt {ds : Text} (h : ∀ c ∈ ds, c.isAsciiDigit = true) :
    decimalValue ds < 10 ^ ds.length := by
  induction ds using List.reverseRecOn with
  | nil => decide
  | append_singleton ds c ih =>
    rw [List.forall_mem_append, List.forall_mem_singleton] at h
    obtain ⟨hds, hc⟩ := h
    simp only [CodePoint.isAsciiDigit, Bool.and_eq_true, decide_eq_true_eq] at hc
    have hvalue : decimalValue (ds ++ [c]) = decimalValue ds * 10 + (c.val - 48) := by
      rw [decimalValue, List.foldl_append]
      rfl
    have hbefore := ih hds
    rw [hvalue, List.length_append, List.length_singleton, Nat.pow_succ]
    omega

/-! ### Hexadecimal digits -/

theorem hexValue?_digits {a b c d : Nat} (ha : a < 16) (hb : b < 16) (hc : c < 16) (hd : d < 16) :
    hexValue? [digit a, digit b, digit c, digit d] = some (((a * 16 + b) * 16 + c) * 16 + d) := by
  simp only [hexValue?, List.foldlM_cons, List.foldlM_nil, CodePoint.digitValue?_digit, ha, hb, hc,
    hd, if_true, Option.bind_eq_bind, Option.bind_some, Nat.zero_mul, Nat.zero_add, Option.pure_def]

theorem hexValue?_asciiLower (ds : Text) : hexValue? ds.asciiLower = hexValue? ds := by
  rw [hexValue?, hexValue?, Text.asciiLower, List.foldlM_map]
  refine congrArg (fun f => List.foldlM f 0 ds) (funext fun n => funext fun c => ?_)
  rw [CodePoint.digitValue?_lower]

end Json

namespace Text

open CodePoint (digit)

theorem hex_four {n : Nat} (h : n < 0x10000) :
    hex 4 n = [digit (n / 4096), digit (n / 256 % 16), digit (n / 16 % 16), digit (n % 16)] := by
  have hsplit : ∀ m, Nat.toDigits 16 m =
      if m < 16 then [Nat.digitChar m] else Nat.toDigits 16 (m / 16) ++ [Nat.digitChar (m % 16)] :=
    fun m => Nat.toDigits_eq_if (by decide)
  -- one digit more for each sixteenth part that is not zero, and the rest is filled up
  by_cases h1 : n < 16
  · rw [hex, hsplit, if_pos h1, show n / 4096 = 0 by omega, show n / 256 % 16 = 0 by omega,
      show n / 16 % 16 = 0 by omega, show n % 16 = n by omega]
    rfl
  rw [hex, hsplit, if_neg h1]
  by_cases h2 : n / 16 < 16
  · rw [hsplit (n / 16), if_pos h2, show n / 4096 = 0 by omega, show n / 256 % 16 = 0 by omega,
      show n / 16 % 16 = n / 16 by omega]
    rfl
  rw [hsplit (n / 16), if_neg h2]
  by_cases h3 : n / 16 / 16 < 16
  · rw [hsplit (n / 16 / 16), if_pos h3, show n / 4096 = 0 by omega,
      show n / 256 % 16 = n / 16 / 16 by omega]
    rfl
  rw [hsplit (n / 16 / 16), if_neg h3, hsplit (n / 16 / 16 / 16), if_pos (by omega),
    show n / 4096 = n / 16 / 16 / 16 by omega, show n / 256 = n / 16 / 16 by omega]
  rfl

theorem ofNat_injective {m n : Nat} (h : ofNat m = ofNat n) : m = n := by
  rw [← Json.decimalValue_ofNat m, h, Json.decimalValue_ofNat]

theorem neg_ofNat_ne_ofNat (m n : Nat) : ofChars ['-'] ++ ofNat m ≠ ofNat n := by
  intro h
  have hdigit := isAsciiDigit_of_mem_ofNat n (CodePoint.ofChar '-') (by
    rw [← h]
    exact List.mem_append_left _ (List.mem_singleton_self _))
  exact absurd hdigit (by decide)

theorem ofInt_injective {m n : Int} (h : ofInt m = ofInt n) : m = n := by
  cases m with
  | ofNat m =>
    cases n with
    | ofNat n => exact congrArg Int.ofNat (ofNat_injective h)
    | negSucc n => exact absurd h.symm (neg_ofNat_ne_ofNat _ _)
  | negSucc m =>
    cases n with
    | ofNat n => exact absurd h (neg_ofNat_ne_ofNat _ _)
    | negSucc n =>
      have hsucc := ofNat_injective (List.append_cancel_left h)
      rw [Nat.succ_inj.1 hsucc]

end Text

end PullNotes
