import PullNotes.Escape

/-!
# Escape sequences that can be read

An escape sequence fails in one way only: it gives a number in hexadecimal, and the number is beyond
the machine's range.  Such a number is no code point, but neither is a smaller one above the last
code point, and a sequence with one of those is left as it was written.  So the magnitude matters
after all.

* `Escape.Numbered` : the sequences that give a number, and their digits.
* `Escape.exists_decode_iff` : the sequences that can be read.
-/

namespace PullNotes

namespace Escape

/-! ### Sequences that give a number -/

/-- The sequence gives a number by its digits, whatever its mark is: the digits stand after a `u`
and between braces, the second of which may be any code point, or right after a `u` or an `x`. -/
inductive Numbered : Text → Text → Prop
  | braced (mark : CodePoint) (rest : Text) :
      Numbered (mark :: ('u' : Char) :: ('\x7b' : Char) :: rest) rest.dropLast
  | plain {letter first : CodePoint} (mark : CodePoint) (rest : Text)
      (hletter : letter = ('u' : Char) ∨ letter = ('x' : Char))
      (hbrace : letter = ('u' : Char) → first ≠ ('\x7b' : Char)) :
      Numbered (mark :: letter :: first :: rest) (first :: rest)

variable {sequence digits : Text}

theorem decode_of_numbered (h : Numbered sequence digits) :
    decode sequence = hexadecimal sequence digits := by
  -- neither letter is an octal digit, a letter of a control character or a line end
  have hu : isOctal ('u' : Char) = false ∧ control? ('u' : Char) = none ∧
      isLineEnd ('u' : Char) = false := by decide
  have hx : isOctal ('x' : Char) = false ∧ control? ('x' : Char) = none ∧
      isLineEnd ('x' : Char) = false ∧ CodePoint.ofChar 'x' ≠ CodePoint.ofChar 'u' := by decide
  cases h with
  | braced mark rest =>
    simp [decode, isOctalNumber, hu, withoutLast]
  | @plain letter first mark rest hletter hbrace =>
    rcases hletter with rfl | rfl
    · have hfirst := hbrace rfl
      simp [decode, isOctalNumber, hu, hfirst]
    · simp [decode, isOctalNumber, hx]

/-- A sequence that gives no number can be read. -/
theorem exists_decode_of_not_numbered (h : ∀ digits, ¬ Numbered sequence digits) :
    ∃ t, decode sequence = .ok t := by
  rcases sequence with _ | ⟨mark, _ | ⟨first, rest⟩⟩
  · exact ⟨_, rfl⟩
  · exact ⟨_, rfl⟩
  · -- octal digits, a control character and a line end come before the two forms of a number
    simp only [decode]
    split
    · exact ⟨_, rfl⟩
    · split
      · exact ⟨_, rfl⟩
      · split
        · exact ⟨_, rfl⟩
        · split
          · next hbraced =>
            obtain ⟨rfl, hhead⟩ := hbraced
            obtain ⟨rest, rfl⟩ := List.head?_eq_some_iff.1 hhead
            exact absurd (.braced mark rest) (h _)
          · next hbraced =>
            split
            · next hplain =>
              obtain ⟨hletter, hne⟩ := hplain
              obtain ⟨c, rest, rfl⟩ := List.exists_cons_of_ne_nil hne
              refine absurd (.plain mark rest hletter fun hu hc => hbraced ⟨hu, ?_⟩) (h _)
              rw [hc]
              rfl
            · exact ⟨_, rfl⟩

/-! ### Numbers -/

/-- The number is within the machine's range. -/
def InRange (n : Int) : Prop := machineRange.1 ≤ n ∧ n ≤ machineRange.2

instance (n : Int) : Decidable (InRange n) := inferInstanceAs (Decidable (_ ∧ _))

theorem inRange_iff {n : Int} : InRange n ↔ -0x80000000 ≤ n ∧ n ≤ 0x7FFFFFFF := Iff.rfl

theorem not_inRange_iff {n : Int} : ¬ InRange n ↔ n < machineRange.1 ∨ machineRange.2 < n := by
  rw [InRange, Decidable.not_and_iff_or_not, Int.not_le, Int.not_le]

/-- The number is that of a code point. -/
def IsPoint (n : Int) : Prop := 0 ≤ n ∧ n < 0x110000

instance (n : Int) : Decidable (IsPoint n) := inferInstanceAs (Decidable (_ ∧ _))

section

variable {n : Int} (sequence) (hread : Numeral.read 16 digits = .ok n)
include hread

theorem hexadecimal_of_point {c : CodePoint} (hc : (c.val : Int) = n) :
    hexadecimal sequence digits = .ok [c] := by
  have hlt := c.isLt
  have hrange : ¬ (n < machineRange.1 ∨ machineRange.2 < n) := by
    rw [← not_inRange_iff, inRange_iff]
    omega
  have hnat : n.toNat = c.val := by omega
  unfold hexadecimal
  simp only [hread]
  rw [if_neg hrange, if_neg (by omega), hnat, CodePoint.ofNat?, dif_pos hlt]

theorem hexadecimal_of_not_isPoint (hrange : InRange n) (hpoint : ¬ IsPoint n) :
    hexadecimal sequence digits = .ok sequence := by
  unfold hexadecimal
  simp only [hread]
  rw [if_neg (by rwa [← not_inRange_iff, Decidable.not_not])]
  by_cases hneg : n < 0
  · rw [if_pos hneg]
  · have hlarge : ¬ n.toNat < 0x110000 := by
      rw [IsPoint] at hpoint
      omega
    rw [if_neg hneg, CodePoint.ofNat?, dif_neg hlarge]

theorem hexadecimal_of_not_inRange (hrange : ¬ InRange n) :
    hexadecimal sequence digits = .error .numberTooLarge := by
  unfold hexadecimal
  simp only [hread]
  rw [if_pos (not_inRange_iff.1 hrange)]

end

/-! ### Sequences that can be read -/

/-- The sequence gives a number beyond the machine's range. -/
def Beyond (sequence : Text) : Prop :=
  ∃ digits n, Numbered sequence digits ∧ Numeral.read 16 digits = .ok n ∧ ¬ InRange n

/-- **A sequence can be read** unless it gives a number beyond the machine's range. -/
theorem exists_decode_iff : (∃ t, decode sequence = .ok t) ↔ ¬ Beyond sequence := by
  constructor
  · rintro ⟨t, ht⟩ ⟨digits, n, hnumbered, hread, hrange⟩
    rw [decode_of_numbered hnumbered, hexadecimal_of_not_inRange sequence hread hrange] at ht
    cases ht
  · intro hbeyond
    by_cases hnumbered : ∃ digits, Numbered sequence digits
    · obtain ⟨digits, hnumbered⟩ := hnumbered
      rw [decode_of_numbered hnumbered]
      cases hread : Numeral.read 16 digits with
      | error e => exact ⟨sequence, by rw [hexadecimal, hread]⟩
      | ok n =>
        -- what is in range is a code point or left as it was written
        have hrange : InRange n := Decidable.byContradiction fun hrange =>
          hbeyond ⟨digits, n, hnumbered, hread, hrange⟩
        by_cases hpoint : IsPoint n
        · obtain ⟨hzero, hlast⟩ := hpoint
          have hpoint : (((⟨n.toNat, by omega⟩ : CodePoint).val : Nat) : Int) = n :=
            Int.toNat_of_nonneg hzero
          exact ⟨_, hexadecimal_of_point sequence hread hpoint⟩
        · exact ⟨_, hexadecimal_of_not_isPoint sequence hread hrange hpoint⟩
    · exact exists_decode_of_not_numbered fun digits h => hnumbered ⟨digits, h⟩

/-- A sequence whose digits are malformed comes back as it was written. -/
theorem decode_of_malformed {e : NumeralError} (h : Numbered sequence digits)
    (hread : Numeral.read 16 digits = .error e) : decode sequence = .ok sequence := by
  rw [decode_of_numbered h, hexadecimal, hread]

/-- A sequence that gives a number without a code point comes back as it was written exactly if the
number is within the machine's range. -/
theorem decode_eq_self_iff {n : Int} (h : Numbered sequence digits)
    (hread : Numeral.read 16 digits = .ok n) (hpoint : ¬ IsPoint n) :
    decode sequence = .ok sequence ↔ InRange n := by
  rw [decode_of_numbered h]
  by_cases hrange : InRange n
  · exact iff_of_true (hexadecimal_of_not_isPoint sequence hread hrange hpoint) hrange
  · rw [hexadecimal_of_not_inRange sequence hread hrange]
    exact iff_of_false nofun hrange

end Escape

end PullNotes
