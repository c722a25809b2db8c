import PullNotes.Proofs.Literal.CodeUnits
import PullNotes.Proofs.Literal.Parts

/-!
# What a literal means when it runs

The program that a literal stands in takes it as code units.  A fragment and an escape sequence mean
the units of what they stand for, but for octal digits there is a greatest number: if all three
digits would exceed it, the last one is a character of its own.  The value of the literal is the
text of these units, so surrogates that two escape sequences bring together are one code point.

The reader takes each part on its own.  So it misses the value in two ways only: it takes three
octal digits for one number however great that is, and it leaves the halves of a pair apart.

* `LiteralPart.units` : the units that a part means.
* `LiteralPart.hasPair_iff` : where the halves of a pair stand apart.
* `Node.literalValue_runtime_iff` : when the value of a literal is that of its units.
-/

namespace PullNotes

open CodePoint (ofChar)

namespace Escape

open Numeral (hexNumber)

namespace Form

/-- The greatest number of octal digits. -/
def octalLimit : Nat := 0o377

/-- The units of octal digits: a third digit that would exceed the limit is a character. -/
def octalUnits (first : Fin 8) (more : List (Fin 8)) : List Nat :=
  if octalNumber first more ≤ octalLimit then [octalNumber first more]
  else octalNumber first (more.take 1) :: (more.drop 1).map fun d => (CodePoint.digit d.val).val

/-- The units that an escape sequence means. -/
def units : Form → List Nat
  | control k => [k.point.val]
  | itself c _ _ => c.units
  | octal first more _ => octalUnits first more
  | twoDigits a b => [hexNumber [a, b]]
  | fourDigits a b c d => [hexNumber [a, b, c, d]]
  | braced digits _ inRange => CodePoint.units ⟨hexNumber digits, inRange⟩
  | lineBreak _ => []

/-- The sequence has octal digits that exceed the limit. -/
def Exceeds : Form → Prop
  | octal first more _ => octalLimit < octalNumber first more
  | _ => False

instance (f : Form) : Decidable f.Exceeds := by
  cases f with
  | octal first more _ => exact inferInstanceAs (Decidable (octalLimit < octalNumber first more))
  | _ => exact isFalse id

theorem units_singleton {n : Nat} (h : n < 0x10000) : Text.units [Utf8.pointOf n] = [n] := by
  have hval : (Utf8.pointOf n).val = n := Utf8.val_pointOf (by omega)
  rw [Text.units, List.flatMap_singleton, CodePoint.units_of_lt (by rw [hval]; exact h), hval]

/-- A sequence means the units of what it stands for, unless it has octal digits beyond the
limit. -/
theorem units_text {f : Form} (h : ¬ f.Exceeds) : Text.units f.text = f.units := by
  cases f with
  | control k => cases k <;> rfl
  | itself c _ _ => exact List.flatMap_singleton _ _
  | octal first more short =>
    have hle : octalNumber first more ≤ octalLimit := Nat.not_lt.1 h
    have hlt := octalNumber_lt first short
    rw [text, units_singleton (by omega), units, octalUnits, if_pos hle]
  | twoDigits a b =>
    have hlt := hexNumber_two_lt a b
    exact units_singleton (by omega)
  | fourDigits a b c d => exact units_singleton (hexNumber_four_lt a b c d)
  | braced digits _ inRange =>
    have hpoint : Utf8.pointOf (hexNumber digits) = ⟨hexNumber digits, inRange⟩ := dif_pos inRange
    rw [text, hpoint]
    exact List.flatMap_singleton _ _
  | lineBreak b => rfl

/-- Octal digits beyond the limit mean two units, but stand for one code point with one. -/
theorem length_units_of_exceeds {f : Form} (h : f.Exceeds) :
    (Text.units f.text).length = 1 ∧ f.units.length = 2 := by
  cases f with
  | octal first more short =>
    have hlt := octalNumber_lt first short
    have hthree : more.length = 2 := by
      -- two digits give six bits at most
      rcases more with _ | ⟨b, _ | ⟨c, _ | _⟩⟩
      · simp only [Exceeds, octalLimit, octalNumber, Numeral.value, List.map_cons, List.map_nil,
          List.foldl_cons, List.foldl_nil] at h
        omega
      · simp only [Exceeds, octalLimit, octalNumber, Numeral.value, List.map_cons, List.map_nil,
          List.foldl_cons, List.foldl_nil] at h
        omega
      · rfl
      · simp only [List.length_cons] at short
        omega
    refine ⟨by rw [text, units_singleton (by omega)]; rfl, ?_⟩
    rw [units, octalUnits, if_neg (Nat.not_le.2 h), List.length_cons, List.length_map,
      List.length_drop, hthree]
  | _ => exact h.elim

end Form

end Escape

namespace LiteralPart

/-- The units that a part means. -/
def units : LiteralPart → List Nat
  | quote _ => []
  | fragment t _ => t.units
  | escape f => f.units

/-- The part is an octal escape sequence beyond the limit. -/
def Exceeds (p : LiteralPart) : Prop := ∃ f, p = escape f ∧ f.Exceeds

theorem units_text_eq_iff {p : LiteralPart} : p.text.units = p.units ↔ ¬ p.Exceeds := by
  cases p with
  | quote => exact iff_of_true rfl fun ⟨_, h, _⟩ => nomatch h
  | fragment t _ => exact iff_of_true rfl fun ⟨_, h, _⟩ => nomatch h
  | escape f =>
    constructor
    · rintro heq ⟨_, ⟨⟩, hexceeds⟩
      obtain ⟨hone, htwo⟩ := Escape.Form.length_units_of_exceeds hexceeds
      have hlength : (Text.units f.text).length = f.units.length := congrArg List.length heq
      omega
    · exact fun h => Escape.Form.units_text fun hexceeds => h ⟨f, rfl, hexceeds⟩

theorem length_units_text_le (p : LiteralPart) : p.text.units.length ≤ p.units.length := by
  by_cases h : p.Exceeds
  · obtain ⟨f, rfl, hexceeds⟩ := h
    obtain ⟨hone, htwo⟩ := Escape.Form.length_units_of_exceeds hexceeds
    rw [text, units]
    omega
  · exact Nat.le_of_eq (congrArg List.length (units_text_eq_iff.2 h))

variable (parts : List LiteralPart)

theorem length_flatMap_units_le :
    (parts.flatMap fun p => p.text.units).length ≤ (parts.flatMap units).length := by
  induction parts with
  | nil => exact Nat.le_refl _
  | cons p parts ih =>
    rw [List.flatMap_cons, List.flatMap_cons, List.length_append, List.length_append]
    exact Nat.add_le_add p.length_units_text_le ih

/-- **The units of what the parts stand for are those that they mean** exactly if no part is an
octal escape sequence beyond the limit.  Such a part lacks a unit, and no other part makes up for
it. -/
theorem units_flatMap_text_eq_iff :
    Text.units (parts.flatMap text) = parts.flatMap units ↔ ∀ p ∈ parts, ¬ p.Exceeds := by
  have hflat : Text.units (parts.flatMap text) = parts.flatMap fun p => p.text.units :=
    List.flatMap_assoc
  rw [hflat]
  clear hflat
  induction parts with
  | nil => exact iff_of_true rfl (List.forall_mem_nil _)
  | cons p parts ih =>
    rw [List.forall_mem_cons, List.flatMap_cons, List.flatMap_cons]
    refine Iff.trans ⟨fun h => ?_, fun h => by rw [h.1, h.2]⟩ (and_congr units_text_eq_iff ih)
    have hlength := congrArg List.length h
    have hfirst := p.length_units_text_le
    have hrest := length_flatMap_units_le parts
    rw [List.length_append, List.length_append] at hlength
    exact List.append_inj h (by omega)

/-! ### Pairs in two halves -/

/-- A high surrogate is escaped, and a low one right after it, but for parts that stand for
nothing. -/
def SurrogatesMeet : Prop :=
  ∃ (before : List LiteralPart) (high : Escape.Form) (between : List LiteralPart)
    (low : Escape.Form) (after : List LiteralPart),
    parts = before ++ .escape high :: between ++ .escape low :: after ∧
      (∀ p ∈ between, p.text = []) ∧ (∃ c, high.text = [c] ∧ c.isHigh = true) ∧
      ∃ d, low.text = [d] ∧ d.isLow = true

/-- What parts stand for is cut within one of them. -/
theorem exists_part_of_flatMap_eq {parts : List LiteralPart} (front : Text) {rest : Text}
    {c : CodePoint} (h : parts.flatMap text = front ++ c :: rest) :
    ∃ before p after front' rest', parts = before ++ p :: after ∧ p.text = front' ++ c :: rest' ∧
      front = before.flatMap text ++ front' ∧ rest = rest' ++ after.flatMap text := by
  induction parts generalizing front with
  | nil => simp at h
  | cons p parts ih =>
    rw [List.flatMap_cons, List.append_eq_append_iff] at h
    have hskip : ∀ front' : Text, parts.flatMap text = front' ++ c :: rest →
        front = p.text ++ front' → ∃ before q after front' rest', p :: parts = before ++ q :: after ∧
          q.text = front' ++ c :: rest' ∧ front = before.flatMap text ++ front' ∧
          rest = rest' ++ after.flatMap text := by
      intro front' hparts hfront
      obtain ⟨before, q, after, front'', rest', rfl, hq, rfl, hrest⟩ := ih front' hparts
      refine ⟨p :: before, q, after, front'', rest', rfl, hq, ?_, hrest⟩
      rw [hfront, List.flatMap_cons, List.append_assoc]
    -- the code point is after the first part, or in it
    rcases h with ⟨front', hfront, hparts⟩ | ⟨rest', hp, hrest⟩
    · exact hskip front' hparts hfront
    · cases rest' with
      | nil =>
        refine hskip [] hrest.symm ?_
        rw [hp, List.append_nil, List.append_nil]
      | cons c' rest' =>
        rw [List.cons_append, List.cons.injEq] at hrest
        obtain ⟨rfl, hrest⟩ := hrest
        exact ⟨[], p, parts, front, rest', rfl, hp, rfl, hrest⟩

/-- A surrogate is escaped, and all that its escape sequence stands for. -/
theorem exists_escape_of_isSurrogate {p : LiteralPart} {front rest : Text} {c : CodePoint}
    (h : p.text = front ++ c :: rest) (hc : c.isSurrogate = true) :
    ∃ f, p = escape f ∧ f.text = [c] ∧ front = [] ∧ rest = [] := by
  cases p with
  | quote => simp [text] at h
  | fragment t scalar =>
    have hmem : c ∈ t := by
      rw [show t = front ++ c :: rest from h]
      exact List.mem_append_right _ List.mem_cons_self
    rw [scalar c hmem] at hc
    cases hc
  | escape f =>
    have hlength : f.text.length ≤ 1 := by
      cases f <;> simp [Escape.Form.text]
    have htext : f.text = front ++ c :: rest := h
    rw [htext, List.length_append, List.length_cons] at hlength
    obtain rfl : front = [] := List.eq_nil_of_length_eq_zero (by omega)
    obtain rfl : rest = [] := List.eq_nil_of_length_eq_zero (by omega)
    exact ⟨f, rfl, htext, rfl, rfl⟩

/-- **The halves of a pair stand next to each other** exactly if they are escaped one right after
the other. -/
theorem hasPair_iff : Text.HasPair (parts.flatMap text) ↔ SurrogatesMeet parts := by
  constructor
  · rintro ⟨front, c, d, back, htext, hhigh, hlow⟩
    have hc : c.isSurrogate = true := by
      have := CodePoint.isHigh_iff.1 hhigh
      exact CodePoint.isSurrogate_iff.2 (by omega)
    have hd : d.isSurrogate = true := by
      have := CodePoint.isLow_iff.1 hlow
      exact CodePoint.isSurrogate_iff.2 (by omega)
    obtain ⟨before, p, more, front', rest', rfl, hp, -, hrest⟩ := exists_part_of_flatMap_eq front htext
    -- a surrogate is the whole text of an escape, so what is between the two parts is empty
    obtain ⟨high, rfl, hhighText, rfl, rfl⟩ := exists_escape_of_isSurrogate hp hc
    obtain ⟨between, q, after, front'', rest'', rfl, hq, hnone, -⟩ :=
      exists_part_of_flatMap_eq [] hrest.symm
    obtain ⟨low, rfl, hlowText, rfl, rfl⟩ := exists_escape_of_isSurrogate hq hd
    rw [List.append_nil, eq_comm, List.flatMap_eq_nil_iff] at hnone
    exact ⟨before, high, between, low, after, by rw [List.append_assoc, List.cons_append], hnone,
      ⟨c, hhighText, hhigh⟩, d, hlowText, hlow⟩
  · rintro ⟨before, high, between, low, after, rfl, hnone, ⟨c, hhighText, hhigh⟩, d, hlowText, hlow⟩
    refine ⟨before.flatMap text, c, d, after.flatMap text, ?_, hhigh, hlow⟩
    simp only [List.flatMap_append, List.flatMap_cons, List.flatMap_eq_nil_iff.2 hnone, text,
      hhighText, hlowText, List.append_assoc, List.nil_append, List.cons_append]

theorem units_lt_of_mem (p : LiteralPart) : ∀ u ∈ p.units, u < 0x10000 := by
  cases p with
  | quote => exact List.forall_mem_nil _
  | fragment t _ => exact t.units_lt
  | escape f =>
    by_cases h : f.Exceeds
    · cases f with
      | octal first more short =>
        have hmore : (more.take 1).length ≤ 2 := Nat.le_trans (List.length_take_le 1 more) (by decide)
        have hlt := Escape.octalNumber_lt first hmore
        rw [units, Escape.Form.units, Escape.Form.octalUnits, if_neg (Nat.not_le.2 h),
          List.forall_mem_cons, List.forall_mem_map]
        refine ⟨by omega, fun d _ => ?_⟩
        rw [CodePoint.digit_val (by omega)]
        omega
      | _ => exact h.elim
    · rw [units, ← Escape.Form.units_text h]
      exact Text.units_lt _

end LiteralPart

namespace Node

open LiteralPart (SurrogatesMeet)

/-- **The value of a literal is its value at run time** exactly if no octal escape sequence exceeds
the limit and no escaped surrogates meet.  The first alone decides whether the units are the right
ones; and the text of well paired units has no surrogates. -/
theorem literalValue_runtime_iff {parts : List LiteralPart} {n : Node} (h : n.IsLiteral parts) :
    ((∃ t, n.literalValue = .ok t ∧ t.units = parts.flatMap LiteralPart.units) ↔
      ∀ p ∈ parts, ¬ p.Exceeds) ∧
    (n.literalValue = .ok (Text.ofUnits (parts.flatMap LiteralPart.units)) ↔
      (∀ p ∈ parts, ¬ p.Exceeds) ∧ ¬ SurrogatesMeet parts) ∧
    (Text.WellPaired (parts.flatMap LiteralPart.units) →
      (Text.ofUnits (parts.flatMap LiteralPart.units)).Scalar) := by
  have hunits := LiteralPart.units_flatMap_text_eq_iff parts
  rw [h.literalValue_eq]
  refine ⟨?_, ?_, Text.scalar_ofUnits⟩
  · rw [← hunits]
    refine ⟨fun ⟨t, ht, heq⟩ => ?_, fun heq => ⟨_, rfl, heq⟩⟩
    rw [Except.ok.inj ht]
    exact heq
  · rw [Except.ok.injEq, ← LiteralPart.hasPair_iff, ← Text.merged_eq_self_iff, ← hunits]
    constructor
    · intro htext
      -- all units are in range, so they come back from the text that is read from them
      have hlt : ∀ u ∈ parts.flatMap LiteralPart.units, u < 0x10000 := by
        intro u hu
        obtain ⟨p, -, hu⟩ := List.mem_flatMap.1 hu
        exact p.units_lt_of_mem u hu
      have heq : Text.units (parts.flatMap LiteralPart.text) =
          parts.flatMap LiteralPart.units := by
        rw [htext, Text.units_ofUnits hlt]
      refine ⟨heq, ?_⟩
      rw [← Text.ofUnits_units, heq]
      exact htext.symm
    · rintro ⟨heq, hmerged⟩
      rw [← heq, Text.ofUnits_units, hmerged]

end Node

/-! ### Two literals -/

/-- A high surrogate alone is kept, and an octal number up to the limit is one code point. -/
theorem literalValue_runtime_iff_sample :
    (Node.literal sampleParts).literalValue = .ok (Text.ofUnits
      ((LiteralPart.quoted sampleParts).flatMap LiteralPart.units)) := by
  refine (Node.literalValue_runtime_iff (Node.isLiteral_literal (by decide))).2.1.2 ⟨?_, ?_⟩
  · exact (LiteralPart.units_flatMap_text_eq_iff _).1 (by decide +kernel)
  · rw [← LiteralPart.hasPair_iff, ← Text.merged_eq_self_iff]
    decide +kernel

/-- Three octal digits beyond the limit. -/
def exceedingParts : List LiteralPart := [
  .escape (.octal ⟨4, by decide⟩ [⟨0, by decide⟩, ⟨0, by decide⟩] (by decide))]

/-- The halves of a pair, one escape sequence each. -/
def halvedParts : List LiteralPart := [
  .escape (.fourDigits (.lower 13) (.lower 8) (.lower 3) (.lower 13)),
  .escape (.fourDigits (.lower 13) (.lower 14) (.lower 0) (.lower 0))]

/-- The digits 400 are a space and a zero, not one code point; and the halves of a pair are one code
point, not two surrogates. -/
theorem literalValue_ne_runtime :
    (Node.literal exceedingParts).literalValue = .ok [0x100] ∧
      Text.ofUnits ((LiteralPart.quoted exceedingParts).flatMap LiteralPart.units) = Text.ofString " 0" ∧
      (Node.literal halvedParts).literalValue = .ok [0xD83D, 0xDE00] ∧
      Text.ofUnits ((LiteralPart.quoted halvedParts).flatMap LiteralPart.units) = [0x1F600] := by
  decide +kernel

end PullNotes
