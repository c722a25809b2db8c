import PullNotes.Proofs.Surrogates

/-!
# Code units

A notation by units of sixteen bits has one unit for a code point of that size and a pair of
surrogates for any other.  A surrogate that is a code point of its own is written as one unit too,
so two texts have the same units exactly if they are the same once their pairs are made one.

* `Text.units`, `Text.ofUnits` : the units of a text, and the text of units.
* `Text.ofUnits_units`, `Text.units_ofUnits` : one after the other.
* `Text.scalar_ofUnits` : well paired units have a text without surrogates.
-/

namespace PullNotes

namespace CodePoint

/-- The units of a code point: one, or the two halves of a surrogate pair. -/
def units (c : CodePoint) : List Nat :=
  if c.val < 0x10000 then [c.val]
  else [0xD800 + (c.val - 0x10000) / 1024, 0xDC00 + (c.val - 0x10000) % 1024]

theorem units_of_lt {c : CodePoint} (h : c.val < 0x10000) : c.units = [c.val] := if_pos h

theorem units_ofPair {high low : CodePoint} (hhigh : high.isHigh = true) (hlow : low.isLow = true) :
    (ofPair high low).units = [high.val, low.val] := by
  have hval := ofPair_val hhigh hlow
  have hhigh := isHigh_iff.1 hhigh
  have hlow := isLow_iff.1 hlow
  have hfirst : 0xD800 + ((ofPair high low).val - 0x10000) / 1024 = high.val := by omega
  have hsecond : 0xDC00 + ((ofPair high low).val - 0x10000) % 1024 = low.val := by omega
  rw [units, if_neg (by omega), hfirst, hsecond]

/-- A code point beyond sixteen bits has a high and a low surrogate, and is what they stand for. -/
theorem exists_pair {c : CodePoint} (h : ¬ c.val < 0x10000) :
    ∃ high low : CodePoint, c.units = [high.val, low.val] ∧ high.isHigh = true ∧ low.isLow = true ∧
      ofPair high low = c := by
  have hlt := c.isLt
  let high : CodePoint := ⟨0xD800 + (c.val - 0x10000) / 1024, by omega⟩
  let low : CodePoint := ⟨0xDC00 + (c.val - 0x10000) % 1024, by omega⟩
  have hhigh : high.isHigh = true := isHigh_iff.2 (by simp only [high]; omega)
  have hlow : low.isLow = true := isLow_iff.2 (by simp only [low]; omega)
  refine ⟨high, low, by rw [units, if_neg h], hhigh, hlow, Fin.ext ?_⟩
  rw [ofPair_val hhigh hlow]
  simp only [high, low]
  omega

end CodePoint

namespace Text

/-- The units of a text. -/
def units (t : Text) : List Nat := t.flatMap CodePoint.units

/-- The text of units: each surrogate pair is one code point, and any other unit is one by
itself. -/
def ofUnits (us : List Nat) : Text := merged (us.map Utf8.pointOf)

theorem units_cons (c : CodePoint) (t : Text) : units (c :: t) = c.units ++ units t :=
  List.flatMap_cons

/-! ### Pairs made one -/

theorem units_merged (t : Text) : t.merged.units = t.units := by
  induction t using merged.induct with
  | case1 => rfl
  | case2 => rfl
  | case3 c d rest h ih =>
    obtain ⟨hhigh, hlow⟩ := Bool.and_eq_true_iff.1 h
    have hc := CodePoint.isHigh_iff.1 hhigh
    have hd := CodePoint.isLow_iff.1 hlow
    rw [merged, if_pos h, units_cons, ih, CodePoint.units_ofPair hhigh hlow, units_cons, units_cons,
      CodePoint.units_of_lt (by omega), CodePoint.units_of_lt (by omega)]
    rfl
  | case4 c d rest h ih => rw [merged, if_neg h, units_cons, ih, units_cons c (d :: rest)]

/-- The units of a text start with a low surrogate only if the text does. -/
theorem apart_map_units {c : CodePoint} {t : Text} (h : Apart c t) :
    Apart c (t.units.map Utf8.pointOf) := by
  cases t with
  | nil => exact apart_nil c
  | cons d rest =>
    rw [units_cons]
    by_cases hd : d.val < 0x10000
    · rw [CodePoint.units_of_lt hd, List.singleton_append, List.map_cons, Utf8.pointOf_val]
      exact apart_cons (h d rfl)
    · obtain ⟨high, low, hunits, hhigh, -, -⟩ := CodePoint.exists_pair hd
      have hrange := CodePoint.isHigh_iff.1 hhigh
      have hnone : high.isLow = false := by
        refine eq_false_of_ne_true fun hlow => ?_
        have := CodePoint.isLow_iff.1 hlow
        omega
      rw [hunits, List.cons_append, List.map_cons, Utf8.pointOf_val]
      exact apart_cons (by rw [hnone, Bool.and_false])

/-- **The text of the units of a text** is that text with its pairs made one. -/
theorem ofUnits_units (t : Text) : ofUnits t.units = t.merged := by
  -- the units of a code point are read as that code point, if what follows does not join it
  have hpoint : ∀ (c : CodePoint) (rest : Text), Apart c rest →
      merged ((units (c :: rest)).map Utf8.pointOf) =
        c :: merged ((units rest).map Utf8.pointOf) := by
    intro c rest h
    rw [units_cons]
    by_cases hc : c.val < 0x10000
    · rw [CodePoint.units_of_lt hc, List.singleton_append, List.map_cons, Utf8.pointOf_val,
        merged_cons (apart_map_units h)]
    · obtain ⟨high, low, hunits, hhigh, hlow, hpair⟩ := CodePoint.exists_pair hc
      rw [hunits, List.cons_append, List.singleton_append, List.map_cons, List.map_cons, Utf8.pointOf_val,
        Utf8.pointOf_val, merged, if_pos (Bool.and_eq_true_iff.2 ⟨hhigh, hlow⟩), hpair]
  simp only [ofUnits] at hpoint ⊢
  induction t using merged.induct with
  | case1 => rfl
  | case2 c => exact hpoint c [] (apart_nil c)
  | case3 c d rest h ih =>
    obtain ⟨hhigh, hlow⟩ := Bool.and_eq_true_iff.1 h
    have hc := CodePoint.isHigh_iff.1 hhigh
    have hd := CodePoint.isLow_iff.1 hlow
    rw [units_cons, units_cons, CodePoint.units_of_lt (by omega), CodePoint.units_of_lt (by omega),
      List.singleton_append, List.singleton_append, List.map_cons, List.map_cons, Utf8.pointOf_val,
      Utf8.pointOf_val, merged, if_pos h, ih, merged, if_pos h]
  | case4 c d rest h ih =>
    rw [hpoint c _ (apart_cons (eq_false_of_ne_true h)), ih, merged, if_neg h]

/-- **The units of the text of units** are those units. -/
theorem units_ofUnits {us : List Nat} (h : ∀ u ∈ us, u < 0x10000) : (ofUnits us).units = us := by
  rw [ofUnits, units_merged]
  induction us with
  | nil => rfl
  | cons u us ih =>
    obtain ⟨hu, hus⟩ := List.forall_mem_cons.1 h
    have hval : (Utf8.pointOf u).val = u := Utf8.val_pointOf (by omega)
    rw [List.map_cons, units_cons, CodePoint.units_of_lt (by rw [hval]; exact hu), hval, ih hus]
    rfl

theorem units_lt (t : Text) : ∀ u ∈ t.units, u < 0x10000 := by
  intro u hu
  obtain ⟨c, -, hu⟩ := List.mem_flatMap.1 hu
  have hlt := c.isLt
  rw [CodePoint.units] at hu
  split at hu
  · obtain rfl := List.mem_singleton.1 hu
    assumption
  · simp only [List.mem_cons, List.not_mem_nil, or_false] at hu
    omega

/-! ### Texts with a pair in two halves -/

/-- The two halves of a surrogate pair stand next to each other in the text. -/
def HasPair (t : Text) : Prop :=
  ∃ (front : Text) (c d : CodePoint) (back : Text),
    t = front ++ c :: d :: back ∧ c.isHigh = true ∧ d.isLow = true

theorem length_merged_le (t : Text) : t.merged.length ≤ t.length := by
  induction t using merged.induct with
  | case1 => exact Nat.le_refl _
  | case2 => exact Nat.le_refl _
  | case3 c d rest h ih =>
    rw [merged, if_pos h, List.length_cons, List.length_cons, List.length_cons]
    omega
  | case4 c d rest h ih =>
    rw [merged, if_neg h, List.length_cons, List.length_cons]
    omega

/-- A text is one with its pairs made one exactly if it has no pair in two halves. -/
theorem merged_eq_self_iff (t : Text) : t.merged = t ↔ ¬ t.HasPair := by
  induction t using merged.induct with
  | case1 =>
    refine iff_of_true rfl ?_
    rintro ⟨front, _, _, _, h, -⟩
    simp at h
  | case2 c =>
    refine iff_of_true rfl ?_
    rintro ⟨front, _, _, _, h, -⟩
    have hlength := congrArg List.length h
    simp only [List.length_append, List.length_cons, List.length_nil] at hlength
    omega
  | case3 c d rest h ih =>
    refine iff_of_false (fun hmerged => ?_) fun hnone =>
      hnone ⟨[], c, d, rest, rfl, (Bool.and_eq_true_iff.1 h).1, (Bool.and_eq_true_iff.1 h).2⟩
    -- merging a pair makes the text shorter
    have hlength := congrArg List.length hmerged
    have hrest := length_merged_le rest
    rw [merged, if_pos h, List.length_cons, List.length_cons, List.length_cons] at hlength
    omega
  | case4 c d rest h ih =>
    rw [merged, if_neg h, List.cons.injEq, ih]
    refine ⟨?_, fun hnone => ⟨rfl, ?_⟩⟩
    · rintro ⟨-, hnone⟩ ⟨front, c', d', back, heq, hhigh, hlow⟩
      cases front with
      | nil =>
        rw [List.nil_append, List.cons.injEq, List.cons.injEq] at heq
        obtain ⟨rfl, rfl, -⟩ := heq
        exact h (Bool.and_eq_true_iff.2 ⟨hhigh, hlow⟩)
      | cons x front => exact hnone ⟨front, c', d', back, (List.cons.inj heq).2, hhigh, hlow⟩
    · rintro ⟨front, c', d', back, heq, hhigh, hlow⟩
      exact hnone ⟨c :: front, c', d', back, congrArg (c :: ·) heq, hhigh, hlow⟩

/-! ### Well paired units -/

/-- Every surrogate among the units is a half of a pair. -/
inductive WellPaired : List Nat → Prop
  | nil : WellPaired []
  | single {u : Nat} {us : List Nat} (h : u < 0xD800 ∨ 0xDFFF < u) (rest : WellPaired us) :
      WellPaired (u :: us)
  | pair {u v : Nat} {us : List Nat} (hu : 0xD800 ≤ u ∧ u ≤ 0xDBFF) (hv : 0xDC00 ≤ v ∧ v ≤ 0xDFFF)
      (rest : WellPaired us) : WellPaired (u :: v :: us)

/-- **Well paired units have a text without surrogates.** -/
theorem scalar_ofUnits {us : List Nat} (h : WellPaired us) : (ofUnits us).Scalar := by
  rw [ofUnits]
  induction h with
  | nil => exact List.forall_mem_nil _
  | @single u us hu _ ih =>
    have hsurrogate : (Utf8.pointOf u).isSurrogate = false := by
      rw [Utf8.pointOf]
      split
      · simp only [CodePoint.isSurrogate, Bool.and_eq_false_iff, decide_eq_false_iff_not]
        omega
      · decide
    rw [List.map_cons, merged_cons (apart_of_isHigh (CodePoint.isHigh_eq_false hsurrogate) _)]
    exact List.forall_mem_cons.2 ⟨hsurrogate, ih⟩
  | @pair u v us hu hv _ ih =>
    -- the two halves are one code point beyond the surrogates
    have hval : (Utf8.pointOf u).val = u := Utf8.val_pointOf (by omega)
    have hval' : (Utf8.pointOf v).val = v := Utf8.val_pointOf (by omega)
    have hhigh : (Utf8.pointOf u).isHigh = true := CodePoint.isHigh_iff.2 (by rw [hval]; exact hu)
    have hlow : (Utf8.pointOf v).isLow = true := CodePoint.isLow_iff.2 (by rw [hval']; exact hv)
    have hpair := CodePoint.ofPair_val hhigh hlow
    have hsurrogate : (CodePoint.ofPair (Utf8.pointOf u) (Utf8.pointOf v)).isSurrogate = false := by
      rw [CodePoint.isSurrogate, hpair]
      simp only [Bool.and_eq_false_iff, decide_eq_false_iff_not]
      omega
    rw [List.map_cons, List.map_cons, merged, if_pos (Bool.and_eq_true_iff.2 ⟨hhigh, hlow⟩)]
    exact List.forall_mem_cons.2 ⟨hsurrogate, ih⟩

end Text

end PullNotes
