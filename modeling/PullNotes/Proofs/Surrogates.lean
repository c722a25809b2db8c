import PullNotes.Text.Utf8

/-!
# Surrogates

Two surrogates, a high one and a low one right after it, are the halves of a pair that stands for
one code point.  A text may have the pair or the one code point, but a notation by code units has no
room for the difference.

* `Text.merged` : a text with its pairs made one.
* `Text.merged_of_scalar` : a text without surrogates stays as it is.
* `Text.merged_append_cons` : no pair reaches over a code point that is no surrogate.
-/

namespace PullNotes

namespace Utf8

theorem pointOf_val (c : CodePoint) : pointOf c.val = c := dif_pos c.isLt

theorem val_pointOf {n : Nat} (h : n < 0x110000) : (pointOf n).val = n := by
  rw [pointOf, dif_pos h]

end Utf8

namespace CodePoint

/-- The first half of a surrogate pair. -/
def isHigh (c : CodePoint) : Bool := 0xD800 ≤ c.val && c.val ≤ 0xDBFF

/-- The second half of a surrogate pair. -/
def isLow (c : CodePoint) : Bool := 0xDC00 ≤ c.val && c.val ≤ 0xDFFF

theorem isHigh_iff {c : CodePoint} : c.isHigh = true ↔ 0xD800 ≤ c.val ∧ c.val ≤ 0xDBFF := by
  simp only [isHigh, Bool.and_eq_true, decide_eq_true_eq]

theorem isLow_iff {c : CodePoint} : c.isLow = true ↔ 0xDC00 ≤ c.val ∧ c.val ≤ 0xDFFF := by
  simp only [isLow, Bool.and_eq_true, decide_eq_true_eq]

theorem isSurrogate_iff {c : CodePoint} :
    c.isSurrogate = true ↔ 0xD800 ≤ c.val ∧ c.val ≤ 0xDFFF := by
  simp only [isSurrogate, Bool.and_eq_true, decide_eq_true_eq]

theorem isHigh_eq_false {c : CodePoint} (h : c.isSurrogate = false) : c.isHigh = false := by
  refine eq_false_of_ne_true fun hhigh => Bool.eq_false_iff.1 h (isSurrogate_iff.2 ?_)
  have := isHigh_iff.1 hhigh
  omega

theorem isLow_eq_false {c : CodePoint} (h : c.isSurrogate = false) : c.isLow = false := by
  refine eq_false_of_ne_true fun hlow => Bool.eq_false_iff.1 h (isSurrogate_iff.2 ?_)
  have := isLow_iff.1 hlow
  omega

/-- The code point that a surrogate pair stands for. -/
def ofPair (high low : CodePoint) : CodePoint :=
  Utf8.pointOf (0x10000 + (high.val - 0xD800) * 1024 + (low.val - 0xDC00))

theorem ofPair_val {high low : CodePoint} (hhigh : high.isHigh = true) (hlow : low.isLow = true) :
    (ofPair high low).val = 0x10000 + (high.val - 0xD800) * 1024 + (low.val - 0xDC00) := by
  have hhigh := isHigh_iff.1 hhigh
  have hlow := isLow_iff.1 hlow
  rw [ofPair, Utf8.val_pointOf (by omega)]

end CodePoint

namespace Text

/-- The text has no surrogates. -/
def Scalar (t : Text) : Prop := ∀ c ∈ t, c.isSurrogate = false

instance (t : Text) : Decidable t.Scalar :=
  List.decidableBAll (fun c : CodePoint => CodePoint.isSurrogate c = false) t

/-- A string has no surrogates. -/
theorem scalar_ofString (s : String) : (ofString s).Scalar := by
  intro c hc
  obtain ⟨ch, _, rfl⟩ := List.mem_map.1 hc
  have hvalid : ch.toNat < 0xD800 ∨ 0xDFFF < ch.toNat ∧ ch.toNat < 0x110000 := ch.valid
  have hval : (CodePoint.ofChar ch).val = ch.toNat := rfl
  simp only [CodePoint.isSurrogate, hval, Bool.and_eq_false_iff, decide_eq_false_iff_not]
  omega

/-- A code point and the start of a text are not the halves of a pair. -/
def Apart (c : CodePoint) (t : Text) : Prop := ∀ d ∈ t.head?, (c.isHigh && d.isLow) = false

theorem apart_nil (c : CodePoint) : Apart c [] := nofun

theorem apart_cons {c d : CodePoint} {t : Text} (h : (c.isHigh && d.isLow) = false) :
    Apart c (d :: t) := by
  rintro _ ⟨⟩
  exact h

theorem apart_of_isHigh {c : CodePoint} (h : c.isHigh = false) (t : Text) : Apart c t := by
  intro d _
  rw [h, Bool.false_and]

/-- A text in which each surrogate pair is the one code point that it stands for. -/
def merged : Text → Text
  | [] => []
  | [c] => [c]
  | c :: d :: rest =>
    if c.isHigh && d.isLow then CodePoint.ofPair c d :: merged rest else c :: merged (d :: rest)

theorem merged_cons {c : CodePoint} {t : Text} (h : Apart c t) :
    merged (c :: t) = c :: merged t := by
  cases t with
  | nil => rfl
  | cons d rest => rw [merged, h d rfl]; rfl

/-- What stands before a text is apart from it as well once its pairs are made one. -/
theorem Apart.merged {c : CodePoint} : ∀ {t : Text}, Apart c t → Apart c t.merged
  | [], _ => apart_nil c
  | [_], h => h
  | d :: e :: rest, h => by
    rw [Text.merged]
    by_cases hpair : (d.isHigh && e.isLow) = true
    · rw [if_pos hpair]
      obtain ⟨hhigh, hlow⟩ := Bool.and_eq_true_iff.1 hpair
      have hval := CodePoint.ofPair_val hhigh hlow
      have hnone : (CodePoint.ofPair d e).isLow = false := by
        refine eq_false_of_ne_true fun h => ?_
        have := CodePoint.isLow_iff.1 h
        omega
      exact apart_cons (by rw [hnone, Bool.and_false])
    · rw [if_neg hpair]
      exact apart_cons (h d rfl)

/-- A text with its pairs made one has no pairs any more. -/
theorem merged_merged (t : Text) : t.merged.merged = t.merged := by
  induction t using merged.induct with
  | case1 => rfl
  | case2 => rfl
  | case3 c d rest h ih =>
    obtain ⟨hhigh, hlow⟩ := Bool.and_eq_true_iff.1 h
    have hval := CodePoint.ofPair_val hhigh hlow
    have hnone : (CodePoint.ofPair c d).isHigh = false := by
      refine eq_false_of_ne_true fun hpair => ?_
      have := CodePoint.isHigh_iff.1 hpair
      omega
    rw [merged, if_pos h, merged_cons (apart_of_isHigh hnone _), ih]
  | case4 c d rest h ih =>
    have hapart : Apart c (d :: rest) := apart_cons (eq_false_of_ne_true h)
    rw [merged_cons hapart, merged_cons hapart.merged, ih]

theorem merged_append_of_scalar {t : Text} (ht : t.Scalar) (rest : Text) :
    merged (t ++ rest) = t ++ merged rest := by
  induction t with
  | nil => rfl
  | cons c t ih =>
    obtain ⟨hc, ht⟩ := List.forall_mem_cons.1 ht
    rw [List.cons_append, merged_cons (apart_of_isHigh (CodePoint.isHigh_eq_false hc) _), ih ht,
      List.cons_append]

theorem merged_of_scalar {t : Text} (ht : t.Scalar) : merged t = t := by
  have h := merged_append_of_scalar ht []
  rwa [List.append_nil, merged, List.append_nil] at h

theorem merged_ofString (s : String) : merged (ofString s) = ofString s :=
  merged_of_scalar (scalar_ofString s)

/-- A code point that is no surrogate keeps what stands before it and after it apart. -/
theorem merged_append_cons {c : CodePoint} (hc : c.isSurrogate = false) (before rest : Text) :
    merged (before ++ c :: rest) = merged before ++ c :: merged rest := by
  have hrest : merged (c :: rest) = c :: merged rest :=
    merged_cons (apart_of_isHigh (CodePoint.isHigh_eq_false hc) _)
  induction before using merged.induct with
  | case1 => exact hrest
  | case2 d =>
    have hapart : Apart d (c :: rest) :=
      apart_cons (by rw [CodePoint.isLow_eq_false hc, Bool.and_false])
    rw [List.singleton_append, merged_cons hapart, hrest]
    rfl
  | case3 d e before h ih =>
    rw [List.cons_append, List.cons_append, merged, if_pos h, ih, merged, if_pos h,
      List.cons_append]
  | case4 d e before h ih =>
    rw [List.cons_append, List.cons_append, merged, if_neg h, merged, if_neg h, ← List.cons_append,
      ih, List.cons_append]

end Text

end PullNotes
