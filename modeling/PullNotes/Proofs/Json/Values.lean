import Mathlib.Data.List.TakeWhile
import PullNotes.Proofs.Json.Reading
import PullNotes.Proofs.Runs

/-!
# What is in a value that was read

Two things are certain about the parts of a value that was read from a text: no whole number in it
has too many digits, and no text in it has a surrogate pair in two halves, if the text it was read
from has no surrogates.  The reader only takes from the front of the text, so what is certain of the
whole text is certain of what remains.

* `Json.Each` : the whole numbers and texts of a value.
* `Json.readText_settled` : a text between quotes.
* `Json.each_of_read` : a value.
-/

namespace PullNotes

namespace Json

open CodePoint (ofChar)

/-! ### The parts of a value -/

section

variable (number : Int → Prop) (content : Text → Prop)

mutual

/-- Each whole number of a value and each text of it, keys apart, is of a kind. -/
def Each : Json → Prop
  | null => True
  | bool _ => True
  | whole n => number n
  | real _ => True
  | text t => content t
  | list items => EachItem items
  | object members => EachMember members

/-- The same of each of several values. -/
def EachItem : List Json → Prop
  | [] => True
  | v :: vs => Each v ∧ EachItem vs

/-- The same of the values of members. -/
def EachMember : List (Text × Json) → Prop
  | [] => True
  | (_, v) :: ms => Each v ∧ EachMember ms

end

end

variable {number : Int → Prop} {content : Text → Prop}

theorem mem_of_lookup? {ms : List (Text × Json)} {key : Text} {v : Json}
    (h : lookup? key ms = some v) : (key, v) ∈ ms := by
  induction ms with
  | nil => cases h
  | cons m ms ih =>
    obtain ⟨k, w⟩ := m
    rw [lookup?] at h
    by_cases hk : k = key
    · rw [if_pos hk] at h
      rw [hk, Option.some.inj h]
      exact List.mem_cons_self
    · rw [if_neg hk] at h
      exact List.mem_cons_of_mem _ (ih h)

theorem EachMember.lookup? {ms : List (Text × Json)} (h : EachMember number content ms) {key : Text}
    {v : Json} (hv : lookup? key ms = some v) : Each number content v := by
  induction ms with
  | nil => simp [Json.lookup?] at hv
  | cons m ms ih =>
    obtain ⟨k, w⟩ := m
    obtain ⟨hw, hms⟩ := h
    rw [Json.lookup?] at hv
    by_cases hk : k = key
    · rw [if_pos hk] at hv
      exact Option.some.inj hv ▸ hw
    · rw [if_neg hk] at hv
      exact ih hms hv

theorem EachMember.put {ms : List (Text × Json)} (h : EachMember number content ms) (key : Text)
    {v : Json} (hv : Each number content v) : EachMember number content (put key v ms) := by
  induction ms with
  | nil => exact ⟨hv, trivial⟩
  | cons m ms ih =>
    obtain ⟨k, w⟩ := m
    obtain ⟨hw, hms⟩ := h
    rw [Json.put]
    by_cases hk : k = key
    · rw [if_pos hk]
      exact ⟨hv, hms⟩
    · rw [if_neg hk]
      exact ⟨hw, ih hms⟩

theorem EachMember.ofMembers {ms : List (Text × Json)} (h : EachMember number content ms) :
    EachMember number content (ofMembers ms) := by
  have hfold : ∀ (ms before : List (Text × Json)), EachMember number content ms →
      EachMember number content before →
      EachMember number content (ms.foldl (fun sofar m => Json.put m.1 m.2 sofar) before) := by
    intro ms
    induction ms with
    | nil => exact fun before _ hbefore => hbefore
    | cons m ms ih =>
      intro before h hbefore
      exact ih _ h.2 (hbefore.put m.1 h.1)
  exact hfold ms [] h trivial

/-! ### Texts -/

variable {whole : Text}

theorem suffix_of_cons {c : CodePoint} {t : Text} (h : (c :: t) <:+ whole) : t <:+ whole :=
  (List.suffix_cons c t).trans h

theorem suffix_drop {t : Text} (h : t <:+ whole) (n : Nat) : t.drop n <:+ whole :=
  (List.drop_suffix n t).trans h

theorem suffix_skipSpace {t : Text} (h : t <:+ whole) : skipSpace t <:+ whole :=
  (List.dropWhile_suffix _).trans h

/-- A number that is no surrogate is that of a code point that is none. -/
theorem pointOf_isLow {n : Nat} (h : (Utf8.pointOf n).isLow = true) : 0xDC00 ≤ n ∧ n ≤ 0xDFFF := by
  have hval := CodePoint.isLow_iff.1 h
  by_cases hn : n < 0x110000
  · rwa [Utf8.pointOf, dif_pos hn] at hval
  · rw [Utf8.pointOf, dif_neg hn] at hval
    exact absurd hval (by decide)

theorem pointOf_isHigh {n : Nat} (h : (Utf8.pointOf n).isHigh = true) :
    0xD800 ≤ n ∧ n ≤ 0xDBFF := by
  have hval := CodePoint.isHigh_iff.1 h
  by_cases hn : n < 0x110000
  · rwa [Utf8.pointOf, dif_pos hn] at hval
  · rw [Utf8.pointOf, dif_neg hn] at hval
    exact absurd hval (by decide)

theorem fourDigits?_eq_some {t rest : Text} {n : Nat} (h : fourDigits? t = some (n, rest)) :
    4 < t.length ∧ hexValue? (t.take 4) = some n ∧ rest = t.drop 4 := by
  rw [fourDigits?] at h
  by_cases hshort : t.length ≤ 4
  · simp [hshort] at h
  · rw [if_neg hshort] at h
    obtain ⟨m, hm, heq⟩ := Option.map_eq_some_iff.1 h
    obtain ⟨rfl, rfl⟩ := Prod.mk.inj heq
    exact ⟨by omega, hm, rfl⟩

theorem suffix_of_lowHalf {t after : Text} {low : Nat} (h : lowHalf t = .ok (some (low, after)))
    (ht : t <:+ whole) : after <:+ whole := by
  match t, h with
  | a :: b :: rest, h =>
    rw [lowHalf] at h
    split at h
    · split at h
      · cases h
      · split at h
        · obtain ⟨rfl, rfl⟩ := Prod.mk.inj (Option.some.inj (Except.ok.inj h))
          exact suffix_drop (suffix_of_cons (suffix_of_cons ht)) 4
        · cases h
    · cases h

/-- An escape by number gives a first half of a pair only if no second half comes next, and a second
half only if that is its own number. -/
theorem numberedEscape_eq_ok {here t after : Text} {c : CodePoint}
    (h : numberedEscape here t = .ok (c, after)) :
    (∀ {whole}, t <:+ whole → after <:+ whole) ∧ (c.isHigh = true → lowHalf after = .ok none) ∧
      (c.isLow = true → ∃ n rest, fourDigits? t = some (n, rest) ∧ 0xDC00 ≤ n ∧ n ≤ 0xDFFF) := by
  revert h
  fun_cases numberedEscape here t with
  | case1 hdigits => exact nofun
  | case2 high rest hdigits hhigh =>
    intro h
    obtain ⟨-, -, rfl⟩ := fourDigits?_eq_some hdigits
    cases hpair : lowHalf (t.drop 4) with
    | error stop => simp [hpair, bind, Except.bind] at h
    | ok half =>
      cases half with
      | some half =>
        -- both halves make one code point beyond the surrogates
        simp only [hpair, bind, Except.bind, Except.ok.injEq, Prod.mk.injEq] at h
        obtain ⟨rfl, rfl⟩ := h
        refine ⟨fun ht => suffix_of_lowHalf hpair (suffix_drop ht 4), fun hc => ?_, fun hc => ?_⟩
        · have := pointOf_isHigh hc
          omega
        · have := pointOf_isLow hc
          omega
      | none =>
        simp only [hpair, bind, Except.bind, Except.ok.injEq, Prod.mk.injEq] at h
        obtain ⟨rfl, rfl⟩ := h
        refine ⟨fun ht => suffix_drop ht 4, fun _ => hpair, fun hc => ?_⟩
        have := pointOf_isLow hc
        omega
  | case3 high rest hdigits hhigh =>
    intro h
    obtain ⟨rfl, rfl⟩ := Prod.mk.inj (Except.ok.inj h)
    obtain ⟨-, -, hrest⟩ := fourDigits?_eq_some hdigits
    refine ⟨fun ht => hrest ▸ suffix_drop ht 4, fun hc => absurd (pointOf_isHigh hc) hhigh, ?_⟩
    exact fun hc => ⟨high, rest, hdigits, pointOf_isLow hc⟩

/-- What a letter stands for is no surrogate. -/
theorem lettered?_eq_some {letter c : CodePoint} (h : lettered? letter = some c) :
    c.isSurrogate = false := by
  rw [lettered?] at h
  split at h
  case isTrue hself =>
    obtain rfl := Option.some.inj h
    rcases hself with rfl | rfl | rfl <;> decide
  case isFalse =>
    repeat' split at h
    all_goals first
      | (obtain rfl := Option.some.inj h; decide)
      | cases h

/-- A code point at the start of a text between quotes, and what follows it. -/
inductive PointAt : Text → CodePoint → Text → Prop where
  | plain (c : CodePoint) (after : Text) : PointAt (c :: after) c after
  | lettered {letter c : CodePoint} (after : Text) : lettered? letter = some c →
      PointAt (ofChar '\\' :: letter :: after) c after
  | numbered {t after : Text} {c : CodePoint} :
      numberedEscape (ofChar 'u' :: t) t = .ok (c, after) →
      PointAt (ofChar '\\' :: ofChar 'u' :: t) c after

theorem PointAt.suffix {t after : Text} {c : CodePoint} (h : PointAt t c after)
    (ht : t <:+ whole) : after <:+ whole := by
  cases h with
  | plain => exact suffix_of_cons ht
  | lettered after _ => exact suffix_of_cons (suffix_of_cons ht)
  | numbered hpoint => exact (numberedEscape_eq_ok hpoint).1 (suffix_of_cons (suffix_of_cons ht))

/-- After a first half of a pair there is no second half. -/
theorem PointAt.lowHalf_eq {t after : Text} {c : CodePoint} (h : PointAt t c after)
    (ht : t.Scalar) (hc : c.isHigh = true) : lowHalf after = .ok none := by
  have hnone : c.isSurrogate = false → lowHalf after = .ok none := fun hscalar =>
    absurd hc (Bool.eq_false_iff.1 (CodePoint.isHigh_eq_false hscalar))
  cases h with
  | plain => exact hnone (ht c List.mem_cons_self)
  | lettered _ hletter => exact hnone (lettered?_eq_some hletter)
  | numbered hpoint => exact (numberedEscape_eq_ok hpoint).2.1 hc

/-- A second half of a pair is seen from the end of the first half. -/
theorem PointAt.isLow_eq_false {t after : Text} {c : CodePoint} (h : PointAt t c after)
    (ht : t.Scalar) (hnone : lowHalf t = .ok none) : c.isLow = false := by
  cases h with
  | plain => exact CodePoint.isLow_eq_false (ht c List.mem_cons_self)
  | lettered _ hletter => exact CodePoint.isLow_eq_false (lettered?_eq_some hletter)
  | @numbered digits _ _ hpoint =>
    refine eq_false_of_ne_true fun hc => ?_
    obtain ⟨n, rest, hdigits, hn⟩ := (numberedEscape_eq_ok hpoint).2.2 hc
    obtain ⟨hlength, hvalue, -⟩ := fourDigits?_eq_some hdigits
    have hlong : 6 < (ofChar '\\' :: ofChar 'u' :: digits).length := by
      rw [List.length_cons, List.length_cons]
      omega
    rw [lowHalf, if_pos ⟨hlong, rfl, rfl⟩, hvalue] at hnone
    simp only [if_pos hn] at hnone
    cases hnone

/-- What is read is either nothing, or a code point and what is read after it. -/
theorem readText_eq_ok {opening t content rest : Text} {fuel : Nat}
    (h : readText opening fuel t = .ok (content, rest)) :
    (content = [] ∧ t = ofChar '"' :: rest) ∨
      ∃ c after more fuel', fuel = fuel' + 1 ∧ content = c :: more ∧ PointAt t c after ∧
        readText opening fuel' after = .ok (more, rest) := by
  revert h
  fun_cases readText opening fuel t with
  | case1 => exact nofun
  | case2 => exact nofun
  | case3 fuel rest' =>
    intro h
    obtain ⟨rfl, rfl⟩ := Prod.mk.inj (Except.ok.inj h)
    exact Or.inl ⟨rfl, rfl⟩
  | case4 => exact nofun
  | case5 => exact nofun
  | case6 fuel digits =>
    intro h
    obtain ⟨⟨c, after⟩, hpoint, h⟩ := Except.bind_eq_ok_iff.1 h
    obtain ⟨⟨more, rest'⟩, hmore, h⟩ := Except.bind_eq_ok_iff.1 h
    obtain ⟨rfl, rfl⟩ := Prod.mk.inj (Except.ok.inj h)
    exact Or.inr ⟨c, after, more, fuel, rfl, rfl, .numbered hpoint, hmore⟩
  | case7 => exact nofun
  | case8 fuel letter after _ c hletter =>
    intro h
    obtain ⟨⟨more, rest'⟩, hmore, h⟩ := Except.bind_eq_ok_iff.1 h
    obtain ⟨rfl, rfl⟩ := Prod.mk.inj (Except.ok.inj h)
    exact Or.inr ⟨c, after, more, fuel, rfl, rfl, .lettered after hletter, hmore⟩
  | case9 fuel c after =>
    intro h
    obtain ⟨⟨more, rest'⟩, hmore, h⟩ := Except.bind_eq_ok_iff.1 h
    obtain ⟨rfl, rfl⟩ := Prod.mk.inj (Except.ok.inj h)
    exact Or.inr ⟨c, after, more, fuel, rfl, rfl, .plain c after, hmore⟩

/-- **A text between quotes has no pair in two halves** if it is read from a text without
surrogates. -/
theorem readText_settled {opening t content rest : Text} {fuel : Nat}
    (h : readText opening fuel t = .ok (content, rest)) (ht : t <:+ whole) :
    rest <:+ whole ∧ (whole.Scalar → content.merged = content) := by
  induction fuel generalizing t content with
  | zero => cases h
  | succ fuel ih =>
    rcases readText_eq_ok h with ⟨rfl, rfl⟩ | ⟨c, after, more, fuel', hfuel, rfl, hpoint, hmore⟩
    · exact ⟨suffix_of_cons ht, fun _ => rfl⟩
    · obtain rfl := Nat.succ.inj hfuel
      obtain ⟨hrest, hmerged⟩ := ih hmore (hpoint.suffix ht)
      refine ⟨hrest, fun hscalar => ?_⟩
      have hscalars : ∀ {t : Text}, t <:+ whole → t.Scalar := fun ht c hc =>
        hscalar c (ht.subset hc)
      -- if this is a first half, then what is read next is no second half
      have hapart : Text.Apart c more := by
        intro d hd
        by_cases hhigh : c.isHigh = true
        · rcases readText_eq_ok hmore with ⟨rfl, -⟩ | ⟨d', _, _, _, -, rfl, hnext, -⟩
          · cases hd
          · obtain rfl : d' = d := Option.some.inj hd
            rw [hnext.isLow_eq_false (hscalars (hpoint.suffix ht))
              (hpoint.lowHalf_eq (hscalars ht) hhigh), Bool.and_false]
        · rw [eq_false_of_ne_true hhigh, Bool.false_and]
      rw [Text.merged_cons hapart, hmerged hscalar]

/-! ### Numbers -/

theorem suffix_digitRun {t : Text} (ht : t <:+ whole) : (digitRun t).2 <:+ whole := by
  rw [digitRun, List.span_eq_takeWhile_dropWhile]
  exact (List.dropWhile_suffix _).trans ht

theorem suffix_sign {t : Text} (ht : t <:+ whole) : (Numeral.sign t).2 <:+ whole := by
  cases t with
  | nil => exact ht
  | cons c t =>
    rw [Numeral.sign]
    split
    · exact suffix_of_cons ht
    · split
      · exact suffix_of_cons ht
      · exact ht

theorem suffix_fraction? {t digits after : Text} (h : fraction? t = some (digits, after))
    (ht : t <:+ whole) : after <:+ whole := by
  cases t with
  | nil => cases h
  | cons c t =>
    simp only [fraction?] at h
    split at h
    · split at h
      · cases h
      · obtain ⟨-, rfl⟩ := Prod.mk.inj (Option.some.inj h)
        exact suffix_digitRun (suffix_of_cons ht)
    · cases h

theorem suffix_exponent? {t after : Text} {e : Int} (h : exponent? t = some (e, after))
    (ht : t <:+ whole) : after <:+ whole := by
  cases t with
  | nil => cases h
  | cons c t =>
    simp only [exponent?] at h
    split at h
    · split at h
      · cases h
      · obtain ⟨-, rfl⟩ := Prod.mk.inj (Option.some.inj h)
        exact suffix_digitRun (suffix_sign (suffix_of_cons ht))
    · cases h

/-- What stands before the point are digits, at least one. -/
theorem wholePart?_eq_some {t digits rest : Text} (h : wholePart? t = some (digits, rest)) :
    digits ≠ [] ∧ (∀ c ∈ digits, c.isAsciiDigit = true) ∧
      ∀ {whole : Text}, t <:+ whole → rest <:+ whole := by
  cases t with
  | nil => cases h
  | cons c t =>
    rw [wholePart?] at h
    split at h
    case isTrue hzero =>
      obtain ⟨rfl, rfl⟩ := Prod.mk.inj (Option.some.inj h)
      subst hzero
      exact ⟨List.cons_ne_nil _ _, List.forall_mem_singleton.2 (by decide), suffix_of_cons⟩
    case isFalse =>
      split at h
      case isTrue hdigit =>
        have hrun : digitRun (c :: t) = (digits, rest) := Option.some.inj h
        have hsuffix : ∀ {whole : Text}, (c :: t) <:+ whole → rest <:+ whole := fun ht => by
          have hafter := suffix_digitRun ht
          rwa [hrun] at hafter
        rw [digitRun, List.span_eq_takeWhile_dropWhile, List.takeWhile_cons_of_pos hdigit] at hrun
        obtain ⟨rfl, -⟩ := Prod.mk.inj hrun
        refine ⟨List.cons_ne_nil _ _, fun d hd => ?_, hsuffix⟩
        rcases List.mem_cons.1 hd with rfl | hd
        · exact hdigit
        · exact List.mem_takeWhile_imp hd
      case isFalse => cases h

theorem wholeOf_eq_ok {negative : Bool} {digits : Text} {v : Json}
    (h : wholeOf negative digits = .ok v) (hne : digits ≠ [])
    (hdigits : ∀ c ∈ digits, c.isAsciiDigit = true) : ∃ n, v = .whole n ∧ ¬ TooLong n := by
  rw [wholeOf] at h
  split at h
  case isTrue => cases h
  case isFalse hshort =>
    refine ⟨_, (Except.ok.inj h).symm, fun hlong => hshort ?_⟩
    have habs : (if negative = true then -(decimalValue digits : Int)
        else (decimalValue digits : Int)).natAbs = decimalValue digits := by
      cases negative <;> simp
    rw [TooLong, habs] at hlong
    exact Nat.lt_of_lt_of_le hlong
      (Text.length_ofNat_le (decimalValue_lt hdigits) (List.length_pos_iff.2 hne))

/-- A number that is read is a whole number with few enough digits, or is not whole. -/
theorem readUnsigned_eq_ok {here t rest : Text} {negative : Bool} {v : Json}
    (h : readUnsigned here negative t = .ok (v, rest)) (ht : t <:+ whole) :
    rest <:+ whole ∧ ((∃ n, v = .whole n ∧ ¬ TooLong n) ∨ ∃ x, v = .real x) := by
  rw [readUnsigned] at h
  split at h
  case h_1 => cases h
  case h_2 digits after hwhole =>
    obtain ⟨hne, hdigits, hafter⟩ := wholePart?_eq_some hwhole
    have hfraction : ((fraction? after).elim after (·.2)) <:+ whole := by
      cases hmore : fraction? after with
      | none => exact hafter ht
      | some more => exact suffix_fraction? hmore (hafter ht)
    split at h
    case h_1 hmore hexponent =>
      obtain ⟨w, hw, h⟩ := Except.bind_eq_ok_iff.1 h
      obtain ⟨rfl, rfl⟩ := Prod.mk.inj (Except.ok.inj h)
      exact ⟨hafter ht, Or.inl (wholeOf_eq_ok hw hne hdigits)⟩
    case h_2 hmore hexponent =>
      obtain ⟨rfl, rfl⟩ := Prod.mk.inj (Except.ok.inj h)
      exact ⟨suffix_exponent? hexponent hfraction, Or.inr ⟨_, rfl⟩⟩
    case h_3 hmore hexponent =>
      obtain ⟨rfl, rfl⟩ := Prod.mk.inj (Except.ok.inj h)
      exact ⟨suffix_fraction? hmore (hafter ht), Or.inr ⟨_, rfl⟩⟩
    case h_4 hmore hexponent =>
      obtain ⟨rfl, rfl⟩ := Prod.mk.inj (Except.ok.inj h)
      exact ⟨suffix_exponent? hexponent hfraction, Or.inr ⟨_, rfl⟩⟩

/-! ### Values -/

variable {levels : Levels}

/-- A value at the start of a text, its parts read with less fuel, and what follows it. -/
inductive ValueAt (fuel : Nat) : Text → Json → Text → Prop where
  | word {t rest : Text} {v : Json} : word? t = some (v, rest) → ValueAt fuel t v rest
  | text {opening t content rest : Text} {n : Nat} :
      readText opening n t = .ok (content, rest) →
      ValueAt fuel (ofChar '"' :: t) (.text content) rest
  | emptyObject {t rest : Text} : skipSpace t = ofChar '\x7d' :: rest →
      ValueAt fuel (ofChar '\x7b' :: t) (.object []) rest
  | object {levels : Levels} {t rest : Text} {members : List (Text × Json)} :
      readMembers levels fuel (skipSpace t) = .ok (members, rest) →
      ValueAt fuel (ofChar '\x7b' :: t) (.object (ofMembers members)) rest
  | emptyList {t rest : Text} : skipSpace t = ofChar ']' :: rest →
      ValueAt fuel (ofChar '[' :: t) (.list []) rest
  | list {levels : Levels} {t rest : Text} {items : List Json} :
      readItems levels fuel (skipSpace t) = .ok (items, rest) →
      ValueAt fuel (ofChar '[' :: t) (.list items) rest
  | number {t digits rest : Text} {negative : Bool} {v : Json} : digits <:+ t →
      readUnsigned t negative digits = .ok (v, rest) → ValueAt fuel t v rest

theorem valueAt_of_readValue {fuel : Nat} {t rest : Text} {v : Json}
    (h : readValue levels (fuel + 1) t = .ok (v, rest)) : ValueAt fuel t v rest := by
  rw [readValue.eq_def] at h
  simp only at h
  split at h
  case h_1 result hword =>
    obtain rfl := Except.ok.inj h
    exact .word hword
  case h_2 =>
    -- no word: the first code point says what kind of value it is
    cases t with
    | nil => cases h
    | cons c t =>
      simp only at h
      split at h
      case isTrue hquote =>
        subst hquote
        obtain ⟨⟨content, after⟩, hcontent, h⟩ := Except.bind_eq_ok_iff.1 h
        obtain ⟨rfl, rfl⟩ := Prod.mk.inj (Except.ok.inj h)
        exact .text hcontent
      case isFalse =>
        split at h
        case isTrue hbrace =>
          subst hbrace
          obtain ⟨levels, -, h⟩ := Except.bind_eq_ok_iff.1 h
          split at h
          case h_1 d after hskip =>
            split at h
            case isTrue hclose =>
              obtain ⟨rfl, rfl⟩ := Prod.mk.inj (Except.ok.inj h)
              exact .emptyObject (hclose ▸ hskip)
            case isFalse =>
              obtain ⟨⟨members, after⟩, hmembers, h⟩ := Except.bind_eq_ok_iff.1 h
              obtain ⟨rfl, rfl⟩ := Prod.mk.inj (Except.ok.inj h)
              exact .object (hskip ▸ hmembers)
          case h_2 => cases h
        case isFalse =>
          split at h
          case isTrue hbracket =>
            subst hbracket
            obtain ⟨levels, -, h⟩ := Except.bind_eq_ok_iff.1 h
            split at h
            case h_1 d after hskip =>
              split at h
              case isTrue hclose =>
                obtain ⟨rfl, rfl⟩ := Prod.mk.inj (Except.ok.inj h)
                exact .emptyList (hclose ▸ hskip)
              case isFalse =>
                obtain ⟨⟨items, after⟩, hitems, h⟩ := Except.bind_eq_ok_iff.1 h
                obtain ⟨rfl, rfl⟩ := Prod.mk.inj (Except.ok.inj h)
                exact .list (hskip ▸ hitems)
            case h_2 => cases h
          case isFalse =>
            split at h
            · exact .number (List.suffix_cons c t) h
            · exact .number List.suffix_rfl h

/-- The items of a list are its first one and those read after the comma. -/
theorem readItems_eq_ok {fuel : Nat} {t rest : Text} {items : List Json}
    (h : readItems levels (fuel + 1) t = .ok (items, rest)) :
    ∃ item after more, readValue levels fuel t = .ok (item, after) ∧ items = item :: more ∧
      ((more = [] ∧ skipSpace after = ofChar ']' :: rest) ∨ ∃ next,
        skipSpace after = ofChar ',' :: next ∧
          readItems levels fuel (skipSpace next) = .ok (more, rest)) := by
  rw [readItems] at h
  obtain ⟨⟨item, after⟩, hitem, h⟩ := Except.bind_eq_ok_iff.1 h
  simp only at h
  split at h
  case h_1 c next hskip =>
    split at h
    case isTrue hclose =>
      obtain ⟨rfl, rfl⟩ := Prod.mk.inj (Except.ok.inj h)
      exact ⟨item, after, [], hitem, rfl, Or.inl ⟨rfl, hclose ▸ hskip⟩⟩
    case isFalse =>
      split at h
      case isTrue hcomma =>
        obtain ⟨⟨more, after'⟩, hmore, h⟩ := Except.bind_eq_ok_iff.1 h
        obtain ⟨rfl, rfl⟩ := Prod.mk.inj (Except.ok.inj h)
        exact ⟨item, after, more, hitem, rfl, Or.inr ⟨next, hcomma ▸ hskip, hmore⟩⟩
      case isFalse => cases h
  case h_2 => cases h

/-- The members of an object are its first one and those read after the comma. -/
theorem readMembers_eq_ok {fuel : Nat} {t rest : Text} {members : List (Text × Json)}
    (h : readMembers levels (fuel + 1) t = .ok (members, rest)) :
    ∃ inside key past value after more opening n, t = ofChar '"' :: inside ∧
      readText opening n inside = .ok (key, past) ∧
      (∃ next, skipSpace past = ofChar ':' :: next ∧
        readValue levels fuel (skipSpace next) = .ok (value, after)) ∧
      members = (key, value) :: more ∧
      ((more = [] ∧ skipSpace after = ofChar '\x7d' :: rest) ∨ ∃ next,
        skipSpace after = ofChar ',' :: next ∧
          readMembers levels fuel (skipSpace next) = .ok (more, rest)) := by
  rw [readMembers.eq_def] at h
  simp only at h
  cases t with
  | nil => cases h
  | cons quote inside =>
    simp only at h
    split at h
    case isTrue => cases h
    case isFalse hquote =>
      obtain rfl := Classical.not_not.1 hquote
      obtain ⟨⟨key, past⟩, hkey, h⟩ := Except.bind_eq_ok_iff.1 h
      simp only at h
      split at h
      case h_1 => cases h
      case h_2 colon next hcolon =>
        split at h
        case isTrue => cases h
        case isFalse hsame =>
          obtain rfl := Classical.not_not.1 hsame
          obtain ⟨⟨value, after⟩, hvalue, h⟩ := Except.bind_eq_ok_iff.1 h
          simp only at h
          split at h
          case h_1 c next' hskip =>
            split at h
            case isTrue hclose =>
              obtain ⟨rfl, rfl⟩ := Prod.mk.inj (Except.ok.inj h)
              exact ⟨inside, key, past, value, after, [], _, _, rfl, hkey, ⟨next, hcolon, hvalue⟩,
                rfl, Or.inl ⟨rfl, hclose ▸ hskip⟩⟩
            case isFalse =>
              split at h
              case isTrue hcomma =>
                obtain ⟨⟨more, after'⟩, hmore, h⟩ := Except.bind_eq_ok_iff.1 h
                obtain ⟨rfl, rfl⟩ := Prod.mk.inj (Except.ok.inj h)
                exact ⟨inside, key, past, value, after, more, _, _, rfl, hkey,
                  ⟨next, hcolon, hvalue⟩, rfl, Or.inr ⟨next', hcomma ▸ hskip, hmore⟩⟩
              case isFalse => cases h
          case h_2 => cases h

theorem word?_eq_some {t rest : Text} {v : Json} (h : word? t = some (v, rest)) :
    Each number content v ∧ ∀ {whole : Text}, t <:+ whole → rest <:+ whole := by
  have hall : ∀ w ∈ words, Each number content w.2 := by
    simp only [words, List.forall_mem_cons]
    exact ⟨trivial, trivial, trivial, trivial, trivial, trivial, nofun⟩
  obtain ⟨w, hfind, hw⟩ := Option.map_eq_some_iff.1 h
  obtain ⟨rfl, rfl⟩ := Prod.mk.inj hw
  exact ⟨hall w (List.mem_of_find?_eq_some hfind), fun ht => suffix_drop ht _⟩

/-- A value read from a part of a text: it leaves a part of the text, its whole numbers are not too
long, and its texts have no pair in two halves if the text has no surrogates. -/
abbrev SettledIn (whole : Text) (v : Json) : Prop :=
  Each (fun n => ¬ TooLong n) (fun c => whole.Scalar → c.merged = c) v

/-- The same of items and of members. -/
abbrev SettledItemsIn (whole : Text) (items : List Json) : Prop :=
  EachItem (fun n => ¬ TooLong n) (fun c => whole.Scalar → c.merged = c) items

abbrev SettledMembersIn (whole : Text) (members : List (Text × Json)) : Prop :=
  EachMember (fun n => ¬ TooLong n) (fun c => whole.Scalar → c.merged = c) members

/-- What is read with some fuel leaves a part of the text, and is settled in it. -/
structure ReadsSettled (whole : Text) (fuel : Nat) : Prop where
  value : ∀ {levels : Levels} {t rest : Text} {v : Json},
    readValue levels fuel t = .ok (v, rest) → t <:+ whole → rest <:+ whole ∧ SettledIn whole v
  items : ∀ {levels : Levels} {t rest : Text} {items : List Json},
    readItems levels fuel t = .ok (items, rest) → t <:+ whole →
    rest <:+ whole ∧ SettledItemsIn whole items
  members : ∀ {levels : Levels} {t rest : Text} {members : List (Text × Json)},
    readMembers levels fuel t = .ok (members, rest) → t <:+ whole →
    rest <:+ whole ∧ SettledMembersIn whole members

theorem suffix_of_skipSpace {c : CodePoint} {t rest : Text} (h : skipSpace t = c :: rest)
    (ht : t <:+ whole) : rest <:+ whole :=
  suffix_of_cons (h ▸ suffix_skipSpace ht)

theorem ReadsSettled.valueAt {fuel : Nat} (hfuel : ReadsSettled whole fuel) {t rest : Text}
    {v : Json} (h : ValueAt fuel t v rest) (ht : t <:+ whole) :
    rest <:+ whole ∧ SettledIn whole v := by
  cases h with
  | word hword =>
    obtain ⟨hv, hrest⟩ := word?_eq_some hword
    exact ⟨hrest ht, hv⟩
  | text hcontent => exact readText_settled hcontent (suffix_of_cons ht)
  | emptyObject hskip => exact ⟨suffix_of_skipSpace hskip (suffix_of_cons ht), trivial⟩
  | object hmembers =>
    obtain ⟨hrest, heach⟩ := hfuel.members hmembers (suffix_skipSpace (suffix_of_cons ht))
    exact ⟨hrest, EachMember.ofMembers heach⟩
  | emptyList hskip => exact ⟨suffix_of_skipSpace hskip (suffix_of_cons ht), trivial⟩
  | list hitems => exact hfuel.items hitems (suffix_skipSpace (suffix_of_cons ht))
  | number hdigits hread =>
    obtain ⟨hrest, ⟨n, rfl, hn⟩ | ⟨x, rfl⟩⟩ := readUnsigned_eq_ok hread (hdigits.trans ht)
    · exact ⟨hrest, hn⟩
    · exact ⟨hrest, trivial⟩

/-- One step of reading, from what is read with less fuel. -/
theorem ReadsSettled.succ {fuel : Nat} (hfuel : ReadsSettled whole fuel) :
    ReadsSettled whole (fuel + 1) where
  value h ht := hfuel.valueAt (valueAt_of_readValue h) ht
  items h ht := by
    obtain ⟨item, after, more, hitem, rfl, hend⟩ := readItems_eq_ok h
    obtain ⟨hafter, hsettled⟩ := hfuel.value hitem ht
    rcases hend with ⟨rfl, hskip⟩ | ⟨next, hskip, hmore⟩
    · exact ⟨suffix_of_skipSpace hskip hafter, hsettled, trivial⟩
    · have hnext := suffix_skipSpace (suffix_of_skipSpace hskip hafter)
      obtain ⟨hrest, heach⟩ := hfuel.items hmore hnext
      exact ⟨hrest, hsettled, heach⟩
  members h ht := by
    obtain ⟨inside, key, past, value, after, more, opening, n, rfl, hkey, ⟨next, hcolon, hvalue⟩,
      rfl, hend⟩ := readMembers_eq_ok h
    have hpast := (readText_settled hkey (suffix_of_cons ht)).1
    have hnext := suffix_skipSpace (suffix_of_skipSpace hcolon hpast)
    obtain ⟨hafter, hsettled⟩ := hfuel.value hvalue hnext
    rcases hend with ⟨rfl, hskip⟩ | ⟨next', hskip, hmore⟩
    · exact ⟨suffix_of_skipSpace hskip hafter, hsettled, trivial⟩
    · have hnext' := suffix_skipSpace (suffix_of_skipSpace hskip hafter)
      obtain ⟨hrest, heach⟩ := hfuel.members hmore hnext'
      exact ⟨hrest, hsettled, heach⟩

theorem readsSettled (whole : Text) (fuel : Nat) : ReadsSettled whole fuel := by
  induction fuel with
  | zero => constructor <;> intros <;> contradiction
  | succ fuel ih => exact ih.succ

/-- **A value that is read** has no whole number that is too long, and no text with a surrogate pair
in two halves if it is read from a text without surrogates. -/
theorem each_of_read {t : Text} {v : Json} (h : readWithin levels t = .ok v) :
    SettledIn t v := by
  rw [readWithin] at h
  split at h
  case isTrue => cases h
  case isFalse =>
    split at h
    case h_1 => cases h
    case h_2 value rest hvalue =>
      split at h
      · obtain rfl := Except.ok.inj h
        exact ((readsSettled t _).value hvalue (suffix_skipSpace List.suffix_rfl)).2
      · cases h

end Json

end PullNotes
