import Mathlib.Data.List.TakeDrop
import PullNotes.Proofs.Json.Spelling

/-!
# Reading spelled values

The reader finds the value that a text spells, and leaves what follows the text.  Only one thing may
prevent it: a whole number with too many digits.  White space that follows the value is left as
well, and what follows a number must not be taken for more of it.

* `Json.SpellsText.readText_eq` : the content of a text between quotes.
* `Json.Spells.readAs` : a value with something after it.
* `Json.Spells.read_eq` : a value alone.
-/

namespace PullNotes

namespace Json

open CodePoint (ofChar)

/-! ### White space -/

theorem skipSpace_gap {gap : Text} (h : Gap gap) (t : Text) : skipSpace (gap ++ t) = skipSpace t :=
  List.dropWhile_append_of_pos h

theorem skipSpace_cons {c : CodePoint} (h : isSpace c = false) (t : Text) :
    skipSpace (c :: t) = c :: t :=
  List.dropWhile_cons_of_neg (by rw [h]; decide)

/-! ### Texts -/

theorem SpellsNumber.length_eq {digits : Text} {n : Nat} (h : SpellsNumber digits n) :
    digits.length = 4 := by
  have hlength := congrArg List.length h.2
  rw [Text.hex_four h.1, Text.asciiLower, List.length_map] at hlength
  exact hlength

theorem SpellsNumber.hexValue?_eq {digits : Text} {n : Nat} (h : SpellsNumber digits n) :
    hexValue? digits = some n := by
  have hn := h.1
  rw [← hexValue?_asciiLower, h.2, Text.hex_four h.1,
    hexValue?_digits (by omega) (by omega) (by omega) (by omega)]
  congr 1
  omega

theorem SpellsNumber.fourDigits?_eq {digits rest : Text} {n : Nat} (h : SpellsNumber digits n)
    (hrest : rest ≠ []) : fourDigits? (digits ++ rest) = some (n, rest) := by
  have hlength : ¬ (digits ++ rest).length ≤ 4 := by
    have := List.length_pos_iff.2 hrest
    rw [List.length_append, h.length_eq]
    omega
  rw [fourDigits?, if_neg hlength, List.take_left' h.length_eq, List.drop_left' h.length_eq,
    h.hexValue?_eq]
  rfl

/-- An escape by number is the second half of a pair if it is one of a low surrogate. -/
theorem SpellsNumber.lowHalf_eq {digits rest : Text} {n : Nat} (h : SpellsNumber digits n)
    (hrest : rest ≠ []) : lowHalf (ofChar '\\' :: ofChar 'u' :: (digits ++ rest)) =
      .ok (if 0xDC00 ≤ n ∧ n ≤ 0xDFFF then some (n, rest) else none) := by
  have hlength : 6 < (ofChar '\\' :: ofChar 'u' :: (digits ++ rest)).length := by
    have := List.length_pos_iff.2 hrest
    rw [List.length_cons, List.length_cons, List.length_append, h.length_eq]
    omega
  rw [lowHalf, if_pos ⟨hlength, rfl, rfl⟩, List.take_left' h.length_eq, h.hexValue?_eq,
    List.drop_left' h.length_eq]

/-- An escape by number that is no first half of a pair is read as its number. -/
theorem SpellsNumber.numberedEscape_eq {here digits rest : Text} {c : CodePoint}
    (h : SpellsNumber digits c.val) (hrest : rest ≠ [])
    (hlow : c.isHigh = true → lowHalf rest = .ok none) :
    numberedEscape here (digits ++ rest) = .ok (c, rest) := by
  rw [numberedEscape, h.fourDigits?_eq hrest]
  by_cases hhigh : 0xD800 ≤ c.val ∧ c.val ≤ 0xDBFF
  · simp only [hhigh, and_self, if_true, hlow (CodePoint.isHigh_iff.2 hhigh), bind, Except.bind,
      Utf8.pointOf_val]
  · simp only [hhigh, if_false, Utf8.pointOf_val]

theorem SpellsNumber.numberedEscape_of_pair {here digits rest after : Text} {n low : Nat}
    (h : SpellsNumber digits n) (hhigh : 0xD800 ≤ n ∧ n ≤ 0xDBFF) (hrest : rest ≠ [])
    (hlow : lowHalf rest = .ok (some (low, after))) : numberedEscape here (digits ++ rest) =
      .ok (Utf8.pointOf (0x10000 + (n - 0xD800) * 1024 + (low - 0xDC00)), after) := by
  simp only [numberedEscape, h.fourDigits?_eq hrest, hhigh, and_self, if_true, hlow, bind,
    Except.bind]

/-- A point from an escape by number goes in front of what is read after the escape. -/
theorem readText_numbered {opening t after : Text} {c : CodePoint}
    (h : numberedEscape (ofChar 'u' :: t) t = .ok (c, after)) (fuel : Nat) :
    readText opening (fuel + 1) (ofChar '\\' :: ofChar 'u' :: t) =
      (readText opening fuel after).map fun x => (c :: x.1, x.2) := by
  have hbackslash : ¬ (ofChar '\\').val < 32 ∧ ofChar '\\' ≠ ofChar '"' := by decide
  rw [readText, if_neg hbackslash.2, if_neg hbackslash.1, if_pos rfl]
  simp only [if_pos, h, bind, Except.bind]
  cases readText opening fuel after <;> rfl

theorem lettered?_of_mem {letter c : Char} (h : (letter, c) ∈ letters) :
    lettered? (ofChar letter) = some (ofChar c) ∧ ofChar letter ≠ ofChar 'u' := by
  have hall : ∀ x ∈ letters,
      lettered? (ofChar x.1) = some (ofChar x.2) ∧ ofChar x.1 ≠ ofChar 'u' := by
    decide
  exact hall _ h

/-- Only a low surrogate is read as the second half of a pair. -/
theorem SpellsPoint.lowHalf_eq {s rest : Text} {c : CodePoint} (h : SpellsPoint s c)
    (hlow : c.isLow = false) (hrest : rest ≠ []) : lowHalf (s ++ rest) = .ok none := by
  obtain ⟨b, more, rfl⟩ := List.exists_cons_of_ne_nil hrest
  cases h with
  | plain _ _ hslash _ =>
    rw [List.singleton_append, lowHalf]
    exact if_neg fun hu => hslash hu.2.1
  | lettered hmem =>
    rw [List.cons_append, List.singleton_append, lowHalf]
    exact if_neg fun hu => (lettered?_of_mem hmem).2 hu.2.2
  | numbered hdigits =>
    have hnone : ¬ (0xDC00 ≤ c.val ∧ c.val ≤ 0xDFFF) := fun h =>
      Bool.eq_false_iff.1 hlow (CodePoint.isLow_iff.2 h)
    rw [List.cons_append, List.cons_append, hdigits.lowHalf_eq hrest, if_neg hnone]
  | paired _ hhigh _ =>
    have hlt := c.isLt
    rw [List.cons_append, List.cons_append, List.append_assoc, List.cons_append,
      hhigh.lowHalf_eq (List.cons_ne_nil _ _), if_neg (by omega)]

/-- A code point that is read goes in front of what is read after it. -/
theorem SpellsPoint.readText_eq {s rest : Text} {c : CodePoint} (h : SpellsPoint s c)
    (hrest : rest ≠ []) (hlow : c.isHigh = true → lowHalf rest = .ok none) (opening : Text)
    (fuel : Nat) : readText opening (fuel + 1) (s ++ rest) =
      (readText opening fuel rest).map fun x => (c :: x.1, x.2) := by
  cases h with
  | plain hcontrol hquote hslash _ =>
    rw [List.singleton_append, readText.eq_def]
    simp only [if_neg hquote, if_neg (Nat.not_lt.2 hcontrol), if_neg hslash]
    cases readText opening fuel rest <;> rfl
  | lettered hmem =>
    obtain ⟨hletter, hne⟩ := lettered?_of_mem hmem
    rw [List.cons_append, List.singleton_append, readText, if_neg (by decide), if_neg (by decide),
      if_pos rfl]
    simp only [if_neg hne, hletter]
    cases readText opening fuel rest <;> rfl
  | numbered hdigits =>
    rw [List.cons_append, List.cons_append]
    exact readText_numbered (hdigits.numberedEscape_eq hrest hlow) fuel
  | paired hc hhigh hsecond =>
    have hlt := c.isLt
    have hpair := hsecond.lowHalf_eq hrest
    rw [if_pos (by omega)] at hpair
    rw [List.cons_append, List.cons_append, List.append_assoc, List.cons_append, List.cons_append]
    refine readText_numbered ?_ fuel
    rw [hhigh.numberedEscape_of_pair (by omega) (List.cons_ne_nil _ _) hpair]
    have hval : 0x10000 + (0xD800 + (c.val - 0x10000) / 1024 - 0xD800) * 1024 +
        (0xDC00 + (c.val - 0x10000) % 1024 - 0xDC00) = c.val := by omega
    rw [hval, Utf8.pointOf_val]

theorem append_quote_ne_nil (t rest : Text) : t ++ ofChar '"' :: rest ≠ [] :=
  List.append_ne_nil_of_right_ne_nil _ (List.cons_ne_nil _ _)

/-- A content that starts with no low surrogate is not read as the second half of a pair. -/
theorem SpellsText.lowHalf_eq {t content : Text} (h : SpellsText t content)
    (hlow : ∀ d ∈ content.head?, d.isLow = false) (rest : Text) :
    lowHalf (t ++ ofChar '"' :: rest) = .ok none := by
  cases h with
  | nil =>
    cases rest with
    | nil => rfl
    | cons b rest =>
      rw [List.nil_append, lowHalf]
      exact if_neg fun hu => absurd hu.2.1 (by decide)
  | cons hpoint _ _ =>
    rw [List.append_assoc]
    exact hpoint.lowHalf_eq (hlow _ rfl) (append_quote_ne_nil _ rest)

/-- **A text between quotes is read as the content that it spells.** -/
theorem SpellsText.readText_eq {t content : Text} (h : SpellsText t content) (opening rest : Text)
    {fuel : Nat} (hfuel : t.length < fuel) :
    readText opening fuel (t ++ ofChar '"' :: rest) = .ok (content, rest) := by
  induction h generalizing fuel with
  | nil =>
    obtain ⟨fuel, rfl⟩ := Nat.exists_eq_add_of_lt hfuel
    rw [List.nil_append, readText.eq_def]
    exact if_pos rfl
  | @cons s t content c hpoint htext hapart ih =>
    obtain ⟨fuel, rfl⟩ := Nat.exists_eq_add_of_lt hfuel
    have hs : 0 < s.length := by
      cases hpoint <;> exact Nat.succ_pos _
    -- a high surrogate stays alone, since the content does not go on with a low one
    have hlow : c.isHigh = true → lowHalf (t ++ ofChar '"' :: rest) = .ok none := by
      intro hhigh
      refine htext.lowHalf_eq (fun d hd => ?_) rest
      have hpair := hapart d hd
      rwa [hhigh, Bool.true_and] at hpair
    rw [List.append_assoc, hpoint.readText_eq (append_quote_ne_nil t rest) hlow,
      ih (by rw [List.length_append]; omega)]
    rfl

/-! ### Words and numbers -/

/-- No word starts with a digit, or has one in the second place. -/
theorem exists_start_of_mem_words : ∀ w ∈ words, ∃ d e more, Text.ofString w.1 = d :: e :: more ∧
    d.isAsciiDigit = false ∧ e.isAsciiDigit = false := by
  simp only [words, List.forall_mem_cons]
  refine ⟨?_, ?_, ?_, ?_, ?_, ?_, nofun⟩ <;> exact ⟨_, _, _, rfl, by decide, by decide⟩

theorem word?_eq_none {t : Text} (h : ∀ w ∈ words, ¬ Text.ofString w.1 <+: t) : word? t = none := by
  rw [word?, Option.map_eq_none_iff, List.find?_eq_none]
  intro w hw
  rw [List.isPrefixOf_iff_prefix]
  exact h w hw

theorem word?_digit {c : CodePoint} (hc : c.isAsciiDigit = true) (rest : Text) :
    word? (c :: rest) = none := by
  refine word?_eq_none fun w hw hstarts => ?_
  obtain ⟨d, e, more, hstart, hd, _⟩ := exists_start_of_mem_words w hw
  rw [hstart, List.cons_prefix_cons] at hstarts
  rw [hstarts.1, hc] at hd
  cases hd

theorem word?_sign {c : CodePoint} (hc : c.isAsciiDigit = true) (sign : CodePoint) (rest : Text) :
    word? (sign :: c :: rest) = none := by
  refine word?_eq_none fun w hw hstarts => ?_
  obtain ⟨d, e, more, hstart, _, he⟩ := exists_start_of_mem_words w hw
  rw [hstart, List.cons_prefix_cons, List.cons_prefix_cons] at hstarts
  rw [hstarts.2.1, hc] at he
  cases he

/-- What may follow a whole number: nothing that would be taken for more of the number. -/
def Ends (rest : Text) : Prop := ∀ c, rest.head? = some c →
  c.isAsciiDigit = false ∧ c ≠ ofChar '.' ∧ c ≠ ofChar 'e' ∧ c ≠ ofChar 'E'

theorem Ends.digitRun_eq {digits rest : Text} (hrest : Ends rest)
    (h : ∀ c ∈ digits, c.isAsciiDigit = true) : digitRun (digits ++ rest) = (digits, rest) := by
  have hnone : rest.takeWhile CodePoint.isAsciiDigit = [] ∧
      rest.dropWhile CodePoint.isAsciiDigit = rest := by
    cases rest with
    | nil => exact ⟨rfl, rfl⟩
    | cons c rest =>
      have hc := (hrest c rfl).1
      exact ⟨List.takeWhile_cons_of_neg (by rw [hc]; decide),
        List.dropWhile_cons_of_neg (by rw [hc]; decide)⟩
  rw [digitRun, List.span_eq_takeWhile_dropWhile, List.takeWhile_append_of_pos h,
    List.dropWhile_append_of_pos h, hnone.1, hnone.2, List.append_nil]

theorem Ends.fraction?_eq {rest : Text} (h : Ends rest) : fraction? rest = none := by
  cases rest with
  | nil => rfl
  | cons c rest => exact if_neg (h c rfl).2.1

theorem Ends.exponent?_eq {rest : Text} (h : Ends rest) : exponent? rest = none := by
  cases rest with
  | nil => rfl
  | cons c rest => exact if_neg (not_or.2 (h c rfl).2.2)

theorem wholePart?_ofNat {rest : Text} (hrest : Ends rest) (n : Nat) :
    wholePart? (Text.ofNat n ++ rest) = some (Text.ofNat n, rest) := by
  have hdigits := Text.isAsciiDigit_of_mem_ofNat n
  rcases Nat.eq_zero_or_pos n with rfl | hn
  · rfl
  · obtain ⟨c, more, hc, hne⟩ := Text.head_ofNat hn
    have hdigit := hdigits c (hc ▸ List.mem_cons_self)
    have hrun := hrest.digitRun_eq hdigits
    rw [hc, List.cons_append] at hrun ⊢
    rw [wholePart?, if_neg hne, if_pos hdigit, hrun]

/-- The whole number has too many digits to be read. -/
def TooLong (n : Int) : Prop := Numeral.maxDigits < (Text.ofNat n.natAbs).length

instance (n : Int) : Decidable (TooLong n) :=
  inferInstanceAs (Decidable (Numeral.maxDigits < (Text.ofNat n.natAbs).length))

/-- What is read is a value, unless one of the allowed whole numbers is too long. -/
def ReadAs {α : Type} (allowed : Int → Prop) (x : Except Stop α) (a : α) : Prop :=
  x = .ok a ∨ ∃ n e, allowed n ∧ TooLong n ∧ x = .error (.numeral e)

variable {allowed : Int → Prop}

theorem ReadAs.bind {α β : Type} {x : Except Stop α} {a : α} {k : α → Except Stop β} {b : β}
    (hx : ReadAs allowed x a) (hk : ReadAs allowed (k a) b) : ReadAs allowed (x >>= k) b := by
  rcases hx with rfl | ⟨n, e, hn, hlong, rfl⟩
  · exact hk
  · exact Or.inr ⟨n, e, hn, hlong, rfl⟩

theorem readAs_readUnsigned {rest : Text} (hrest : Ends rest) {m : Nat} (negative : Bool) {n : Int}
    (here : Text) (hn : (if negative then -(m : Int) else m) = n) (hallowed : allowed n) :
    ReadAs allowed (readUnsigned here negative (Text.ofNat m ++ rest)) (.whole n, rest) := by
  have hread : readUnsigned here negative (Text.ofNat m ++ rest) =
      (wholeOf negative (Text.ofNat m)).map fun v => (v, rest) := by
    simp only [readUnsigned, wholePart?_ofNat hrest, hrest.fraction?_eq, Option.elim_none,
      hrest.exponent?_eq]
    cases wholeOf negative (Text.ofNat m) <;> rfl
  rw [hread, wholeOf]
  by_cases hlong : Numeral.maxDigits < (Text.ofNat m).length
  · rw [if_pos hlong]
    refine Or.inr ⟨n, _, hallowed, ?_, rfl⟩
    have habs : n.natAbs = m := by
      rw [← hn]
      cases negative <;> simp
    rw [TooLong, habs]
    exact hlong
  · rw [if_neg hlong]
    simp only [decimalValue_ofNat, hn]
    exact Or.inl rfl

theorem readValue_digit {c : CodePoint} (hc : c.isAsciiDigit = true) (levels : Levels)
    (rest : Text) (fuel : Nat) :
    readValue levels (fuel + 1) (c :: rest) = readUnsigned (c :: rest) false (c :: rest) := by
  have hne : ∀ d : CodePoint, d.isAsciiDigit = false → c ≠ d := by
    rintro d hd rfl
    rw [hc] at hd
    cases hd
  rw [readValue, word?_digit hc]
  simp only [if_neg (hne (ofChar '"') (by decide)), if_neg (hne (ofChar '\x7b') (by decide)),
    if_neg (hne (ofChar '[') (by decide)), if_neg (hne (ofChar '-') (by decide))]

theorem readValue_sign {c : CodePoint} (hc : c.isAsciiDigit = true) (rest : Text) (fuel : Nat) :
    readValue none (fuel + 1) (ofChar '-' :: c :: rest) =
      readUnsigned (ofChar '-' :: c :: rest) true (c :: rest) := by
  rw [readValue, word?_sign hc]
  rfl

theorem readAs_ofInt {rest : Text} (hrest : Ends rest) {n : Int} (hallowed : allowed n)
    (fuel : Nat) :
    ReadAs allowed (readValue none (fuel + 1) (Text.ofInt n ++ rest)) (.whole n, rest) := by
  have hhead : ∀ m, ∃ c more, Text.ofNat m = c :: more ∧ c.isAsciiDigit = true := by
    intro m
    obtain ⟨c, more, hc⟩ := List.exists_cons_of_ne_nil (Text.ofNat_ne_nil m)
    exact ⟨c, more, hc, Text.isAsciiDigit_of_mem_ofNat m c (hc ▸ List.mem_cons_self)⟩
  cases n with
  | ofNat m =>
    obtain ⟨c, more, hc, hdigit⟩ := hhead m
    have h := readAs_readUnsigned hrest false (Text.ofNat m ++ rest) rfl hallowed
    rw [hc, List.cons_append, ← readValue_digit hdigit none _ fuel, ← List.cons_append, ← hc] at h
    exact h
  | negSucc m =>
    obtain ⟨c, more, hc, hdigit⟩ := hhead (m + 1)
    have h := readAs_readUnsigned hrest (m := m + 1) true
      (ofChar '-' :: (Text.ofNat (m + 1) ++ rest)) rfl hallowed
    rw [hc, List.cons_append, ← readValue_sign hdigit _ fuel, ← List.cons_append, ← hc] at h
    exact h

/-! ### Values -/

theorem ends_cons {c : CodePoint} (h : c.isAsciiDigit = false ∧ c ≠ ofChar '.' ∧ c ≠ ofChar 'e' ∧
    c ≠ ofChar 'E') (rest : Text) : Ends (c :: rest) := by
  intro d hd
  rw [List.head?_cons, Option.some.injEq] at hd
  exact hd ▸ h

theorem ends_comma (rest : Text) : Ends (ofChar ',' :: rest) := ends_cons (by decide) rest

/-- White space ends a number. -/
theorem Gap.ends_append {gap rest : Text} (h : Gap gap) (hrest : Ends rest) :
    Ends (gap ++ rest) := by
  cases gap with
  | nil => exact hrest
  | cons c gap =>
    have hc := h c List.mem_cons_self
    refine ends_cons ⟨?_, ?_, ?_, ?_⟩ _
    · simp only [isSpace, Bool.or_eq_true, decide_eq_true_eq] at hc
      simp only [CodePoint.isAsciiDigit, Bool.and_eq_false_iff, decide_eq_false_iff_not]
      omega
    all_goals
      rintro rfl
      exact absurd hc (by decide)

theorem skipSpace_gap_cons {gap : Text} (h : Gap gap) {c : CodePoint} (hc : isSpace c = false)
    (rest : Text) : skipSpace (gap ++ c :: rest) = c :: rest := by
  rw [skipSpace_gap h, skipSpace_cons hc]

theorem readValue_quote (rest : Text) (fuel : Nat) :
    readValue none (fuel + 1) (ofChar '"' :: rest) =
      (readText (ofChar '"' :: rest) (rest.length + 1) rest).map fun x => (text x.1, x.2) := by
  rw [readValue, show word? (ofChar '"' :: rest) = none from rfl]
  simp only [if_true]
  cases readText (ofChar '"' :: rest) (rest.length + 1) rest <;> rfl

theorem readValue_bracket {rest after : Text} {d : CodePoint} (hrest : skipSpace rest = d :: after)
    (fuel : Nat) : readValue none (fuel + 1) (ofChar '[' :: rest) =
      if d = ofChar ']' then .ok (list [], after)
      else readItems none fuel (skipSpace rest) >>= fun x => .ok (list x.1, x.2) := by
  rw [readValue, show word? (ofChar '[' :: rest) = none from rfl, hrest]
  rfl

theorem readValue_brace {rest after : Text} {d : CodePoint} (hrest : skipSpace rest = d :: after)
    (fuel : Nat) : readValue none (fuel + 1) (ofChar '\x7b' :: rest) =
      if d = ofChar '\x7d' then .ok (object [], after)
      else readMembers none fuel (skipSpace rest) >>= fun x => .ok (object (ofMembers x.1), x.2) := by
  rw [readValue, show word? (ofChar '\x7b' :: rest) = none from rfl, hrest]
  rfl

theorem readItems_last {t rest : Text} {v : Json} {after : Text} {fuel : Nat} (hafter : Gap after)
    (h : ReadAs allowed (readValue none fuel t) (v, after ++ ofChar ']' :: rest)) :
    ReadAs allowed (readItems none (fuel + 1) t) ([v], rest) := by
  rw [readItems]
  refine h.bind (Or.inl ?_)
  simp only [skipSpace_gap_cons hafter (show isSpace (ofChar ']') = false by decide)]
  rfl

theorem readItems_more {t more rest : Text} {v : Json} {items : List Json} {after : Text}
    {fuel : Nat} (hafter : Gap after)
    (h : ReadAs allowed (readValue none fuel t) (v, after ++ ofChar ',' :: more))
    (hmore : ReadAs allowed (readItems none fuel (skipSpace more)) (items, rest)) :
    ReadAs allowed (readItems none (fuel + 1) t) (v :: items, rest) := by
  rw [readItems]
  refine h.bind ?_
  simp only [skipSpace_gap_cons hafter (show isSpace (ofChar ',') = false by decide)]
  exact hmore.bind (Or.inl rfl)

theorem readMembers_key {k key gap t : Text} (hk : SpellsText k key) (hgap : Gap gap) (fuel : Nat) :
    readMembers none (fuel + 1) (enclosed '"' '"' k ++ (gap ++ ofChar ':' :: t)) =
      readValue none fuel (skipSpace t) >>= fun x =>
        match skipSpace x.2 with
        | c :: rest =>
          if c = ofChar '\x7d' then .ok ([(key, x.1)], rest)
          else if c = ofChar ',' then
            readMembers none fuel (skipSpace rest) >>= fun y => .ok ((key, x.1) :: y.1, y.2)
          else .error (.fault .expectingComma (c :: rest))
        | [] => .error (.fault .expectingComma []) := by
  have hread : readText (ofChar '"' :: (k ++ ([ofChar '"'] ++ (gap ++ ofChar ':' :: t))))
      ((k ++ ([ofChar '"'] ++ (gap ++ ofChar ':' :: t))).length + 1)
      (k ++ ([ofChar '"'] ++ (gap ++ ofChar ':' :: t))) = .ok (key, gap ++ ofChar ':' :: t) :=
    hk.readText_eq _ _ (by rw [List.length_append]; omega)
  rw [enclosed, List.cons_append, List.append_assoc, readMembers]
  simp only [ne_eq, not_true_eq_false, if_false, hread]
  simp only [bind, Except.bind,
    skipSpace_gap_cons hgap (show isSpace (ofChar ':') = false by decide)]
  exact if_neg (not_not_intro trivial)

theorem readMembers_last {k key gap t rest : Text} {v : Json} {after : Text} {fuel : Nat}
    (hk : SpellsText k key) (hgap : Gap gap) (hafter : Gap after)
    (h : ReadAs allowed (readValue none fuel (skipSpace t)) (v, after ++ ofChar '\x7d' :: rest)) :
    ReadAs allowed (readMembers none (fuel + 1) (enclosed '"' '"' k ++ (gap ++ ofChar ':' :: t)))
      ([(key, v)], rest) := by
  rw [readMembers_key hk hgap]
  refine h.bind (Or.inl ?_)
  simp only [skipSpace_gap_cons hafter (show isSpace (ofChar '\x7d') = false by decide)]
  rfl

theorem readMembers_more {k key gap t more rest : Text} {v : Json} {members : List (Text × Json)}
    {after : Text} {fuel : Nat} (hk : SpellsText k key) (hgap : Gap gap) (hafter : Gap after)
    (h : ReadAs allowed (readValue none fuel (skipSpace t)) (v, after ++ ofChar ',' :: more))
    (hmore : ReadAs allowed (readMembers none fuel (skipSpace more)) (members, rest)) :
    ReadAs allowed (readMembers none (fuel + 1) (enclosed '"' '"' k ++ (gap ++ ofChar ':' :: t)))
      ((key, v) :: members, rest) := by
  rw [readMembers_key hk hgap]
  refine h.bind ?_
  simp only [skipSpace_gap_cons hafter (show isSpace (ofChar ',') = false by decide)]
  exact hmore.bind (Or.inl rfl)

theorem skipSpace_enclosed {gap rest : Text} (h : Gap gap) {opening closing : Char} {t : Text}
    (hopening : isSpace (ofChar opening) = false) :
    skipSpace (gap ++ (enclosed opening closing t ++ rest)) = enclosed opening closing t ++ rest :=
  skipSpace_gap_cons h hopening _

theorem Spells.skipSpace_eq {t gap : Text} {v : Json} (h : Spells allowed t v) (hgap : Gap gap)
    (rest : Text) : skipSpace (gap ++ (t ++ rest)) = t ++ rest := by
  obtain ⟨c, more, rfl, hstart⟩ := h.exists_head
  simp only [isStart, Bool.and_eq_true, Bool.not_eq_true'] at hstart
  exact skipSpace_gap_cons hgap hstart.1.1 _

theorem SpellsItems.exists_head {t : Text} {items : List Json} (h : SpellsItems allowed t items)
    (rest : Text) : ∃ c more, skipSpace (t ++ rest) = c :: more ∧ isStart c = true := by
  have hpart : ∀ {t : Text} {v : Json}, SpellsPart allowed t v → ∀ rest : Text,
      ∃ c more, skipSpace (t ++ rest) = c :: more ∧ isStart c = true := by
    rintro t v ⟨hbefore, hspells, _⟩ rest
    rw [List.append_assoc, List.append_assoc, hspells.skipSpace_eq hbefore]
    obtain ⟨c, more, rfl, hstart⟩ := hspells.exists_head
    exact ⟨c, _, rfl, hstart⟩
  cases h with
  | last h => exact hpart h rest
  | more h _ =>
    rw [List.append_assoc]
    exact hpart h _

theorem SpellsMembers.exists_head {t : Text} {members : List (Text × Json)}
    (h : SpellsMembers allowed t members) (rest : Text) :
    ∃ more, skipSpace (t ++ rest) = ofChar '"' :: more := by
  have hmember : ∀ {t : Text} {m : Text × Json}, SpellsMember allowed t m → ∀ rest : Text,
      ∃ more, skipSpace (t ++ rest) = ofChar '"' :: more := by
    rintro t m ⟨hbefore, _, _, _⟩ rest
    rw [List.append_assoc, List.append_assoc, skipSpace_enclosed hbefore (by decide)]
    exact ⟨_, rfl⟩
  cases h with
  | last h => exact hmember h rest
  | more h _ =>
    rw [List.append_assoc]
    exact hmember h _

mutual

/-- **A spelled value is read**, and what follows it is left. -/
theorem Spells.readAs {t : Text} {v : Json} : Spells allowed t v → ∀ (fuel : Nat) (rest : Text),
    t.length ≤ fuel → Ends rest → ReadAs allowed (readValue none fuel (t ++ rest)) (v, rest)
  | .null, fuel + 1, rest, _, _ => Or.inl rfl
  | .bool true, fuel + 1, rest, _, _ => Or.inl rfl
  | .bool false, fuel + 1, rest, _, _ => Or.inl rfl
  | .whole hallowed, fuel + 1, rest, _, hrest => readAs_ofInt hrest hallowed fuel
  | .text h, fuel + 1, rest, _, _ => by
    refine Or.inl ?_
    rw [enclosed, List.cons_append, List.append_assoc, readValue_quote, List.singleton_append,
      h.readText_eq _ _ (by rw [List.length_append]; omega)]
    rfl
  | .emptyList h, fuel + 1, rest, _, _ => by
    have hskip := skipSpace_gap_cons h (show isSpace (ofChar ']') = false by decide) rest
    refine Or.inl ?_
    rw [enclosed, List.cons_append, List.append_assoc, List.singleton_append,
      readValue_bracket hskip, if_pos rfl]
  | .list h, fuel + 1, rest, hfuel, _ => by
    -- the brackets pay for the step into the items
    rw [enclosed, List.length_cons, List.length_append, List.length_singleton] at hfuel
    obtain ⟨c, more, hskip, hstart⟩ := h.exists_head (ofChar ']' :: rest)
    have hne : c ≠ ofChar ']' := by
      rintro rfl
      exact absurd hstart (by decide)
    rw [enclosed, List.cons_append, List.append_assoc, List.singleton_append,
      readValue_bracket hskip, if_neg hne]
    exact (h.readAs fuel rest (by omega)).bind (Or.inl rfl)
  | .emptyObject h, fuel + 1, rest, _, _ => by
    have hskip := skipSpace_gap_cons h (show isSpace (ofChar '\x7d') = false by decide) rest
    refine Or.inl ?_
    rw [enclosed, List.cons_append, List.append_assoc, List.singleton_append,
      readValue_brace hskip, if_pos rfl]
  | .object h, fuel + 1, rest, hfuel, _ => by
    rw [enclosed, List.length_cons, List.length_append, List.length_singleton] at hfuel
    obtain ⟨more, hskip⟩ := h.exists_head (ofChar '\x7d' :: rest)
    rw [enclosed, List.cons_append, List.append_assoc, List.singleton_append,
      readValue_brace hskip, if_neg (by decide)]
    exact (h.readAs fuel rest (by omega)).bind (Or.inl rfl)
  | h, 0, rest, hfuel, _ => by
    -- no value is spelled by the empty text
    obtain ⟨c, more, rfl, _⟩ := h.exists_head
    exact absurd hfuel (Nat.not_succ_le_zero _)

theorem SpellsPart.readAs {t : Text} {v : Json} : SpellsPart allowed t v →
    ∀ (fuel : Nat) (rest : Text), t.length ≤ fuel → Ends rest →
      ∃ after, Gap after ∧ ReadAs allowed (readValue none fuel (skipSpace (t ++ rest)))
        (v, after ++ rest)
  | .mk hbefore h hafter, fuel, rest, hfuel, hrest => by
    rw [List.length_append, List.length_append] at hfuel
    refine ⟨_, hafter, ?_⟩
    rw [List.append_assoc, List.append_assoc, h.skipSpace_eq hbefore]
    exact h.readAs fuel _ (by omega) (hafter.ends_append hrest)

theorem SpellsItems.readAs {t : Text} {items : List Json} : SpellsItems allowed t items →
    ∀ (fuel : Nat) (rest : Text), t.length < fuel →
      ReadAs allowed (readItems none fuel (skipSpace (t ++ ofChar ']' :: rest))) (items, rest)
  | .last h, fuel + 1, rest, hfuel => by
    obtain ⟨after, hafter, hread⟩ := h.readAs fuel (ofChar ']' :: rest) (by omega)
      (ends_cons (by decide) rest)
    exact readItems_last hafter hread
  | .more h hs, fuel + 1, rest, hfuel => by
    rw [List.length_append, List.length_cons] at hfuel
    rw [List.append_assoc, List.cons_append]
    obtain ⟨after, hafter, hread⟩ := h.readAs fuel _ (by omega) (ends_comma _)
    exact readItems_more hafter hread (hs.readAs fuel rest (by omega))

theorem SpellsMembers.readAs {t : Text} {members : List (Text × Json)} :
    SpellsMembers allowed t members → ∀ (fuel : Nat) (rest : Text), t.length < fuel →
      ReadAs allowed (readMembers none fuel (skipSpace (t ++ ofChar '\x7d' :: rest))) (members, rest)
  | .last (.mk hbefore hk hgap h), fuel + 1, rest, hfuel => by
    simp only [List.length_append, List.length_cons] at hfuel
    obtain ⟨after, hafter, hread⟩ := h.readAs fuel (ofChar '\x7d' :: rest) (by omega)
      (ends_cons (by decide) rest)
    rw [List.append_assoc, List.append_assoc, List.append_assoc, List.cons_append,
      skipSpace_enclosed hbefore (by decide)]
    exact readMembers_last hk hgap hafter hread
  | .more (.mk hbefore hk hgap h) hs, fuel + 1, rest, hfuel => by
    simp only [List.length_append, List.length_cons] at hfuel
    rw [List.append_assoc, List.append_assoc, List.append_assoc, List.append_assoc,
      List.cons_append, List.cons_append, skipSpace_enclosed hbefore (by decide)]
    obtain ⟨after, hafter, hread⟩ := h.readAs fuel _ (by omega) (ends_comma _)
    exact readMembers_more hk hgap hafter hread (hs.readAs fuel rest (by omega))

end

/-- **A text that spells a value is read as the value**, unless a number in it is too long. -/
theorem Spells.read_eq {t : Text} {v : Json} (h : Spells allowed t v) :
    read t = .ok v ∨ ∃ n e, allowed n ∧ TooLong n ∧ read t = .error (.numeral e) := by
  obtain ⟨c, more, hc, hstart⟩ := h.exists_head
  have hmark : t.head? ≠ some mark := by
    rw [hc, List.head?_cons, ne_eq, Option.some.injEq]
    rintro rfl
    exact absurd hstart (by decide)
  have hskip := h.skipSpace_eq (List.forall_mem_nil _) []
  have hvalue := h.readAs (2 * t.length + 2) [] (by omega) nofun
  rw [List.nil_append, List.append_nil] at hskip
  rw [List.append_nil] at hvalue
  rw [read, readWithin, if_neg hmark, hskip]
  rcases hvalue with hread | ⟨n, e, hn, hlong, hread⟩
  · rw [hread]
    exact Or.inl rfl
  · rw [hread]
    exact Or.inr ⟨n, e, hn, hlong, rfl⟩

/-- If no number is too long, the value is read. -/
theorem Spells.read_eq_ok {t : Text} {v : Json} (h : Spells allowed t v)
    (hallowed : ∀ n, allowed n → ¬ TooLong n) : read t = .ok v := by
  rcases h.read_eq with hread | ⟨n, e, hn, hlong, _⟩
  · exact hread
  · exact absurd hlong (hallowed n hn)

/-- What is read is the value that is spelled. -/
theorem Spells.eq_of_read {t : Text} {v v' : Json} (h : Spells allowed t v)
    (hread : read t = .ok v') :
    v = v' := by
  rcases h.read_eq with hvalue | ⟨n, e, _, _, herror⟩
  · exact Except.ok.inj (hvalue.symm.trans hread)
  · cases herror.symm.trans hread

end Json

end PullNotes
