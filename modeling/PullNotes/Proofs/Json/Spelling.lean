import PullNotes.Proofs.Digits
import PullNotes.Proofs.Surrogates

/-!
# Spellings of JSON values

What a JSON text means, said without the reader.  A code point of a text between quotes stands for
itself, or is escaped by a letter, by its number, or by the numbers of a surrogate pair; a value has
white space around its parts.  Two escapes that are the halves of a pair spell one code point, never
two.  Not spelled are numbers that are not whole.

* `Json.SpellsText` : the content of a text between quotes.
* `Json.Spells` : the value of a text, with the whole numbers that are allowed in it.
* `Json.Spells.visible` : such a text has no control characters but white space.
-/

namespace PullNotes

namespace Json

open CodePoint (ofChar)

/-! ### Texts -/

/-- A text between an opening and a closing character. -/
def enclosed (opening closing : Char) (t : Text) : Text := ofChar opening :: (t ++ [ofChar closing])

/-- Four hexadecimal digits, letters in either case, spell a number. -/
def SpellsNumber (digits : Text) (n : Nat) : Prop := n < 0x10000 ∧ digits.asciiLower = Text.hex 4 n

/-- The letters after a backslash and what they stand for. -/
def letters : List (Char × Char) := [('"', '"'), ('\\', '\\'), ('/', '/'), ('b', '\x08'),
  ('f', '\x0c'), ('n', '\n'), ('r', '\r'), ('t', '\t')]

/-- A text that spells a code point between quotes. -/
inductive SpellsPoint : Text → CodePoint → Prop where
  | plain {c : CodePoint} : 32 ≤ c.val → c ≠ ofChar '"' → c ≠ ofChar '\\' →
      c.isSurrogate = false → SpellsPoint [c] c
  | lettered {letter c : Char} : (letter, c) ∈ letters →
      SpellsPoint [ofChar '\\', ofChar letter] (ofChar c)
  | numbered {digits : Text} {c : CodePoint} : SpellsNumber digits c.val →
      SpellsPoint (ofChar '\\' :: ofChar 'u' :: digits) c
  | paired {high low : Text} {c : CodePoint} : 0x10000 ≤ c.val →
      SpellsNumber high (0xD800 + (c.val - 0x10000) / 1024) →
      SpellsNumber low (0xDC00 + (c.val - 0x10000) % 1024) →
      SpellsPoint (ofChar '\\' :: ofChar 'u' :: (high ++ ofChar '\\' :: ofChar 'u' :: low)) c

/-- A text that spells a content between quotes; no surrogate pair of the content is in two halves.
-/
inductive SpellsText : Text → Text → Prop where
  | nil : SpellsText [] []
  | cons {s t content : Text} {c : CodePoint} : SpellsPoint s c → SpellsText t content →
      Text.Apart c content → SpellsText (s ++ t) (c :: content)

/-! ### Values -/

/-- White space that may stand around the parts of a value. -/
def Gap (t : Text) : Prop := ∀ c ∈ t, isSpace c = true

mutual

/-- A text that spells a value with no other whole numbers than those allowed. -/
inductive Spells (allowed : Int → Prop) : Text → Json → Prop where
  | null : Spells allowed "null" .null
  | bool (b : Bool) : Spells allowed (if b then "true" else "false") (.bool b)
  | whole {n : Int} : allowed n → Spells allowed (Text.ofInt n) (.whole n)
  | text {t content : Text} : SpellsText t content →
      Spells allowed (enclosed '"' '"' t) (.text content)
  | emptyList {gap : Text} : Gap gap → Spells allowed (enclosed '[' ']' gap) (.list [])
  | list {t : Text} {items : List Json} : SpellsItems allowed t items →
      Spells allowed (enclosed '[' ']' t) (.list items)
  | emptyObject {gap : Text} : Gap gap → Spells allowed (enclosed '\x7b' '\x7d' gap) (.object [])
  | object {t : Text} {members : List (Text × Json)} : SpellsMembers allowed t members →
      Spells allowed (enclosed '\x7b' '\x7d' t) (.object (ofMembers members))

/-- A text that spells a value within white space. -/
inductive SpellsPart (allowed : Int → Prop) : Text → Json → Prop where
  | mk {before t after : Text} {v : Json} : Gap before → Spells allowed t v → Gap after →
      SpellsPart allowed (before ++ (t ++ after)) v

/-- A text that spells values with commas between them. -/
inductive SpellsItems (allowed : Int → Prop) : Text → List Json → Prop where
  | last {t : Text} {v : Json} : SpellsPart allowed t v → SpellsItems allowed t [v]
  | more {t ts : Text} {v : Json} {items : List Json} : SpellsPart allowed t v →
      SpellsItems allowed ts items → SpellsItems allowed (t ++ ofChar ',' :: ts) (v :: items)

/-- A text that spells a member. -/
inductive SpellsMember (allowed : Int → Prop) : Text → Text × Json → Prop where
  | mk {before k after t key : Text} {v : Json} : Gap before → SpellsText k key → Gap after →
      SpellsPart allowed t v →
      SpellsMember allowed (before ++ (enclosed '"' '"' k ++ (after ++ ofChar ':' :: t))) (key, v)

/-- A text that spells members with commas between them. -/
inductive SpellsMembers (allowed : Int → Prop) : Text → List (Text × Json) → Prop where
  | last {t : Text} {m : Text × Json} : SpellsMember allowed t m → SpellsMembers allowed t [m]
  | more {t ts : Text} {m : Text × Json} {members : List (Text × Json)} : SpellsMember allowed t m →
      SpellsMembers allowed ts members →
      SpellsMembers allowed (t ++ ofChar ',' :: ts) (m :: members)

end

/-! ### What such a text holds -/

/-- A code point that a JSON text may hold: no control character but white space. -/
def isVisible (c : CodePoint) : Bool := 32 ≤ c.val || isSpace c

/-- A text of such code points. -/
def Visible (t : Text) : Prop := ∀ c ∈ t, isVisible c = true

theorem isVisible_of_le {c : CodePoint} (h : 32 ≤ c.val) : isVisible c = true := by
  rw [isVisible, decide_eq_true h, Bool.true_or]

theorem Visible.cons {c : CodePoint} {t : Text} (hc : isVisible c = true) (ht : Visible t) :
    Visible (c :: t) :=
  List.forall_mem_cons.2 ⟨hc, ht⟩

theorem Visible.append {s t : Text} (hs : Visible s) (ht : Visible t) : Visible (s ++ t) :=
  List.forall_mem_append.2 ⟨hs, ht⟩

theorem Visible.enclosed {opening closing : Char} {t : Text} (h : Visible t)
    (hopening : isVisible (ofChar opening) = true) (hclosing : isVisible (ofChar closing) = true) :
    Visible (enclosed opening closing t) :=
  .cons hopening (h.append (List.forall_mem_singleton.2 hclosing))

theorem Gap.visible {t : Text} (h : Gap t) : Visible t := by
  intro c hc
  rw [isVisible, h c hc, Bool.or_true]

theorem visible_of_isAsciiDigit {c : CodePoint} (h : c.isAsciiDigit = true) :
    isVisible c = true := by
  simp only [CodePoint.isAsciiDigit, Bool.and_eq_true, decide_eq_true_eq] at h
  exact isVisible_of_le (by omega)

theorem visible_ofInt (n : Int) : Visible (Text.ofInt n) := by
  have hdigits : ∀ m, Visible (Text.ofNat m) := fun m c hc =>
    visible_of_isAsciiDigit (Text.isAsciiDigit_of_mem_ofNat m c hc)
  cases n with
  | ofNat n => exact hdigits n
  | negSucc n => exact .cons (by decide) (hdigits _)

theorem SpellsNumber.visible {digits : Text} {n : Nat} (h : SpellsNumber digits n) :
    Visible digits := by
  intro c hc
  by_cases hupper : c.isAsciiUpper = true
  · simp only [CodePoint.isAsciiUpper, Bool.and_eq_true, decide_eq_true_eq] at hupper
    exact isVisible_of_le (by omega)
  · have hmem : c ∈ Text.hex 4 n := by
      rw [← h.2, Text.asciiLower]
      exact List.mem_map.2 ⟨c, hc, dif_neg hupper⟩
    rw [Text.hex_four h.1] at hmem
    have hdigit : ∀ d < 16, isVisible (CodePoint.digit d) = true := by decide
    have hn := h.1
    simp only [List.mem_cons, List.not_mem_nil, or_false] at hmem
    rcases hmem with rfl | rfl | rfl | rfl <;> exact hdigit _ (by omega)

theorem SpellsPoint.visible {s : Text} {c : CodePoint} (h : SpellsPoint s c) : Visible s := by
  have hletter : ∀ x ∈ letters, isVisible (ofChar x.1) = true := by decide
  cases h with
  | plain hcontrol _ _ _ => exact List.forall_mem_singleton.2 (isVisible_of_le hcontrol)
  | lettered hmem =>
    exact .cons (by decide) (List.forall_mem_singleton.2 (hletter _ hmem))
  | numbered hdigits => exact .cons (by decide) (.cons (by decide) hdigits.visible)
  | paired _ hhigh hlow =>
    exact .cons (by decide) (.cons (by decide)
      (hhigh.visible.append (.cons (by decide) (.cons (by decide) hlow.visible))))

theorem SpellsText.visible {t content : Text} (h : SpellsText t content) : Visible t := by
  induction h with
  | nil => exact List.forall_mem_nil _
  | cons hpoint _ _ ih => exact hpoint.visible.append ih

variable {allowed : Int → Prop}

mutual

/-- **A text that spells a value has no control characters** but the white space of JSON. -/
theorem Spells.visible {t : Text} {v : Json} : Spells allowed t v → Visible t
  | .null => List.all_eq_true.1 (show (Text.ofString "null").all isVisible = true by decide)
  | .bool true => List.all_eq_true.1 (show (Text.ofString "true").all isVisible = true by decide)
  | .bool false => List.all_eq_true.1 (show (Text.ofString "false").all isVisible = true by decide)
  | .whole _ => visible_ofInt _
  | .text h => h.visible.enclosed (by decide) (by decide)
  | .emptyList h => h.visible.enclosed (by decide) (by decide)
  | .list h => h.visible.enclosed (by decide) (by decide)
  | .emptyObject h => h.visible.enclosed (by decide) (by decide)
  | .object h => h.visible.enclosed (by decide) (by decide)

theorem SpellsPart.visible {t : Text} {v : Json} : SpellsPart allowed t v → Visible t
  | .mk hbefore h hafter => hbefore.visible.append (h.visible.append hafter.visible)

theorem SpellsItems.visible {t : Text} {items : List Json} : SpellsItems allowed t items → Visible t
  | .last h => h.visible
  | .more h hs => h.visible.append (.cons (by decide) hs.visible)

theorem SpellsMember.visible {t : Text} {m : Text × Json} : SpellsMember allowed t m → Visible t
  | .mk hbefore hk hafter h => hbefore.visible.append
      ((hk.visible.enclosed (by decide) (by decide)).append
        (hafter.visible.append (.cons (by decide) h.visible)))

theorem SpellsMembers.visible {t : Text} {members : List (Text × Json)} :
    SpellsMembers allowed t members → Visible t
  | .last h => h.visible
  | .more h hs => h.visible.append (.cons (by decide) hs.visible)

end

/-! ### How such a text starts -/

/-- A code point that starts no value and stands neither before nor after one. -/
def isStart (c : CodePoint) : Bool := !isSpace c && c != ofChar ']' && c != mark

theorem exists_head_ofInt (n : Int) : ∃ c rest, Text.ofInt n = c :: rest ∧
    (c = ofChar '-' ∨ c.isAsciiDigit = true) := by
  cases n with
  | ofNat n =>
    cases h : Text.ofNat n with
    | nil => exact absurd h (Text.ofNat_ne_nil n)
    | cons c rest =>
      exact ⟨c, rest, h, Or.inr (Text.isAsciiDigit_of_mem_ofNat n c (h ▸ List.mem_cons_self))⟩
  | negSucc n => exact ⟨ofChar '-', Text.ofNat (n + 1), rfl, Or.inl rfl⟩

theorem isStart_of_isAsciiDigit {c : CodePoint} (h : c.isAsciiDigit = true) : isStart c = true := by
  simp only [CodePoint.isAsciiDigit, Bool.and_eq_true, decide_eq_true_eq] at h
  have hspace : isSpace c = false := by
    simp only [isSpace, Bool.or_eq_false_iff, decide_eq_false_iff_not]
    omega
  have hbracket : c ≠ ofChar ']' := by
    rintro rfl
    exact absurd h (by decide)
  have hmark : c ≠ mark := by
    rintro rfl
    exact absurd h (by decide)
  simp only [isStart, hspace, Bool.not_false, bne_iff_ne, Bool.and_eq_true, ne_eq, hbracket, hmark,
    not_false_eq_true, and_self]

/-- A text that spells a value starts with the value. -/
theorem Spells.exists_head {t : Text} {v : Json} (h : Spells allowed t v) :
    ∃ c rest, t = c :: rest ∧ isStart c = true := by
  cases h with
  | null => exact ⟨_, _, rfl, by decide⟩
  | bool b => cases b <;> exact ⟨_, _, rfl, by decide⟩
  | whole _ =>
    obtain ⟨c, rest, hc, hstart⟩ := exists_head_ofInt _
    refine ⟨c, rest, hc, ?_⟩
    rcases hstart with rfl | hdigit
    · decide
    · exact isStart_of_isAsciiDigit hdigit
  | text _ => exact ⟨_, _, rfl, by decide⟩
  | emptyList _ => exact ⟨_, _, rfl, by decide⟩
  | list _ => exact ⟨_, _, rfl, by decide⟩
  | emptyObject _ => exact ⟨_, _, rfl, by decide⟩
  | object _ => exact ⟨_, _, rfl, by decide⟩

end Json

end PullNotes
