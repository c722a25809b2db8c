import Mathlib.Data.List.TakeWhile
import PullNotes.Source.Lexeme

/-!
# Names and string literals

What a name and the content of a string literal are, said without the readers, and what the lexemes
take of them.  A lexeme is the longest one possible, so it may take more than one part of a content
at once: a run of characters, or an escape sequence and the digits after it.

* `IsName`, `IsName.length_eq` : a name is taken as a whole.
* `StringBody`, `StringBody.exists_run` : the content of a string literal is taken run by run.
-/

namespace PullNotes

namespace Source

namespace Lexeme

/-! ### Escapes -/

/-- The number of a character: four hexadecimal digits, or any number of them in braces. -/
inductive CharNumber : List Char → Prop where
  | four {hex : List Char} : hex.length = 4 → (∀ c ∈ hex, isHex c = true) → CharNumber hex
  | braced {hex : List Char} : hex ≠ [] → (∀ c ∈ hex, isHex c = true) →
      CharNumber ('\x7b' :: (hex ++ ['\x7d']))

variable {cs number u : List Char}

theorem hexDigits_append {n : Nat} {hex : List Char} (hlength : hex.length = n)
    (hhex : ∀ c ∈ hex, isHex c = true) (u : List Char) : hexDigits n (hex ++ u) = n := by
  subst hlength
  have hall : hex.all isHex = true := List.all_eq_true.2 hhex
  simp [hexDigits, hall]

theorem bracedHex_append {hex : List Char} (hne : hex ≠ []) (hhex : ∀ c ∈ hex, isHex c = true)
    (u : List Char) : bracedHex ('\x7b' :: (hex ++ '\x7d' :: u)) = hex.length + 2 := by
  have hrun : (hex ++ '\x7d' :: u).takeWhile isHex = hex := by
    rw [List.takeWhile_append_of_pos hhex, List.takeWhile_cons_of_neg (by decide), List.append_nil]
  have hlength : hex.length ≠ 0 := fun h => hne (List.length_eq_zero_iff.1 h)
  simp [bracedHex, hrun, hlength]

theorem bracedHex_of_isHex {hex : List Char} (h : ∀ c, hex.head? = some c → isHex c = true) :
    bracedHex hex = 0 := by
  unfold bracedHex
  split
  · exact absurd (h _ rfl) (by decide)
  · rfl

/-- What is taken of the number of a character. -/
theorem CharNumber.length_eq (h : CharNumber number) (u : List Char) :
    (bracedHex (number ++ u) = number.length ∧ number.length ≠ 0) ∨
      (bracedHex (number ++ u) = 0 ∧ hexDigits 4 (number ++ u) = number.length ∧
        number.length = 4) := by
  cases h with
  | four hlength hhex =>
    refine Or.inr ⟨bracedHex_of_isHex fun c hc => ?_, ?_, hlength⟩
    · cases number with
      | nil => cases hlength
      | cons d number =>
        obtain rfl : d = c := Option.some.inj hc
        exact hhex d List.mem_cons_self
    · rw [hexDigits_append hlength hhex, hlength]
  | @braced hex hne hhex =>
    refine Or.inl ⟨?_, by simp⟩
    have happend : '\x7b' :: (hex ++ ['\x7d']) ++ u = '\x7b' :: (hex ++ '\x7d' :: u) := by simp
    rw [happend, bracedHex_append hne hhex]
    simp

/-! ### Names -/

/-- The characters that continue a name, some of them written by their number. -/
inductive NameRest : List Char → Prop where
  | nil : NameRest []
  | plain {c : Char} {cs : List Char} : isNamePart c = true → NameRest cs → NameRest (c :: cs)
  | numbered {number cs : List Char} : CharNumber number → NameRest cs →
      NameRest ('\\' :: 'u' :: (number ++ cs))

/-- A name does not go on with a text. -/
def EndsName (u : List Char) : Prop :=
  ∀ c, u.head? = some c → isNamePart c = false ∧ c ≠ '\\'

theorem nameRest_known (known : Nat) {front : List Char} (h : front.length = known)
    (u : List Char) : nameRest known (front ++ u) = known + nameRest 0 u := by
  induction known generalizing front with
  | zero =>
    rw [List.length_eq_zero_iff.1 h, List.nil_append, Nat.zero_add]
  | succ known ih =>
    cases front with
    | nil => cases h
    | cons c front =>
      rw [List.cons_append, nameRest, ih (Nat.succ.inj h)]
      omega

theorem nameRest_of_endsName (h : EndsName u) : nameRest 0 u = 0 := by
  cases u with
  | nil => rfl
  | cons c u =>
    obtain ⟨hpart, hslash⟩ := h c rfl
    have hescape : nameEscape (c :: u) = 0 := by
      unfold nameEscape
      split
      · next heq => exact absurd (List.cons.inj heq).1 hslash
      · rfl
    rw [nameRest, hpart, if_neg Bool.false_ne_true, hescape]

theorem nameEscape_number (h : CharNumber number) (u : List Char) :
    nameEscape ('\\' :: 'u' :: (number ++ u)) = number.length + 2 := by
  rw [nameEscape]
  rcases h.length_eq u with ⟨hbraced, hne⟩ | ⟨hbraced, hfour, hlength⟩
  · simp only [hbraced, if_pos hne]
  · simp only [hbraced, hfour, hlength]
    rfl

theorem NameRest.length_eq (h : NameRest cs) (hu : EndsName u) :
    nameRest 0 (cs ++ u) = cs.length := by
  induction h with
  | nil => exact nameRest_of_endsName hu
  | plain hpart _ ih =>
    rw [List.cons_append, nameRest, if_pos hpart, ih, List.length_cons, Nat.add_comm]
  | @numbered number cs hnumber _ ih =>
    have happend : '\\' :: 'u' :: (number ++ cs) ++ u = '\\' :: 'u' :: (number ++ (cs ++ u)) := by
      simp
    have hfront : ('u' :: (number ++ (cs ++ u))) = ('u' :: number) ++ (cs ++ u) := rfl
    rw [happend, nameRest, if_neg (by decide), nameEscape_number hnumber]
    dsimp only
    rw [hfront, nameRest_known _ (by simp), ih]
    simp
    omega

theorem name_of_endsName (h : EndsName u) : name u = 0 := by
  cases u with
  | nil => rfl
  | cons c u =>
    rw [name, nameRest_of_endsName h]
    split <;> rfl

theorem NameRest.of_all (h : cs.all isNamePart = true) : NameRest cs := by
  induction cs with
  | nil => exact .nil
  | cons c cs ih =>
    obtain ⟨hc, hcs⟩ := Bool.and_eq_true_iff.1 h
    exact .plain hc (ih hcs)

/-- A name starts with anything that continues one but a digit. -/
structure IsName (cs : List Char) : Prop where
  rest : NameRest cs
  ne_nil : cs ≠ []
  not_isDigit : ∀ c, cs.head? = some c → c.isDigit = false

theorem IsName.of_all (h : cs.all isNamePart = true)
    (hhead : (cs.head?.any fun c => !c.isDigit) = true) : IsName cs where
  rest := .of_all h
  ne_nil := by
    rintro rfl
    cases hhead
  not_isDigit c hc := by
    rw [hc] at hhead
    simpa using hhead

/-- **A name is taken as a whole.** -/
theorem IsName.length_eq (h : IsName cs) (hu : EndsName u) : name (cs ++ u) = cs.length := by
  obtain ⟨hrest, hne, hdigit⟩ := h
  cases cs with
  | nil => exact absurd rfl hne
  | cons c cs =>
    rw [List.cons_append, name, hdigit c rfl, if_neg Bool.false_ne_true]
    exact hrest.length_eq hu

/-- The first character of a name is part of names, or a backslash. -/
theorem IsName.exists_head (h : IsName cs) : ∃ c rest, cs = c :: rest ∧
    (isNamePart c = true ∨ c = '\\') := by
  obtain ⟨hrest, hne, -⟩ := h
  cases hrest with
  | nil => exact absurd rfl hne
  | plain hpart _ => exact ⟨_, _, rfl, Or.inl hpart⟩
  | numbered _ _ => exact ⟨_, _, rfl, Or.inr rfl⟩

/-! ### Symbols -/

/-- What holds of the characters of a list, decided for these alone. -/
theorem forall_mem_of_all {p : Char → Prop} [DecidablePred p]
    (h : (cs.all fun c => decide (p c)) = true) : ∀ c ∈ cs, p c := fun c hc =>
  of_decide_eq_true (List.all_eq_true.1 h c hc)

/-- No long symbol starts with a character. -/
theorem find?_longSymbols {c : Char} (h : ∀ s ∈ longSymbols, s.head? ≠ some c) (u : List Char) :
    longSymbols.find? (fun s => s.isPrefixOf (c :: u)) = none := by
  refine List.find?_eq_none.2 fun s hs => ?_
  have hsome : ∀ s ∈ longSymbols, s ≠ [] := by decide
  cases s with
  | nil => exact absurd rfl (hsome [] hs)
  | cons e s =>
    have hne : e ≠ c := fun heq => h _ hs (congrArg some heq)
    simp [hne]

theorem symbol_cons {c : Char} (hc : c ∉ shortSymbols) (u : List Char) : symbol (c :: u) = [] := by
  -- the first character of every symbol is a symbol of its own
  have hheads : ∀ s ∈ longSymbols, s.head?.all shortSymbols.contains = true := by decide
  have hlong : ∀ s ∈ longSymbols, s.head? ≠ some c := by
    intro s hs heq
    have hhead := hheads s hs
    rw [heq] at hhead
    exact hc (List.contains_iff_mem.1 hhead)
  unfold symbol
  split
  · next heq =>
    rw [(List.cons.inj heq).1] at hc
    exact absurd (by decide) hc
  · rw [find?_longSymbols hlong]
    simp [hc]

/-- A symbol is the start of the text. -/
theorem symbol_prefix (u : List Char) : symbol u <+: u := by
  unfold symbol
  split
  · split
    · exact ⟨_, rfl⟩
    · exact ⟨_, rfl⟩
  · split
    · next s hs =>
      have hprefix := List.find?_some hs
      exact List.isPrefixOf_iff_prefix.1 hprefix
    · cases u with
      | nil => exact List.nil_prefix
      | cons c u =>
        rw [List.head?_cons, Option.filter_some]
        split
        · exact ⟨u, rfl⟩
        · exact List.nil_prefix

/-- A symbol of one character that no longer symbol goes on with what follows. -/
theorem symbol_alone {c : Char} (hc : c ∈ shortSymbols) (hne : c ≠ '?')
    (hu : ∀ s ∈ longSymbols, s.head? = some c → s.tail.head? ≠ u.head?) : symbol (c :: u) = [c] := by
  have hlong : ∀ s ∈ longSymbols, s ≠ [] ∧ s.tail ≠ [] := by decide
  have hnone : longSymbols.find? (fun s => s.isPrefixOf (c :: u)) = none := by
    refine List.find?_eq_none.2 fun s hs hprefix => ?_
    obtain ⟨t, ht⟩ := List.isPrefixOf_iff_prefix.1 hprefix
    obtain ⟨e, s, rfl⟩ := List.exists_cons_of_ne_nil (hlong s hs).1
    obtain ⟨e', s, rfl⟩ := List.exists_cons_of_ne_nil (hlong _ hs).2
    obtain ⟨rfl, rfl⟩ := List.cons.inj ht
    exact hu _ hs rfl rfl
  unfold symbol
  split
  · next heq => exact absurd (List.cons.inj heq).1 hne
  · rw [hnone]
    simp [hc]

/-- The symbols of one character that no longer symbol starts with. -/
def singleMarks : List Char := ['\x7b', '\x7d', '(', ')', ':', ',', ';']

theorem symbol_mark {c : Char} (hc : c ∈ singleMarks) (u : List Char) : symbol (c :: u) = [c] := by
  have hshort : ∀ c ∈ singleMarks, c ∈ shortSymbols ∧ c ≠ '?' ∧
      ∀ s ∈ longSymbols, s.head? ≠ some c := forall_mem_of_all (by decide)
  obtain ⟨hmem, hne, hlong⟩ := hshort c hc
  exact symbol_alone hmem hne fun s hs hhead => absurd hhead (hlong s hs)

theorem isNamePart_eq_false {c : Char} (hc : c ∈ marks) : isNamePart c = false := by
  simp [isNamePart, hc]

theorem EndsName.cons {c : Char} (hc : c ∈ marks) (hslash : c ≠ '\\') (u : List Char) :
    EndsName (c :: u) := by
  intro e he
  obtain rfl : c = e := Option.some.inj he
  exact ⟨isNamePart_eq_false hc, hslash⟩

/-- No symbol starts where a name starts. -/
theorem symbol_of_isNamePart {c : Char} (hc : isNamePart c = true ∨ c = '\\') (u : List Char) :
    symbol (c :: u) = [] := by
  refine symbol_cons (fun hmem => ?_) u
  have hmarks : ∀ c ∈ shortSymbols, c ∈ marks ∧ c ≠ '\\' := forall_mem_of_all (by decide)
  obtain ⟨hmark, hne⟩ := hmarks c hmem
  rcases hc with hc | hc
  · rw [isNamePart_eq_false hmark] at hc
    cases hc
  · exact hne hc

theorem isNamePart_of_name {c : Char} (h : name (c :: u) ≠ 0) : isNamePart c = true ∨ c = '\\' := by
  by_contra hno
  obtain ⟨hpart, hslash⟩ := not_or.1 hno
  refine h (name_of_endsName fun e he => ?_)
  obtain rfl : c = e := Option.some.inj he
  exact ⟨Bool.not_eq_true _ ▸ hpart, hslash⟩

/-- No symbol starts where there is a name. -/
theorem symbol_of_name (h : name u ≠ 0) : symbol u = [] := by
  cases u with
  | nil => exact absurd rfl h
  | cons c u => exact symbol_of_isNamePart (isNamePart_of_name h) u

/-! ### Strings -/

/-- An escape sequence of a string literal.  Further digits of an octal one count as characters. -/
inductive IsEscape : List Char → Prop where
  | single {c : Char} : c ≠ 'x' → c ≠ 'u' → IsEscape ['\\', c]
  | lineEnd : IsEscape ['\\', '\r', '\n']
  | two {hex : List Char} : hex.length = 2 → (∀ c ∈ hex, isHex c = true) →
      IsEscape ('\\' :: 'x' :: hex)
  | numbered {number : List Char} : CharNumber number → IsEscape ('\\' :: 'u' :: number)

/-- A character of a string literal that stands for itself. -/
def IsPlain (quote c : Char) : Prop := c ≠ quote ∧ c ≠ '\\' ∧ c ≠ '\n' ∧ c ≠ '\r'

instance (quote c : Char) : Decidable (IsPlain quote c) := inferInstanceAs (Decidable (_ ∧ _))

/-- The content of a string literal. -/
inductive StringBody (quote : Char) : List Char → Prop where
  | nil : StringBody quote []
  | plain {c : Char} {cs : List Char} : IsPlain quote c → StringBody quote cs →
      StringBody quote (c :: cs)
  | escape {sequence cs : List Char} : IsEscape sequence → StringBody quote cs →
      StringBody quote (sequence ++ cs)

variable {quote : Char}

theorem StringBody.of_all (h : (cs.all fun c => decide (IsPlain quote c)) = true) :
    StringBody quote cs := by
  induction cs with
  | nil => exact .nil
  | cons c cs ih =>
    obtain ⟨hc, hcs⟩ := Bool.and_eq_true_iff.1 h
    exact .plain (of_decide_eq_true hc) (ih hcs)

theorem IsEscape.exists_tail {sequence : List Char} (h : IsEscape sequence) :
    ∃ tail, sequence = '\\' :: tail := by
  cases h <;> exact ⟨_, rfl⟩

/-- What follows characters that stand for themselves is a content of its own. -/
theorem StringBody.of_cons {c : Char} (h : StringBody quote (c :: cs)) (hc : c ≠ '\\') :
    StringBody quote cs := by
  generalize heq : c :: cs = whole at h
  cases h with
  | nil => cases heq
  | plain _ hrest =>
    obtain ⟨-, rfl⟩ := List.cons.inj heq
    exact hrest
  | escape hescape _ =>
    obtain ⟨tail, rfl⟩ := hescape.exists_tail
    exact absurd (List.cons.inj heq).1 hc

theorem StringBody.of_append {run : List Char} (h : StringBody quote (run ++ cs))
    (hrun : ∀ c ∈ run, c ≠ '\\') : StringBody quote cs := by
  induction run with
  | nil => exact h
  | cons c run ih =>
    obtain ⟨hc, hrun⟩ := List.forall_mem_cons.1 hrun
    exact ih (h.of_cons hc) hrun

/-- A run of characters that stand for themselves is taken as a whole. -/
theorem fragment_body (quote : Char) (cs u : List Char) :
    fragment quote (cs ++ quote :: u) = (cs.takeWhile fun c =>
      c != quote && c != '\\' && c != '\n' && c != '\r').length := by
  have hquote : ((quote :: u).takeWhile fun c =>
      c != quote && c != '\\' && c != '\n' && c != '\r') = [] :=
    List.takeWhile_cons_of_neg (by simp)
  rw [fragment, List.takeWhile_append, hquote, List.append_nil]
  split
  · next hall => rw [hall]
  · rfl

/-- The end of a line after a backslash counts as part of it. -/
def lineTail : List Char → Nat
  | d :: _ => if d = '\n' ∨ d = '\u2028' ∨ d = '\u2029' then 1 else 0
  | [] => 0

theorem escape_cons (c : Char) (u : List Char) : escape ('\\' :: c :: u) =
    if isOctal c then 1 + ((c :: u).take 3 |>.takeWhile isOctal).length
    else if c = 'x' then
      let n := hexDigits 2 u
      if n = 0 then 0 else 2 + n
    else if c = 'u' then
      let n := bracedHex u
      let n := if n = 0 then hexDigits 4 u else n
      if n = 0 then 0 else 2 + n
    else if c = '\r' ∨ c = '?' then 2 + lineTail u
    else 2 := by
  have hline : (match u with
      | d :: _ => if d = '\n' ∨ d = '\u2028' ∨ d = '\u2029' then 3 else 2
      | [] => 2) = 2 + lineTail u := by
    cases u with
    | nil => rfl
    | cons d u =>
      dsimp only [lineTail]
      split <;> rfl
  rw [← hline]
  rfl

theorem escape_octal {c : Char} (hc : isOctal c = true) (u : List Char) :
    escape ('\\' :: c :: u) = 2 + ((u.take 2).takeWhile isOctal).length := by
  rw [escape_cons, if_pos hc, List.take_succ_cons, List.takeWhile_cons_of_pos hc, List.length_cons]
  omega

/-- The digits after an octal escape sequence that count as part of it are in the literal. -/
theorem octalDigits_body (hquote : isOctal quote = false) (cs u : List Char) :
    ((cs ++ quote :: u).take 2).takeWhile isOctal = (cs.take 2).takeWhile isOctal := by
  match cs with
  | [] =>
    rw [List.nil_append, List.take_succ_cons, List.takeWhile_cons_of_neg (by simp [hquote])]
    rfl
  | [c] =>
    by_cases hc : isOctal c = true
    · simp [hc, hquote]
    · simp [hc]
  | c :: c' :: cs => rfl

theorem escape_line {c : Char} (hc : c = '\r' ∨ c = '?') (u : List Char) :
    escape ('\\' :: c :: u) = 2 + lineTail u := by
  have hoctal : isOctal c = false := by rcases hc with rfl | rfl <;> decide
  have hx : c ≠ 'x' := by rcases hc with rfl | rfl <;> decide
  have hu : c ≠ 'u' := by rcases hc with rfl | rfl <;> decide
  rw [escape_cons, hoctal, if_neg Bool.false_ne_true, if_neg hx, if_neg hu, if_pos hc]

theorem escape_other {c : Char} (hoctal : isOctal c = false) (hx : c ≠ 'x') (hu : c ≠ 'u')
    (hline : ¬ (c = '\r' ∨ c = '?')) (u : List Char) : escape ('\\' :: c :: u) = 2 := by
  rw [escape_cons, hoctal, if_neg Bool.false_ne_true, if_neg hx, if_neg hu, if_neg hline]

theorem escape_two {hex : List Char} (hlength : hex.length = 2) (hhex : ∀ c ∈ hex, isHex c = true)
    (u : List Char) : escape ('\\' :: 'x' :: (hex ++ u)) = 4 := by
  rw [escape_cons, if_neg (by decide), if_pos rfl, hexDigits_append hlength hhex]
  rfl

theorem escape_numbered (h : CharNumber number) (u : List Char) :
    escape ('\\' :: 'u' :: (number ++ u)) = number.length + 2 := by
  rw [escape_cons, if_neg (by decide), if_neg (by decide), if_pos rfl]
  rcases h.length_eq u with ⟨hbraced, hne⟩ | ⟨hbraced, hfour, hlength⟩
  · simp only [hbraced, if_neg hne]
    exact Nat.add_comm _ _
  · simp only [hbraced, hfour, hlength]
    rfl

/-- Only the first character counts. -/
theorem lineTail_append (cs u : List Char) (c : Char) :
    lineTail (cs ++ c :: u) = lineTail (cs ++ [c]) := by
  cases cs <;> rfl

theorem StringBody.head_ne_lineFeed {c : Char} (h : StringBody quote (c :: cs)) : c ≠ '\n' := by
  generalize heq : c :: cs = whole at h
  cases h with
  | nil => cases heq
  | plain hplain _ =>
    obtain ⟨rfl, -⟩ := List.cons.inj heq
    exact hplain.2.2.1
  | escape hescape _ =>
    obtain ⟨tail, rfl⟩ := hescape.exists_tail
    rw [(List.cons.inj heq).1]
    decide

/-- The first characters of a content are taken as an escape sequence. -/
def TakenAsEscape (quote : Char) (run rest : List Char) : Prop :=
  ∀ u, fragment quote (run ++ rest ++ quote :: u) = 0 ∧
    escape (run ++ rest ++ quote :: u) = run.length

/-- The first characters of a content are taken as characters that stand for themselves. -/
def TakenAsFragment (quote : Char) (run rest : List Char) : Prop :=
  ∀ u, fragment quote (run ++ rest ++ quote :: u) = run.length

theorem fragment_backslash (quote : Char) (u : List Char) : fragment quote ('\\' :: u) = 0 := by
  rw [fragment, List.takeWhile_cons_of_neg (by simp)]
  rfl

/-- A backslash before the end of a line is taken with the whole of that end. -/
theorem StringBody.exists_line {c : Char} (hrest : StringBody quote cs) (hline : c = '\r' ∨ c = '?')
    (hquote : quote = '"' ∨ quote = '\'') :
    ∃ run rest, ['\\', c] ++ cs = run ++ rest ∧ run ≠ [] ∧ StringBody quote rest ∧
      TakenAsEscape quote run rest := by
  -- a line or paragraph separator after it belongs to the sequence
  by_cases htail : lineTail (cs ++ [quote]) = 0
  · refine ⟨['\\', c], cs, rfl, List.cons_ne_nil _ _, hrest, fun u =>
      ⟨fragment_backslash quote _, (escape_line hline _).trans ?_⟩⟩
    exact congrArg (2 + ·) ((lineTail_append cs u quote).trans htail)
  · obtain ⟨d, rest, rfl, hd⟩ : ∃ d rest, cs = d :: rest ∧ (d = '\u2028' ∨ d = '\u2029') := by
      cases cs with
      | nil => rcases hquote with rfl | rfl <;> exact absurd (by decide) htail
      | cons d rest =>
        refine ⟨d, rest, rfl, ?_⟩
        have hend : d = '\n' ∨ d = '\u2028' ∨ d = '\u2029' := by
          by_contra hno
          exact htail (if_neg hno)
        exact hend.resolve_left hrest.head_ne_lineFeed
    have hslash : d ≠ '\\' := by rcases hd with rfl | rfl <;> decide
    refine ⟨['\\', c, d], rest, rfl, List.cons_ne_nil _ _, hrest.of_cons hslash, fun u =>
      ⟨fragment_backslash quote _, (escape_line hline _).trans ?_⟩⟩
    exact congrArg (2 + ·) (if_pos (Or.inr hd))

/-- An escape sequence is taken with the digits or the line end right after it. -/
theorem StringBody.exists_escape {sequence : List Char} (hrest : StringBody quote cs)
    (hescape : IsEscape sequence) (hquote : quote = '"' ∨ quote = '\'') :
    ∃ run rest, sequence ++ cs = run ++ rest ∧ run ≠ [] ∧ StringBody quote rest ∧
      TakenAsEscape quote run rest := by
  have hoctal : isOctal quote = false := by rcases hquote with rfl | rfl <;> decide
  cases hescape with
  | @single c hx hu =>
    by_cases hc : isOctal c = true
    · -- up to two more digits
      obtain ⟨tail, htail⟩ := (List.takeWhile_prefix isOctal).trans (List.take_prefix 2 cs)
      have hrun : ∀ d ∈ (cs.take 2).takeWhile isOctal, d ≠ '\\' := by
        rintro d hd rfl
        exact absurd (List.mem_takeWhile_imp hd) (by decide)
      refine ⟨'\\' :: c :: (cs.take 2).takeWhile isOctal, tail, ?_, List.cons_ne_nil _ _,
        StringBody.of_append (htail.symm ▸ hrest) hrun, fun u => ⟨fragment_backslash quote _, ?_⟩⟩
      · exact congrArg (['\\', c] ++ ·) htail.symm
      · have happend : '\\' :: c :: (cs.take 2).takeWhile isOctal ++ tail = '\\' :: c :: cs :=
          congrArg (['\\', c] ++ ·) htail
        rw [happend, List.cons_append, List.cons_append, escape_octal hc, octalDigits_body hoctal,
          List.length_cons, List.length_cons]
        omega
    · rw [Bool.not_eq_true] at hc
      by_cases hline : c = '\r' ∨ c = '?'
      · exact hrest.exists_line hline hquote
      · refine ⟨['\\', c], cs, rfl, List.cons_ne_nil _ _, hrest, fun u =>
          ⟨fragment_backslash quote _, escape_other hc hx hu hline _⟩⟩
  | lineEnd =>
    refine ⟨['\\', '\r', '\n'], cs, rfl, List.cons_ne_nil _ _, hrest, fun u =>
      ⟨fragment_backslash quote _, ?_⟩⟩
    exact escape_line (Or.inl rfl) _
  | @two hex hlength hhex =>
    refine ⟨'\\' :: 'x' :: hex, cs, rfl, List.cons_ne_nil _ _, hrest, fun u =>
      ⟨fragment_backslash quote _, ?_⟩⟩
    rw [List.append_assoc]
    refine (escape_two hlength hhex _).trans ?_
    simp [hlength]
  | @numbered number hnumber =>
    refine ⟨'\\' :: 'u' :: number, cs, rfl, List.cons_ne_nil _ _, hrest, fun u =>
      ⟨fragment_backslash quote _, ?_⟩⟩
    rw [List.append_assoc]
    exact escape_numbered hnumber _

/-- **The content of a string literal is taken run by run**: characters that stand for themselves as
far as they go, or an escape sequence. -/
theorem StringBody.exists_run (h : StringBody quote cs) (hne : cs ≠ [])
    (hquote : quote = '"' ∨ quote = '\'') :
    ∃ run rest, cs = run ++ rest ∧ run ≠ [] ∧ StringBody quote rest ∧
      (TakenAsFragment quote run rest ∨ TakenAsEscape quote run rest) := by
  cases h with
  | nil => exact absurd rfl hne
  | @plain c rest hplain hrest =>
    -- the fragment goes on up to the first character that is not plain
    let isPlain : Char → Bool := fun c => c != quote && c != '\\' && c != '\n' && c != '\r'
    have hc : isPlain c = true := by
      obtain ⟨hq, hb, hn, hr⟩ := hplain
      simp [isPlain, hq, hb, hn, hr]
    have hrun : ∀ e ∈ rest.takeWhile isPlain, e ≠ '\\' := by
      rintro e he rfl
      exact absurd (List.mem_takeWhile_imp he) (by simp [isPlain])
    have hsplit : rest.takeWhile isPlain ++ rest.dropWhile isPlain = rest :=
      List.takeWhile_append_dropWhile
    refine ⟨c :: rest.takeWhile isPlain, rest.dropWhile isPlain, ?_, List.cons_ne_nil _ _,
      StringBody.of_append (hsplit.symm ▸ hrest) hrun, Or.inl fun u => ?_⟩
    · rw [List.cons_append, hsplit]
    · rw [List.cons_append, hsplit, fragment_body, List.takeWhile_cons_of_pos hc]
  | escape hescape hrest =>
    obtain ⟨run, rest, happend, hrun, hbody, htaken⟩ := hrest.exists_escape hescape hquote
    exact ⟨run, rest, happend, hrun, hbody, Or.inr htaken⟩

end Lexeme

end Source

end PullNotes
