import PullNotes.Proofs.Json.Values

/-!
# The limits of reading

JSON may hold a whole number of any length and brackets to any depth, but a number with too many
digits is not read, and with a limit on the levels no more brackets are gone into than there are
levels.  Every other fault of a text has a place in it; only at these limits reading stops without
one, and then the text has as many digits in a row, or more opening brackets than levels.

* `Json.LongRun`, `Json.Deep` : texts with too many digits in a row, and with more opening brackets
  than levels.
* `Json.longRun_or_deep_of_readWithin` : reading stops at a limit only in such texts.
* `Json.readWithin_of_digits` : a number that is too long is not read.
-/

namespace PullNotes

/-- Whether what is wrong is that the reader goes into no more brackets. -/
def JsonFault.isLimit : JsonFault → Bool
  | tooDeep _ => true
  | _ => false

/-- Whether an error is a fault of the text, and no limit of its reader. -/
def JsonError.isFault : JsonError → Bool
  | malformed f _ _ _ => !f.isLimit
  | numeral _ => false

namespace Json

/-- There are more digits in a row than a number may have. -/
def LongRun (t : Text) : Prop := ∃ digits, digits <:+: t ∧
  (∀ c ∈ digits, c.isAsciiDigit = true) ∧ Numeral.maxDigits < digits.length

/-- Whether a code point opens a list or an object. -/
def opens (c : CodePoint) : Bool := c = ('[' : Char) || c = ('\x7b' : Char)

/-- There are more opening brackets than levels. -/
def Deep (levels : Levels) (t : Text) : Prop := ∃ n ∈ levels, n < t.countP opens

/-- A stop at a limit is explained by the text. -/
def Stop.Explained (levels : Levels) (t : Text) : Stop → Prop
  | .numeral _ => LongRun t
  | .fault (.tooDeep _) _ => Deep levels t
  | .fault _ _ => True

/-- What is read of a text stops at a limit only if the text explains it. -/
def StopsWell {α : Type} (levels : Levels) (t : Text) (x : Except Stop α) : Prop :=
  ∀ stop, x = .error stop → stop.Explained levels t

variable {levels : Levels} {t u : Text}

theorem LongRun.mono (h : LongRun u) (hu : u <:+ t) : LongRun t := by
  obtain ⟨digits, hdigits, hall, hlong⟩ := h
  exact ⟨digits, hdigits.trans hu.isInfix, hall, hlong⟩

/-- What explains a stop in a part of a text explains it in the whole. -/
theorem Stop.Explained.mono {stop : Stop} (h : stop.Explained levels u) (hu : u <:+ t) :
    stop.Explained levels t := by
  cases stop with
  | numeral e => exact LongRun.mono h hu
  | fault f rest =>
    cases f with
    | tooDeep bracket =>
      obtain ⟨n, hn, hlt⟩ := h
      exact ⟨n, hn, hlt.trans_le (hu.sublist.countP_le)⟩
    | _ => trivial

namespace StopsWell

variable {α β : Type}

theorem ok (a : α) : StopsWell levels t (.ok a) := by
  intro stop hstop
  cases hstop

/-- A fault that is no limit needs no explanation. -/
theorem fault {f : JsonFault} (h : f.isLimit = false) (rest : Text) :
    StopsWell (α := α) levels t (.error (.fault f rest)) := by
  rintro stop ⟨⟩
  cases f with
  | tooDeep bracket => cases h
  | _ => trivial

theorem mono {x : Except Stop α} (h : StopsWell levels u x) (hu : u <:+ t) : StopsWell levels t x :=
  fun stop hstop => (h stop hstop).mono hu

theorem bind {x : Except Stop α} {k : α → Except Stop β} (hx : StopsWell levels t x)
    (hk : ∀ a, x = .ok a → StopsWell levels t (k a)) : StopsWell levels t (x >>= k) := by
  cases x with
  | error stop =>
    rintro stop' ⟨⟩
    exact hx stop rfl
  | ok a => exact hk a rfl

/-- **A bracket takes one level**: what is read in it has one less, and one opening bracket less. -/
theorem within {c : CodePoint} {bracket : JsonBracket} {k : Levels → Except Stop α}
    (hc : opens c = true) (hk : ∀ inner, StopsWell inner t (k inner)) :
    StopsWell levels (c :: t) (levels.within bracket (c :: t) >>= k) := by
  match levels with
  | none => exact (hk none).mono (List.suffix_cons c t)
  | some 0 =>
    rintro stop ⟨⟩
    exact ⟨0, rfl, by rw [List.countP_cons_of_pos hc]; exact Nat.succ_pos _⟩
  | some (n + 1) =>
    intro stop hstop
    have hinner := hk (some n) stop hstop
    cases stop with
    | numeral e => exact LongRun.mono hinner (List.suffix_cons c t)
    | fault f rest =>
      cases f with
      | tooDeep bracket =>
        obtain ⟨m, hm, hlt⟩ := hinner
        obtain rfl := Option.some.inj hm
        exact ⟨n + 1, rfl, by rw [List.countP_cons_of_pos hc]; exact Nat.succ_lt_succ hlt⟩
      | _ => trivial

end StopsWell

/-! ### Texts -/

theorem stopsWell_lowHalf (u : Text) : StopsWell levels t (lowHalf u) := by
  unfold lowHalf
  split
  · split
    · split
      · exact .fault (by rfl) _
      · exact .ok _
    · exact .ok _
  · exact .ok _

theorem stopsWell_numberedEscape (here u : Text) :
    StopsWell levels t (numberedEscape here u) := by
  unfold numberedEscape
  split
  · exact .fault (by rfl) _
  · split
    · refine (stopsWell_lowHalf _).bind fun low _ => ?_
      cases low with
      | none => exact .ok _
      | some low => exact .ok _
    · exact .ok _

theorem stopsWell_readText (opening : Text) (fuel : Nat) (u : Text) :
    StopsWell levels t (readText opening fuel u) := by
  fun_induction readText opening fuel u with
  | case1 => exact .fault (by rfl) _
  | case2 => exact .fault (by rfl) _
  | case3 => exact .ok _
  | case4 => exact .fault (by rfl) _
  | case5 => exact .fault (by rfl) _
  | case6 fuel digits _ _ ih =>
    refine (stopsWell_numberedEscape _ _).bind ?_
    rintro ⟨point, after⟩ -
    exact (ih after).bind fun _ _ => .ok _
  | case7 => exact .fault (by rfl) _
  | case8 => next ih => exact ih.bind fun _ _ => .ok _
  | case9 => next ih => exact ih.bind fun _ _ => .ok _

/-! ### Numbers -/

theorem prefix_of_wholePart? {t digits rest : Text} (h : wholePart? t = some (digits, rest)) :
    digits <+: t := by
  cases t with
  | nil => cases h
  | cons c t =>
    rw [wholePart?] at h
    split at h
    · obtain ⟨rfl, rfl⟩ := Prod.mk.inj (Option.some.inj h)
      exact ⟨t, rfl⟩
    · split at h
      · have hrun : digitRun (c :: t) = (digits, rest) := Option.some.inj h
        rw [digitRun, List.span_eq_takeWhile_dropWhile] at hrun
        obtain ⟨rfl, rfl⟩ := Prod.mk.inj hrun
        exact List.takeWhile_prefix _
      · cases h

theorem stopsWell_readUnsigned (here : Text) (negative : Bool) (u : Text) :
    StopsWell levels u (readUnsigned here negative u) := by
  rw [readUnsigned]
  split
  · exact .fault (by rfl) _
  · next digits rest hwhole =>
    obtain ⟨-, hdigits, -⟩ := wholePart?_eq_some hwhole
    split
    · refine StopsWell.bind ?_ fun _ _ => .ok _
      intro stop hstop
      rw [wholeOf] at hstop
      split at hstop
      · next hlong =>
        obtain rfl := Except.error.inj hstop
        exact ⟨digits, (prefix_of_wholePart? hwhole).isInfix, hdigits, hlong⟩
      · cases hstop
    · exact .ok _
    · exact .ok _
    · exact .ok _

/-! ### Values -/

/-- What is read with some fuel stops at a limit only if the text explains it. -/
structure ReadsWell (fuel : Nat) : Prop where
  value : ∀ levels t, StopsWell levels t (readValue levels fuel t)
  items : ∀ levels t, StopsWell levels t (readItems levels fuel t)
  members : ∀ levels t, StopsWell levels t (readMembers levels fuel t)

variable {fuel : Nat}

theorem ReadsWell.value_succ (h : ReadsWell fuel) (levels : Levels) (t : Text) :
    StopsWell levels t (readValue levels (fuel + 1) t) := by
  rw [readValue.eq_def]
  simp only
  split
  · exact .ok _
  · cases t with
    | nil => exact .fault (by rfl) _
    | cons c t =>
      have hrest : ∀ {d after}, skipSpace t = d :: after → (d :: after) <:+ t :=
        fun hskip => hskip ▸ suffix_skipSpace List.suffix_rfl
      simp only
      split
      · exact (stopsWell_readText _ _ _).bind fun _ _ => .ok _
      · split
        · next hbrace =>
          refine .within (by rw [hbrace]; rfl) fun inner => ?_
          split
          · next d after hskip =>
            split
            · exact .ok _
            · exact ((h.members inner _).mono (hrest hskip)).bind fun _ _ => .ok _
          · exact .fault (by rfl) _
        · split
          · next hbracket =>
            refine .within (by rw [hbracket]; rfl) fun inner => ?_
            split
            · next d after hskip =>
              split
              · exact .ok _
              · exact ((h.items inner _).mono (hrest hskip)).bind fun _ _ => .ok _
            · exact .fault (by rfl) _
          · split
            · exact (stopsWell_readUnsigned _ _ _).mono (List.suffix_cons c t)
            · exact stopsWell_readUnsigned _ _ _

theorem ReadsWell.items_succ (h : ReadsWell fuel) (levels : Levels) (t : Text) :
    StopsWell levels t (readItems levels (fuel + 1) t) := by
  rw [readItems]
  refine (h.value levels t).bind ?_
  rintro ⟨item, after⟩ hitem
  have hafter := ((readsSettled t fuel).value hitem List.suffix_rfl).1
  simp only
  split
  · next c rest hskip =>
    have hrest := suffix_skipSpace (suffix_of_skipSpace hskip hafter)
    split
    · exact .ok _
    · split
      · exact ((h.items levels _).mono hrest).bind fun _ _ => .ok _
      · exact .fault (by rfl) _
  · exact .fault (by rfl) _

theorem ReadsWell.members_succ (h : ReadsWell fuel) (levels : Levels) (t : Text) :
    StopsWell levels t (readMembers levels (fuel + 1) t) := by
  rw [readMembers.eq_def]
  simp only
  cases t with
  | nil => exact .fault (by rfl) _
  | cons quote inside =>
    simp only
    split
    · exact .fault (by rfl) _
    · refine (stopsWell_readText _ _ _).bind ?_
      rintro ⟨key, past⟩ hkey
      have hpast := (readText_settled hkey (List.suffix_cons quote inside)).1
      simp only
      split
      · exact .fault (by rfl) _
      · next colon next hcolon =>
        split
        · exact .fault (by rfl) _
        · have hnext := suffix_skipSpace (suffix_of_skipSpace hcolon hpast)
          refine ((h.value levels _).mono hnext).bind ?_
          rintro ⟨value, after⟩ hvalue
          have hafter := ((readsSettled _ fuel).value hvalue hnext).1
          simp only
          split
          · next c rest hskip =>
            have hrest := suffix_skipSpace (suffix_of_skipSpace hskip hafter)
            split
            · exact .ok _
            · split
              · exact ((h.members levels _).mono hrest).bind fun _ _ => .ok _
              · exact .fault (by rfl) _
          · exact .fault (by rfl) _

theorem readsWell (fuel : Nat) : ReadsWell fuel := by
  induction fuel with
  | zero =>
    exact ⟨fun _ _ => .fault (by rfl) _, fun _ _ => .fault (by rfl) _, fun _ _ => .fault (by rfl) _⟩
  | succ fuel ih => exact ⟨ih.value_succ, ih.items_succ, ih.members_succ⟩

/-- The errors of stops that are explained. -/
theorem exists_explained_of_readWithin {e : JsonError} (h : readWithin levels t = .error e) :
    ∃ stop : Stop, stop.Explained levels t ∧ errorOf t stop = e := by
  rw [readWithin] at h
  split at h
  · exact ⟨.fault .byteOrderMark t, trivial, Except.error.inj h⟩
  · split at h
    · next stop hvalue =>
      exact ⟨stop, ((readsWell _).value levels _ stop hvalue).mono (suffix_skipSpace List.suffix_rfl),
        Except.error.inj h⟩
    · split at h
      · cases h
      · exact ⟨.fault .extraData _, trivial, Except.error.inj h⟩

/-- **Reading stops at a limit only if there are too many digits in a row, or more opening brackets
than levels.** -/
theorem longRun_or_deep_of_readWithin {e : JsonError} (h : readWithin levels t = .error e)
    (he : e.isFault = false) : LongRun t ∨ Deep levels t := by
  obtain ⟨stop, hexplained, rfl⟩ := exists_explained_of_readWithin h
  cases stop with
  | numeral e => exact Or.inl hexplained
  | fault f rest =>
    cases f with
    | tooDeep bracket => exact Or.inr hexplained
    | _ => cases he

/-! ### Long numbers -/

/-- **A number with too many digits is not read**, whatever the levels are. -/
theorem readWithin_of_digits {c : CodePoint} {digits : Text} (hzero : c ≠ ('0' : Char))
    (hdigits : ∀ d ∈ c :: digits, d.isAsciiDigit = true)
    (hlong : Numeral.maxDigits < (c :: digits).length) (levels : Levels) :
    readWithin levels (c :: digits) = .error (.numeral (.tooLong (c :: digits).length)) := by
  have hc : c.isAsciiDigit = true := hdigits c List.mem_cons_self
  have hmark : (c :: digits).head? ≠ some mark := by
    rintro ⟨⟩
    exact absurd hc (by decide)
  have hspace : isSpace c = false := by
    rw [Bool.eq_false_iff]
    intro h
    simp only [isSpace, Bool.or_eq_true, decide_eq_true_eq] at h
    simp only [CodePoint.isAsciiDigit, Bool.and_eq_true, decide_eq_true_eq] at hc
    omega
  have hrun : digitRun (c :: digits) = (c :: digits, []) := by
    rw [digitRun, List.span_eq_takeWhile_dropWhile, List.takeWhile_eq_self_iff.2 hdigits,
      List.dropWhile_eq_nil_iff.2 hdigits]
  have hwhole : wholePart? (c :: digits) = some (c :: digits, []) := by
    rw [wholePart?, if_neg hzero, if_pos hc, hrun]
  have hread : readUnsigned (c :: digits) false (c :: digits) =
      .error (.numeral (.tooLong (c :: digits).length)) := by
    rw [readUnsigned, hwhole]
    simp only [fraction?, Option.elim_none, exponent?, wholeOf, if_pos hlong]
    rfl
  rw [readWithin, if_neg hmark, skipSpace_cons hspace, readValue_digit hc, hread]
  rfl

end Json

end PullNotes
