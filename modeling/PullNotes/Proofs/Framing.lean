import PullNotes.Proofs.Course
import PullNotes.Proofs.Json.Values
import PullNotes.Proofs.Listing

/-!
# The framing of listings

A listing that is printed has one JSON object on a line, and a line feed ends each line.  A JSON
text has no line feed between quotes and none of the other control characters of ASCII, but the
next-line control and the two Unicode separators may stand there as they are, and a carriage return
may stand between the parts of the object.  A listing is cut at these too, so the framing holds
exactly for the lines that have none of them.

The proof counts lines.  Every line that is printed gives at least one line with something on it,
and a line with a boundary gives two, since it starts with one brace and ends with another.  If as
many lines are read as are printed, then no line was cut.

* `Comment.Told.PrintedAs` : the lines that tell a comment.
* `Text.two_le_kept` : a line that is cut.
* `Thread.list_printed_iff` : when the comments that are printed are those that are listed.
-/

namespace PullNotes

open CodePoint (ofChar lineFeed carriageReturn)

/-! ### Lines that say something -/

namespace Text

/-- The lines of a text that are not blank. -/
def kept (t : Text) : List Text := t.lines.filter fun line => !line.isBlank

theorem isBlank_eq_false {t : Text} {c : CodePoint} (hc : c ∈ t) (hblank : c.isBlank = false) :
    t.isBlank = false := by
  rw [isBlank, List.all_eq_false]
  exact ⟨c, hc, by rw [hblank]; decide⟩

/-- A boundary of lines is blank. -/
theorem isLineBoundary_eq_false {c : CodePoint} (h : c.isBlank = false) :
    c.isLineBoundary = false := by
  simp only [CodePoint.isBlank, Bool.or_eq_false_iff, Bool.and_eq_false_iff,
    decide_eq_false_iff_not] at h
  simp only [CodePoint.isLineBoundary, Bool.or_eq_false_iff, Bool.and_eq_false_iff,
    decide_eq_false_iff_not]
  omega

/-- The first line ends at the first boundary, unless that is the first half of a pair. -/
theorem lines_append_boundary {line rest : Text} (hline : ∀ c ∈ line, c.isLineBoundary = false)
    {b : CodePoint} (hb : b.isLineBoundary = true)
    (hpair : ¬ (b = carriageReturn ∧ rest.head? = some lineFeed)) :
    lines (line ++ b :: rest) = line :: lines rest := by
  induction line with
  | nil =>
    cases rest with
    | nil => simp [lines, hb]
    | cons d rest =>
      have hsingle : ¬ (b = carriageReturn ∧ d = lineFeed) := by
        rintro ⟨hreturn, rfl⟩
        exact hpair ⟨hreturn, rfl⟩
      rw [List.nil_append, lines, if_neg hsingle, if_pos hb]
  | cons c line ih =>
    obtain ⟨hc, hline⟩ := List.forall_mem_cons.1 hline
    obtain ⟨d, more, hmore⟩ := List.exists_cons_of_ne_nil
      (List.append_ne_nil_of_right_ne_nil line (List.cons_ne_nil b rest))
    have hreturn : c ≠ carriageReturn := by
      rintro rfl
      exact absurd hc (by decide)
    rw [List.cons_append, hmore, lines, if_neg (fun h => hreturn h.1), hc, ← hmore, ih hline]
    rfl

theorem consToFirst_append (c : CodePoint) {first : List Text} (h : first ≠ []) (more : List Text) :
    consToFirst c (first ++ more) = consToFirst c first ++ more := by
  obtain ⟨line, first, rfl⟩ := List.exists_cons_of_ne_nil h
  rfl

theorem mem_consToFirst {c : CodePoint} {ls : List Text} {line : Text} (h : line ∈ ls) :
    ∃ line' ∈ consToFirst c ls, line ⊆ line' := by
  cases ls with
  | nil => cases h
  | cons first rest =>
    rcases List.mem_cons.1 h with rfl | hrest
    · exact ⟨c :: line, List.mem_cons_self, List.subset_cons_self c line⟩
    · exact ⟨line, List.mem_cons_of_mem _ hrest, List.Subset.refl line⟩

theorem exists_mem_consToFirst (c : CodePoint) (ls : List Text) :
    ∃ line ∈ consToFirst c ls, c ∈ line := by
  cases ls with
  | nil => exact ⟨[c], List.mem_cons_self, List.mem_cons_self⟩
  | cons first rest => exact ⟨c :: first, List.mem_cons_self, List.mem_cons_self⟩

/-- What is no boundary stands on one of the lines. -/
theorem exists_mem_lines {t : Text} {c : CodePoint} (hc : c ∈ t) (hnone : c.isLineBoundary = false) :
    ∃ line ∈ lines t, c ∈ line := by
  induction t using lines.induct with
  | case1 => cases hc
  | case2 b hb =>
    obtain rfl := List.mem_singleton.1 hc
    rw [hb] at hnone
    cases hnone
  | case3 b hb =>
    rw [lines, if_neg hb]
    exact ⟨[b], List.mem_singleton_self _, hc⟩
  | case4 b d rest hpair ih =>
    obtain ⟨rfl, rfl⟩ := hpair
    have hrest : c ∈ rest := by
      rcases List.mem_cons.1 hc with rfl | hc
      · exact absurd hnone (by decide)
      · rcases List.mem_cons.1 hc with rfl | hc
        · exact absurd hnone (by decide)
        · exact hc
    obtain ⟨line, hline, hmem⟩ := ih hrest
    rw [lines, if_pos ⟨rfl, rfl⟩]
    exact ⟨line, List.mem_cons_of_mem _ hline, hmem⟩
  | case5 b d rest hpair hb ih =>
    have hrest : c ∈ d :: rest := by
      rcases List.mem_cons.1 hc with rfl | hc
      · rw [hb] at hnone
        cases hnone
      · exact hc
    obtain ⟨line, hline, hmem⟩ := ih hrest
    rw [lines, if_neg hpair, if_pos hb]
    exact ⟨line, List.mem_cons_of_mem _ hline, hmem⟩
  | case6 b d rest hpair hb ih =>
    rw [lines, if_neg hpair, if_neg hb]
    rcases List.mem_cons.1 hc with rfl | hc
    · exact exists_mem_consToFirst c _
    · obtain ⟨line, hline, hmem⟩ := ih hc
      obtain ⟨line', hline', hsub⟩ := mem_consToFirst hline
      exact ⟨line', hline', hsub hmem⟩

theorem lines_ne_nil {t : Text} (h : t ≠ []) : lines t ≠ [] := by
  induction t using lines.induct with
  | case1 => exact absurd rfl h
  | case2 b hb => simp [lines, hb]
  | case3 b hb => simp [lines, hb]
  | case4 b d rest hpair _ => simp [lines, hpair]
  | case5 b d rest hpair hb _ => simp [lines, hpair, hb]
  | case6 b d rest hpair hb ih =>
    obtain ⟨line, ls, hls⟩ := List.exists_cons_of_ne_nil (ih (List.cons_ne_nil d rest))
    simp [lines, hpair, hb, hls, consToFirst]

/-- What stands after a line feed makes lines of its own. -/
theorem lines_append_line (line rest : Text) :
    lines (line ++ lineFeed :: rest) = lines (line ++ [lineFeed]) ++ lines rest := by
  have hnil : ∀ rest : Text, lines (lineFeed :: rest) = [] :: lines rest := fun rest =>
    lines_append_lineFeed (List.forall_mem_nil _) rest
  have hfeed : CodePoint.isLineBoundary lineFeed = true := by decide
  induction line using lines.induct with
  | case1 =>
    simp only [List.nil_append, hnil]
    rfl
  | case2 c hc =>
    -- the boundary in front of the line feed may be the first half of a pair
    by_cases hreturn : c = carriageReturn
    · simp [lines, hreturn]
    · simp [lines, hreturn, hc, hnil, hfeed]
  | case3 c hc =>
    have hreturn : c ≠ carriageReturn := by
      rintro rfl
      exact hc (by decide)
    simp [lines, hreturn, hc, hnil, hfeed, consToFirst]
  | case4 c d more hpair ih => simp [lines, hpair, ih]
  | case5 c d more hpair hc ih =>
    rw [List.cons_append] at ih
    simp only [List.cons_append, lines, if_neg hpair, if_pos hc, ih]
  | case6 c d more hpair hc ih =>
    have hne : lines (d :: (more ++ [lineFeed])) ≠ [] := lines_ne_nil (List.cons_ne_nil _ _)
    rw [List.cons_append, List.cons_append] at ih
    simp only [List.cons_append, lines, if_neg hpair, if_neg hc, ih, consToFirst_append c hne]

/-! ### How many lines are kept -/

theorem kept_append_line (line rest : Text) :
    kept (line ++ lineFeed :: rest) = kept (line ++ [lineFeed]) ++ kept rest := by
  rw [kept, lines_append_line, List.filter_append]
  rfl

theorem kept_flatMap (ls : List Text) : kept (ls.flatMap fun line => line ++ [lineFeed]) =
    ls.flatMap fun line => kept (line ++ [lineFeed]) := by
  induction ls with
  | nil => rfl
  | cons line ls ih =>
    rw [List.flatMap_cons, List.append_assoc, List.singleton_append, kept_append_line, ih,
      List.flatMap_cons]

/-- A text with something on it keeps a line. -/
theorem kept_pos {t : Text} {c : CodePoint} (hc : c ∈ t) (hblank : c.isBlank = false) :
    0 < (kept t).length := by
  obtain ⟨line, hline, hmem⟩ := exists_mem_lines hc (isLineBoundary_eq_false hblank)
  refine List.length_pos_of_mem (a := line) (List.mem_filter.2 ⟨hline, ?_⟩)
  rw [isBlank_eq_false hmem hblank]
  rfl

/-- A line without boundaries is kept as it is. -/
theorem kept_line {line : Text} (hline : ∀ c ∈ line, c.isLineBoundary = false) {c : CodePoint}
    (hc : c ∈ line) (hblank : c.isBlank = false) : kept (line ++ [lineFeed]) = [line] := by
  rw [kept, lines_append_lineFeed hline, lines, List.filter_cons_of_pos]
  · rfl
  · rw [isBlank_eq_false hc hblank]
    rfl

/-- **A line that is cut** keeps two lines at least, if it has something on it at both ends. -/
theorem two_le_kept {middle : Text} {opening closing b : CodePoint}
    (hopening : opening.isBlank = false) (hclosing : closing.isBlank = false)
    (hmem : b ∈ middle) (hb : b.isLineBoundary = true) (hfeed : lineFeed ∉ middle) :
    2 ≤ (kept (opening :: (middle ++ [closing]) ++ [lineFeed])).length := by
  obtain ⟨first, hfirst⟩ := Option.isSome_iff_exists.1
    (List.find?_isSome.2 ⟨b, hmem, hb⟩ : (middle.find? CodePoint.isLineBoundary).isSome)
  obtain ⟨hbreak, front, back, rfl, hfront⟩ := List.find?_eq_some_iff_append.1 hfirst
  have hclosing' : closing ≠ lineFeed := by
    rintro rfl
    exact absurd hclosing (by decide)
  have hline : ∀ c ∈ opening :: front, c.isLineBoundary = false := by
    refine List.forall_mem_cons.2 ⟨isLineBoundary_eq_false hopening, fun c hc => ?_⟩
    simpa using hfront c hc
  -- no line feed comes right after the boundary, so the line ends there
  have hpair : ¬ (first = carriageReturn ∧
      (back ++ [closing, lineFeed]).head? = some lineFeed) := by
    rintro ⟨-, hhead⟩
    cases back with
    | nil => exact hclosing' (Option.some.inj hhead)
    | cons c back =>
      obtain rfl : c = lineFeed := Option.some.inj hhead
      exact hfeed (List.mem_append_right _ (List.mem_cons_of_mem _ List.mem_cons_self))
  have hsplit : opening :: (front ++ first :: back ++ [closing]) ++ [lineFeed] =
      (opening :: front) ++ first :: (back ++ [closing, lineFeed]) := by
    simp
  have hkeep : isBlank (opening :: front) = false :=
    isBlank_eq_false List.mem_cons_self hopening
  have hrest : 0 < (kept (back ++ [closing, lineFeed])).length :=
    kept_pos (List.mem_append_right _ List.mem_cons_self) hclosing
  rw [hsplit, kept, lines_append_boundary hline hbreak hpair, List.filter_cons, hkeep]
  exact Nat.succ_le_succ hrest

end Text

/-! ### Comments that are printed -/

/-- The line boundaries that may stand in a line of JSON: the carriage return between the parts of
a value, and within quotes the next-line control and the separators of lines and paragraphs. -/
def Json.breaks : List CodePoint :=
  [carriageReturn, ⟨0x85, by decide⟩, ⟨0x2028, by decide⟩, ⟨0x2029, by decide⟩]

/-- The line holds none of them. -/
def Json.Uncut (line : Text) : Prop := ∀ c ∈ line, c ∉ breaks

instance (line : Text) : Decidable (Json.Uncut line) :=
  decidable_of_iff (line.all fun c => !Json.breaks.contains c) (by simp [Json.Uncut])

theorem Json.exists_break {line : Text} (h : ¬ Uncut line) : ∃ c ∈ line, c ∈ breaks := by
  simpa [Uncut] using h

theorem Json.mem_breaks_of_visible {c : CodePoint} (hvisible : isVisible c = true)
    (hfeed : c ≠ lineFeed) : c ∈ breaks ↔ c.isLineBoundary = true := by
  have hbreaks : c ∈ breaks ↔ c.val = 13 ∨ c.val = 0x85 ∨ c.val = 0x2028 ∨ c.val = 0x2029 := by
    simp only [breaks, List.mem_cons, List.not_mem_nil, or_false, Fin.ext_iff]
    rfl
  have hfeed' : c.val ≠ 10 := fun h => hfeed (Fin.ext h)
  simp only [isVisible, isSpace, Bool.or_eq_true, decide_eq_true_eq] at hvisible
  simp only [hbreaks, CodePoint.isLineBoundary, Bool.or_eq_true, Bool.and_eq_true,
    decide_eq_true_eq]
  omega

namespace Comment

/-- A comment as it is told: its number, and its body if it has one. -/
structure Told where
  id : Int
  body : Option Text
deriving DecidableEq, Repr

namespace Told

/-- The comment that is told; without a body it has an empty one. -/
def comment (c : Told) : Comment := ⟨c.id, c.body.getD []⟩

/-- The body as a value. -/
def value (c : Told) : Json := c.body.elim .null .text

/-- The line tells the comment: it is one JSON object with its number and its body. -/
structure PrintedAs (c : Told) (line : Text) : Prop where
  unbroken : lineFeed ∉ line
  spelled : ∃ members, Json.Spells (fun n => n = c.id) line (.object members) ∧
    Json.lookup? "id" members = some (.whole c.id) ∧
    Json.lookup? "body" members = some c.value

variable {c : Told} {line : Text}

/-- A line that tells a comment stands between braces. -/
theorem PrintedAs.exists_enclosed (h : PrintedAs c line) :
    ∃ middle, line = Json.enclosed '\x7b' '\x7d' middle := by
  obtain ⟨members, hspells, -⟩ := h.spelled
  cases hspells with
  | emptyObject _ => exact ⟨_, rfl⟩
  | object _ => exact ⟨_, rfl⟩

theorem PrintedAs.mem_breaks_iff (h : PrintedAs c line) {x : CodePoint} (hx : x ∈ line) :
    x ∈ Json.breaks ↔ x.isLineBoundary = true := by
  obtain ⟨members, hspells, -⟩ := h.spelled
  refine Json.mem_breaks_of_visible (hspells.visible x hx) ?_
  rintro rfl
  exact h.unbroken hx

/-- The line is kept as it is, or it is cut and gives more than one. -/
theorem PrintedAs.kept_eq (h : PrintedAs c line) :
    Json.Uncut line ∧ Text.kept (line ++ [lineFeed]) = [line] ∨
      ¬ Json.Uncut line ∧ 2 ≤ (Text.kept (line ++ [lineFeed])).length := by
  obtain ⟨middle, hmiddle⟩ := h.exists_enclosed
  have hopen : ofChar '\x7b' ∈ line := hmiddle ▸ List.mem_cons_self
  by_cases huncut : Json.Uncut line
  · refine Or.inl ⟨huncut, Text.kept_line (fun x hx => ?_) hopen (by decide)⟩
    exact eq_false_of_ne_true fun hboundary => huncut x hx ((h.mem_breaks_iff hx).2 hboundary)
  · refine Or.inr ⟨huncut, ?_⟩
    obtain ⟨x, hmem, hx⟩ := Json.exists_break huncut
    have hboundary := (h.mem_breaks_iff hmem).1 hx
    have hinside : x ∈ middle := by
      rw [hmiddle, Json.enclosed, List.mem_cons, List.mem_append, List.mem_singleton] at hmem
      rcases hmem with rfl | hmem | rfl
      · exact absurd hboundary (by decide)
      · exact hmem
      · exact absurd hboundary (by decide)
    have hfeed : lineFeed ∉ middle := fun hfeed =>
      h.unbroken (hmiddle ▸ List.mem_cons_of_mem _ (List.mem_append_left _ hfeed))
    rw [hmiddle]
    exact Text.two_le_kept (by decide) (by decide) hinside hboundary hfeed

/-- The line is read as the comment exactly if the number is not too long. -/
theorem PrintedAs.ofText_eq_ok_iff (h : PrintedAs c line) :
    ofText line = .ok c.comment ↔ ¬ Json.TooLong c.id := by
  obtain ⟨members, hspells, hid, hbody⟩ := h.spelled
  constructor
  · intro hread
    cases hjson : Json.read line with
    | error e => simp [ofText, hjson] at hread
    | ok v =>
      obtain rfl := hspells.eq_of_read hjson
      exact (Json.each_of_read hjson).lookup? hid
  · intro hshort
    have hjson : Json.read line = .ok (.object members) :=
      hspells.read_eq_ok fun n hn => hn ▸ hshort
    have hgiven : bodyGiven members = .text (c.body.getD []) := by
      cases htext : c.body with
      | none => simp [bodyGiven, hbody, value, htext, Json.isEmpty]
      | some body => exact bodyGiven_of_text (by rw [hbody, value, htext]; rfl)
    simp only [ofText, hjson, ofAnswer_eq hid, hgiven]
    rfl

/-! ### Compact lines -/

/-- A line with the two members of a comment and no white space, around a text for the body. -/
def compact (id : Int) (body : Text) : Text :=
  ofChar '\x7b' :: (Json.enclosed '"' '"' "id" ++ (ofChar ':' :: (Text.ofInt id ++ (ofChar ',' ::
    (Json.enclosed '"' '"' "body" ++ (ofChar ':' :: (body ++ [ofChar '\x7d'])))))))

theorem lineFeed_not_mem_ofInt (id : Int) : lineFeed ∉ Text.ofInt id := by
  have hdigits : ∀ n, lineFeed ∉ Text.ofNat n := fun n hmem =>
    absurd (Text.isAsciiDigit_of_mem_ofNat n _ hmem) (by decide)
  cases id with
  | ofNat n => exact hdigits n
  | negSucc n =>
    rw [Text.ofInt, List.mem_append, not_or]
    exact ⟨by decide, hdigits (n + 1)⟩

/-- A code point that may stand between quotes as it is. -/
def isPlain (c : CodePoint) : Bool :=
  32 ≤ c.val && c != ofChar '"' && c != ofChar '\\' && !c.isSurrogate

theorem spellsText_of_plain {t : Text} (h : t.all isPlain = true) : Json.SpellsText t t := by
  induction t with
  | nil => exact .nil
  | cons c t ih =>
    obtain ⟨hc, ht⟩ := Bool.and_eq_true_iff.1 (List.all_cons ▸ h)
    simp only [isPlain, Bool.and_eq_true, decide_eq_true_eq, bne_iff_ne, Bool.not_eq_true'] at hc
    obtain ⟨⟨⟨hcontrol, hquote⟩, hslash⟩, hscalar⟩ := hc
    have hapart := Text.apart_of_isHigh (CodePoint.isHigh_eq_false hscalar) t
    exact .cons (.plain hcontrol hquote hslash hscalar) (ih ht) hapart

/-- A compact line tells the comment whose body its text spells. -/
theorem printedAs_compact {body : Text}
    (hbody : Json.Spells (fun n => n = c.id) body c.value) (hfeed : lineFeed ∉ body) :
    PrintedAs c (compact c.id body) where
  unbroken := by
    have hid := lineFeed_not_mem_ofInt c.id
    have hkeys : lineFeed ∉ Json.enclosed '"' '"' "id" ∧ lineFeed ∉ Json.enclosed '"' '"' "body" := by
      decide
    have hmarks : lineFeed ≠ ofChar '\x7b' ∧ lineFeed ≠ ofChar ':' ∧ lineFeed ≠ ofChar ',' ∧
        lineFeed ≠ ofChar '\x7d' := by
      decide
    simp [compact, hid, hkeys, hmarks, hfeed]
  spelled := by
    have hpart : ∀ {t : Text} {v : Json}, Json.Spells (fun n => n = c.id) t v →
        Json.SpellsPart (fun n => n = c.id) t v := by
      intro t v hv
      have h : Json.SpellsPart (fun n => n = c.id) ([] ++ (t ++ [])) v :=
        .mk (List.forall_mem_nil _) hv (List.forall_mem_nil _)
      rwa [List.nil_append, List.append_nil] at h
    have hmember : ∀ {key t : Text} {v : Json}, Json.SpellsText key key →
        Json.Spells (fun n => n = c.id) t v → Json.SpellsMember (fun n => n = c.id)
          (Json.enclosed '"' '"' key ++ ofChar ':' :: t) (key, v) := by
      intro key t v hkey hv
      exact .mk (List.forall_mem_nil _) hkey (List.forall_mem_nil _) (hpart hv)
    have hid : Json.SpellsText "id" "id" := spellsText_of_plain (by decide)
    have hbodyKey : Json.SpellsText "body" "body" := spellsText_of_plain (by decide)
    have hmembers := Json.Spells.object
      (.more (hmember hid (.whole rfl)) (.last (hmember hbodyKey hbody)))
    refine ⟨Json.ofMembers [("id", .whole c.id), ("body", c.value)], ?_, rfl, rfl⟩
    simpa [compact, Json.enclosed] using hmembers

/-- The listing that lines make: a line feed ends each of them. -/
def listing (ls : List Text) : Text := ls.flatMap fun line => line ++ [lineFeed]

variable {told : List Told} {ls : List Text}

theorem length_kept_listing (h : List.Forall₂ PrintedAs told ls) :
    ls.length ≤ (Text.kept (listing ls)).length ∧
      ((Text.kept (listing ls)).length = ls.length → ∀ line ∈ ls, Json.Uncut line) := by
  rw [listing, Text.kept_flatMap]
  induction h with
  | nil => simp
  | @cons c line told ls hc _ ih =>
    obtain ⟨hle, hbreaks⟩ := ih
    rw [List.flatMap_cons, List.length_append, List.length_cons]
    rcases hc.kept_eq with ⟨hnone, hkept⟩ | ⟨-, htwo⟩
    · rw [hkept, List.length_singleton]
      refine ⟨by omega, fun hlength => ?_⟩
      exact List.forall_mem_cons.2 ⟨hnone, hbreaks (by omega)⟩
    · exact ⟨by omega, fun hlength => by omega⟩

theorem kept_listing (h : List.Forall₂ PrintedAs told ls)
    (hbreaks : ∀ line ∈ ls, Json.Uncut line) : Text.kept (listing ls) = ls := by
  rw [listing, Text.kept_flatMap]
  induction h with
  | nil => rfl
  | @cons c line told ls hc _ ih =>
    obtain ⟨hline, hls⟩ := List.forall_mem_cons.1 hbreaks
    rcases hc.kept_eq with ⟨-, hkept⟩ | ⟨hcut, -⟩
    · rw [List.flatMap_cons, hkept, ih hls, List.singleton_append]
    · exact absurd hline hcut

/-- Lines that tell comments are read as the comments exactly if no number is too long. -/
theorem mapM_ofText_eq_ok_iff (h : List.Forall₂ PrintedAs told ls) :
    ls.mapM ofText = .ok (told.map comment) ↔ ∀ c ∈ told, ¬ Json.TooLong c.id := by
  rw [Except.mapM_eq_ok_iff, List.forall₂_map_right_iff]
  induction h with
  | nil => simp
  | @cons c line told ls hc _ ih =>
    rw [List.forall₂_cons, ih, hc.ofText_eq_ok_iff, List.forall_mem_cons]

/-- The listing is read as the comments that are told exactly if no line is cut and no number is too
long. -/
theorem ofListing_eq_ok_iff (h : List.Forall₂ PrintedAs told ls) :
    ofListing (listing ls) = .ok (told.map comment) ↔
      (∀ line ∈ ls, Json.Uncut line) ∧ ∀ c ∈ told, ¬ Json.TooLong c.id := by
  have hread : ofListing (listing ls) = (Text.kept (listing ls)).mapM ofText := rfl
  rw [hread]
  constructor
  · intro hok
    -- as many comments are read as lines are kept, so each line is kept as one
    have hlength := (Except.mapM_eq_ok_iff.1 hok).length_eq
    rw [List.length_map, h.length_eq] at hlength
    have hbreaks := (length_kept_listing h).2 hlength
    rw [kept_listing h hbreaks] at hok
    exact ⟨hbreaks, (mapM_ofText_eq_ok_iff h).1 hok⟩
  · rintro ⟨hbreaks, hshort⟩
    rw [kept_listing h hbreaks]
    exact (mapM_ofText_eq_ok_iff h).2 hshort

end Told

end Comment

/-! ### Listing the comments -/

namespace Thread

open Comment (Told)

/-- **The comments that are printed are those that are listed**, in order, with empty bodies where
there were none, exactly if no line has a boundary in it that JSON allows there, and no number has
too many digits. -/
theorem list_printed_iff (t : Thread) {s : Surroundings} {told : List Told} {ls : List Text}
    {errors : Option Text} (hprinted : List.Forall₂ Told.PrintedAs told ls)
    (hreply : s.reply 0 = .finished 0 (Told.listing ls) errors) :
    (t.list.outcome s).1 = .ok (told.map Told.comment) ↔
      (∀ line ∈ ls, Json.Uncut line) ∧ ∀ c ∈ told, ¬ Json.TooLong c.id := by
  obtain ⟨notes, hlist⟩ := t.asks_list s
  have hlisted : t.listed (s.reply 0) = Comment.ofListing (Told.listing ls) := by
    rw [hreply]
    rfl
  rw [hlist, hlisted]
  exact Told.ofListing_eq_ok_iff hprinted

/-- Two comments, one with letters of other scripts and one without a body. -/
def sampleTold : List Told := [⟨1, some "é😀"⟩, ⟨2, none⟩]

/-- The lines that tell them. -/
def sampleLines : List Text :=
  [Told.compact 1 (Json.enclosed '"' '"' "é😀"), Told.compact 2 "null"]

/-- A pull request. -/
def sampleThread : Thread := { request := ⟨"acme", "app", 42⟩ }

/-- Surroundings in which one command is answered by a listing. -/
def sampleListing (ls : List Text) : Surroundings :=
  { files := { root := "/w" }, replies := [.finished 0 (Told.listing ls) none] }

theorem printedAs_sample : List.Forall₂ Told.PrintedAs sampleTold sampleLines := by
  have hfirst : Told.PrintedAs ⟨1, some "é😀"⟩ (Told.compact 1 (Json.enclosed '"' '"' "é😀")) :=
    Told.printedAs_compact (.text (Told.spellsText_of_plain (by decide))) (by decide)
  have hsecond : Told.PrintedAs ⟨2, none⟩ (Told.compact 2 "null") :=
    Told.printedAs_compact .null (by decide)
  exact .cons hfirst (.cons hsecond .nil)

theorem list_printed_sample :
    List.Forall₂ Told.PrintedAs sampleTold sampleLines ∧
      (sampleListing sampleLines).reply 0 = .finished 0 (Told.listing sampleLines) none ∧
      (sampleThread.list.outcome (sampleListing sampleLines)).1 =
        .ok [⟨1, "é😀"⟩, ⟨2, []⟩] := by
  refine ⟨printedAs_sample, rfl, ?_⟩
  exact (list_printed_iff sampleThread printedAs_sample rfl).2 ⟨by decide, by decide⟩

/-- A line whose body has a line separator in it. -/
def separatorLine : Text := Told.compact 1 (Json.enclosed '"' '"' "a\u2028b")

/-- A line separator in a body cuts the line, and its first part is no JSON text. -/
theorem list_separator_cut :
    List.Forall₂ Told.PrintedAs [⟨1, some "a\u2028b"⟩] [separatorLine] ∧
      (sampleListing [separatorLine]).reply 0 = .finished 0 (Told.listing [separatorLine]) none ∧
      (sampleThread.list.outcome (sampleListing [separatorLine])).1 =
        .error (.json (.malformed .unterminatedText 1 16 15)) := by
  have hprinted : Told.PrintedAs ⟨1, some "a\u2028b"⟩ separatorLine :=
    Told.printedAs_compact (.text (Told.spellsText_of_plain (by decide))) (by decide)
  refine ⟨.cons hprinted .nil, rfl, ?_⟩
  rfl

end Thread

end PullNotes
