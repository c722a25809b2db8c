import PullNotes.Proofs.Json.Reading

/-!
# Written values are spelled

What is written of a value spells it, in every layout, so it is read back.  This leaves out numbers
of double width and objects with a key that comes twice.  A surrogate pair in two halves is written
as the one code point that it stands for, and so comes back as this.

* `Json.spellsText_flatMap` : a text between quotes, with its surrogate pairs made one.
* `Json.writtenText_merged` : the same is written of both.
* `Json.spells_written`, `Json.spells_written_text` : a value.
* `Json.printable_writtenText` : nothing but printable ASCII is written of a text.
-/

namespace PullNotes

namespace Json

open CodePoint (ofChar)

/-! ### Texts -/

theorem spellsNumber_hex {n : Nat} (h : n < 0x10000) : SpellsNumber (Text.hex 4 n) n := by
  have hlower : ∀ d < 16, Text.asciiLower [CodePoint.digit d] = [CodePoint.digit d] := by decide
  refine ⟨h, ?_⟩
  rw [Text.hex_four h]
  have hdigit : ∀ d < 16, ∀ ds, Text.asciiLower (CodePoint.digit d :: ds) =
      CodePoint.digit d :: Text.asciiLower ds := by
    intro d hd ds
    exact congrArg (· ++ Text.asciiLower ds) (hlower d hd)
  rw [hdigit _ (by omega), hdigit _ (by omega), hdigit _ (by omega), hlower _ (by omega)]

theorem escapedUnit_eq (n : Nat) : escapedUnit n = ofChar '\\' :: ofChar 'u' :: Text.hex 4 n := rfl

theorem mem_letters_of_controlLetter? {c : CodePoint} {letter : Char}
    (h : controlLetter? c = some letter) : ∃ d, (letter, d) ∈ letters ∧ c = ofChar d := by
  rw [controlLetter?] at h
  split at h
  · next hc => exact ⟨'\x08', by rw [← Option.some.inj h]; decide, Fin.ext hc⟩
  · next hc => exact ⟨'\t', by rw [← Option.some.inj h]; decide, Fin.ext hc⟩
  · next hc => exact ⟨'\n', by rw [← Option.some.inj h]; decide, Fin.ext hc⟩
  · next hc => exact ⟨'\x0c', by rw [← Option.some.inj h]; decide, Fin.ext hc⟩
  · next hc => exact ⟨'\r', by rw [← Option.some.inj h]; decide, Fin.ext hc⟩
  · cases h

/-- A code point is written by a letter, as it is, by its number, or by the numbers of two code
units. -/
theorem writtenPoint_cases (c : CodePoint) :
    (∃ letter d, (letter, d) ∈ letters ∧ c = ofChar d ∧
      writtenPoint c = [ofChar '\\', ofChar letter]) ∨
    (32 ≤ c.val ∧ c.val < 127 ∧ c ≠ ofChar '"' ∧ c ≠ ofChar '\\' ∧ writtenPoint c = [c]) ∨
    (c.val < 0x10000 ∧ writtenPoint c = ofChar '\\' :: ofChar 'u' :: Text.hex 4 c.val) ∨
    (0x10000 ≤ c.val ∧ writtenPoint c = ofChar '\\' :: ofChar 'u' ::
      (Text.hex 4 (0xD800 + (c.val - 0x10000) / 1024) ++
        ofChar '\\' :: ofChar 'u' :: Text.hex 4 (0xDC00 + (c.val - 0x10000) % 1024))) := by
  rw [writtenPoint]
  by_cases hquote : c = ofChar '"' ∨ c = ofChar '\\'
  · rw [if_pos hquote]
    rcases hquote with rfl | rfl
    · exact Or.inl ⟨'"', '"', by decide, rfl, rfl⟩
    · exact Or.inl ⟨'\\', '\\', by decide, rfl, rfl⟩
  rw [if_neg hquote]
  cases hletter : controlLetter? c with
  | some letter =>
    obtain ⟨d, hmem, rfl⟩ := mem_letters_of_controlLetter? hletter
    exact Or.inl ⟨letter, d, hmem, rfl, rfl⟩
  | none =>
    simp only
    by_cases hplain : 32 ≤ c.val ∧ c.val < 127
    · rw [if_pos hplain]
      exact Or.inr (Or.inl ⟨hplain.1, hplain.2, fun h => hquote (Or.inl h),
        fun h => hquote (Or.inr h), rfl⟩)
    rw [if_neg hplain]
    by_cases hunit : c.val < 0x10000
    · rw [if_pos hunit, escapedUnit_eq]
      exact Or.inr (Or.inr (Or.inl ⟨hunit, rfl⟩))
    · rw [if_neg hunit, escapedUnit_eq, escapedUnit_eq, List.cons_append, List.cons_append]
      exact Or.inr (Or.inr (Or.inr ⟨by omega, rfl⟩))

/-- A code point is spelled by what is written of it. -/
theorem spellsPoint_writtenPoint (c : CodePoint) : SpellsPoint (writtenPoint c) c := by
  have hlt := c.isLt
  rcases writtenPoint_cases c with ⟨letter, d, hmem, rfl, h⟩ | ⟨hlower, hupper, hquote, hslash, h⟩ |
    ⟨hunit, h⟩ | ⟨hunit, h⟩
  · exact h ▸ .lettered hmem
  · have hscalar : c.isSurrogate = false := by
      refine eq_false_of_ne_true fun hsurrogate => ?_
      have := CodePoint.isSurrogate_iff.1 hsurrogate
      omega
    exact h ▸ .plain hlower hquote hslash hscalar
  · exact h ▸ .numbered (spellsNumber_hex hunit)
  · exact h ▸ .paired hunit (spellsNumber_hex (by omega)) (spellsNumber_hex (by omega))

/-- A surrogate is written by its number. -/
theorem writtenPoint_of_isSurrogate {c : CodePoint} (hc : c.isSurrogate = true) :
    writtenPoint c = ofChar '\\' :: ofChar 'u' :: Text.hex 4 c.val := by
  have hbounds := CodePoint.isSurrogate_iff.1 hc
  have hletters : ∀ x ∈ letters, (ofChar x.2).isSurrogate = false := by decide
  rcases writtenPoint_cases c with ⟨_, d, hmem, rfl, _⟩ | ⟨_, hupper, _⟩ | ⟨_, h⟩ | ⟨hunit, _⟩
  · rw [hletters _ hmem] at hc
    cases hc
  · omega
  · exact h
  · omega

/-- The halves of a pair are written as the code point is that they stand for. -/
theorem spellsPoint_writtenPair {high low : CodePoint} (hhigh : high.isHigh = true)
    (hlow : low.isLow = true) :
    SpellsPoint (writtenPoint high ++ writtenPoint low) (.ofPair high low) := by
  have hval := CodePoint.ofPair_val hhigh hlow
  have hhigh := CodePoint.isHigh_iff.1 hhigh
  have hlow := CodePoint.isLow_iff.1 hlow
  rw [writtenPoint_of_isSurrogate (CodePoint.isSurrogate_iff.2 ⟨hhigh.1, by omega⟩),
    writtenPoint_of_isSurrogate (CodePoint.isSurrogate_iff.2 ⟨by omega, hlow.2⟩)]
  refine .paired (by omega) ?_ ?_
  · rw [show 0xD800 + ((CodePoint.ofPair high low).val - 0x10000) / 1024 = high.val by omega]
    exact spellsNumber_hex (by omega)
  · rw [show 0xDC00 + ((CodePoint.ofPair high low).val - 0x10000) % 1024 = low.val by omega]
    exact spellsNumber_hex (by omega)

theorem writtenPoint_ofPair {high low : CodePoint} (hhigh : high.isHigh = true)
    (hlow : low.isLow = true) :
    writtenPoint (.ofPair high low) = writtenPoint high ++ writtenPoint low := by
  have hval := CodePoint.ofPair_val hhigh hlow
  have hhigh := CodePoint.isHigh_iff.1 hhigh
  have hlow := CodePoint.isLow_iff.1 hlow
  have hletters : ∀ x ∈ letters, (ofChar x.2).val < 0x10000 := by decide
  have hdigits : (CodePoint.ofPair high low).val - 0x10000 =
      (high.val - 0xD800) * 1024 + (low.val - 0xDC00) := by omega
  rw [writtenPoint_of_isSurrogate (CodePoint.isSurrogate_iff.2 ⟨hhigh.1, by omega⟩),
    writtenPoint_of_isSurrogate (CodePoint.isSurrogate_iff.2 ⟨by omega, hlow.2⟩)]
  rcases writtenPoint_cases (.ofPair high low) with ⟨_, d, hmem, hd, _⟩ | ⟨_, hupper, _⟩ |
    ⟨hunit, _⟩ | ⟨_, h⟩
  · have hlt : (CodePoint.ofPair high low).val < 0x10000 := hd ▸ hletters _ hmem
    omega
  · omega
  · omega
  · rw [h, hdigits, show 0xD800 + ((high.val - 0xD800) * 1024 + (low.val - 0xDC00)) / 1024 =
        high.val by omega,
      show 0xDC00 + ((high.val - 0xD800) * 1024 + (low.val - 0xDC00)) % 1024 = low.val by omega]
    rfl

/-- A text is written as it is with its pairs made one. -/
theorem writtenText_merged (t : Text) : writtenText t.merged = writtenText t := by
  have hpoints : t.merged.flatMap writtenPoint = t.flatMap writtenPoint := by
    induction t using Text.merged.induct with
    | case1 => rfl
    | case2 => rfl
    | case3 c d t h ih =>
      obtain ⟨hhigh, hlow⟩ := Bool.and_eq_true_iff.1 h
      rw [Text.merged, if_pos h, List.flatMap_cons, writtenPoint_ofPair hhigh hlow, ih,
        List.append_assoc]
      rfl
    | case4 c d t h ih =>
      rw [Text.merged, if_neg h, List.flatMap_cons, ih]
      rfl
  rw [writtenText, writtenText, hpoints]

/-- **What is written of a text spells it**, with its surrogate pairs made one. -/
theorem spellsText_flatMap (t : Text) : SpellsText (t.flatMap writtenPoint) t.merged := by
  induction t using Text.merged.induct with
  | case1 => exact .nil
  | case2 c => exact .cons (spellsPoint_writtenPoint c) .nil (Text.apart_nil c)
  | case3 c d t h ih =>
    -- the pair is written like one code point, which is no half of another pair
    obtain ⟨hhigh, hlow⟩ := Bool.and_eq_true_iff.1 h
    have hnone : (CodePoint.ofPair c d).isHigh = false := by
      refine eq_false_of_ne_true fun hpair => ?_
      have := CodePoint.isHigh_iff.1 hpair
      have := CodePoint.ofPair_val hhigh hlow
      omega
    rw [List.flatMap_cons, List.flatMap_cons, ← List.append_assoc, Text.merged, if_pos h]
    exact .cons (spellsPoint_writtenPair hhigh hlow) ih (Text.apart_of_isHigh hnone _)
  | case4 c d t h ih =>
    have hapart : Text.Apart c (d :: t) := Text.apart_cons (eq_false_of_ne_true h)
    rw [List.flatMap_cons, Text.merged_cons hapart]
    exact .cons (spellsPoint_writtenPoint c) ih hapart.merged

theorem spellsText_of_merged {t : Text} (h : t.merged = t) :
    SpellsText (t.flatMap writtenPoint) t := by
  have hmerged := spellsText_flatMap t
  rwa [h] at hmerged

/-! ### Printable texts -/

/-- A text of printable ASCII. -/
def Printable (t : Text) : Prop := ∀ c ∈ t, 32 ≤ c.val ∧ c.val < 127

theorem Printable.cons {c : CodePoint} {t : Text} (hc : 32 ≤ c.val ∧ c.val < 127)
    (ht : Printable t) :
    Printable (c :: t) :=
  List.forall_mem_cons.2 ⟨hc, ht⟩

theorem Printable.append {s t : Text} (hs : Printable s) (ht : Printable t) : Printable (s ++ t) :=
  List.forall_mem_append.2 ⟨hs, ht⟩

theorem printable_ofInt (n : Int) : Printable (Text.ofInt n) := by
  have hdigits : ∀ m, Printable (Text.ofNat m) := by
    intro m c hc
    have hdigit := Text.isAsciiDigit_of_mem_ofNat m c hc
    simp only [CodePoint.isAsciiDigit, Bool.and_eq_true, decide_eq_true_eq] at hdigit
    omega
  cases n with
  | ofNat n => exact hdigits n
  | negSucc n => exact .cons (by decide) (hdigits _)

theorem printable_hex {n : Nat} (h : n < 0x10000) : Printable (Text.hex 4 n) := by
  have hdigit : ∀ d < 16, 32 ≤ (CodePoint.digit d).val ∧ (CodePoint.digit d).val < 127 := by decide
  rw [Text.hex_four h]
  exact .cons (hdigit _ (by omega)) (.cons (hdigit _ (by omega)) (.cons (hdigit _ (by omega))
    (.cons (hdigit _ (by omega)) (List.forall_mem_nil _))))

theorem printable_writtenPoint (c : CodePoint) : Printable (writtenPoint c) := by
  have hlt := c.isLt
  have hnone : Printable [] := List.forall_mem_nil _
  have hletter : ∀ x ∈ letters, 32 ≤ (ofChar x.1).val ∧ (ofChar x.1).val < 127 := by decide
  rcases writtenPoint_cases c with ⟨letter, d, hmem, _, h⟩ | ⟨hlower, hupper, _, _, h⟩ |
    ⟨hunit, h⟩ | ⟨hunit, h⟩
  · exact h ▸ .cons (by decide) (.cons (hletter _ hmem) hnone)
  · exact h ▸ .cons ⟨hlower, hupper⟩ hnone
  · exact h ▸ .cons (by decide) (.cons (by decide) (printable_hex hunit))
  · exact h ▸ .cons (by decide) (.cons (by decide) ((printable_hex (by omega)).append
      (.cons (by decide) (.cons (by decide) (printable_hex (by omega))))))

theorem printable_writtenText (t : Text) : Printable (writtenText t) := by
  have hpoints : Printable (t.flatMap writtenPoint) := by
    intro c hc
    obtain ⟨d, _, hd⟩ := List.mem_flatMap.1 hc
    exact printable_writtenPoint d c hd
  exact .cons (by decide) (hpoints.append (.cons (by decide) (List.forall_mem_nil _)))

/-! ### Values -/

mutual

/-- A value that can be spelled: no number of double width, no surrogate pair in two halves, no key
that comes twice, and no other whole numbers than those allowed. -/
def Plain (allowed : Int → Prop) : Json → Prop
  | null => True
  | bool _ => True
  | whole n => allowed n
  | real _ => False
  | text t => t.merged = t
  | list items => PlainItems allowed items
  | object members => (members.map Prod.fst).Nodup ∧ PlainMembers allowed members

/-- Values of this kind. -/
def PlainItems (allowed : Int → Prop) : List Json → Prop
  | [] => True
  | v :: vs => Plain allowed v ∧ PlainItems allowed vs

/-- Members of this kind. -/
def PlainMembers (allowed : Int → Prop) : List (Text × Json) → Prop
  | [] => True
  | (k, v) :: rest => k.merged = k ∧ Plain allowed v ∧ PlainMembers allowed rest

end

variable {allowed : Int → Prop}

theorem put_of_not_mem {key : Text} (v : Json) {members : List (Text × Json)}
    (h : key ∉ members.map Prod.fst) : put key v members = members ++ [(key, v)] := by
  induction members with
  | nil => rfl
  | cons m members ih =>
    rw [List.map_cons, List.mem_cons, not_or] at h
    rw [put, if_neg (Ne.symm h.1), ih h.2, List.cons_append]

/-- Members with different keys are kept as they are. -/
theorem ofMembers_of_nodup {members : List (Text × Json)} (h : (members.map Prod.fst).Nodup) :
    ofMembers members = members := by
  have hfold : ∀ (rest before : List (Text × Json)), ((before ++ rest).map Prod.fst).Nodup →
      rest.foldl (fun sofar m => put m.1 m.2 sofar) before = before ++ rest := by
    intro rest
    induction rest with
    | nil => intro before _; rw [List.append_nil]; rfl
    | cons m rest ih =>
      intro before hnodup
      obtain ⟨k, v⟩ := m
      have hk : k ∉ before.map Prod.fst := by
        rw [List.map_append, List.nodup_append] at hnodup
        exact fun hmem => hnodup.2.2 _ hmem _ List.mem_cons_self rfl
      have hput := ih (put k v before)
      rw [put_of_not_mem v hk, List.append_assoc, List.singleton_append] at hput
      rw [List.foldl_cons]
      exact (congrArg (List.foldl _ · rest) (put_of_not_mem v hk)).trans (hput hnodup)
  exact hfold members [] h

/-- What a layout puts between the parts of a value. -/
theorem gap_newLine (depth : Nat) (layout : Layout) : Gap (layout.newLine depth) := by
  cases layout with
  | line => exact List.forall_mem_nil _
  | indented step =>
    intro c hc
    rw [Layout.newLine, Text.ofChars, List.map_cons, List.map_replicate, List.mem_cons] at hc
    rcases hc with rfl | hc
    · decide
    · rw [(List.mem_replicate.1 hc).2]
      decide

theorem exists_separator_eq (depth : Nat) (layout : Layout) :
    ∃ gap, Gap gap ∧ layout.separator depth = ofChar ',' :: gap := by
  cases layout with
  | line => exact ⟨[ofChar ' '], List.forall_mem_singleton.2 (by decide), rfl⟩
  | indented step => exact ⟨_, gap_newLine depth (.indented step), rfl⟩

theorem Gap.append {gap gap' : Text} (h : Gap gap) (h' : Gap gap') : Gap (gap ++ gap') :=
  List.forall_mem_append.2 ⟨h, h'⟩

theorem SpellsMember.within {before t after : Text} {m : Text × Json} (hbefore : Gap before)
    (h : SpellsMember allowed t m) (hafter : Gap after) :
    SpellsMember allowed (before ++ (t ++ after)) m := by
  obtain ⟨hgap, hk, hgap', hpart⟩ := h
  obtain ⟨hgap₁, hspells, hgap₂⟩ := hpart
  have h := SpellsMember.mk (hbefore.append hgap) hk hgap' (.mk hgap₁ hspells (hgap₂.append hafter))
  simpa only [List.append_assoc, List.cons_append] using h

theorem spellsItems_join {gap after : Text} (hgap : Gap gap) (hafter : Gap after) {ts : List Text}
    {vs : List Json} (hs : List.Forall₂ (Spells allowed) ts vs) : ∀ {before t : Text} {v : Json},
      Gap before → Spells allowed t v →
        SpellsItems allowed (before ++ (Text.join (ofChar ',' :: gap) (t :: ts) ++ after))
          (v :: vs) := by
  induction hs with
  | nil =>
    intro before t v hbefore h
    rw [Text.join, List.intercalate_singleton]
    exact .last (.mk hbefore h hafter)
  | @cons t' v' ts vs h' _ ih =>
    intro before t v hbefore h
    have hmore := SpellsItems.more (.mk hbefore h (List.forall_mem_nil _)) (ih hgap h')
    rw [Text.join, List.intercalate_cons_cons]
    simpa only [Text.join, List.append_nil, List.append_assoc, List.cons_append] using hmore

theorem spellsMembers_join {gap after : Text} (hgap : Gap gap) (hafter : Gap after) {ts : List Text}
    {ms : List (Text × Json)} (hs : List.Forall₂ (SpellsMember allowed) ts ms) :
    ∀ {before t : Text} {m : Text × Json}, Gap before → SpellsMember allowed t m →
      SpellsMembers allowed (before ++ (Text.join (ofChar ',' :: gap) (t :: ts) ++ after))
        (m :: ms) := by
  induction hs with
  | nil =>
    intro before t m hbefore h
    rw [Text.join, List.intercalate_singleton]
    exact .last (h.within hbefore hafter)
  | @cons t' m' ts ms h' _ ih =>
    intro before t m hbefore h
    have hmore := SpellsMembers.more (h.within hbefore (List.forall_mem_nil _)) (ih hgap h')
    rw [Text.join, List.intercalate_cons_cons]
    simpa only [Text.join, List.append_nil, List.append_assoc, List.cons_append] using hmore

/-- Items between brackets, of which there are some. -/
theorem bracketed_cons (layout : Layout) (depth : Nat) (opening closing : Char) (t : Text)
    (ts : List Text) : bracketed layout depth (String.singleton opening) (String.singleton closing)
      (t :: ts) = enclosed opening closing (layout.newLine (depth + 1) ++
        (Text.join (layout.separator (depth + 1)) (t :: ts) ++ layout.newLine depth)) := by
  rw [bracketed, if_neg (by rw [List.isEmpty_cons]; decide), Text.concat, enclosed]
  simp only [Text.ofString, String.toList_singleton, Text.ofChars, List.map_cons, List.map_nil,
    List.flatten_cons, List.flatten_nil, List.append_nil, List.singleton_append, List.append_assoc]

theorem spellsMember_written {k t : Text} {v : Json} (hk : k.merged = k) (h : Spells allowed t v) :
    SpellsMember allowed (Text.concat [writtenText k, ": ", t]) (k, v) := by
  have hgap : Gap [ofChar ' '] := List.forall_mem_singleton.2 (by decide)
  have hnone : Gap [] := List.forall_mem_nil _
  have hmember := SpellsMember.mk hnone (spellsText_of_merged hk) hnone (.mk hgap h hnone)
  have htext : Text.concat [writtenText k, ": ", t] =
      enclosed '"' '"' (k.flatMap writtenPoint) ++ (ofChar ':' :: ([ofChar ' '] ++ t)) := by
    simp only [Text.concat, List.flatten_cons, List.flatten_nil, List.append_nil]
    rfl
  rw [htext]
  simpa only [List.nil_append, List.append_nil] using hmember

mutual

/-- **A value is spelled by what is written of it.** -/
theorem spells_writtenAt (layout : Layout) : ∀ (depth : Nat) (v : Json), Plain allowed v →
    Spells allowed (writtenAt layout depth v) v
  | _, null, _ => .null
  | _, bool true, _ => .bool true
  | _, bool false, _ => .bool false
  | _, whole _, h => .whole h
  | _, real _, h => h.elim
  | _, text _, h => .text (spellsText_of_merged h)
  | depth, list [], _ => .emptyList (List.forall_mem_nil _)
  | depth, list (v :: vs), h => by
    obtain ⟨gap, hgap, hseparator⟩ := exists_separator_eq (depth + 1) layout
    have hitems := spellsItems_join hgap (gap_newLine depth layout)
      (forall₂_writtenItems layout (depth + 1) vs h.2) (gap_newLine (depth + 1) layout)
      (spells_writtenAt layout (depth + 1) v h.1)
    rw [← hseparator] at hitems
    rw [writtenAt, writtenItems]
    exact bracketed_cons layout depth '[' ']' _ _ ▸ .list hitems
  | depth, object [], _ => .emptyObject (List.forall_mem_nil _)
  | depth, object (m :: ms), h => by
    obtain ⟨gap, hgap, hseparator⟩ := exists_separator_eq (depth + 1) layout
    have hmembers := spellsMembers_join hgap (gap_newLine depth layout)
      (forall₂_writtenMembers layout (depth + 1) ms h.2.2.2) (gap_newLine (depth + 1) layout)
      (spellsMember_written h.2.1 (spells_writtenAt layout (depth + 1) m.2 h.2.2.1))
    rw [← hseparator] at hmembers
    have hobject := Spells.object hmembers
    rw [ofMembers_of_nodup h.1] at hobject
    rw [writtenAt, writtenMembers]
    exact bracketed_cons layout depth '\x7b' '\x7d' _ _ ▸ hobject

theorem forall₂_writtenItems (layout : Layout) : ∀ (depth : Nat) (vs : List Json),
    PlainItems allowed vs → List.Forall₂ (Spells allowed) (writtenItems layout depth vs) vs
  | _, [], _ => .nil
  | depth, v :: vs, h =>
    .cons (spells_writtenAt layout depth v h.1) (forall₂_writtenItems layout depth vs h.2)

theorem forall₂_writtenMembers (layout : Layout) : ∀ (depth : Nat) (ms : List (Text × Json)),
    PlainMembers allowed ms →
      List.Forall₂ (SpellsMember allowed) (writtenMembers layout depth ms) ms
  | _, [], _ => .nil
  | depth, (_, v) :: ms, h =>
    .cons (spellsMember_written h.1 (spells_writtenAt layout depth v h.2.1))
      (forall₂_writtenMembers layout depth ms h.2.2)

end

theorem spells_written (layout : Layout) {v : Json} (h : Plain allowed v) :
    Spells allowed (v.written layout) v :=
  spells_writtenAt layout 0 v h

/-- An object with one text is spelled with the surrogate pairs in the text made one. -/
theorem spells_written_text {key : Text} (hkey : key.merged = key) (t : Text) :
    Spells allowed ((object [(key, text t)]).written .line) (object [(key, text t.merged)]) := by
  obtain ⟨gap, hgap, hseparator⟩ := exists_separator_eq 1 .line
  have htext : Spells allowed (writtenText t) (text t.merged) := .text (spellsText_flatMap t)
  have hmembers := spellsMembers_join hgap (gap_newLine 0 .line) .nil (gap_newLine 1 .line)
    (spellsMember_written hkey htext)
  have hobject : Spells allowed _ (object [(key, text t.merged)]) := .object hmembers
  rw [← hseparator] at hobject
  rw [written, writtenAt, writtenMembers, writtenMembers]
  exact bracketed_cons .line 0 '\x7b' '\x7d' _ [] ▸ hobject

end Json

end PullNotes
