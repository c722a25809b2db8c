import PullNotes.Proofs.Console.EmojiNames
import PullNotes.Proofs.Messages
import PullNotes.Proofs.SettingChange

/-!
# Messages that are shown as they are

What is said on the console is markup.  A text without tags, without backslashes before brackets and
without names of emoji is literal: it is shown as it is.  No other text is.  Tags and backslashes
are left out of what is shown, so that what is left is a part of the text and shorter, and each name
of an emoji takes its colons with it, which nothing puts back.  How the parameters of a handler are
evaluated does not matter, since they stand in a tag.

* `Markup.Literal` : the texts with nothing in them that is interpreted.
* `Markup.pieces_cases`, `Markup.shownText_cases` : what markup leaves of a text.
* `Markup.renderFrom_eq_self_iff` : the texts that are shown as they are.
* `Console.Showable` : texts without control characters.
* `Console.messageBy_eq_ok_iff`, `CommandLine.said_verbatim_iff` : the messages that are shown as
  they are.
-/

namespace PullNotes

namespace Markup

/-- A tag is in a text. -/
def Tagged (t : Text) : Prop :=
  ∃ front c content back, t = front ++ opening :: c :: (content ++ closing :: back) ∧
    startsTag c = true ∧ opening ∉ content ∧ closing ∉ content

/-- In a text there is a backslash right before an opening bracket. -/
def Escaped (t : Text) : Prop := [backslash, opening] <:+: t

/-- Nothing in a text is interpreted. -/
structure Literal (t : Text) : Prop where
  untagged : ¬ Tagged t
  unescaped : ¬ Escaped t
  unnamed : ¬ Emoji.Named t

/-- The text of a piece. -/
def Piece.kept : Piece → Text
  | text t => t
  | tag _ _ => []

/-- What a piece shows. -/
def Piece.shown : Piece → Text
  | text t => shownText t
  | tag _ _ => []

variable {t content rest plain shown : Text} {c : CodePoint} {place : Nat} {evaluate : Evaluator}

/-! ### Tags -/

theorem upToClosing?_eq_some (h : upToClosing? t = some content) :
    ∃ back, t = content ++ closing :: back ∧ opening ∉ content ∧ closing ∉ content := by
  induction t generalizing content with
  | nil => cases h
  | cons c rest ih =>
    rw [upToClosing?] at h
    by_cases hclosing : c = closing
    · rw [if_pos hclosing] at h
      obtain rfl := Option.some.inj h
      exact ⟨rest, by rw [hclosing]; rfl, List.not_mem_nil, List.not_mem_nil⟩
    · rw [if_neg hclosing] at h
      by_cases hopening : c = opening
      · rw [if_pos hopening] at h
        cases h
      · rw [if_neg hopening] at h
        obtain ⟨content', hrest, rfl⟩ := Option.map_eq_some_iff.1 h
        obtain ⟨back, rfl, hopenings, hclosings⟩ := ih hrest
        refine ⟨back, rfl, ?_, ?_⟩
        · rw [List.mem_cons, not_or]
          exact ⟨Ne.symm hopening, hopenings⟩
        · rw [List.mem_cons, not_or]
          exact ⟨Ne.symm hclosing, hclosings⟩

theorem tagContent?_eq_some (h : tagContent? t = some content) :
    ∃ c inner back, content = c :: inner ∧ t = opening :: c :: (inner ++ closing :: back) ∧
      startsTag c = true ∧ opening ∉ inner ∧ closing ∉ inner := by
  unfold tagContent? at h
  split at h
  case h_1 bracket c rest =>
    split at h
    case isTrue hstart =>
      obtain ⟨inner, hinner, rfl⟩ := Option.map_eq_some_iff.1 h
      obtain ⟨back, rfl, hopening, hclosing⟩ := upToClosing?_eq_some hinner
      exact ⟨c, inner, back, rfl, by rw [hstart.1], hstart.2, hopening, hclosing⟩
    case isFalse => cases h
  case h_2 => cases h

theorem tagContent?_of_tag (hstart : startsTag c = true) (hopening : opening ∉ content)
    (hclosing : closing ∉ content) (back : Text) :
    tagContent? (opening :: c :: (content ++ closing :: back)) = some (c :: content) := by
  simp [tagContent?, hstart, upToClosing?_eq hopening hclosing]

/-- The number of backslashes at the start of a text. -/
def backslashes (t : Text) : Nat := (t.takeWhile (· = backslash)).length

theorem replicate_backslashes (t : Text) :
    List.replicate (backslashes t) backslash ++ t.drop (backslashes t) = t := by
  have htaken : t.takeWhile (· = backslash) = List.replicate (backslashes t) backslash :=
    List.eq_replicate_of_mem fun c hc => by simpa using List.mem_takeWhile_imp hc
  have hprefix : t.takeWhile (· = backslash) = t.take (backslashes t) :=
    List.prefix_iff_eq_take.1 (List.takeWhile_prefix _)
  rw [← htaken, hprefix, List.take_append_drop]

/-- A tag with the backslashes before it, and what comes after. -/
theorem exists_tag (h : tagContent? (t.drop (backslashes t)) = some content) : ∃ back,
    t = List.replicate (backslashes t) backslash ++ (opening :: content ++ closing :: back) ∧
      t.drop (backslashes t + content.length + 2) = back ∧ Tagged t := by
  obtain ⟨c, inner, back, rfl, hback, hstart, hopening, hclosing⟩ := tagContent?_eq_some h
  have ht : t = List.replicate (backslashes t) backslash ++
      (opening :: c :: inner ++ closing :: back) := by
    have hall := replicate_backslashes t
    rw [hback] at hall
    exact hall.symm
  refine ⟨back, ht, ?_, _, c, inner, back, ht, hstart, hopening, hclosing⟩
  rw [Nat.add_assoc, ← List.drop_drop, hback]
  have hlength : (c :: inner).length + 2 = (opening :: c :: (inner ++ [closing])).length := by simp
  have hafter : opening :: c :: (inner ++ closing :: back) =
      opening :: c :: (inner ++ [closing]) ++ back := by simp
  rw [hlength, hafter, List.drop_left]

/-- Half of the backslashes before a tag are shown at most, and less than the whole of it. -/
theorem kept_tagPieces (n place : Nat) (content : Text) :
    ((tagPieces n place content).flatMap Piece.kept).Sublist
        (List.replicate n backslash ++ (opening :: content ++ [closing])) ∧
      ((tagPieces n place content).flatMap Piece.kept).length < n + content.length + 2 := by
  have hhalf : (List.replicate (n / 2) backslash).Sublist (List.replicate n backslash) :=
    (List.replicate_sublist_replicate _).2 (Nat.div_le_self n 2)
  unfold tagPieces
  by_cases hodd : n % 2 = 1
  · rw [if_pos hodd]
    refine ⟨by simpa [Piece.kept] using hhalf.append_right (opening :: (content ++ [closing])), ?_⟩
    simp only [List.flatMap_cons, List.flatMap_nil, Piece.kept, List.length_append,
      List.length_replicate, List.length_cons, List.length_nil]
    omega
  · rw [if_neg hodd]
    refine ⟨?_, ?_⟩
    · simpa [Piece.kept] using hhalf.trans (List.sublist_append_left _ _)
    · simp only [List.flatMap_cons, List.flatMap_nil, Piece.kept, List.length_append,
        List.length_replicate, List.length_nil]
      omega

theorem piecesFrom_of_tag
    (h : tagContent? ((c :: rest).drop (backslashes (c :: rest))) = some content) :
    piecesFrom plain place 0 (c :: rest) =
      .text plain.reverse :: tagPieces (backslashes (c :: rest)) place content ++
        piecesFrom [] (place + 1) (backslashes (c :: rest) + content.length + 1) rest := by
  rw [piecesFrom]
  simp only [backslashes] at h ⊢
  rw [h]

theorem piecesFrom_of_none (h : tagContent? ((c :: rest).drop (backslashes (c :: rest))) = none) :
    piecesFrom plain place 0 (c :: rest) = piecesFrom (c :: plain) (place + 1) 0 rest := by
  rw [piecesFrom]
  simp only [backslashes] at h ⊢
  rw [h]

/-- The texts of the pieces are in the text, one after another. -/
theorem sublist_kept (plain : Text) (place done : Nat) (t : Text) :
    ((piecesFrom plain place done t).flatMap Piece.kept).Sublist
      (plain.reverse ++ t.drop done) := by
  induction t generalizing plain place done with
  | nil => cases done <;> simp [piecesFrom, Piece.kept]
  | cons c rest ih =>
    cases done with
    | succ done => exact ih plain (place + 1) done
    | zero =>
      cases htag : tagContent? ((c :: rest).drop (backslashes (c :: rest))) with
      | none =>
        have hrest := ih (c :: plain) (place + 1) 0
        rw [piecesFrom_of_none htag]
        simpa using hrest
      | some content =>
        obtain ⟨back, hwhole, hback, -⟩ := exists_tag htag
        have hrest := ih [] (place + 1) (backslashes (c :: rest) + content.length + 1)
        have hdrop : rest.drop (backslashes (c :: rest) + content.length + 1) = back := hback
        rw [hdrop, List.reverse_nil, List.nil_append] at hrest
        have hsplit : c :: rest = List.replicate (backslashes (c :: rest)) backslash ++
            (opening :: content ++ [closing]) ++ back := by
          rw [List.append_assoc, List.append_assoc, List.singleton_append]
          exact hwhole
        rw [piecesFrom_of_tag htag, List.cons_append, List.flatMap_cons, List.flatMap_append,
          List.drop_zero]
        conv_rhs => rw [hsplit]
        exact (List.Sublist.refl _).append ((kept_tagPieces _ place content).1.append hrest)

/-- **What the pieces of a text keep**: it is the one piece if it has no tag, and less is kept of it
otherwise. -/
theorem pieces_cases (plain : Text) (place : Nat) (t : Text) :
    (piecesFrom plain place 0 t = [.text (plain.reverse ++ t)] ∧ ¬ Tagged t) ∨
      (((piecesFrom plain place 0 t).flatMap Piece.kept).length < plain.length + t.length ∧
        Tagged t) := by
  induction t generalizing plain place with
  | nil =>
    refine Or.inl ⟨by simp [piecesFrom], ?_⟩
    rintro ⟨front, c, content, back, heq, -⟩
    simp at heq
  | cons c rest ih =>
    cases htag : tagContent? ((c :: rest).drop (backslashes (c :: rest))) with
    | some content =>
      obtain ⟨back, hwhole, hback, htagged⟩ := exists_tag htag
      have hrest := (sublist_kept [] (place + 1)
        (backslashes (c :: rest) + content.length + 1) rest).length_le
      have htagLength := (kept_tagPieces (backslashes (c :: rest)) place content).2
      have hlength := congrArg List.length hwhole
      have hdrop : rest.drop (backslashes (c :: rest) + content.length + 1) = back := hback
      rw [hdrop, List.reverse_nil, List.nil_append] at hrest
      simp only [List.length_append, List.length_replicate, List.length_cons] at hlength
      refine Or.inr ⟨?_, htagged⟩
      rw [piecesFrom_of_tag htag, List.cons_append, List.flatMap_cons, List.flatMap_append,
        List.length_append, List.length_append, Piece.kept, List.length_reverse, List.length_cons]
      omega
    | none =>
      -- no tag starts here: with an opening bracket there would be no backslash before it
      have htagged : Tagged (c :: rest) ↔ Tagged rest := by
        constructor
        · rintro ⟨front, d, content, back, heq, hstart, hopening, hclosing⟩
          cases front with
          | nil =>
            have hnone : backslashes (c :: rest) = 0 := by
              rw [heq]
              simp [backslashes, show opening ≠ backslash by decide]
            rw [hnone, List.drop_zero, heq, List.nil_append,
              tagContent?_of_tag hstart hopening hclosing] at htag
            cases htag
          | cons e front =>
            exact ⟨front, d, content, back, (List.cons.inj heq).2, hstart, hopening, hclosing⟩
        · rintro ⟨front, d, content, back, rfl, hrest⟩
          exact ⟨c :: front, d, content, back, rfl, hrest⟩
      rw [piecesFrom_of_none htag, htagged]
      have hcases := ih (c :: plain) (place + 1)
      rw [List.reverse_cons, List.append_assoc, List.singleton_append, List.length_cons] at hcases
      rcases hcases with hone | ⟨hless, hmore⟩
      · exact Or.inl hone
      · refine Or.inr ⟨?_, hmore⟩
        rw [List.length_cons]
        omega

/-! ### Backslashes -/

theorem sublist_unescaped (t : Text) : (unescaped t).Sublist t := by
  fun_induction unescaped t with
  | case1 => exact List.Sublist.refl _
  | case2 c => exact List.Sublist.refl _
  | case3 c d rest h ih =>
    rw [h.2]
    exact (ih.cons_cons opening).cons c
  | case4 c d rest h ih => exact ih.cons_cons c

/-- The backslashes before opening brackets are all that is taken out. -/
theorem unescaped_eq_self_iff (t : Text) : unescaped t = t ↔ ¬ Escaped t := by
  fun_induction unescaped t with
  | case1 => simp [Escaped]
  | case2 c => simp [Escaped, List.infix_cons_iff]
  | case3 c d rest h ih =>
    obtain ⟨rfl, rfl⟩ := h
    refine iff_of_false (fun heq => ?_) fun hnot => hnot ⟨[], rest, rfl⟩
    have hlength := congrArg List.length heq
    have hle := (sublist_unescaped rest).length_le
    simp only [List.length_cons] at hlength
    omega
  | case4 c d rest h ih =>
    rw [List.cons_inj_right, ih]
    refine not_congr ?_
    rw [Escaped, Escaped, List.infix_cons_iff (a := c)]
    refine (or_iff_right fun hprefix => h ?_).symm
    obtain ⟨more, hmore⟩ := hprefix
    simp only [List.cons_append, List.nil_append, List.cons.injEq] at hmore
    exact ⟨hmore.1.symm, hmore.2.1.symm⟩

/-! ### What is shown -/

/-- **What is shown of a text** is a part of it, or an emoji in it took two colons with it. -/
theorem shownText_cases (t : Text) :
    (shownText t).Sublist t ∨ (shownText t).count Emoji.colon < t.count Emoji.colon := by
  have hunescaped := (sublist_unescaped t).count_le Emoji.colon
  have hfilter : (shownText t).Sublist (Emoji.replace (unescaped t)) := List.filter_sublist
  rcases Emoji.replace_cases (unescaped t) with ⟨hsame, -⟩ | ⟨hless, -⟩
  · rw [hsame] at hfilter
    exact Or.inl (hfilter.trans (sublist_unescaped t))
  · have hshown := hfilter.count_le Emoji.colon
    exact Or.inr (by omega)

theorem shown_cases (ps : List Piece) :
    (ps.flatMap Piece.shown).Sublist (ps.flatMap Piece.kept) ∨
      (ps.flatMap Piece.shown).count Emoji.colon < (ps.flatMap Piece.kept).count Emoji.colon := by
  induction ps with
  | nil => exact Or.inl (List.Sublist.refl _)
  | cons p ps ih =>
    have hfirst : p.shown.Sublist p.kept ∨
        p.shown.count Emoji.colon < p.kept.count Emoji.colon := by
      cases p with
      | text t => exact shownText_cases t
      | tag t place => exact Or.inl (List.Sublist.refl _)
    simp only [List.flatMap_cons, List.count_append]
    rcases hfirst with hfirst | hfirst <;> rcases ih with hrest | hrest
    · exact Or.inl (hfirst.append hrest)
    · have hle := hfirst.count_le Emoji.colon
      exact Or.inr (by omega)
    · have hle := hrest.count_le Emoji.colon
      exact Or.inr (by omega)
    · exact Or.inr (by omega)

/-- What is rendered is what the pieces show. -/
theorem renderPieces_eq {opened : List Tag} {ps : List Piece}
    (h : renderPieces evaluate opened ps = .ok shown) : shown = ps.flatMap Piece.shown := by
  induction ps generalizing opened shown with
  | nil => exact (Except.ok.inj h).symm
  | cons p ps ih =>
    cases p with
    | text t =>
      obtain ⟨after, hafter, heq⟩ := Except.bind_eq_ok_iff.1 h
      rw [← Except.ok.inj heq, ih hafter]
      rfl
    | tag t place =>
      obtain ⟨opened', -, hafter⟩ := Except.bind_eq_ok_iff.1 h
      exact ih hafter

/-- What is rendered is a part of the text, or an emoji is in it that took two colons with it. -/
theorem renderFrom_cases (h : renderPieces evaluate [] (piecesFrom [] place 0 t) = .ok shown) :
    shown.Sublist t ∨ shown.count Emoji.colon < t.count Emoji.colon := by
  have hkept := sublist_kept [] place 0 t
  rw [List.reverse_nil, List.nil_append, List.drop_zero] at hkept
  rw [renderPieces_eq h]
  rcases shown_cases (piecesFrom [] place 0 t) with hsub | hless
  · exact Or.inl (hsub.trans hkept)
  · have hle := hkept.count_le Emoji.colon
    exact Or.inr (by omega)

theorem shownText_eq_self_iff (hhidden : ∀ c ∈ t, isHidden c = false) :
    shownText t = t ↔ ¬ Escaped t ∧ ¬ Emoji.Named t := by
  have hfilter : t.filter (fun c => !isHidden c) = t :=
    List.filter_eq_self.2 fun c hc => by simp [hhidden c hc]
  constructor
  · intro h
    have hfilter : (shownText t).Sublist (Emoji.replace (unescaped t)) := List.filter_sublist
    have hunescaped := sublist_unescaped t
    rw [h] at hfilter
    rcases Emoji.replace_cases (unescaped t) with ⟨hsame, hnamed⟩ | ⟨hless, -⟩
    · rw [hsame] at hfilter
      have heq : unescaped t = t := hunescaped.eq_of_length_le hfilter.length_le
      rw [heq] at hnamed
      exact ⟨(unescaped_eq_self_iff t).1 heq, hnamed⟩
    · have hcount := hfilter.count_le Emoji.colon
      have hle := hunescaped.count_le Emoji.colon
      omega
  · rintro ⟨hescaped, hnamed⟩
    rw [shownText, (unescaped_eq_self_iff t).2 hescaped, Emoji.replace_of_not_named hnamed, hfilter]

/-- **The texts that are rendered as they are** are the literal ones, if nothing is hidden. -/
theorem renderFrom_eq_self_iff (hhidden : ∀ c ∈ t, isHidden c = false) :
    renderPieces evaluate [] (piecesFrom [] place 0 t) = .ok t ↔ Literal t := by
  rcases pieces_cases [] place t with ⟨hone, htagged⟩ | ⟨hless, htagged⟩
  · have hrender : renderPieces evaluate [] (piecesFrom [] place 0 t) = .ok (shownText t) := by
      rw [hone, List.reverse_nil, List.nil_append, renderPieces, renderPieces, Except.ok_bind,
        List.append_nil]
    rw [hrender, Except.ok.injEq, shownText_eq_self_iff hhidden]
    exact ⟨fun h => ⟨htagged, h.1, h.2⟩, fun h => ⟨h.unescaped, h.unnamed⟩⟩
  · refine iff_of_false (fun h => ?_) fun h => h.untagged htagged
    have hkept := sublist_kept [] place 0 t
    rw [List.reverse_nil, List.nil_append, List.drop_zero] at hkept
    have hshown := renderPieces_eq h
    rcases shown_cases (piecesFrom [] place 0 t) with hsub | hcount
    · rw [← hshown] at hsub
      have hle := hsub.length_le
      simp only [List.length_nil] at hless
      omega
    · rw [← hshown] at hcount
      have hle := hkept.count_le Emoji.colon
      omega

/-- A space at the start of a text changes nothing. -/
theorem literal_space_iff : Literal (Markdown.space :: t) ↔ Literal t := by
  have htagged : Tagged (Markdown.space :: t) ↔ Tagged t := by
    constructor
    · rintro ⟨front, c, content, back, heq, hrest⟩
      cases front with
      | nil => exact absurd (List.cons.inj heq).1 (by decide)
      | cons d front => exact ⟨front, c, content, back, (List.cons.inj heq).2, hrest⟩
    · rintro ⟨front, c, content, back, rfl, hrest⟩
      exact ⟨Markdown.space :: front, c, content, back, rfl, hrest⟩
  have hescaped : Escaped (Markdown.space :: t) ↔ Escaped t := by
    rw [Escaped, Escaped, List.infix_cons_iff]
    refine or_iff_right fun hprefix => ?_
    obtain ⟨more, hmore⟩ := hprefix
    exact absurd (List.cons.inj hmore).1 (by decide)
  have hnamed : Emoji.Named (Markdown.space :: t) ↔ Emoji.Named t :=
    Emoji.named_cons_blank_iff (by decide)
  constructor
  · intro h
    exact ⟨htagged.not.1 h.untagged, hescaped.not.1 h.unescaped, hnamed.not.1 h.unnamed⟩
  · intro h
    exact ⟨htagged.not.2 h.untagged, hescaped.not.2 h.unescaped, hnamed.not.2 h.unnamed⟩

end Markup

namespace Console

variable {m t shown : Text} {c : CodePoint} {evaluate : Evaluator}

/-- A text has no control characters and no surrogates. -/
def Showable (t : Text) : Prop :=
  ∀ c ∈ t, 32 ≤ c.val ∧ ¬ (0x7F ≤ c.val ∧ c.val < 0xA0) ∧ c.isSurrogate = false

instance (t : Text) : Decidable (Showable t) := List.decidableBAll _ t

theorem isHidden_of_le (h : 32 ≤ c.val) : Markup.isHidden c = false := by
  simp only [Markup.isHidden, Bool.or_eq_false_iff, decide_eq_false_iff_not]
  omega

theorem ne_of_le {d : CodePoint} (h : 32 ≤ c.val) (hd : d.val < 32) : c ≠ d := by
  rintro rfl
  omega

/-! ### Lines of what is shown -/

/-- A text in lines, with spaces for its tabs. -/
def laidOut (t : Text) : Text := asLines ((t.splitOn CodePoint.lineFeed).map Wrapping.expanded)

theorem messageBy_eq (render : Renderer) (mood : Mood) (text : Text) :
    messageBy render mood text = (render (mood.mark ++ text)).map laidOut := by
  rw [messageBy]
  cases render (mood.mark ++ text) <;> rfl

theorem asLines_splitOn (t : Text) :
    asLines (t.splitOn CodePoint.lineFeed) = t ++ [CodePoint.lineFeed] := by
  induction t with
  | nil => rfl
  | cons c rest ih =>
    rw [Text.splitOn]
    cases hrest : Text.splitOn CodePoint.lineFeed rest with
    | nil =>
      rw [Text.splitOn_eq] at hrest
      exact absurd hrest (List.splitOn_ne_nil _ rest)
    | cons first more =>
      rw [hrest] at ih
      dsimp only
      by_cases hfeed : c = CodePoint.lineFeed
      · rw [if_pos hfeed, List.cons_append, ← ih, hfeed]
        rfl
      · rw [if_neg hfeed, List.cons_append, ← ih]
        rfl

theorem expanded_eq_self (h : Wrapping.tab ∉ t) : Wrapping.expanded t = t := by
  rw [Wrapping.expanded, if_neg (by simpa using h)]

/-- A text without tabs gets a line feed at its end and nothing else. -/
theorem laidOut_of_not_mem (h : Wrapping.tab ∉ t) : laidOut t = t ++ [CodePoint.lineFeed] := by
  have hexpanded : ∀ piece ∈ t.splitOn CodePoint.lineFeed, Wrapping.expanded piece = id piece :=
    fun piece hpiece => expanded_eq_self fun htab =>
      h ((Text.isInfix_of_mem_splitOn _ hpiece).subset htab)
  rw [laidOut, List.map_congr_left hexpanded, List.map_id, asLines_splitOn]

theorem count_expandFrom (hspace : c ≠ Markdown.space) (htab : c ≠ Wrapping.tab) (start : Nat)
    (before t : Text) :
    (Wrapping.expandFrom start before t).count c = before.count c + t.count c := by
  induction t generalizing start before with
  | nil => simp [Wrapping.expandFrom]
  | cons d rest ih =>
    rw [Wrapping.expandFrom]
    by_cases hd : d = Wrapping.tab
    · have hspaces : ∀ n, (Text.spaces n).count c = 0 := fun n =>
        List.count_eq_zero.2 fun hmem => hspace (List.eq_of_mem_replicate hmem)
      rw [if_pos hd, List.count_append, List.count_append, ih, hspaces, hd,
        List.count_cons_of_ne htab.symm, List.count_reverse, List.count_nil]
      omega
    · rw [if_neg hd, ih, List.count_cons, List.count_cons]
      omega

/-- Laying out leaves the other code points as many as they are. -/
theorem count_laidOut (hspace : c ≠ Markdown.space) (htab : c ≠ Wrapping.tab)
    (hfeed : c ≠ CodePoint.lineFeed) (t : Text) : (laidOut t).count c = t.count c := by
  have hexpanded : ∀ line, (Wrapping.expanded line).count c = line.count c := by
    intro line
    unfold Wrapping.expanded
    split
    · rw [count_expandFrom hspace htab]
      simp
    · rfl
  have hlines : ∀ ls : List Text,
      (asLines (ls.map Wrapping.expanded)).count c = (asLines ls).count c := by
    intro ls
    induction ls with
    | nil => rfl
    | cons line ls ih =>
      simp only [asLines, List.map_cons, List.flatMap_cons, List.count_append, hexpanded] at ih ⊢
      rw [ih]
  rw [laidOut, hlines, asLines_splitOn, List.count_append, List.count_singleton]
  simp [hfeed.symm]

/-! ### Messages that are shown as they are -/

/-- **A message is shown as it is** if it is literal, and only then. -/
theorem messageBy_eq_ok_iff (h : Showable m) (evaluate : Evaluator) (mood : Mood) :
    messageBy (Markup.render evaluate) mood m = .ok (mood.sign ++ m ++ [CodePoint.lineFeed]) ↔
      Markup.Literal m := by
  have hspaced : ∀ c ∈ Markdown.space :: m, 32 ≤ c.val :=
    List.forall_mem_cons.2 ⟨by decide, fun c hc => (h c hc).1⟩
  have hhidden : ∀ c ∈ Markdown.space :: m, Markup.isHidden c = false :=
    fun c hc => isHidden_of_le (hspaced c hc)
  have hsign : mood.sign ++ m = mood.sign.dropLast ++ Markdown.space :: m ∧
      Wrapping.tab ∉ mood.sign.dropLast ∧ Emoji.colon ∉ mood.sign.dropLast := by
    cases mood <;> exact ⟨rfl, by decide, by decide⟩
  obtain ⟨hwhole, hsignTab, hsignColon⟩ := hsign
  have hplace : ∀ {t : Text}, t.Sublist (Markdown.space :: m) →
      laidOut (mood.sign.dropLast ++ t) = mood.sign.dropLast ++ t ++ [CodePoint.lineFeed] := by
    intro t hsub
    refine laidOut_of_not_mem ?_
    rw [List.mem_append, not_or]
    exact ⟨hsignTab, fun htab => ne_of_le (hspaced _ (hsub.subset htab)) (by decide) rfl⟩
  obtain ⟨place, hmark⟩ := @render_mark evaluate mood m
  rw [messageBy_eq, hmark, hwhole, ← Markup.literal_space_iff,
    ← @Markup.renderFrom_eq_self_iff _ place evaluate hhidden]
  constructor
  · intro hshown
    obtain ⟨whole, hafter, hlaid⟩ := Except.map_eq_ok_iff.1 hshown
    obtain ⟨after, hrender, rfl⟩ := Except.map_eq_ok_iff.1 hafter
    rcases Markup.renderFrom_cases hrender with hsub | hless
    · rw [hplace hsub] at hlaid
      have heq := List.append_cancel_left (List.append_cancel_right hlaid)
      rw [hrender, heq]
    · -- an emoji took its colons with it, and they are missing in what is printed
      have hcount := congrArg (List.count Emoji.colon) hlaid
      rw [count_laidOut (by decide) (by decide) (by decide), List.count_append, List.count_append,
        List.count_append] at hcount
      omega
  · intro hrender
    rw [hrender]
    exact congrArg Except.ok (hplace (List.Sublist.refl _))

end Console

namespace Text

/-- A text without surrogates has characters. -/
theorem exists_toCharsOrError {t : Text} (h : t.Scalar) :
    ∃ chars, t.toCharsOrError = .ok chars := by
  have hchars : ∃ chars : List Char, ofChars chars = t := by
    induction t with
    | nil => exact ⟨[], rfl⟩
    | cons c t ih =>
      obtain ⟨hc, ht⟩ := List.forall_mem_cons.1 h
      obtain ⟨chars, rfl⟩ := ih ht
      have hvalid : c.val.isValidChar := by
        have hlt := c.isLt
        simp only [CodePoint.isSurrogate, Bool.and_eq_false_iff, decide_eq_false_iff_not] at hc
        simp only [Nat.isValidChar]
        omega
      exact ⟨Char.ofNatAux c.val hvalid :: chars, rfl⟩
  obtain ⟨chars, rfl⟩ := hchars
  exact ⟨chars, by rw [toCharsOrError, toChars?_ofChars]⟩

end Text

namespace CommandLine

variable {render : Renderer} {m : Text}

/-- A message is printed as it is: the sign of its mood, the message and a line feed, and nothing
else happens. -/
def SaysVerbatim (render : Renderer) (mood : Console.Mood) (m : Text) (s : Surroundings) : Prop :=
  (say { render := render } mood m).outcome s =
    (.ok (), { s with printed := s.printed ++ (mood.sign ++ m ++ [CodePoint.lineFeed]) })

theorem saysVerbatim_iff (hscalar : m.Scalar) (mood : Console.Mood) (s : Surroundings) :
    SaysVerbatim render mood m s ↔
      Console.messageBy render mood m = .ok (mood.sign ++ m ++ [CodePoint.lineFeed]) := by
  constructor
  · intro hsays
    by_cases htells : Tells render mood m
    · obtain ⟨shown, hshown, hsay⟩ := @exists_outcome_say { render := render } _ _ htells s
      have hprinted := congrArg (fun r => r.2.printed) (hsay.symm.trans hsays)
      rw [hshown, List.append_cancel_left hprinted]
    · obtain ⟨e, hsay⟩ := @say_of_not_tells { render := render } _ _ htells s
      cases congrArg Prod.fst (hsay.symm.trans hsays)
  · intro hshown
    have hwhole : (mood.sign ++ m ++ [CodePoint.lineFeed]).Scalar := by
      have hsign : mood.sign.Scalar := by cases mood <;> exact Text.scalar_ofString _
      refine List.forall_mem_append.2 ⟨List.forall_mem_append.2 ⟨hsign, hscalar⟩, ?_⟩
      exact Text.scalar_ofString "\n"
    obtain ⟨chars, hchars⟩ := Text.exists_toCharsOrError hwhole
    obtain ⟨shown, hshown', hsay⟩ :=
      @exists_outcome_say { render := render } _ _ ⟨_, chars, hshown, hchars⟩ s
    obtain rfl := Except.ok.inj (hshown.symm.trans hshown')
    exact hsay

/-- A message in which nothing is interpreted, though it has brackets and a colon. -/
def bracketed : Text := "dev/[0].js: a [B] b"

end CommandLine

end PullNotes
