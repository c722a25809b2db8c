import PullNotes.Console.Message
import PullNotes.Markdown.Code
import PullNotes.Proofs.Pieces
import PullNotes.Proofs.Runs

/-!
# How a message begins

A message on the console is markup after a mark.  Words at its start that have nothing special in
them are shown right after the mark as they are, whatever follows them, if the message can be shown
at all: what follows can hide parts of itself only.

* `Markup.Plain` : texts with nothing special in them.
* `Markup.renderPieces_plain` : plain words at the start of markup are shown.
* `Console.render_mark` : the mark of a message is shown as a sign, and then what is said.
* `Console.ShowsPlain` : the readers of markup that show such words.
* `Console.messageBy_plain` : by these readers plain words at the start of a message are shown after
  the mark.
-/

namespace PullNotes

namespace Markup

/-- A text has nothing in it that is special in markup or in a line of the console. -/
def Plain (t : Text) : Prop := ∀ c ∈ t, c ≠ opening ∧ c ≠ backslash ∧ c ≠ Emoji.colon ∧
  c ≠ CodePoint.lineFeed ∧ c ≠ Wrapping.tab ∧ isHidden c = false

instance (t : Text) : Decidable (Plain t) := List.decidableBAll _ t

variable {words : Text}

/-! ### Markup -/

theorem tagContent?_of_ne {c : CodePoint} (h : c ≠ opening) (t : Text) :
    tagContent? (c :: t) = none := by
  unfold tagContent?
  cases t with
  | nil => rfl
  | cons d t => simp [h]

/-- Plain words are collected before anything else is looked at. -/
theorem piecesFrom_plain (h : Plain words) (before : Text) (place : Nat) (rest : Text) :
    piecesFrom before place 0 (words ++ rest) =
      piecesFrom (words.reverse ++ before) (place + words.length) 0 rest := by
  induction words generalizing before place with
  | nil => rfl
  | cons c words ih =>
    obtain ⟨⟨hopening, hbackslash, -⟩, hwords⟩ := List.forall_mem_cons.1 h
    have hnone : (c :: (words ++ rest)).takeWhile (fun d => d = backslash) = [] := by
      simp [hbackslash]
    rw [List.cons_append, piecesFrom]
    simp only [hnone, List.length_nil, List.drop_zero, tagContent?_of_ne hopening]
    rw [ih hwords, List.reverse_cons, List.append_assoc, List.length_cons]
    congr 1
    omega

theorem upToClosing?_eq {content : Text} (hopening : opening ∉ content)
    (hclosing : closing ∉ content) (t : Text) :
    upToClosing? (content ++ closing :: t) = some content := by
  induction content with
  | nil => rfl
  | cons c content ih =>
    rw [List.mem_cons, not_or] at hopening hclosing
    rw [List.cons_append, upToClosing?, if_neg (Ne.symm hclosing.1), if_neg (Ne.symm hopening.1),
      ih hopening.2 hclosing.2]
    rfl

theorem piecesFrom_done (before : Text) (place : Nat) (skipped t : Text) :
    piecesFrom before place skipped.length (skipped ++ t) =
      piecesFrom before (place + skipped.length) 0 t := by
  induction skipped generalizing place with
  | nil => rfl
  | cons c skipped ih =>
    rw [List.cons_append, List.length_cons, piecesFrom, ih, Nat.add_assoc, Nat.add_comm 1]

/-- A tag is a piece of its own. -/
theorem piecesFrom_tag {c : CodePoint} (hstart : startsTag c = true) (content : Text)
    (hopening : opening ∉ content) (hclosing : closing ∉ content) (before : Text) (place : Nat)
    (t : Text) :
    piecesFrom before place 0 (opening :: c :: content ++ closing :: t) =
      .text before.reverse :: .text [] :: .tag (.ofContent (c :: content)) place ::
        piecesFrom [] (place + 1 + (0 + (c :: content).length + 1)) 0 t := by
  have hnone : (opening :: (c :: (content ++ closing :: t))).takeWhile
      (fun d => d = backslash) = [] := by
    simp [show opening ≠ backslash by decide]
  have htag : tagContent? (opening :: (c :: (content ++ closing :: t))) = some (c :: content) := by
    simp [tagContent?, hstart, upToClosing?_eq hopening hclosing]
  have hdone := piecesFrom_done [] (place + 1) (c :: (content ++ [closing])) t
  have hlength : (c :: (content ++ [closing])).length = 0 + (c :: content).length + 1 := by simp
  rw [hlength] at hdone
  rw [List.cons_append, List.cons_append, piecesFrom]
  simp only [hnone, List.length_nil, List.drop_zero, htag]
  rw [List.append_cons, ← List.cons_append, hdone]
  rfl

/-- What was collected is the start of the next piece. -/
theorem exists_piecesFrom (before : Text) (place done : Nat) (rest : Text) :
    ∃ more ps, piecesFrom before place done rest = .text (before.reverse ++ more) :: ps := by
  induction rest generalizing before place done with
  | nil =>
    refine ⟨[], [], ?_⟩
    cases done <;> simp [piecesFrom]
  | cons c rest ih =>
    cases done with
    | succ done => exact ih before (place + 1) done
    | zero =>
      rw [piecesFrom]
      split
      · exact ⟨[], _, by rw [List.append_nil]; rfl⟩
      · obtain ⟨more, ps, hps⟩ := ih (c :: before) (place + 1) 0
        exact ⟨c :: more, ps, by rw [hps]; simp⟩

theorem unescaped_plain (h : Plain words) (rest : Text) :
    unescaped (words ++ rest) = words ++ unescaped rest := by
  induction words with
  | nil => rfl
  | cons c words ih =>
    obtain ⟨⟨-, hbackslash, -⟩, hwords⟩ := List.forall_mem_cons.1 h
    rw [List.cons_append, List.cons_append, ← ih hwords]
    cases words ++ rest with
    | nil => rfl
    | cons d t => simp [unescaped, hbackslash]

theorem replaceAfter_plain (h : Plain words) (rest : Text) :
    Emoji.replaceAfter 0 (words ++ rest) = words ++ Emoji.replaceAfter 0 rest := by
  induction words with
  | nil => rfl
  | cons c words ih =>
    obtain ⟨⟨-, -, hcolon, -⟩, hwords⟩ := List.forall_mem_cons.1 h
    rw [List.cons_append, Emoji.replaceAfter, if_neg hcolon, ih hwords, List.cons_append]

theorem shownText_plain (h : Plain words) (rest : Text) :
    shownText (words ++ rest) = words ++ shownText rest := by
  have hkept : words.filter (fun c => !isHidden c) = words :=
    List.filter_eq_self.2 fun c hc => by simp [(h c hc).2.2.2.2.2]
  rw [shownText, shownText, unescaped_plain h, Emoji.replace, replaceAfter_plain h,
    List.filter_append, hkept]
  rfl

/-- **Plain words at the start of markup are shown.** -/
theorem renderPieces_plain (h : Plain words) {evaluate : Evaluator} {opened : List Tag}
    {place : Nat} {rest shown : Text}
    (hshown : renderPieces evaluate opened (piecesFrom [] place 0 (words ++ rest)) = .ok shown) :
    words <+: shown := by
  obtain ⟨more, ps, hps⟩ := exists_piecesFrom (words.reverse ++ []) (place + words.length) 0 rest
  rw [piecesFrom_plain h, hps, renderPieces] at hshown
  obtain ⟨after, -, hafter⟩ := Except.bind_eq_ok_iff.1 hshown
  obtain rfl := Except.ok.inj hafter
  rw [List.append_nil, List.reverse_reverse, shownText_plain h, List.append_assoc]
  exact List.prefix_append _ _

end Markup

namespace Console

open Markup (Plain)

variable {words : Text}

/-! ### Lines -/

theorem expandFrom_plain (h : Plain words) (start : Nat) (before rest : Text) :
    Wrapping.expandFrom start before (words ++ rest) =
      Wrapping.expandFrom start (words.reverse ++ before) rest := by
  induction words generalizing before with
  | nil => rfl
  | cons c words ih =>
    obtain ⟨⟨-, -, -, -, htab, -⟩, hwords⟩ := List.forall_mem_cons.1 h
    rw [List.cons_append, Wrapping.expandFrom, if_neg htab, ih hwords, List.reverse_cons,
      List.append_assoc, List.singleton_append]

theorem prefix_expandFrom (start : Nat) (before rest : Text) :
    before.reverse <+: Wrapping.expandFrom start before rest := by
  induction rest generalizing before with
  | nil => exact List.prefix_rfl
  | cons c rest ih =>
    rw [Wrapping.expandFrom]
    split
    · rw [List.append_assoc]
      exact List.prefix_append _ _
    · refine List.IsPrefix.trans ?_ (ih (c :: before))
      rw [List.reverse_cons]
      exact List.prefix_append _ _

/-- Plain words stay at the start of a line. -/
theorem prefix_expanded (h : Plain words) (rest : Text) :
    words <+: Wrapping.expanded (words ++ rest) := by
  unfold Wrapping.expanded
  split
  · have hprefix := prefix_expandFrom 0 (words.reverse ++ []) rest
    rw [List.append_nil, List.reverse_reverse] at hprefix
    rwa [expandFrom_plain h, List.append_nil]
  · exact List.prefix_append _ _

theorem splitOn_plain (h : Plain words) (rest : Text) : ∃ first more,
    (words ++ rest).splitOn CodePoint.lineFeed = (words ++ first) :: more := by
  induction words with
  | nil =>
    rw [Text.splitOn_eq]
    obtain ⟨first, more, hfirst⟩ := List.exists_cons_of_ne_nil
      (List.splitOn_ne_nil CodePoint.lineFeed rest)
    exact ⟨first, more, hfirst⟩
  | cons c words ih =>
    obtain ⟨⟨-, -, -, hfeed, -⟩, hwords⟩ := List.forall_mem_cons.1 h
    obtain ⟨first, more, hfirst⟩ := ih hwords
    refine ⟨first, more, ?_⟩
    rw [List.cons_append, Text.splitOn, hfirst]
    simp [hfeed]

/-! ### Messages -/

/-- The mark of a message, as it is shown. -/
def Mood.sign : Mood → Text
  | success => "✓ "
  | problem => "✗ "
  | info => "i "

/-- Plain words at the start of a message are shown after its sign, if anything is. -/
def ShowsPlain (render : Renderer) : Prop := ∀ mood words rest shown, Plain words →
  render (Mood.mark mood ++ (words ++ rest)) = .ok shown → mood.sign ++ words <+: shown

variable {evaluate : Evaluator}

/-- Plain words in a style are shown, and the style is at its end when the rest is. -/
theorem render_styled (h : Plain words) (c : CodePoint) (name : Text) (style : Tag)
    (hstart : Markup.startsTag c = true) (hopening : Markup.opening ∉ c :: name)
    (hclosing : Markup.closing ∉ c :: name)
    (hopened : Markup.afterTag evaluate (.ofContent (c :: name)) 0 [] = .ok [style])
    (hclosed : ∀ place,
      Markup.afterTag evaluate (.ofContent (('/' : Char) :: c :: name)) place [style] = .ok [])
    (rest : Text) :
    ∃ place, Markup.render evaluate (Markup.opening :: c :: name ++ Markup.closing :: (words ++
        (Markup.opening :: (('/' : Char) : CodePoint) :: (c :: name) ++ Markup.closing :: rest))) =
      (Markup.renderPieces evaluate [] (Markup.piecesFrom [] place 0 rest)).map (words ++ ·) := by
  have hname : Markup.opening ∉ name ∧ Markup.closing ∉ name :=
    ⟨fun hmem => hopening (List.mem_cons_of_mem _ hmem),
      fun hmem => hclosing (List.mem_cons_of_mem _ hmem)⟩
  have hopens := Markup.piecesFrom_tag hstart name hname.1 hname.2
  have hcloses :=
    Markup.piecesFrom_tag (c := ('/' : Char)) (by decide) (c :: name) hopening hclosing
  have hnothing : Markup.shownText [] = [] := rfl
  have hwords : Markup.shownText words = words := by
    have hplain := Markup.shownText_plain h []
    rwa [hnothing, List.append_nil] at hplain
  have hmap : ∀ x : Except MarkupError Text,
      (x >>= fun after => .ok (words ++ after)) = x.map (words ++ ·) := by
    intro x
    cases x <;> rfl
  have hsame : ∀ x : Except MarkupError Text, (x >>= fun after => .ok after) = x := by
    intro x
    cases x <;> rfl
  rw [Markup.render, Markup.pieces, hopens, Markup.piecesFrom_plain h, hcloses]
  simp only [Markup.renderPieces, hopened, hclosed, Except.ok_bind, List.reverse_nil,
    List.append_nil, List.reverse_reverse, hwords, hnothing, List.nil_append, hmap,
    hsame]
  exact ⟨_, rfl⟩

/-- **The mark of a message** opens a style and closes it again, so the sign is shown and then what
is said, after a space. -/
theorem render_mark (mood : Mood) (text : Text) : ∃ place,
    Markup.render evaluate (mood.mark ++ text) =
      (Markup.renderPieces evaluate [] (Markup.piecesFrom [] place 0 (Markdown.space :: text))).map
        (mood.sign.dropLast ++ ·) := by
  cases mood with
  | success =>
    have hsign : Plain (Text.ofString "✓") := by decide
    exact render_styled hsign ('g' : Char) "reen" ⟨"green", none⟩ (by decide) (by decide) (by decide)
      rfl (fun _ => rfl) _
  | problem =>
    have hsign : Plain (Text.ofString "✗") := by decide
    exact render_styled hsign ('r' : Char) "ed" ⟨"red", none⟩ (by decide) (by decide) (by decide)
      rfl (fun _ => rfl) _
  | info =>
    have hsign : Plain (Text.ofString "i") := by decide
    exact render_styled hsign ('b' : Char) "lue" ⟨"blue", none⟩ (by decide) (by decide) (by decide)
      rfl (fun _ => rfl) _

theorem plain_sign (mood : Mood) : Plain mood.sign := by
  cases mood <;> decide

/-- **The mark is shown as a sign**, and plain words after it as they are. -/
theorem showsPlain_render (evaluate : Evaluator) : ShowsPlain (Markup.render evaluate) := by
  intro mood words rest shown h hshown
  obtain ⟨place, hmark⟩ := render_mark mood (words ++ rest)
  rw [hmark] at hshown
  obtain ⟨after, hafter, rfl⟩ := Except.map_eq_ok_iff.1 hshown
  have hspaced : Plain (Markdown.space :: words) := List.forall_mem_cons.2 ⟨by decide, h⟩
  obtain ⟨more, rfl⟩ := Markup.renderPieces_plain hspaced hafter
  refine ⟨more, ?_⟩
  cases mood <;> rfl

/-- **Plain words at the start of a message are shown after the mark.** -/
theorem messageBy_plain {render : Renderer} (hrender : ShowsPlain render) {mood : Mood}
    (h : Plain words) {rest shown : Text}
    (hshown : messageBy render mood (words ++ rest) = .ok shown) :
    mood.sign ++ words <+: shown := by
  have hsigned : Plain (mood.sign ++ words) := List.forall_mem_append.2 ⟨plain_sign mood, h⟩
  obtain ⟨whole, hwhole, hlines⟩ := Except.bind_eq_ok_iff.1 hshown
  obtain rfl := Except.ok.inj hlines
  obtain ⟨more, rfl⟩ := hrender mood words rest whole h hwhole
  obtain ⟨first, lines, hfirst⟩ := splitOn_plain hsigned more
  rw [hfirst, List.map_cons, asLines, List.flatMap_cons, List.append_assoc]
  exact (prefix_expanded hsigned first).trans (List.prefix_append _ _)

end Console

end PullNotes
