import PullNotes.Console.Emoji
import PullNotes.Proofs.Pieces

/-!
# Names of emoji in a text

The colons of a text are taken from left to right.  A colon opens, and the next one closes, unless a
blank stands between the two; this is so whether or not what they enclose is a name.  So a colon
opens if an even number of colons stand before it, back to the last blank.  A text in which such a
colon and the next one enclose a name has fewer colons once its names are replaced, since no emoji
has a colon in it.  Any other text is left as it is.

* `Emoji.Opens` : the texts after which a colon opens.
* `Emoji.Named` : the texts with the name of an emoji in them.
* `Emoji.colon_not_mem_of_between?` : no emoji has a colon in it.
* `Emoji.replace_cases` : what becomes of a text when its names are replaced.
-/

namespace PullNotes

namespace Emoji

/-- The number of colons in a text after its last blank. -/
def colonsAtEnd (t : Text) : Nat := (t.reverse.takeWhile fun c => !c.isBlank).count colon

/-- After the text, a colon opens. -/
def Opens (front : Text) : Prop := colonsAtEnd front % 2 = 0

/-- A text that two colons can enclose: neither a colon nor a blank is in it. -/
def Joint (content : Text) : Prop := ∀ c ∈ content, c ≠ colon ∧ c.isBlank = false

/-- In a text that stands after another one, a colon that opens encloses a name with the next. -/
def NamedAfter (front t : Text) : Prop :=
  ∃ before content after, t = before ++ colon :: (content ++ colon :: after) ∧
    Opens (front ++ before) ∧ Joint content ∧ (between? content).isSome = true

/-- The name of an emoji is in a text. -/
def Named (t : Text) : Prop := NamedAfter [] t

variable {front t rest content after emoji : Text} {c : CodePoint}

/-! ### Emoji -/

theorem mem_of_mem_pairs {name : Text} {words : List Text} (h : (name, emoji) ∈ pairs words) :
    emoji ∈ words := by
  fun_induction pairs words with
  | case1 first second words ih =>
    rcases List.mem_cons.1 h with heq | hrest
    · rw [(Prod.mk.inj heq).2]
      exact List.mem_cons_of_mem _ List.mem_cons_self
    · exact List.mem_cons_of_mem _ (List.mem_cons_of_mem _ (ih hrest))
  | case2 words hnot => cases h

/-- The colons of the table stand between its words, so none is in a word. -/
theorem colon_not_mem_of_named? {name : Text} (h : named? name = some emoji) : colon ∉ emoji := by
  obtain ⟨entry, hentry, rfl⟩ := Option.map_eq_some_iff.1 h
  have hmem : entry ∈ table := List.mem_of_find?_eq_some hentry
  obtain ⟨line, -, hpair⟩ := List.mem_flatMap.1 hmem
  exact Text.not_mem_of_mem_splitOn colon (mem_of_mem_pairs hpair)

theorem colon_not_mem_style (content : Text) : colon ∉ (nameAndStyle content).2 := by
  unfold nameAndStyle
  split
  case h_1 ending selector hfind =>
    have hselectors : ∀ style ∈ styles, colon ∉ [style.2] := by decide
    exact hselectors _ (List.mem_of_find?_eq_some hfind)
  case h_2 => exact List.not_mem_nil

/-- **No emoji has a colon in it.** -/
theorem colon_not_mem_of_between? (h : between? content = some emoji) : colon ∉ emoji := by
  obtain ⟨plain, hplain, rfl⟩ := Option.map_eq_some_iff.1 h
  rw [List.mem_append, not_or]
  exact ⟨colon_not_mem_of_named? hplain, colon_not_mem_style content⟩

/-! ### Colons that open -/

theorem colonsAtEnd_append_singleton (t : Text) (c : CodePoint) : colonsAtEnd (t ++ [c]) =
    if c.isBlank then 0 else if c = colon then colonsAtEnd t + 1 else colonsAtEnd t := by
  unfold colonsAtEnd
  rw [List.reverse_append, List.reverse_singleton, List.singleton_append, List.takeWhile_cons]
  by_cases hblank : c.isBlank = true
  · simp [hblank]
  · by_cases hcolon : c = colon
    · simp [hcolon, show colon.isBlank = false by decide]
    · simp [hblank, hcolon]

theorem colonsAtEnd_append (t : Text) (h : Joint content) :
    colonsAtEnd (t ++ content) = colonsAtEnd t := by
  induction content generalizing t with
  | nil => rw [List.append_nil]
  | cons c content ih =>
    obtain ⟨⟨hcolon, hblank⟩, hcontent⟩ := List.forall_mem_cons.1 h
    rw [List.append_cons, ih _ hcontent, colonsAtEnd_append_singleton, if_neg (by simp [hblank]),
      if_neg hcolon]

theorem colonsAtEnd_append_colon (t : Text) : colonsAtEnd (t ++ [colon]) = colonsAtEnd t + 1 := by
  rw [colonsAtEnd_append_singleton, if_neg (by decide), if_pos rfl]

theorem count_eq_zero (h : Joint content) : content.count colon = 0 :=
  List.count_eq_zero.2 fun hmem => (h colon hmem).1 rfl

/-- The text up to a colon is what the colon before it encloses. -/
theorem upToColon?_eq_some_iff :
    upToColon? t = some (content, after) ↔ t = content ++ colon :: after ∧ Joint content := by
  induction t generalizing content with
  | nil => simp [upToColon?]
  | cons c rest ih =>
    rw [upToColon?]
    by_cases hcolon : c = colon
    · subst hcolon
      rw [if_pos rfl, Option.some_inj, Prod.mk.injEq]
      constructor
      · rintro ⟨rfl, rfl⟩
        exact ⟨rfl, fun _ h => nomatch h⟩
      · rintro ⟨heq, hjoint⟩
        cases content with
        | nil => exact ⟨rfl, (List.cons.inj heq).2⟩
        | cons d content => exact absurd (List.cons.inj heq).1.symm (hjoint d List.mem_cons_self).1
    · rw [if_neg hcolon]
      by_cases hblank : c.isBlank = true
      · rw [if_pos hblank]
        refine iff_of_false nofun ?_
        rintro ⟨heq, hjoint⟩
        cases content with
        | nil => exact hcolon (List.cons.inj heq).1
        | cons d content =>
          obtain ⟨rfl, -⟩ := List.cons.inj heq
          rw [(hjoint c List.mem_cons_self).2] at hblank
          cases hblank
      · rw [if_neg hblank, Option.map_eq_some_iff]
        constructor
        · rintro ⟨⟨content', after'⟩, hrest, heq⟩
          obtain ⟨rfl, rfl⟩ := Prod.mk.inj heq
          obtain ⟨rfl, hjoint⟩ := ih.1 hrest
          exact ⟨rfl, List.forall_mem_cons.2 ⟨⟨hcolon, by simpa using hblank⟩, hjoint⟩⟩
        · rintro ⟨heq, hjoint⟩
          cases content with
          | nil => exact absurd (List.cons.inj heq).1 hcolon
          | cons d content =>
            obtain ⟨rfl, rfl⟩ := List.cons.inj heq
            exact ⟨(content, after), ih.2 ⟨rfl, (List.forall_mem_cons.1 hjoint).2⟩, rfl⟩

/-! ### Names -/

/-- A code point that opens no name is passed over. -/
theorem namedAfter_cons_iff (h : c = colon → Opens front → ∀ content after,
    rest = content ++ colon :: after → Joint content → between? content = none) :
    NamedAfter front (c :: rest) ↔ NamedAfter (front ++ [c]) rest := by
  constructor
  · rintro ⟨before, content, after, heq, hopens, hjoint, hname⟩
    cases before with
    | nil =>
      obtain ⟨rfl, hrest⟩ := List.cons.inj heq
      rw [List.append_nil] at hopens
      rw [h rfl hopens content after hrest hjoint] at hname
      cases hname
    | cons d before =>
      obtain ⟨rfl, hrest⟩ := List.cons.inj heq
      rw [List.append_cons] at hopens
      exact ⟨before, content, after, hrest, hopens, hjoint, hname⟩
  · rintro ⟨before, content, after, rfl, hopens, hjoint, hname⟩
    rw [← List.append_cons] at hopens
    exact ⟨c :: before, content, after, rfl, hopens, hjoint, hname⟩

/-- So is a blank at the start of a text. -/
theorem named_cons_blank_iff (hblank : c.isBlank = true) : Named (c :: t) ↔ Named t := by
  have hcolon : c ≠ colon := by
    rintro rfl
    cases hblank
  have hopens : ∀ before, Opens ([c] ++ before) ↔ Opens ([] ++ before) := by
    intro before
    have hend : ((c :: before).reverse.takeWhile fun d => !d.isBlank) =
        before.reverse.takeWhile fun d => !d.isBlank := by
      rw [List.reverse_cons, List.takeWhile_append]
      split
      case isTrue hall => simp [hblank, (List.takeWhile_prefix _).eq_of_length hall]
      case isFalse => rfl
    rw [Opens, Opens, colonsAtEnd, colonsAtEnd, List.singleton_append, List.nil_append, hend]
  rw [Named, Named, namedAfter_cons_iff fun heq => absurd heq hcolon, List.nil_append]
  simp only [NamedAfter, hopens]

/-- So is a text that has no colon. -/
theorem namedAfter_append_iff (hjoint : Joint content) :
    NamedAfter front (content ++ rest) ↔ NamedAfter (front ++ content) rest := by
  induction content generalizing front with
  | nil => rw [List.nil_append, List.append_nil]
  | cons c content ih =>
    obtain ⟨⟨hcolon, -⟩, hcontent⟩ := List.forall_mem_cons.1 hjoint
    rw [List.cons_append, namedAfter_cons_iff fun heq => absurd heq hcolon, ih hcontent,
      ← List.append_cons]

theorem joint_unique {content' after' : Text} (hjoint : Joint content) (hjoint' : Joint content')
    (h : content ++ colon :: after = content' ++ colon :: after') : content = content' := by
  have hfirst := upToColon?_eq_some_iff.2 ⟨h, hjoint'⟩
  rw [upToColon?_eq_some_iff.2 ⟨rfl, hjoint⟩] at hfirst
  exact (Prod.mk.inj (Option.some.inj hfirst)).1

/-- So are two colons that enclose no name. -/
theorem namedAfter_pair_iff (hopens : Opens front) (hjoint : Joint content)
    (hnone : between? content = none) :
    NamedAfter front (colon :: (content ++ colon :: after)) ↔
      NamedAfter (front ++ colon :: content ++ [colon]) after := by
  have hcloses : ¬ Opens (front ++ [colon] ++ content) := by
    unfold Opens at hopens ⊢
    rw [colonsAtEnd_append _ hjoint, colonsAtEnd_append_colon]
    omega
  rw [namedAfter_cons_iff, namedAfter_append_iff hjoint, namedAfter_cons_iff, ← List.append_cons]
  · exact fun _ h => absurd h hcloses
  · intro _ _ content' after' heq hjoint'
    rwa [← joint_unique hjoint hjoint' heq]

/-! ### Replacing -/

theorem replaceAfter_length (skipped t : Text) :
    replaceAfter skipped.length (skipped ++ t) = replaceAfter 0 t := by
  induction skipped with
  | nil => rfl
  | cons c skipped ih => rw [List.length_cons, List.cons_append, replaceAfter, ih]

theorem replaceAfter_pair (hjoint : Joint content) (after : Text) :
    replaceAfter 0 (colon :: (content ++ colon :: after)) =
      (between? content).getD (colon :: content ++ [colon]) ++ replaceAfter 0 after := by
  have hskip := replaceAfter_length (content ++ [colon]) after
  rw [List.length_append, List.length_singleton, ← List.append_cons] at hskip
  rw [replaceAfter, if_pos rfl, upToColon?_eq_some_iff.2 ⟨rfl, hjoint⟩]
  simp only [hskip]

/-- The names in a text that stands after another one are replaced and take their colons with them,
or there are none and nothing changes. -/
def Settles (front t : Text) : Prop :=
  (replaceAfter 0 t = t ∧ ¬ NamedAfter front t) ∨
    ((replaceAfter 0 t).count colon < t.count colon ∧ NamedAfter front t)

theorem Settles.count_le (h : Settles front t) :
    (replaceAfter 0 t).count colon ≤ t.count colon := by
  rcases h with ⟨hsame, -⟩ | ⟨hless, -⟩
  · exact Nat.le_of_eq (by rw [hsame])
  · exact Nat.le_of_lt hless

theorem Settles.cons (h : Settles (front ++ [c]) rest)
    (hreplace : replaceAfter 0 (c :: rest) = c :: replaceAfter 0 rest)
    (hnamed : NamedAfter front (c :: rest) ↔ NamedAfter (front ++ [c]) rest) :
    Settles front (c :: rest) := by
  have hcount : (c :: replaceAfter 0 rest).count colon < (c :: rest).count colon ↔
      (replaceAfter 0 rest).count colon < rest.count colon := by
    by_cases hcolon : c = colon
    · simp [hcolon]
    · simp [List.count_cons_of_ne hcolon]
  rw [Settles, hreplace, hnamed, hcount, List.cons_inj_right]
  exact h

theorem Settles.pair (hopens : Opens front) (hjoint : Joint content)
    (h : Settles (front ++ colon :: content ++ [colon]) after) :
    Settles front (colon :: (content ++ colon :: after)) := by
  have hcount : (colon :: (content ++ colon :: after)).count colon = after.count colon + 2 := by
    simp [count_eq_zero hjoint]
  rw [Settles, replaceAfter_pair hjoint]
  cases hname : between? content with
  | none =>
    rw [namedAfter_pair_iff hopens hjoint hname]
    simpa [Settles, count_eq_zero hjoint] using h
  | some emoji =>
    -- the emoji has no colon, and two colons go
    have hle := h.count_le
    refine Or.inr ⟨?_, [], content, after, rfl, by simpa using hopens, hjoint, by simp [hname]⟩
    rw [hcount, Option.getD_some, List.count_append,
      List.count_eq_zero.2 (colon_not_mem_of_between? hname)]
    omega

/-- What is left of a text settles if a colon at its start would open.  It need not open if a blank
comes before it: then there is nothing that depends on it. -/
theorem settles_of_length (n : Nat) (hlength : t.length ≤ n)
    (h : Opens front ∨ upToColon? t = none) : Settles front t := by
  induction n generalizing front t with
  | zero =>
    obtain rfl := List.eq_nil_of_length_eq_zero (Nat.le_zero.1 hlength)
    refine Or.inl ⟨rfl, ?_⟩
    rintro ⟨before, content, after, heq, -⟩
    simp at heq
  | succ n ih =>
    cases t with
    | nil => exact ih (Nat.zero_le n) h
    | cons c rest =>
      have hrest : rest.length ≤ n := by simpa using hlength
      by_cases hcolon : c = colon
      · subst hcolon
        have hopens : Opens front := by
          rcases h with hopens | hnone
          · exact hopens
          · simp [upToColon?] at hnone
        cases hfirst : upToColon? rest with
        | none =>
          -- a blank comes before the next colon, so this one encloses nothing
          refine (ih hrest (Or.inr hfirst)).cons (by rw [replaceAfter, if_pos rfl, hfirst]) ?_
          refine namedAfter_cons_iff fun _ _ content after heq hjoint => ?_
          rw [upToColon?_eq_some_iff.2 ⟨heq, hjoint⟩] at hfirst
          cases hfirst
        | some found =>
          obtain ⟨content, after⟩ := found
          obtain ⟨rfl, hjoint⟩ := upToColon?_eq_some_iff.1 hfirst
          have hafter : after.length ≤ n := by
            rw [List.length_append, List.length_cons] at hrest
            omega
          refine .pair hopens hjoint (ih hafter (Or.inl ?_))
          unfold Opens at hopens ⊢
          rw [colonsAtEnd_append_colon, List.append_cons, colonsAtEnd_append _ hjoint,
            colonsAtEnd_append_colon]
          omega
      · refine (ih hrest ?_).cons (by rw [replaceAfter, if_neg hcolon])
          (namedAfter_cons_iff fun heq => absurd heq hcolon)
        rcases h with hopens | hnone
        · left
          unfold Opens at hopens ⊢
          rw [colonsAtEnd_append_singleton, if_neg hcolon]
          split <;> omega
        · by_cases hblank : c.isBlank = true
          · left
            unfold Opens
            rw [colonsAtEnd_append_singleton, if_pos hblank]
          · right
            rw [upToColon?, if_neg hcolon, if_neg hblank, Option.map_eq_none_iff] at hnone
            exact hnone

/-- **The names in a text** are replaced and take their colons with them, or there are none and
nothing changes. -/
theorem replace_cases (t : Text) :
    (replace t = t ∧ ¬ Named t) ∨ ((replace t).count colon < t.count colon ∧ Named t) :=
  settles_of_length t.length (Nat.le_refl _) (Or.inl rfl)

theorem replace_of_not_named (h : ¬ Named t) : replace t = t := by
  rcases replace_cases t with ⟨hsame, -⟩ | ⟨-, hnamed⟩
  · exact hsame
  · exact absurd hnamed h

end Emoji

end PullNotes
