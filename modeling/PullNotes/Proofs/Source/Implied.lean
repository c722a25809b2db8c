import PullNotes.Proofs.Source.Stops

/-!
# Semicolons that are implied, and that are not

No semicolon is implied on a line that goes on with another token than a closing brace, nor before a
colon or a written semicolon on a later line, and one is implied at the end of the source.  This
holds in all dialects.

* `Semicolon.Held` : blanks and the start of a token before which no semicolon is implied.
* `State.AtColon` : the next token is a colon.
* `Reader.sticks_semicolon`, `Reader.goes_semicolon` : the end of a statement is not there, or it
is.
-/

namespace PullNotes

namespace Source

namespace Semicolon

variable {ws u : List Char} {c : Char}

/-- The marks before which no semicolon is implied, not even on a new line. -/
def heldMarks : List Char := [':', ';']

/-- The start of a token before which no semicolon is implied after some blanks: no line ends in
them, or the token is one of those marks. -/
structure Held (ws : List Char) (c : Char) : Prop where
  blank : Blank ws
  token : Lexeme.isSpace c = false
  slash : c ≠ '/'
  brace : c ≠ '\x7d'
  line : (∀ w ∈ ws, isBreak w = false) ∨ c ∈ heldMarks

theorem isSpace_of_isBreak (h : isBreak c = true) : Lexeme.isSpace c = true := by
  simp only [isBreak, Bool.or_eq_true, beq_iff_eq] at h
  rcases h with (rfl | rfl) | rfl <;> decide

theorem Held.of_mark (hws : Blank ws) (hc : c ∈ heldMarks) : Held ws c := by
  have hmarks : ∀ c ∈ heldMarks, Lexeme.isSpace c = false ∧ c ≠ '/' ∧ c ≠ '\x7d' :=
    Lexeme.forall_mem_of_all (by decide)
  obtain ⟨htoken, hslash, hbrace⟩ := hmarks c hc
  exact ⟨hws, htoken, hslash, hbrace, Or.inr hc⟩

namespace Held

theorem tail {w : Char} (h : Held (w :: ws) c) : Held ws c where
  blank := (List.forall_mem_cons.1 h.blank).2
  token := h.token
  slash := h.slash
  brace := h.brace
  line := h.line.imp_left fun hline => (List.forall_mem_cons.1 hline).2

/-- After a line end only one of the marks can follow. -/
theorem mem_heldMarks {w : Char} (h : Held (w :: ws) c) (hw : isBreak w = true) : c ∈ heldMarks := by
  rcases h.line with hline | hc
  · exact absurd hw (by simp [hline w List.mem_cons_self])
  · exact hc

theorem dropWhile_eq (h : Held ws c) : (ws ++ c :: u).dropWhile Lexeme.isSpace = c :: u := by
  rw [List.dropWhile_append_of_pos h.blank, List.dropWhile_cons_of_neg (by simp [h.token])]

theorem afterBlanks_eq (h : Held ws c) (fuel : Nat) :
    afterBlanks (fuel + 1) (ws ++ c :: u) = some (c :: u) := by
  rw [afterBlanks, h.dropWhile_eq]
  split
  · next heq => exact absurd (List.cons.inj heq).1 h.slash
  · next heq => exact absurd (List.cons.inj heq).1 h.slash
  · next heq => exact absurd (List.cons.inj heq).1 h.slash
  · rfl

/-- A line end does not end the statement, since one of the marks follows. -/
theorem afterBlanks_any {w : Char} (h : Held (w :: ws) c) (hw : isBreak w = true) (fuel : Nat)
    {starts : List Char → Bool} (hstarts : ∀ c ∈ heldMarks, starts (c :: u) = false) :
    (afterBlanks (fuel + 1) (ws ++ c :: u)).any starts = false := by
  rw [h.tail.afterBlanks_eq, Option.any_some]
  exact hstarts c (h.mem_heldMarks hw)

theorem impliedPlain_eq (h : Held ws c) (afterOperand : Bool) {fuel : Nat}
    (hfuel : ws.length < fuel) : impliedPlain afterOperand fuel (ws ++ c :: u) = false := by
  induction ws generalizing fuel with
  | nil =>
    obtain ⟨fuel, rfl⟩ : ∃ k, fuel = k + 1 := ⟨fuel - 1, by simp at hfuel; omega⟩
    have hbreak : isBreak c = false := by
      by_contra hc
      have htoken := h.token
      rw [isSpace_of_isBreak (Bool.not_eq_false _ ▸ hc)] at htoken
      cases htoken
    unfold impliedPlain
    split
    · next heq => cases heq
    · next heq => exact absurd (List.cons.inj heq).1 h.slash
    · next e rest _ heq =>
      obtain ⟨rfl, rfl⟩ := List.cons.inj heq
      simp [h.brace, hbreak, h.token]
  | cons w ws ih =>
    obtain ⟨hw, hblank⟩ := List.forall_mem_cons.1 h.blank
    obtain ⟨fuel, rfl⟩ : ∃ k, fuel = k + 1 := ⟨fuel - 1, by simp at hfuel; omega⟩
    have hslash : w ≠ '/' := by
      rintro rfl
      exact absurd hw (by decide)
    have hbrace : w ≠ '\x7d' := by
      rintro rfl
      exact absurd hw (by decide)
    have hrest := ih h.tail (by simpa using hfuel)
    unfold impliedPlain
    split
    · next heq => cases heq
    · next heq => exact absurd (List.cons.inj heq).1 hslash
    · next e rest _ heq =>
      obtain ⟨rfl, rfl⟩ := List.cons.inj heq
      dsimp only
      rw [if_neg hbrace]
      split
      · next hbreak =>
        exact h.afterBlanks_any hbreak _ (by simp [heldMarks, startsPlain, plainContinuations])
      · exact hrest

theorem impliedTyped_eq (h : Held ws c) (afterOperand signature : Bool) :
    impliedTyped afterOperand signature (ws ++ c :: u) = false := by
  induction ws with
  | nil =>
    rw [impliedTyped, List.nil_append, List.dropWhile_cons_of_neg (by simp [h.token])]
    split
    · next heq => cases heq
    · next heq => exact absurd (List.cons.inj heq).1 h.brace
    · next heq =>
      have htoken := h.token
      rw [(List.cons.inj heq).1] at htoken
      exact absurd htoken (by decide)
    · rfl
  | cons w ws ih =>
    obtain ⟨hw, hblank⟩ := List.forall_mem_cons.1 h.blank
    by_cases hline : w = '\n'
    -- as above, the mark decides at a line end, and before one the blank is dropped
    · subst hline
      rw [impliedTyped, List.cons_append, List.dropWhile_cons_of_neg (by simp)]
      exact h.afterBlanks_any rfl _ (by simp [heldMarks, startsTyped, typedContinuations])
    · have hrest := ih h.tail
      rw [impliedTyped] at hrest ⊢
      rw [List.cons_append, List.dropWhile_cons_of_pos (by simp [hw, hline])]
      exact hrest

theorem implied_eq (h : Held ws c) (dialect : Dialect) (afterOperand signature : Bool) :
    implied dialect afterOperand signature (ws ++ c :: u) = false := by
  rw [implied]
  split
  · exact h.impliedTyped_eq afterOperand signature
  · exact h.impliedPlain_eq afterOperand (by rw [List.length_append, List.length_cons]; omega)

theorem impliedAfterComments_eq (h : Held ws c) (dialect : Dialect)
    (afterOperand signature : Bool) (fuel : Nat) :
    impliedAfterComments (implied dialect afterOperand signature) fuel (ws ++ c :: u) = false := by
  cases fuel with
  | zero => rfl
  | succ fuel =>
    have hcomment : Lexeme.comment (c :: u) = 0 := StartsToken.comment (.cons h.token h.slash)
    rw [impliedAfterComments, h.implied_eq dialect, h.dropWhile_eq]
    dsimp only
    rw [hcomment]
    rfl

end Held

theorem afterBlanks_blank (hws : Blank ws) (fuel : Nat) : afterBlanks (fuel + 1) ws = some [] := by
  rw [afterBlanks, List.dropWhile_eq_nil_iff.2 hws]

theorem impliedPlain_blank (hws : Blank ws) (afterOperand : Bool) (fuel : Nat) :
    impliedPlain afterOperand fuel ws = true := by
  induction ws generalizing fuel with
  | nil =>
    cases fuel <;> rfl
  | cons w ws ih =>
    obtain ⟨hw, hblank⟩ := List.forall_mem_cons.1 hws
    have hslash : w ≠ '/' := by
      rintro rfl
      exact absurd hw (by decide)
    cases fuel with
    | zero => rfl
    | succ fuel =>
      unfold impliedPlain
      split
      · next heq => cases heq
      · next heq => exact absurd (List.cons.inj heq).1 hslash
      · next c rest _ heq =>
        obtain ⟨rfl, rfl⟩ := List.cons.inj heq
        dsimp only
        split
        · rfl
        · split
          -- nothing comes after the blanks, which is as good as a new statement
          · rw [afterBlanks_blank hblank]
            rfl
          · exact ih hblank fuel

theorem impliedTyped_blank (hws : Blank ws) (afterOperand signature : Bool) :
    impliedTyped afterOperand signature ws = true := by
  induction ws with
  | nil => rfl
  | cons w ws ih =>
    obtain ⟨hw, hblank⟩ := List.forall_mem_cons.1 hws
    by_cases hline : w = '\n'
    · subst hline
      have hafter : (afterBlanks (ws.length + 1) ws).any (startsTyped afterOperand signature) =
          true := by
        rw [afterBlanks_blank hblank]
        rfl
      rw [impliedTyped, List.dropWhile_cons_of_neg (by simp)]
      exact hafter
    · have hrest := ih hblank
      rw [impliedTyped] at hrest ⊢
      rw [List.dropWhile_cons_of_pos (by simp [hw, hline])]
      exact hrest

theorem implied_blank (dialect : Dialect) (hws : Blank ws) (afterOperand signature : Bool) :
    implied dialect afterOperand signature ws = true := by
  rw [implied]
  split
  · exact impliedTyped_blank hws afterOperand signature
  · exact impliedPlain_blank hws afterOperand _

end Semicolon

/-- The next token is a colon. -/
structure State.AtColon (s : State) : Prop where
  name : s.name = []
  symbol : s.symbol = [':']
  rest : s.cursor.rest.head? = some ':'
  blanks : ∃ ws u, Blank ws ∧ s.last.rest = ws ++ ':' :: u

namespace State.AtColon

variable {s : State}

theorem stop (h : s.AtColon) : s.AtStop where
  name := h.name
  symbol := Or.inr ⟨':', by decide, h.symbol⟩
  rest c hc := by
    obtain rfl : ':' = c := Option.some.inj (h.rest.symm.trans hc)
    decide

theorem far (h : s.AtColon) (f : Option Stuck) : (s.far f).AtColon :=
  ⟨h.name, h.symbol, h.rest, h.blanks⟩

theorem operand (h : s.AtColon) : { s with afterOperand := true }.AtColon :=
  ⟨h.name, h.symbol, h.rest, h.blanks⟩

theorem gathered (h : s.AtColon) (parts : List Part) (size : Nat) :
    { s with parts := parts, size := size }.AtColon :=
  ⟨h.name, h.symbol, h.rest, h.blanks⟩

end State.AtColon

namespace Reader

variable {d : Dialect} {n : Nat} {s : State}

/-- No semicolon is implied before what holds a statement open. -/
theorem semicolonImplied_of_held {ws u : List Char} {c : Char} (h : Semicolon.Held ws c)
    (hrest : s.last.rest = ws ++ c :: u) (ctx : Context) (f : Option Stuck) :
    semicolonImplied false ctx (s.far f) = false := by
  rw [semicolonImplied, State.far_last, hrest, h.impliedAfterComments_eq ctx.dialect, Bool.and_false]

theorem semicolonImplied_colon (h : s.AtColon) (ctx : Context) (f : Option Stuck) :
    semicolonImplied false ctx (s.far f) = false := by
  obtain ⟨ws, u, hws, hrest⟩ := h.blanks
  exact semicolonImplied_of_held (.of_mark hws (by decide)) hrest ctx f

theorem sticks_upToImplied {p : Reader} {ctx : Context} (hp : Sticks p ctx s) :
    Sticks (upToImplied p) ctx s := by
  intro f
  obtain ⟨e, hp⟩ := hp f
  rw [upToImplied, hp]
  exact ⟨e, rfl⟩

/-- A statement does not end before a colon. -/
theorem sticks_semicolon (h : s.AtColon) : Sticks semicolon (.plain d n) s := by
  refine sticks_choose_of_false (semicolonImplied_colon h _) (sticks_symbol ?_)
  rw [h.symbol]
  decide

/-- A statement ends where the source does. -/
theorem goes_semicolon (hlast : Blank s.last.rest) (hsupplied : s.supplied = none) :
    Goes semicolon (.plain d n) s s := by
  refine goes_choose_of_true (fun f => ?_) goes_done
  have hnone : (s.far f).supplied = none := hsupplied
  rw [semicolonImplied, State.far_last, hnone, Semicolon.impliedAfterComments,
    Semicolon.implied_blank _ hlast]
  rfl

end Reader

end Source

end PullNotes
