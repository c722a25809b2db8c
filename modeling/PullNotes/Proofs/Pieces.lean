import PullNotes.Text.Basic

/-!
# Pieces of a text

The pieces of a text between the occurrences of a code point are those of the library's
`List.splitOn`, so they join to the text again, and a text with the code point in it is cut there.

* `Text.splitOn_eq` : the pieces are those of `List.splitOn`.
* `Text.splitOn_append_cons` : the pieces before and after an occurrence.
* `Text.join_splitOn`, `Text.splitOn_join` : the pieces joined, and cut again.
-/

namespace PullNotes

namespace Text

variable (mark : CodePoint)

theorem splitOn_eq (t : Text) : splitOn mark t = List.splitOn mark t := by
  induction t with
  | nil => rfl
  | cons c rest ih =>
    obtain ⟨piece, pieces, hrest⟩ := List.exists_cons_of_ne_nil
      (List.splitOnP_ne_nil (· == mark) rest)
    rw [← List.splitOn_eq_splitOnP] at hrest
    rw [splitOn, ih, hrest, List.splitOn_eq_splitOnP, List.splitOnP_cons_eq_if_modifyHead,
      ← List.splitOn_eq_splitOnP, hrest]
    by_cases hc : c = mark <;> simp [hc]

theorem splitOn_append_cons (s t : Text) :
    splitOn mark (s ++ mark :: t) = splitOn mark s ++ splitOn mark t := by
  simp only [splitOn_eq, List.splitOn_append_cons_self]

theorem splitOn_of_not_mem {t : Text} (h : mark ∉ t) : splitOn mark t = [t] := by
  have hpieces : List.splitOn mark ([mark].intercalate [t]) = [t] :=
    List.splitOn_intercalate mark (by simpa using h) (by simp)
  rwa [List.intercalate_singleton, ← splitOn_eq] at hpieces

theorem not_mem_of_mem_splitOn {piece t : Text} (h : piece ∈ splitOn mark t) : mark ∉ piece := by
  induction t generalizing piece with
  | nil =>
    obtain rfl := List.mem_singleton.1 h
    exact List.not_mem_nil
  | cons c rest ih =>
    rw [splitOn] at h
    cases hrest : splitOn mark rest with
    | nil =>
      rw [splitOn_eq] at hrest
      exact absurd hrest (List.splitOn_ne_nil mark rest)
    | cons first pieces =>
      rw [hrest] at ih
      simp only [hrest] at h
      by_cases hc : c = mark
      · rw [if_pos hc] at h
        rcases List.mem_cons.1 h with rfl | h
        · exact List.not_mem_nil
        · exact ih h
      · rw [if_neg hc] at h
        rcases List.mem_cons.1 h with rfl | h
        · rw [List.mem_cons, not_or]
          exact ⟨fun heq => hc heq.symm, ih List.mem_cons_self⟩
        · exact ih (List.mem_cons_of_mem _ h)

/-- Pieces that are joined are the pieces again. -/
theorem splitOn_join {pieces : List Text} (h : ∀ piece ∈ pieces, mark ∉ piece)
    (hne : pieces ≠ []) : splitOn mark (join [mark] pieces) = pieces := by
  rw [splitOn_eq, join, List.splitOn_intercalate mark h hne]

theorem join_splitOn (t : Text) : join [mark] (splitOn mark t) = t := by
  rw [splitOn_eq, join, List.intercalate_splitOn]

/-- What stands in the result is of the separator or of what is joined. -/
theorem mem_join {c : CodePoint} {separator : Text} {pieces : List Text}
    (h : c ∈ join separator pieces) : c ∈ separator ∨ ∃ piece ∈ pieces, c ∈ piece := by
  induction pieces with
  | nil => simp [join] at h
  | cons first rest ih =>
    cases rest with
    | nil =>
      rw [join, List.intercalate_singleton] at h
      exact Or.inr ⟨first, List.mem_cons_self, h⟩
    | cons second rest =>
      rw [join, List.intercalate_cons_cons, List.mem_append, List.mem_append] at h
      rcases h with (hfirst | hseparator) | hrest
      · exact Or.inr ⟨first, List.mem_cons_self, hfirst⟩
      · exact Or.inl hseparator
      · rcases ih hrest with hseparator | ⟨piece, hmem, hc⟩
        · exact Or.inl hseparator
        · exact Or.inr ⟨piece, List.mem_cons_of_mem _ hmem, hc⟩

/-- What is joined stands in the result. -/
theorem isInfix_join {piece : Text} {pieces : List Text} (separator : Text) (h : piece ∈ pieces) :
    piece <:+: join separator pieces := by
  induction pieces with
  | nil => simp at h
  | cons first rest ih =>
    cases rest with
    | nil =>
      obtain rfl := List.mem_singleton.1 h
      exact ⟨[], [], by simp [join]⟩
    | cons second rest =>
      rw [join, List.intercalate_cons_cons]
      rcases List.mem_cons.1 h with rfl | hrest
      · exact (List.prefix_append _ _).isInfix.trans (List.prefix_append _ _).isInfix
      · exact (ih hrest).trans (List.suffix_append _ _).isInfix

theorem isInfix_of_mem_splitOn {piece t : Text} (h : piece ∈ splitOn mark t) : piece <:+: t :=
  join_splitOn mark t ▸ isInfix_join [mark] h

end Text

end PullNotes
