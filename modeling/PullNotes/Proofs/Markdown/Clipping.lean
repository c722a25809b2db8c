import PullNotes.Proofs.Marks

/-!
# Clipped comments

A body beyond a limit is cut and a note is put at its end.  The note has a length of its own, so the
arithmetic changes twice: at the length of the body, where nothing is cut any more, and at the
length of the note, below which nothing but the note is left and the result is longer than the
limit. Neither makes a difference to what a clip does to a text that was clipped before: that
depends on the smaller of the two limits alone.

* `Markdown.length_clip_of_lt` : the length of a body that is cut.
* `Markdown.clip_clip` : a clip after a clip to a limit that is not smaller.
* `Markdown.clip_stable` : what is kept of a body, its length, and clips one after another.
-/

namespace PullNotes

namespace Markdown

variable {limit limit' : Int} {body : Text}

theorem clip_of_le (h : (body.length : Int) ≤ limit) : clip limit body = body := if_pos h

theorem clip_of_lt (h : limit < body.length) :
    clip limit body = body.take (keptLength limit) ++ clippedNote := if_neg (Int.not_le.2 h)

theorem keptLength_mono (h : limit ≤ limit') : keptLength limit ≤ keptLength limit' := by
  unfold keptLength
  omega

/-- **A body that is cut** has the length of the limit, or of the note alone if that is longer. -/
theorem length_clip_of_lt (h : limit < body.length) :
    ((clip limit body).length : Int) = max limit clippedNote.length := by
  rw [clip_of_lt h, List.length_append, List.length_take]
  unfold keptLength
  omega

/-- A text that was cut and is cut once more, to a limit that is not larger, keeps what it would
have kept the first time. -/
theorem take_clip_of_lt (hle : limit ≤ limit') (hbody : limit' < body.length) :
    (clip limit' body).take (keptLength limit) = body.take (keptLength limit) := by
  -- what the second cut keeps is within what the first one kept: the note is not reached
  have hkept : keptLength limit ≤ keptLength limit' := keptLength_mono hle
  have hlength : keptLength limit' ≤ body.length := by
    unfold keptLength
    omega
  rw [clip_of_lt hbody, List.take_append_of_le_length, List.take_take, Nat.min_eq_left hkept]
  rw [List.length_take]
  omega

/-- **Only the smaller of two limits counts.** -/
theorem clip_clip (hle : limit ≤ limit') (body : Text) :
    clip limit (clip limit' body) = clip limit body := by
  by_cases hbody : limit' < body.length
  · by_cases hagain : limit < (clip limit' body).length
    · rw [clip_of_lt hagain, take_clip_of_lt hle hbody, clip_of_lt (Int.lt_of_le_of_lt hle hbody)]
    · -- the cut text is within the smaller limit only if the limits are the same
      have hlength := length_clip_of_lt hbody
      obtain rfl : limit = limit' := by omega
      exact clip_of_le (Int.not_lt.1 hagain)
  · rw [clip_of_le (Int.not_lt.1 hbody)]

/-- **A clip is stable.**  A body within the limit stays as it is; any other is cut to a start of it
and gets the note, with the length of the limit or of the note, whichever is greater.  A second clip
changes nothing, a larger limit below the length of the body keeps at least as much of it, and
whatever the body starts with stays in front if the limit has room for it and the note. -/
theorem clip_stable (limit : Int) (body : Text) :
    ((body.length : Int) ≤ limit → clip limit body = body) ∧
    (limit < body.length → ∃ kept, kept <+: body ∧ clip limit body = kept ++ clippedNote ∧
      ((clip limit body).length : Int) = max limit clippedNote.length) ∧
    clip limit (clip limit body) = clip limit body ∧
    (∀ limit' : Int, limit ≤ limit' → limit' < body.length →
      ∃ kept kept', clip limit body = kept ++ clippedNote ∧
        clip limit' body = kept' ++ clippedNote ∧ kept <+: kept' ∧ kept' <+: body) ∧
    ∀ start : Text, start <+: body → ((start.length + clippedNote.length : Nat) : Int) ≤ limit →
      start <+: clip limit body := by
  refine ⟨clip_of_le, fun hbody => ?_, clip_clip (Int.le_refl limit) body,
    fun limit' hle hbody => ?_, fun start hstart hroom => isPrefix_clip hroom hstart⟩
  · exact ⟨_, List.take_prefix _ body, clip_of_lt hbody, length_clip_of_lt hbody⟩
  · have hkept : body.take (keptLength limit) <+: body.take (keptLength limit') :=
      List.take_prefix_take_left (keptLength_mono hle)
    exact ⟨_, _, clip_of_lt (Int.lt_of_le_of_lt hle hbody), clip_of_lt hbody, hkept,
      List.take_prefix _ body⟩

/-- A heading that is too long for a limit. -/
def longHeading : Text := "#" ++ List.replicate 70 (CodePoint.ofChar 'a')

/-- The limit of 63 has room for the first character and the note, a second one for three more. -/
theorem clip_stable_longHeading :
    clip 63 (clip 63 longHeading) = clip 63 longHeading ∧
      (∃ kept kept', clip 63 longHeading = kept ++ clippedNote ∧
        clip 66 longHeading = kept' ++ clippedNote ∧ kept <+: kept' ∧ kept' <+: longHeading) ∧
      Text.ofString "#" <+: clip 63 longHeading := by
  obtain ⟨-, -, hagain, hmore, hstart⟩ := clip_stable 63 longHeading
  exact ⟨hagain, hmore 66 (by decide) (by decide), hstart "#" (by decide) (by decide)⟩

end Markdown

end PullNotes
