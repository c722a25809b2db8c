import PullNotes.Proofs.Surrogates
import PullNotes.Review

/-!
# Marked comments

A comment is marked by a token that occurs in its body.  Every body that a review composes starts
with a marker, and the marker holds the token, so a review finds its own comment again.  This needs
a limit that leaves the marker whole when a body is clipped.

* `Comment.marked?_eq_some_iff`, `Comment.marked?_eq_none_iff` : the first comment with a token.
* `Review.searchToken_infix_body` : the token occurs in every body.
* `Review.marker_prefix_merged` : the marker stays in front when surrogate pairs are made one.
-/

namespace PullNotes

namespace Text

theorem isInfixOf_iff {needle t : Text} : isInfixOf needle t = true ↔ needle <:+: t := by
  induction t with
  | nil => simp only [isInfixOf, List.isEmpty_iff, List.infix_nil]
  | cons c rest ih =>
    simp only [isInfixOf, Bool.or_eq_true, List.isPrefixOf_iff_prefix, ih, List.infix_cons_iff]

theorem isInfixOf_eq_false_iff {needle t : Text} :
    isInfixOf needle t = false ↔ ¬ needle <:+: t := by
  rw [← isInfixOf_iff, Bool.not_eq_true]

end Text

namespace Comment

variable {token : Text} {comments : List Comment} {c : Comment}

/-- The comment is the first of some comments to have a token in its body. -/
def IsFirst (token : Text) (comments : List Comment) (c : Comment) : Prop :=
  ∃ before after, comments = before ++ c :: after ∧ token <:+: c.body ∧
    ∀ b ∈ before, ¬ token <:+: b.body

theorem marked?_eq_some_iff : marked? token comments = some c ↔ IsFirst token comments c := by
  unfold marked? IsFirst
  rw [List.find?_eq_some_iff_append]
  constructor
  · rintro ⟨hc, before, after, rfl, hbefore⟩
    refine ⟨before, after, rfl, Text.isInfixOf_iff.1 hc, fun b hb => ?_⟩
    have := hbefore b hb
    rw [Bool.not_eq_true', has] at this
    exact Text.isInfixOf_eq_false_iff.1 this
  · rintro ⟨before, after, rfl, hc, hbefore⟩
    refine ⟨Text.isInfixOf_iff.2 hc, before, after, rfl, fun b hb => ?_⟩
    rw [Bool.not_eq_true', has]
    exact Text.isInfixOf_eq_false_iff.2 (hbefore b hb)

theorem marked?_eq_none_iff :
    marked? token comments = none ↔ ∀ c ∈ comments, ¬ token <:+: c.body := by
  simp only [marked?, List.find?_eq_none, has, Text.isInfixOf_iff]

end Comment

namespace CommentSettings

variable (settings : CommentSettings)

/-- The token occurs in the marker. -/
theorem searchToken_infix_marker : settings.searchToken <:+: settings.marker := by
  refine ⟨"<!-- ", " -->", ?_⟩
  have h : (Text.ofString "<!-- id: ") = Text.ofString "<!-- " ++ Text.ofString "id: " := by decide
  simp only [searchToken, marker, Text.concat, h, List.flatten_cons, List.flatten_nil,
    List.append_assoc, List.append_nil]

/-- The limit of a body leaves room for the marker and for what is said at the end of a clipped
body. -/
def Roomy : Prop :=
  ((settings.marker.length + Markdown.clippedNote.length : Nat) : Int) ≤ settings.maxLength

instance : Decidable settings.Roomy := inferInstanceAs (Decidable (_ ≤ _))

end CommentSettings

namespace Markdown

/-- Clipping keeps what stands at the start, where the limit has room for it. -/
theorem isPrefix_clip {start body : Text} {limit : Int}
    (hroom : ((start.length + clippedNote.length : Nat) : Int) ≤ limit) (h : start <+: body) :
    start <+: clip limit body := by
  unfold clip
  by_cases hfits : body.length ≤ limit
  · rw [if_pos hfits]
    exact h
  · rw [if_neg hfits]
    have hkept : start.length ≤ keptLength limit := by
      unfold keptLength
      omega
    exact ((List.prefix_take_iff).2 ⟨h, hkept⟩).trans (List.prefix_append _ _)

end Markdown

namespace Review

variable {settings : CommentSettings}

theorem marker_prefix_markerLine : settings.marker <+: Markdown.markerLine settings.marker :=
  List.prefix_append _ _

theorem marker_prefix_comment (sections : List Text) :
    settings.marker <+: Markdown.comment settings.marker sections :=
  marker_prefix_markerLine.trans (List.prefix_append _ _)

/-- The comment about no file is never clipped. -/
theorem marker_prefix_body_nil : settings.marker <+: body settings [] :=
  marker_prefix_markerLine.trans (List.prefix_append _ _)

/-- Every body starts with the marker. -/
theorem marker_prefix_body (hroom : settings.Roomy) (ds : List Digest) :
    settings.marker <+: body settings ds := by
  cases ds with
  | nil => exact marker_prefix_body_nil
  | cons d ds => exact Markdown.isPrefix_clip hroom (marker_prefix_comment _)

/-- **The token occurs in every body**, with files or without, clipped or not. -/
theorem searchToken_infix_body (hroom : settings.Roomy) (ds : List Digest) :
    settings.searchToken <:+: body settings ds :=
  settings.searchToken_infix_marker.trans (marker_prefix_body hroom ds).isInfix

/-- The comment about some digests is within the limit. -/
def Unclipped (settings : CommentSettings) (ds : List Digest) : Prop :=
  ds ≠ [] → ((Markdown.comment settings.marker
    (ds.map (Markdown.digestSection settings.fenceLanguage))).length : Int) ≤ settings.maxLength

instance (settings : CommentSettings) (ds : List Digest) : Decidable (Unclipped settings ds) :=
  inferInstanceAs (Decidable (_ → _))

/-- A body that is not clipped starts with the marker, whatever the limit is. -/
theorem Unclipped.marker_prefix_body {ds : List Digest} (h : Unclipped settings ds) :
    settings.marker <+: body settings ds := by
  cases ds with
  | nil => exact marker_prefix_body_nil
  | cons d ds =>
    have hbody : body settings (d :: ds) = Markdown.comment settings.marker
        ((d :: ds).map (Markdown.digestSection settings.fenceLanguage)) :=
      if_pos (h (List.cons_ne_nil _ _))
    rw [hbody]
    exact marker_prefix_comment _

/-- No pair of surrogates in a text changes the marker in front of it. -/
theorem marker_prefix_merged (hid : settings.markerId.merged = settings.markerId) {t : Text}
    (h : settings.marker <+: t) : settings.marker <+: t.merged := by
  obtain ⟨rest, rfl⟩ := h
  have hopening : (Text.ofString "<!-- id: ").Scalar := Text.scalar_ofString _
  have hclosing : (Text.ofString "-->").Scalar := Text.scalar_ofString _
  have hmarker : settings.marker = Text.ofString "<!-- id: " ++
      (settings.markerId ++ CodePoint.ofChar ' ' :: Text.ofString "-->") := by
    simp only [CommentSettings.marker, Text.concat, List.flatten_cons, List.flatten_nil,
      List.append_nil]
    rfl
  refine ⟨Text.merged rest, ?_⟩
  -- the blank and the letters around the id keep a pair from reaching over its ends
  have hassoc : ∀ more : Text, settings.marker ++ more = Text.ofString "<!-- id: " ++
      (settings.markerId ++ CodePoint.ofChar ' ' :: (Text.ofString "-->" ++ more)) := by
    intro more
    rw [hmarker, List.append_assoc, List.append_assoc, List.cons_append]
  rw [hassoc, hassoc, Text.merged_append_of_scalar hopening, Text.merged_append_cons (by decide),
    hid, Text.merged_append_of_scalar hclosing]

end Review

end PullNotes
