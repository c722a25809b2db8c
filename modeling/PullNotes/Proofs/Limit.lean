import PullNotes.Proofs.Independence

/-!
# The limit of a comment

A report beyond the limit of a comment is clipped to exactly the limit, if the limit has room for
the note that says so.  The body for no files at all is not clipped: it has the marker twice, so its
length is that of a fixed text and of two marker ids, whatever the limit is.  So the limit holds for
every review of files, and for a review of none only if the marker is short enough.

* `Markdown.length_clip` : the length of a text that is clipped.
* `Review.length_body_le_iff` : which bodies are within the limit.
* `Review.withinLimit_iff` : which reviews return and write a body within the limit.
-/

namespace PullNotes

namespace Markdown

/-! ### Clipped texts -/

/-- **A text that is clipped** is as long as the limit if it was longer. -/
theorem length_clip {limit : Int} (h : clippedNote.length ≤ limit) (body : Text) :
    ((clip limit body).length : Int) = min (body.length : Int) limit := by
  unfold clip
  by_cases hbody : body.length ≤ limit
  · rw [if_pos hbody, Int.min_eq_left hbody]
  · -- the note fits, and what is kept of the text is there to keep
    have hkept : keptLength limit ≤ body.length := by
      unfold keptLength
      omega
    have hlength : (keptLength limit : Int) = limit - clippedNote.length := by
      unfold keptLength
      omega
    rw [if_neg hbody, List.length_append, List.length_take, Nat.min_eq_left hkept]
    omega

/-- The length of the comment for no section at all beside the two marker ids in it. -/
def emptyLength : Nat := 52

theorem length_emptyComment (settings : CommentSettings) :
    (emptyComment settings.marker).length = 2 * settings.markerId.length + emptyLength := by
  have hmarker : settings.marker.length = settings.markerId.length + 13 := by
    have hopen : (Text.ofString "<!-- id: ").length = 9 := by decide
    have hclose : (Text.ofString " -->").length = 4 := by decide
    unfold CommentSettings.marker
    simp only [Text.concat, List.flatten_cons, List.flatten_nil, List.length_append,
      List.length_nil, hopen, hclose]
    omega
  have hend : (Text.ofString " \n").length = 2 := by decide
  have hheading : (Text.ofString "# No files changed ☑️ ").length = 22 := by decide
  unfold emptyComment markerLine emptyLength
  simp only [Text.concat, List.flatten_cons, List.flatten_nil, List.length_append, List.length_nil,
    hmarker, hend, hheading]
  omega

end Markdown

namespace Review

open Markdown (clippedNote emptyLength)

/-! ### Bodies -/

/-- **A body is within the limit** if it is about any digest, or the marker is short enough. -/
theorem length_body_le_iff {settings : CommentSettings}
    (h : clippedNote.length ≤ settings.maxLength) (ds : List Digest) :
    (body settings ds).length ≤ settings.maxLength ↔
      ds ≠ [] ∨ 2 * settings.markerId.length + emptyLength ≤ settings.maxLength := by
  unfold body
  by_cases hds : ds = []
  · subst hds
    rw [List.isEmpty_nil, if_pos rfl, Markdown.length_emptyComment]
    push_cast
    simp
  · rw [if_neg (by simpa using hds), Markdown.length_clip h]
    exact iff_of_true (Int.min_le_right _ _) (Or.inl hds)

variable {root : Text} {settings : Settings} {paths : ChangedPaths}

/-- There are as many digests as there are files to digest. -/
theorem digestsOf_eq_nil_iff {files : Files} {ds : List Digest}
    (h : digestsOf root settings paths files = .ok ds) :
    ds = [] ↔ paths.matching settings.scan.pathFilter = [] := by
  unfold digestsOf at h
  have hlength := (Except.mapM_eq_ok_iff.1 h).length_eq
  rw [← List.length_eq_zero_iff, ← List.length_eq_zero_iff, hlength]

/-- What a course returns, if it returns a body, is the body about the files. -/
theorem Course.body_eq {request : Option PullRequest} {files : Files} {reply : Nat → Reply}
    {calls : List Command} {result : Except Failure Outcome} {o : Outcome}
    (h : Course root settings request paths files reply calls result) (ho : result = .ok o) :
    ∃ ds, digestsOf root settings paths files = .ok ds ∧ o.body = body settings.comment ds := by
  cases h with
  | unasked _ => cases ho
  | unlisted _ _ => cases ho
  | unread _ _ _ => cases ho
  | @written _ _ ds _ _ hdigests =>
    obtain ⟨done, -, rfl⟩ := Except.map_eq_ok_iff.1 ho
    exact ⟨ds, hdigests, rfl⟩

/-! ### Reviews -/

/-- A text is within the limit of a comment. -/
def WithinLimit (settings : CommentSettings) (body : Text) : Prop :=
  body.length ≤ settings.maxLength

instance (settings : CommentSettings) (body : Text) : Decidable (WithinLimit settings body) :=
  inferInstanceAs (Decidable (_ ≤ _))

/-- There is a file to scan, or the marker is short enough for the body without any. -/
def FilesOrShort (settings : Settings) (paths : ChangedPaths) : Prop :=
  paths.matching settings.scan.pathFilter ≠ [] ∨
    2 * settings.comment.markerId.length + emptyLength ≤ settings.comment.maxLength

theorem withinLimit_body_iff (hlimit : clippedNote.length ≤ settings.comment.maxLength)
    {files : Files} {ds : List Digest} (h : digestsOf root settings paths files = .ok ds) :
    WithinLimit settings.comment (body settings.comment ds) ↔ FilesOrShort settings paths := by
  unfold WithinLimit FilesOrShort
  rw [length_body_le_iff hlimit, ne_eq, digestsOf_eq_nil_iff h]

/-- **A review returns and writes a body within the limit**, where the limit has room for the note
of a clipped comment, exactly if there is a file to scan or the marker is short enough.  This holds
of dry runs, of reviews of pull requests and of what these write, also when they fail afterwards. -/
theorem withinLimit_iff (root : Text) (paths : ChangedPaths) (s : Surroundings)
    (hlimit : clippedNote.length ≤ settings.comment.maxLength) :
    (∀ o, ((dryRun root settings paths).outcome s).1 = .ok o →
      (WithinLimit settings.comment o.body ↔ FilesOrShort settings paths)) ∧
    (∀ request o, ((run root settings request paths).outcome s).1 = .ok o →
      (WithinLimit settings.comment o.body ↔ FilesOrShort settings paths)) ∧
    ∀ request list write,
      ((run root settings request paths).outcome s).2.commands = s.commands ++ [list, write] →
      ∃ body, write.input = some (Thread.payload body) ∧
        (WithinLimit settings.comment body ↔ FilesOrShort settings paths) := by
  refine ⟨fun o ho => ?_, fun request o ho => ?_, fun request list write hwrites => ?_⟩
  · rw [dryRun_outcome] at ho
    obtain ⟨ds, hds, rfl⟩ := Except.map_eq_ok_iff.1 ho
    exact withinLimit_body_iff hlimit hds
  · obtain ⟨calls, notes, hcourse, -⟩ := course_run root settings request paths s
    obtain ⟨ds, hds, hbody⟩ := hcourse.body_eq ho
    rw [hbody]
    exact withinLimit_body_iff hlimit hds
  · obtain ⟨calls, notes, hcourse, hafter⟩ := course_run root settings request paths s
    rw [hafter, Surroundings.noting_commands, Surroundings.foldl_gave_commands] at hwrites
    obtain ⟨ds, hds, hinput⟩ := hcourse.input_eq (List.append_cancel_left hwrites)
    exact ⟨_, hinput, withinLimit_body_iff hlimit hds⟩

open Discussion (sampleSettings sampleDry samplePaths sampleFirstBody sampleRequest)

/-- The review of a file is clipped to the limit. -/
theorem withinLimit_clipped : clippedNote.length ≤ sampleSettings.comment.maxLength ∧
    (∃ o, ((dryRun "/w" sampleSettings samplePaths).outcome sampleDry).1 = .ok o ∧
      o.body = sampleFirstBody) ∧
    WithinLimit sampleSettings.comment sampleFirstBody := by
  have hlimit : clippedNote.length ≤ sampleSettings.comment.maxLength := by decide
  obtain ⟨hdry, -⟩ := withinLimit_iff "/w" samplePaths sampleDry hlimit
  refine ⟨hlimit, ⟨_, Discussion.dryRun_sample, rfl⟩, (hdry _ Discussion.dryRun_sample).2 ?_⟩
  exact Or.inl (by decide)

/-- A marker that is long, and a limit that has room for one of it. -/
def longMarker : Settings where
  comment := { markerId := "acme-app-pull-request-review-bot-main", maxLength := 120 }

/-- A review of no files, on a pull request with a comment that is not marked. -/
def longVisit : Visit := Discussion.sampleOpened.visit 8 "/w" longMarker {} Discussion.sampleFiles

/-- The review of no files returns a body beyond the limit, which is what it wrote. -/
theorem not_withinLimit_longMarker : clippedNote.length ≤ longMarker.comment.maxLength ∧
    ∃ body list write done,
      (longVisit.outcome sampleRequest).1 = .ok ⟨body, [], some done⟩ ∧
      (longVisit.outcome sampleRequest).2.commands = [list, write] ∧
      write.input = some (Thread.payload body) ∧ ¬ WithinLimit longMarker.comment body := by
  have hanswered : Discussion.Answered Discussion.sampleOpened 8 longVisit.surroundings.reply :=
    Discussion.answered_visit (by decide +kernel) (by decide +kernel) _ _ _ _
  have hdigests : longVisit.digests = .ok [] := rfl
  obtain ⟨hcommands, hresult⟩ := hanswered.outcome_eq (r := sampleRequest) hdigests
  obtain ⟨done, hdone⟩ := sampleRequest.thread.exists_synced (body longMarker.comment [])
    Discussion.sampleOpened.comments longVisit.token hanswered.confirmsWrite
  have hlong : ¬ WithinLimit longMarker.comment (body longMarker.comment []) := by
    have hlength : longMarker.comment.markerId.length = 37 := by decide
    unfold WithinLimit body
    rw [List.isEmpty_nil, if_pos rfl, Markdown.length_emptyComment, hlength]
    decide
  refine ⟨by decide, body longMarker.comment [], _, _, done, ?_, hcommands, ?_, hlong⟩
  · exact hresult.trans (congrArg (Except.map _) hdone)
  · exact (sampleRequest.thread.keeps_writeCommand _ _ _).input_eq

end Review

end PullNotes
