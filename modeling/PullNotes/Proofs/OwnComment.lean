import PullNotes.Proofs.Discussion

/-!
# One comment of its own

Reviews with one token come to share one comment.  The first of them finds no comment with the token
and creates one; from then on this comment is the first with the token, since every body that a
review composes has the token and all remarks of others come after it.  So each later review
replaces the body of this comment, and nothing else is changed by reviews.

* `Discussion.Owned` : the invariant, that a comment is the first with a token.
* `Discussion.Owned.review`, `Discussion.Owned.remark` : it outlasts reviews and remarks.
* `Discussion.Owned.history` : it outlasts all that happens.
* `Discussion.comments_of_history` : what a discussion has come to after some reviews.
-/

namespace PullNotes

/-- What happens to a discussion: a review that succeeds, or a remark by somebody else. -/
inductive Event where
  | review (v : Visit) (o : Outcome)
  | remark (c : Comment)

namespace Event

/-- The body that the last review of some events wrote, after a body. -/
def lastBody (body : Text) : List Event → Text
  | [] => body
  | review _ o :: events => lastBody o.body events
  | remark _ :: events => lastBody body events

/-- The remarks of some events, in order. -/
def remarks : List Event → List Comment
  | [] => []
  | review _ _ :: events => remarks events
  | remark c :: events => c :: remarks events

end Event

namespace Discussion

/-- One event happens to a discussion; a remark has a new number. -/
inductive Happens (r : PullRequest) : Discussion → Event → Discussion → Prop where
  | review {before after : Discussion} {v : Visit} {o : Outcome} : Reviewed r before v o after →
      Happens r before (.review v o) after
  | remark {before : Discussion} {c : Comment} (hnew : c.id ∉ before.ids) :
      Happens r before (.remark c) (before.add c hnew)

/-- Events happen to a discussion, one after another. -/
inductive History (r : PullRequest) : Discussion → List Event → Discussion → Prop where
  | nil {d : Discussion} : History r d [] d
  | cons {before d after : Discussion} {e : Event} {events : List Event} : Happens r before e d →
      History r d events after → History r before (e :: events) after

/-- The comment with a number is the first with a token, after some comments and before others. -/
structure Owned (token : Text) (front : List Comment) (own : Int) (body : Text)
    (back : List Comment) (d : Discussion) : Prop where
  comments_eq : d.comments = front ++ ⟨own, body⟩ :: back
  unmarked : ∀ c ∈ front, ¬ token <:+: c.body
  marked : token <:+: body

variable {r : PullRequest} {token body : Text} {front back : List Comment} {own : Int}
  {d d' : Discussion}

/-- The first comment with the token is the one that is owned. -/
theorem Owned.eq_of_isFirst (h : Owned token front own body back d) {c : Comment}
    (hc : Comment.IsFirst token d.comments c) : c = ⟨own, body⟩ := by
  have hown : Comment.IsFirst token d.comments ⟨own, body⟩ :=
    ⟨front, back, h.comments_eq, h.marked, h.unmarked⟩
  rw [← Comment.marked?_eq_some_iff] at hc hown
  exact Option.some.inj (hc.symm.trans hown)

/-- Replacing the body of the owned comment leaves the others as they are. -/
theorem Owned.replace (h : Owned token front own body back d) {body' : Text}
    (hbody : token <:+: body') : Owned token front own body' back (d.replace own body') := by
  have hnodup := d.nodup
  rw [h.comments_eq, List.map_append, List.map_cons, List.nodup_append, List.nodup_cons] at hnodup
  obtain ⟨_, ⟨hback, _⟩, hfront⟩ := hnodup
  -- the comments before and after have other numbers, so they are not rewritten
  have hother : ∀ comments : List Comment, own ∉ comments.map Comment.id →
      comments.map (rewritten own body') = comments := by
    intro comments hown
    refine (List.map_congr_left fun c hc => ?_).trans (List.map_id comments)
    exact if_neg fun (heq : c.id = own) => hown (heq ▸ List.mem_map_of_mem hc)
  refine ⟨?_, h.unmarked, hbody⟩
  rw [replace_comments, h.comments_eq, List.map_append, List.map_cons, hother back hback,
    hother front fun hmem => hfront _ hmem _ List.mem_cons_self rfl]
  simp only [rewritten, if_true]

variable {v : Visit} {o : Outcome}

/-- The body of a review with the token has the token. -/
theorem token_infix_body {before after : Discussion} (h : Reviewed r before v o after)
    (hroom : v.settings.comment.Roomy) : v.token <:+: o.body := by
  obtain ⟨_, hbody, _⟩ := h.step
  rw [hbody]
  exact Review.searchToken_infix_body hroom _

/-- A review of an unmarked discussion adds a comment. -/
theorem Reviewed.of_unmarked (h : Reviewed r d v o d')
    (hnone : ∀ c ∈ d.comments, ¬ v.token <:+: c.body) :
    ∃ own, ∃ hnew : own ∉ d.ids,
      o.sync = some ⟨.created, own⟩ ∧ d' = d.add ⟨own, o.kept⟩ hnew := by
  obtain ⟨_, _, hkept⟩ := h.step
  rcases hkept with ⟨c, ⟨front, back, hcomments, hc, _⟩, _⟩ | ⟨_, own, hnew, hsync, rfl⟩
  · exact absurd hc (hnone c (by rw [hcomments]; exact List.mem_append_right _ List.mem_cons_self))
  · exact ⟨own, hnew, hsync, rfl⟩

/-- The first review of an unmarked discussion comes to own a comment. -/
theorem Reviewed.owned (h : Reviewed r d v o d') (hscalar : o.body.Scalar)
    (hroom : v.settings.comment.Roomy) (hnone : ∀ c ∈ d.comments, ¬ v.token <:+: c.body) :
    ∃ own, own ∉ d.ids ∧ o.sync = some ⟨.created, own⟩ ∧
      Owned v.token d.comments own o.body [] d' := by
  obtain ⟨own, hnew, hsync, rfl⟩ := h.of_unmarked hnone
  refine ⟨own, hnew, hsync, ?_, hnone, token_infix_body h hroom⟩
  rw [add_comments, Outcome.kept_of_scalar hscalar]

/-- A review with the token replaces the body of the owned comment. -/
theorem Owned.of_reviewed (h : Owned token front own body back d) (hreview : Reviewed r d v o d')
    (htoken : v.token = token) : o.sync = some ⟨.updated, own⟩ ∧ d' = d.replace own o.kept := by
  obtain ⟨_, _, hkept⟩ := hreview.step
  rw [htoken] at hkept
  rcases hkept with ⟨c, hc, hsync, hafter⟩ | ⟨hnone, _⟩
  · obtain rfl := h.eq_of_isFirst hc
    exact ⟨hsync, hafter⟩
  · refine absurd h.marked (hnone ⟨own, body⟩ ?_)
    rw [h.comments_eq]
    exact List.mem_append_right _ List.mem_cons_self

/-- After a review with the token the comment is owned as before. -/
theorem Owned.review (h : Owned token front own body back d) (hreview : Reviewed r d v o d')
    (hscalar : o.body.Scalar) (hroom : v.settings.comment.Roomy) (htoken : v.token = token) :
    o.sync = some ⟨.updated, own⟩ ∧ Owned token front own o.body back d' := by
  obtain ⟨hsync, rfl⟩ := h.of_reviewed hreview htoken
  rw [Outcome.kept_of_scalar hscalar]
  exact ⟨hsync, h.replace (htoken ▸ token_infix_body hreview hroom)⟩

/-- A remark comes after the owned comment. -/
theorem Owned.remark (h : Owned token front own body back d) {c : Comment} (hnew : c.id ∉ d.ids) :
    Owned token front own body (back ++ [c]) (d.add c hnew) := by
  refine ⟨?_, h.unmarked, h.marked⟩
  rw [add_comments, h.comments_eq, List.append_assoc, List.cons_append]

/-- **The owned comment stays owned**: reviews replace its body, and remarks come after it. -/
theorem Owned.history {events : List Event} (h : Owned token front own body back d)
    (hhistory : History r d events d')
    (hreviews : ∀ v o, Event.review v o ∈ events →
      v.token = token ∧ v.settings.comment.Roomy ∧ o.body.Scalar) :
    (∀ v o, Event.review v o ∈ events → o.sync = some ⟨.updated, own⟩) ∧
      Owned token front own (Event.lastBody body events) (back ++ Event.remarks events) d' := by
  induction hhistory generalizing body back with
  | nil =>
    rw [Event.remarks, List.append_nil]
    exact ⟨fun _ _ hmem => absurd hmem List.not_mem_nil, h⟩
  | @cons d d₁ d' e events hhappens _ ih =>
    have hlater : ∀ v o, Event.review v o ∈ events →
        v.token = token ∧ v.settings.comment.Roomy ∧ o.body.Scalar :=
      fun v o hmem => hreviews v o (List.mem_cons_of_mem _ hmem)
    cases hhappens with
    | @review _ v o hreview =>
      obtain ⟨htoken, hroom, hscalar⟩ := hreviews v o List.mem_cons_self
      obtain ⟨hsync, howned⟩ := h.review hreview hscalar hroom htoken
      obtain ⟨hsyncs, hafter⟩ := ih howned hlater
      refine ⟨fun w p hmem => ?_, hafter⟩
      rcases List.mem_cons.1 hmem with heq | hmem
      · cases heq
        exact hsync
      · exact hsyncs w p hmem
    | @remark c hnew =>
      obtain ⟨hsyncs, hafter⟩ := ih (h.remark hnew) hlater
      refine ⟨fun w p hmem => ?_, ?_⟩
      · rcases List.mem_cons.1 hmem with heq | hmem
        · cases heq
        · exact hsyncs w p hmem
      · rw [Event.remarks, List.append_cons]
        exact hafter

/-- **Reviews with one token keep one comment.**  If no comment has the token at first, the first
review creates a comment, all later reviews update it, and in the end it has the body of the last of
them; all other comments are as they were written, in the order in which they came. -/
theorem comments_of_history {before after : Discussion} {events : List Event}
    (hhistory : History r before (.review v o :: events) after)
    (hbefore : ∀ c ∈ before.comments, ¬ v.token <:+: c.body)
    (hreviews : ∀ w p, Event.review w p ∈ Event.review v o :: events →
      w.settings.comment.markerId = v.settings.comment.markerId ∧ w.settings.comment.Roomy ∧
        p.body.Scalar) :
    ∃ own, own ∉ before.ids ∧ o.sync = some ⟨.created, own⟩ ∧
      (∀ w p, Event.review w p ∈ events → p.sync = some ⟨.updated, own⟩) ∧
      after.comments =
        before.comments ++ ⟨own, Event.lastBody o.body events⟩ :: Event.remarks events := by
  obtain ⟨_, hroom, hscalar⟩ := hreviews v o List.mem_cons_self
  cases hhistory with
  | cons hfirst hrest =>
    cases hfirst with
    | review hreview =>
      obtain ⟨own, hnew, hsync, howned⟩ := hreview.owned hscalar hroom hbefore
      obtain ⟨hsyncs, hafter⟩ := howned.history hrest fun w p hmem => by
        obtain ⟨hid, hroom, hscalar⟩ := hreviews w p (List.mem_cons_of_mem _ hmem)
        exact ⟨by rw [Visit.token, CommentSettings.searchToken, hid]; rfl, hroom, hscalar⟩
      exact ⟨own, hnew, hsync, hsyncs, hafter.comments_eq⟩

/-! ### An instance

A clipped review of a file, a remark that quotes the token, and a review with nothing to scan. -/

/-- A pull request. -/
def sampleRequest : PullRequest := ⟨"acme", "app", 42⟩

/-- A discussion with a comment by somebody. -/
def sampleOpened : Discussion := ⟨[⟨7, "Please review."⟩], by decide⟩

/-- Settings that leave nothing but the marker of a clipped body. -/
def sampleSettings : Settings := { comment := { markerId := "bot", maxLength := 78 } }

/-- A checkout with one file. -/
def sampleFiles : Files where
  root := "/w"
  contents := [(["dev", "a.js"],
    "(\x7bscript:\"hi\",f:function()\x7b\x7d\x7d)".toList.map fun c => UInt8.ofNat c.toNat)]

/-- The digest of the file. -/
def sampleDigest : Digest where
  filePath := "dev/a.js"
  language := "javascript"
  pairs := [⟨"hi", ⟨"f", "function()\x7b\x7d"⟩⟩]

/-- The review of the file. -/
def sampleFirst : Visit :=
  sampleOpened.visit 8 "/w" sampleSettings { modified := ["dev/a.js"] } sampleFiles

/-- The body that it writes. -/
def sampleFirstBody : Text :=
  "<!-- id: bot -->\n\n> Report truncated: it exceeds GitHub's comment size limit.\n"

/-- A remark that quotes the token. -/
def sampleRemark : Comment := ⟨9, "It looks for id: bot only."⟩

/-- The discussion after the remark. -/
def sampleRemarked : Discussion :=
  (sampleOpened.add ⟨8, sampleFirstBody⟩ (by decide)).add sampleRemark (by decide)

/-- The review with nothing to scan. -/
def sampleSecond : Visit :=
  sampleRemarked.visit 8 "/w" { comment := { markerId := "bot" } } {} sampleFiles

/-- The body that it writes. -/
def sampleSecondBody : Text := "<!-- id: bot --> \n# No files changed ☑️ <!-- id: bot --> \n"

/-- What happens after the first review. -/
def sampleEvents : List Event :=
  [.remark sampleRemark, .review sampleSecond ⟨sampleSecondBody, [], some ⟨.updated, 8⟩⟩]

/-- The digests of the file do not depend on how comments are marked. -/
theorem digests_sample (comment : CommentSettings) : Review.digestsOf "/w" { comment := comment }
    { modified := ["dev/a.js"] } sampleFiles = .ok [sampleDigest] := by
  have hcomment :
      Review.digestsOf "/w" { comment := comment } { modified := ["dev/a.js"] } sampleFiles =
      Review.digestsOf "/w" {} { modified := ["dev/a.js"] } sampleFiles :=
    congrArg (List.mapM · _) (funext fun _ => rfl)
  have h : Review.digestsOf "/w" {} { modified := ["dev/a.js"] } sampleFiles = .ok [sampleDigest] :=
    Except.eq_ok_of_toOption (by decide +kernel)
  rw [hcomment, h]

theorem reviewed_sampleFirst : Reviewed sampleRequest sampleOpened sampleFirst
    ⟨sampleFirstBody, [sampleDigest], some ⟨.created, 8⟩⟩
    (sampleOpened.add ⟨8, sampleFirstBody⟩ (by decide)) :=
  reviewed_create (answered_visit (by decide +kernel) (by decide +kernel) _ _ _ _)
    (digests_sample _) (by decide +kernel) (by decide +kernel) (by decide +kernel) (by decide)

theorem reviewed_sampleSecond : Reviewed sampleRequest sampleRemarked sampleSecond
    ⟨sampleSecondBody, [], some ⟨.updated, 8⟩⟩ (sampleRemarked.replace 8 sampleSecondBody) :=
  reviewed_update (c := ⟨8, sampleFirstBody⟩) (Comment.marked?_eq_some_iff.1 (by decide +kernel))
    (answered_visit (by decide +kernel) (by decide +kernel) _ _ _ _) rfl
    (by decide +kernel) (by decide +kernel)

theorem history_sample : History sampleRequest sampleOpened
    (.review sampleFirst ⟨sampleFirstBody, [sampleDigest], some ⟨.created, 8⟩⟩ :: sampleEvents)
    (sampleRemarked.replace 8 sampleSecondBody) :=
  .cons (.review reviewed_sampleFirst) (.cons (.remark _)
    (.cons (.review reviewed_sampleSecond) .nil))

/-- The comment with the number 8 is created, updated, and left between the two others. -/
theorem comments_of_history_sample :
    (∀ c ∈ sampleOpened.comments, ¬ sampleFirst.token <:+: c.body) ∧
    ∃ own, own ∉ sampleOpened.ids ∧
      some (SyncResult.mk .created 8) = some ⟨.created, own⟩ ∧
      (∀ w p, Event.review w p ∈ sampleEvents → p.sync = some ⟨.updated, own⟩) ∧
      (sampleRemarked.replace 8 sampleSecondBody).comments = sampleOpened.comments ++
        ⟨own, Event.lastBody sampleFirstBody sampleEvents⟩ :: Event.remarks sampleEvents := by
  have hunmarked : ∀ c ∈ sampleOpened.comments, ¬ sampleFirst.token <:+: c.body := by
    decide +kernel
  refine ⟨hunmarked, comments_of_history history_sample hunmarked fun w p hmem => ?_⟩
  simp only [sampleEvents, List.mem_cons, List.not_mem_nil, or_false, Event.review.injEq,
    reduceCtorEq, false_or] at hmem
  rcases hmem with ⟨rfl, rfl⟩ | ⟨rfl, rfl⟩
  · exact ⟨rfl, by decide +kernel, by decide +kernel⟩
  · exact ⟨rfl, by decide +kernel, by decide +kernel⟩

end Discussion

end PullNotes
