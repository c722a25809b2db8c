import Mathlib.Data.List.Nodup
import PullNotes.Proofs.Course
import PullNotes.Proofs.Listing

/-!
# Reviews of a discussion

A discussion is what a pull request has of comments.  It answers three commands: one lists all
comments in order, one adds a comment with a new number, and one replaces the body of the comment
with a number.  A body is sent as a JSON object and kept as the object spells it.  A review of a
discussion is one whose commands the discussion answers, one after another.

* `Discussion.Answers`, `Discussion.Serves` : the answers to a command, and to several.
* `Discussion.Reviewed` : a review that succeeds.
* `Discussion.Reviewed.step` : what a review does to a discussion.
* `Discussion.reviewed_create`, `Discussion.reviewed_update` : reviews that do succeed.
-/

namespace PullNotes

/-- The comments of a pull request, the oldest first; no two have the same number. -/
structure Discussion where
  comments : List Comment
  nodup : (comments.map Comment.id).Nodup

namespace Discussion

/-- The numbers of the comments. -/
def ids (d : Discussion) : List Int := d.comments.map Comment.id

/-- The discussion with one more comment, which has a new number. -/
def add (d : Discussion) (c : Comment) (hnew : c.id ∉ d.ids) : Discussion where
  comments := d.comments ++ [c]
  nodup := by
    rw [List.map_append, List.map_singleton]
    exact List.nodup_append.2 ⟨d.nodup, List.nodup_singleton _, fun a ha b hb => by
      rw [List.mem_singleton.1 hb]
      rintro rfl
      exact hnew ha⟩

/-- A comment with another body if it has the number. -/
def rewritten (id : Int) (body : Text) (c : Comment) : Comment :=
  if c.id = id then { c with body := body } else c

@[simp] theorem rewritten_id (id : Int) (body : Text) (c : Comment) :
    (rewritten id body c).id = c.id := by
  rw [rewritten]
  split <;> rfl

/-- The discussion with the body of the comment with a number replaced. -/
def replace (d : Discussion) (id : Int) (body : Text) : Discussion where
  comments := d.comments.map (rewritten id body)
  nodup := by
    have hids : (Comment.id ∘ rewritten id body) = Comment.id :=
      funext fun c => rewritten_id id body c
    rw [List.map_map, hids]
    exact d.nodup

@[simp] theorem add_comments (d : Discussion) (c : Comment) (hnew : c.id ∉ d.ids) :
    (d.add c hnew).comments = d.comments ++ [c] := rfl

@[simp] theorem replace_comments (d : Discussion) (id : Int) (body : Text) :
    (d.replace id body).comments = d.comments.map (rewritten id body) := rfl

/-! ### Answers -/

/-- The discussion of a pull request answers a command, and is another one afterwards. -/
inductive Answers (r : PullRequest) : Discussion → Command → Reply → Discussion → Prop where
  | list {d : Discussion} {c : Command} {allowed : Int → Prop} {output : Text}
      {errors : Option Text} :
      c.arguments = r.thread.listCommand.arguments → Comment.Lists allowed d.comments output →
      Answers r d c (.finished 0 output errors) d
  | create {d : Discussion} {c : Command} {allowed allowed' : Int → Prop} {input body output : Text}
      {errors : Option Text} {id : Int} (hnew : id ∉ d.ids) :
      c.arguments =
        (["gh", "api", "--method", "POST", r.thread.endpoint, "--input", "-"] : List Text) →
      c.input = some input →
      Json.Spells allowed input (.object [(Text.ofString "body", .text body)]) →
      Comment.Tells allowed' id output →
      Answers r d c (.finished 0 output errors) (d.add ⟨id, body⟩ hnew)
  | update {d : Discussion} {c : Command} {allowed allowed' : Int → Prop} {input body output : Text}
      {errors : Option Text} {id : Int} : id ∈ d.ids →
      c.arguments =
        (["gh", "api", "--method", "PATCH", r.thread.commentEndpoint id, "--input", "-"] :
          List Text) →
      c.input = some input →
      Json.Spells allowed input (.object [(Text.ofString "body", .text body)]) →
      Comment.Tells allowed' id output →
      Answers r d c (.finished 0 output errors) (d.replace id body)

/-- The discussion of a pull request answers commands one after another. -/
inductive Serves (r : PullRequest) :
    Discussion → List Command → (Nat → Reply) → Discussion → Prop where
  | done {d : Discussion} {reply : Nat → Reply} : Serves r d [] reply d
  | next {d d' d'' : Discussion} {c : Command} {cs : List Command} {reply : Nat → Reply} :
      Answers r d c (reply 0) d' → Serves r d' cs (fun n => reply (n + 1)) d'' →
      Serves r d (c :: cs) reply d''

variable {r : PullRequest} {d d' : Discussion} {reply : Reply}

theorem commentEndpoint_injective {t : Thread} {id id' : Int}
    (h : t.commentEndpoint id = t.commentEndpoint id') : id = id' := by
  simp only [Thread.commentEndpoint, Text.concat, List.flatten_cons, List.flatten_nil,
    List.append_nil] at h
  exact Text.ofInt_injective (List.append_cancel_left (List.append_cancel_left
    (List.append_cancel_left h)))

/-- The three commands are told apart by their third and fourth words. -/
theorem words_ne : Text.ofString "--paginate" ≠ Text.ofString "--method" ∧
    Text.ofString "POST" ≠ Text.ofString "PATCH" := by
  decide

/-- A listing leaves the discussion as it is. -/
theorem Answers.of_list (h : Answers r d r.thread.listCommand reply d') : d' = d ∧
    ∃ allowed output, reply.output? = some output ∧ Comment.Lists allowed d.comments output := by
  cases h with
  | list _ hlists => exact ⟨rfl, _, _, rfl, hlists⟩
  | create _ harguments =>
    simp only [Thread.listCommand, List.cons.injEq] at harguments
    exact absurd harguments.2.2.1 words_ne.1
  | update _ harguments =>
    simp only [Thread.listCommand, List.cons.injEq] at harguments
    exact absurd harguments.2.2.1 words_ne.1

/-- A body is sent with its surrogate pairs made one. -/
theorem spells_payload (body : Text) : Json.Spells (fun _ => False) (Thread.payload body)
    (.object [(Text.ofString "body", .text body.merged)]) :=
  Json.spells_written_text (Text.merged_ofString _) body

/-- What is spelled by a body as it is sent is the body, with its surrogate pairs made one. -/
theorem eq_of_spells_payload {allowed : Int → Prop} {body stored : Text}
    (h : Json.Spells allowed (Thread.payload body)
      (.object [(Text.ofString "body", .text stored)])) : stored = body.merged := by
  have hvalue := h.eq_of_read ((spells_payload body).read_eq_ok fun _ hn => hn.elim)
  simp only [Json.object.injEq, List.cons.injEq, Prod.mk.injEq, Json.text.injEq, true_and,
    and_true] at hvalue
  exact hvalue

/-- A comment is created with the body that is sent. -/
theorem Answers.of_create {body : Text} (h : Answers r d (r.thread.createCommand body) reply d') :
    ∃ id hnew, d' = d.add ⟨id, body.merged⟩ hnew ∧
      ∃ allowed output, reply.output? = some output ∧ Comment.Tells allowed id output := by
  cases h with
  | list harguments =>
    simp only [Thread.listCommand, Thread.createCommand, Thread.sendCommand, List.cons.injEq]
      at harguments
    exact absurd harguments.2.2.1.symm words_ne.1
  | create hnew _ hinput hspells htells =>
    obtain rfl := Option.some.inj hinput
    obtain rfl := eq_of_spells_payload hspells
    exact ⟨_, hnew, rfl, _, _, rfl, htells⟩
  | update _ harguments =>
    simp only [Thread.createCommand, Thread.sendCommand, List.cons.injEq] at harguments
    exact absurd harguments.2.2.2.1 words_ne.2

/-- The comment with the number has the body that is sent. -/
theorem Answers.of_update {id : Int} {body : Text}
    (h : Answers r d (r.thread.updateCommand id body) reply d') :
    d' = d.replace id body.merged := by
  cases h with
  | list harguments =>
    simp only [Thread.listCommand, Thread.updateCommand, Thread.sendCommand, List.cons.injEq]
      at harguments
    exact absurd harguments.2.2.1.symm words_ne.1
  | create _ harguments =>
    simp only [Thread.updateCommand, Thread.sendCommand, List.cons.injEq] at harguments
    exact absurd harguments.2.2.2.1.symm words_ne.2
  | update _ harguments hinput hspells =>
    simp only [Thread.updateCommand, Thread.sendCommand, List.cons.injEq] at harguments
    obtain rfl := commentEndpoint_injective harguments.2.2.2.2.1
    obtain rfl := Option.some.inj hinput
    obtain rfl := eq_of_spells_payload hspells
    rfl

end Discussion

/-! ### Reviews -/

/-- A review to be made: the root of the checkout, the settings, the changed paths, and the
surroundings with the replies to come. -/
structure Visit where
  root : Text
  settings : Settings
  paths : ChangedPaths
  surroundings : Surroundings

namespace Visit

/-- The token by which the review knows its own comment. -/
def token (v : Visit) : Text := v.settings.comment.searchToken

/-- What comes of the review of a pull request. -/
def outcome (v : Visit) (r : PullRequest) : Except Failure Outcome × Surroundings :=
  (Review.run v.root v.settings (some r) v.paths).outcome v.surroundings

/-- The digests of the files that the review scans. -/
def digests (v : Visit) : Except Failure (List Digest) :=
  Review.digestsOf v.root v.settings v.paths v.surroundings.files

end Visit

/-- The body of a review as a discussion keeps it. -/
def Outcome.kept (o : Outcome) : Text := o.body.merged

theorem Outcome.kept_of_scalar {o : Outcome} (h : o.body.Scalar) : o.kept = o.body :=
  Text.merged_of_scalar h

namespace Discussion

variable {r : PullRequest} {before after : Discussion} {v : Visit} {o : Outcome}

/-- A review of a discussion succeeds, with an outcome. -/
def Reviewed (r : PullRequest) (before : Discussion) (v : Visit) (o : Outcome)
    (after : Discussion) : Prop :=
  (v.outcome r).1 = .ok o ∧ ∃ calls, (v.outcome r).2.commands = v.surroundings.commands ++ calls ∧
    Serves r before calls v.surroundings.reply after

/-- What a review does to a discussion: the first comment with the token gets the body, or a comment
with the body is added if no comment has the token. -/
def Kept (token : Text) (before : Discussion) (o : Outcome) (after : Discussion) : Prop :=
  (∃ c, Comment.IsFirst token before.comments c ∧ o.sync = some ⟨.updated, c.id⟩ ∧
    after = before.replace c.id o.kept) ∨
  ((∀ c ∈ before.comments, ¬ token <:+: c.body) ∧ ∃ id hnew, o.sync = some ⟨.created, id⟩ ∧
    after = before.add ⟨id, o.kept⟩ hnew)

/-- **A review that succeeds keeps its body in one comment.** -/
theorem Reviewed.step (h : Reviewed r before v o after) :
    v.digests = .ok o.digests ∧ o.body = Review.body v.settings.comment o.digests ∧
      Kept v.token before o after := by
  obtain ⟨hok, calls, hcommands, hserves⟩ := h
  obtain ⟨calls', notes, hcourse, hafter⟩ :=
    Review.course_run v.root v.settings (some r) v.paths v.surroundings
  have hcalls : calls' = calls := by
    rw [Visit.outcome, hafter, Surroundings.noting_commands, Surroundings.foldl_gave_commands]
      at hcommands
    exact List.append_cancel_left hcommands
  subst hcalls
  obtain ⟨r', output, comments, write, answer, answered, hr, hlisted, hread, hanswer, hanswered,
    rfl, hdigests, hbodyeq, hsync⟩ := hcourse.writesOnce.returns o hok
  obtain rfl := Option.some.inj hr
  refine ⟨hdigests, hbodyeq, ?_⟩
  -- the listing tells the comments of the discussion
  cases hserves with
  | next hfirst hrest =>
    obtain ⟨rfl, allowed, output', hlisted', hlists⟩ := hfirst.of_list
    obtain rfl := Option.some.inj (hlisted.symm.trans hlisted')
    obtain rfl := hlists.eq_of_ofListing hread
    cases hrest with
    | next hwrite hdone =>
      cases hdone
      rcases hsync with ⟨c, hc, rfl, hsync⟩ | ⟨hnone, rfl, hsync⟩
      · exact Or.inl ⟨c, hc, hsync, hwrite.of_update⟩
      · obtain ⟨id, hnew, hafter, allowed', output', hanswer', htells⟩ := hwrite.of_create
        obtain rfl := Option.some.inj (hanswer.symm.trans hanswer')
        rw [htells.id_eq hanswered] at hsync
        exact Or.inr ⟨hnone, id, hnew, hsync, hafter⟩

/-! ### Reviews that succeed -/

/-- The numbers and bodies can be told in a listing and read from it. -/
def Tellable (d : Discussion) : Prop :=
  ∀ c ∈ d.comments, c.body.merged = c.body ∧ ¬ Json.TooLong c.id

instance (d : Discussion) : Decidable d.Tellable :=
  inferInstanceAs (Decidable (∀ c ∈ d.comments, _))

/-- The replies to come are a listing of the discussion and an answer about the comment with a
number. -/
structure Answered (before : Discussion) (id : Int) (reply : Nat → Reply) : Prop where
  listing : reply 0 = .finished 0 (Comment.listing before.comments) none
  answer : reply 1 = .finished 0 (Comment.line ⟨id, []⟩) none
  tellable : before.Tellable
  short : ¬ Json.TooLong id

/-- A review to be made that gets these replies. -/
def visit (d : Discussion) (id : Int) (root : Text) (settings : Settings) (paths : ChangedPaths)
    (files : Files) : Visit where
  root := root
  settings := settings
  paths := paths
  surroundings :=
    { files := files
      replies := [.finished 0 (Comment.listing d.comments) none,
        .finished 0 (Comment.line ⟨id, []⟩) none] }

theorem answered_visit {d : Discussion} {id : Int} (htellable : d.Tellable)
    (hid : ¬ Json.TooLong id) (root : Text) (settings : Settings) (paths : ChangedPaths)
    (files : Files) :
    Answered d id (d.visit id root settings paths files).surroundings.reply :=
  ⟨rfl, rfl, htellable, hid⟩

theorem ofText_line {c : Comment} (hbody : c.body.merged = c.body) (hid : ¬ Json.TooLong c.id) :
    Comment.ofText c.line = .ok c := by
  rcases (Comment.isLine_line (¬ Json.TooLong ·) hbody hid).ofText_eq with h | ⟨_, _, hn, hlong, _⟩
  · exact h
  · exact absurd hlong hn

theorem ofListing_listing {comments : List Comment}
    (h : ∀ c ∈ comments, c.body.merged = c.body ∧ ¬ Json.TooLong c.id) :
    Comment.ofListing (Comment.listing comments) = .ok comments := by
  rcases (Comment.lists_listing (¬ Json.TooLong ·) h).ofListing_eq with h | ⟨_, _, hn, hlong, _⟩
  · exact h
  · exact absurd hlong hn

variable {id : Int} {ds : List Digest}

/-- The run of a review that is answered: the listing and the write of its body. -/
theorem Answered.outcome_eq (h : Answered before id v.surroundings.reply)
    (hds : v.digests = .ok ds) :
    (v.outcome r).2.commands = v.surroundings.commands ++ [r.thread.listCommand,
        r.thread.writeCommand (Review.body v.settings.comment ds) before.comments v.token] ∧
      (v.outcome r).1 = (r.thread.synced (Review.body v.settings.comment ds) before.comments v.token
        (v.surroundings.reply 1)).map fun done =>
          ⟨Review.body v.settings.comment ds, ds, some done⟩ := by
  obtain ⟨calls, notes, hcourse, hafter⟩ :=
    Review.course_run v.root v.settings (some r) v.paths v.surroundings
  have hlisted : r.thread.listed (v.surroundings.reply 0) = .ok before.comments :=
    Thread.listed_eq_ok_iff.2 ⟨_, by rw [h.listing]; rfl, ofListing_listing h.tellable⟩
  obtain ⟨hcalls, hresult⟩ := hcourse.eq_written hlisted hds
  refine ⟨?_, hresult⟩
  rw [Visit.outcome, hafter, Surroundings.noting_commands, Surroundings.foldl_gave_commands, hcalls]
  rfl

theorem Answered.answers_list (h : Answered before id v.surroundings.reply) :
    Answers r before r.thread.listCommand (v.surroundings.reply 0) before := by
  rw [h.listing]
  exact .list rfl (Comment.lists_listing (¬ Json.TooLong ·) h.tellable)

theorem Answered.output?_eq (h : Answered before id v.surroundings.reply) :
    (v.surroundings.reply 1).output? = some (Comment.line ⟨id, []⟩) := by
  rw [h.answer]
  rfl

theorem Answered.ofText_eq (h : Answered before id v.surroundings.reply) :
    Comment.ofText (Comment.line ⟨id, []⟩) = .ok ⟨id, []⟩ :=
  ofText_line rfl h.short

variable {body : Text}

/-- A review that finds no comment with its token creates one. -/
theorem reviewed_create (h : Answered before id v.surroundings.reply) (hds : v.digests = .ok ds)
    (hbody : Review.body v.settings.comment ds = body) (hmerged : body.merged = body)
    (hnone : ∀ c ∈ before.comments, ¬ v.token <:+: c.body) (hnew : id ∉ before.ids) :
    Reviewed r before v ⟨body, ds, some ⟨.created, id⟩⟩ (before.add ⟨id, body⟩ hnew) := by
  subst hbody
  obtain ⟨hcommands, hresult⟩ := h.outcome_eq (r := r) hds
  refine ⟨?_, _, hcommands, .next h.answers_list (.next ?_ .done)⟩
  · rw [hresult, (Thread.synced_of_unmarked hnone).2 ⟨_, _, h.output?_eq, h.ofText_eq, rfl⟩]
    rfl
  · rw [Thread.writeCommand_of_unmarked hnone, h.answer]
    have hspells := spells_payload (Review.body v.settings.comment ds)
    rw [hmerged] at hspells
    exact .create hnew rfl rfl hspells
      (Comment.tells_line (fun _ => True) (c := ⟨id, []⟩) rfl trivial)

/-- A review that finds a comment with its token updates the first of them. -/
theorem reviewed_update {c : Comment} (hc : Comment.IsFirst v.token before.comments c)
    (h : Answered before c.id v.surroundings.reply) (hds : v.digests = .ok ds)
    (hbody : Review.body v.settings.comment ds = body) (hmerged : body.merged = body) :
    Reviewed r before v ⟨body, ds, some ⟨.updated, c.id⟩⟩ (before.replace c.id body) := by
  subst hbody
  obtain ⟨hcommands, hresult⟩ := h.outcome_eq (r := r) hds
  have hmem : c.id ∈ before.ids := by
    obtain ⟨front, back, hcomments, _⟩ := hc
    rw [ids, hcomments]
    exact List.mem_map_of_mem (List.mem_append_right _ List.mem_cons_self)
  refine ⟨?_, _, hcommands, .next h.answers_list (.next ?_ .done)⟩
  · rw [hresult, (Thread.synced_of_isFirst hc).2 ⟨rfl, _, _, h.output?_eq, h.ofText_eq⟩]
    rfl
  · rw [Thread.writeCommand_of_isFirst hc, h.answer]
    have hspells := spells_payload (Review.body v.settings.comment ds)
    rw [hmerged] at hspells
    exact .update hmem rfl rfl hspells
      (Comment.tells_line (fun _ => True) (c := ⟨c.id, []⟩) rfl trivial)

end Discussion

end PullNotes
