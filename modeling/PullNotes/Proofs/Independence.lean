import PullNotes.Proofs.OwnComment

/-!
# What a review writes comes from the checkout

A dry run asks nobody, and a review of a pull request asks for the comments before it looks at the
files.  Still both have the same digests, the same body and the same failures: the comments decide
which comment keeps the body, never what the body is.

* `Surroundings.ListsComments`, `Surroundings.ConfirmsWrite` : replies that the review goes on with.
* `Review.Follows` : a review of a pull request does what a dry run says.
* `Review.Course.follows` : it does so on each of its courses.
* `Review.run_follows_dryRun` : the dry run of the same files says it, and two reviews of the same
  files write the same.
-/

namespace PullNotes

namespace Surroundings

/-- The reply to the first command is a listing of comments. -/
def ListsComments (s : Surroundings) : Prop :=
  ∃ output comments, (s.reply 0).output? = some output ∧ Comment.ofListing output = .ok comments

/-- The reply to the second command is an answer about a comment. -/
def ConfirmsWrite (s : Surroundings) : Prop :=
  ∃ output answered, (s.reply 1).output? = some output ∧ Comment.ofText output = .ok answered

end Surroundings

namespace Thread

/-- A write that is answered keeps the body, in a comment that exists or in a new one. -/
theorem exists_synced (t : Thread) (body : Text) (comments : List Comment) (token : Text)
    {s : Surroundings} (h : s.ConfirmsWrite) :
    ∃ done, t.synced body comments token (s.reply 1) = .ok done := by
  obtain ⟨output, answered, hreply, hread⟩ := h
  cases hmarked : Comment.marked? token comments with
  | some c =>
    have hc := Comment.marked?_eq_some_iff.1 hmarked
    exact ⟨_, (synced_of_isFirst hc).2 ⟨rfl, output, answered, hreply, hread⟩⟩
  | none =>
    have hc := Comment.marked?_eq_none_iff.1 hmarked
    exact ⟨_, (synced_of_unmarked hc).2 ⟨output, answered, hreply, hread, rfl⟩⟩

end Thread

namespace Review

variable {root : Text} {settings : Settings} {paths : ChangedPaths}

/-- A review of a pull request, by its commands and what comes of it, does what a dry run says. -/
structure Follows (r : PullRequest) (s : Surroundings) (dry : Except Failure Outcome)
    (calls : List Command) (result : Except Failure Outcome) : Prop where
  /-- The body of the dry run is written, and it is returned with the digests of the dry run if the
  write is answered. -/
  writes : ∀ o, dry = .ok o → ∃ write, calls = [r.thread.listCommand, write] ∧
    write.input = some (Thread.payload o.body) ∧
    (s.ConfirmsWrite → ∃ done, result = .ok { o with sync := some done })
  /-- A failure of the dry run comes after the listing, and nothing is written. -/
  fails : ∀ e, dry = .error e → calls = [r.thread.listCommand] ∧ result = .error e

/-- What comes of a dry run, by the files. -/
theorem dryRun_outcome (s : Surroundings) : ((dryRun root settings paths).outcome s).1 =
    (digestsOf root settings paths s.files).map fun ds =>
      { body := body settings.comment ds, digests := ds } := by
  obtain ⟨notes, h⟩ := reads_dryRun root settings paths s
  rw [h]

/-- Once the comments are listed, every course does what the dry run of the files says. -/
theorem Course.follows {r : PullRequest} {s s₀ : Surroundings} {calls : List Command}
    {result : Except Failure Outcome}
    (h : Course root settings (some r) paths s.files s.reply calls result)
    (hfiles : s.files = s₀.files) (hlists : s.ListsComments) :
    Follows r s ((dryRun root settings paths).outcome s₀).1 calls result := by
  rw [dryRun_outcome, ← hfiles]
  cases h with
  | unasked hrequest => cases hrequest
  | unlisted hrequest herror =>
    obtain rfl := Option.some.inj hrequest
    obtain ⟨output, comments, hreply, hread⟩ := hlists
    rw [Thread.listed_eq_ok_iff.2 ⟨output, hreply, hread⟩] at herror
    cases herror
  | @unread _ _ e hrequest _ hdigests =>
    obtain rfl := Option.some.inj hrequest
    rw [hdigests]
    refine ⟨nofun, fun e' he' => ?_⟩
    obtain rfl : e = e' := by simpa [Except.map] using he'
    exact ⟨rfl, rfl⟩
  | @written _ comments ds hrequest _ hdigests =>
    obtain rfl := Option.some.inj hrequest
    rw [hdigests]
    refine ⟨fun o ho => ?_, nofun⟩
    obtain rfl : _ = o := by simpa [Except.map] using ho
    have hkeeps := r.thread.keeps_writeCommand settings.comment.searchToken comments
      (body settings.comment ds)
    refine ⟨_, rfl, hkeeps.input_eq, fun hconfirms => ?_⟩
    obtain ⟨done, hdone⟩ := r.thread.exists_synced (body settings.comment ds) comments
      settings.comment.searchToken hconfirms
    exact ⟨done, by rw [hdone]; rfl⟩

/-- What a course writes, if it writes, is the body about the files. -/
theorem Course.input_eq {request : Option PullRequest} {files : Files} {reply : Nat → Reply}
    {calls : List Command} {result : Except Failure Outcome} {list write : Command}
    (h : Course root settings request paths files reply calls result)
    (hcalls : calls = [list, write]) : ∃ ds, digestsOf root settings paths files = .ok ds ∧
      write.input = some (Thread.payload (body settings.comment ds)) := by
  cases h with
  | unasked _ => cases hcalls
  | unlisted _ _ => simp at hcalls
  | unread _ _ _ => simp at hcalls
  | @written r comments ds _ _ hdigests =>
    obtain ⟨-, rfl⟩ : _ = list ∧ _ = write := by simpa using hcalls
    exact ⟨ds, hdigests, (r.thread.keeps_writeCommand _ comments _).input_eq⟩

/-- **What a review writes does not depend on the discussion.**  A review of any pull request, with
any comments, does what the dry run of the same files says; so two reviews of the same files write
the same, whatever they are told. -/
theorem run_follows_dryRun (root : Text) (settings : Settings) (paths : ChangedPaths)
    (s₀ : Surroundings) :
    (∀ (r : PullRequest) (s : Surroundings), s.files = s₀.files → s.ListsComments → ∃ calls,
      ((run root settings (some r) paths).outcome s).2.commands = s.commands ++ calls ∧
      Follows r s ((dryRun root settings paths).outcome s₀).1 calls
        ((run root settings (some r) paths).outcome s).1) ∧
    ∀ (r r' : PullRequest) (s s' : Surroundings) (list write list' write' : Command),
      s.files = s₀.files → s'.files = s₀.files →
      ((run root settings (some r) paths).outcome s).2.commands = s.commands ++ [list, write] →
      ((run root settings (some r') paths).outcome s').2.commands =
        s'.commands ++ [list', write'] →
      ∃ body, write.input = some (Thread.payload body) ∧
        write'.input = some (Thread.payload body) := by
  have hcommands : ∀ (r : PullRequest) (s : Surroundings), ∃ calls,
      ((run root settings (some r) paths).outcome s).2.commands = s.commands ++ calls ∧
      Course root settings (some r) paths s.files s.reply calls
        ((run root settings (some r) paths).outcome s).1 := by
    intro r s
    obtain ⟨calls, notes, hcourse, hafter⟩ := course_run root settings (some r) paths s
    refine ⟨calls, ?_, hcourse⟩
    rw [hafter, Surroundings.noting_commands, Surroundings.foldl_gave_commands]
  constructor
  · intro r s hfiles hlists
    obtain ⟨calls, hcalls, hcourse⟩ := hcommands r s
    exact ⟨calls, hcalls, hcourse.follows hfiles hlists⟩
  · intro r r' s s' list write list' write' hfiles hfiles' hwrites hwrites'
    obtain ⟨calls, hcalls, hcourse⟩ := hcommands r s
    obtain ⟨calls', hcalls', hcourse'⟩ := hcommands r' s'
    obtain ⟨ds, hds, hinput⟩ :=
      hcourse.input_eq (List.append_cancel_left (hcalls.symm.trans hwrites))
    obtain ⟨ds', hds', hinput'⟩ :=
      hcourse'.input_eq (List.append_cancel_left (hcalls'.symm.trans hwrites'))
    rw [hfiles] at hds
    rw [hfiles'] at hds'
    obtain rfl := Except.ok.inj (hds.symm.trans hds')
    exact ⟨_, hinput, hinput'⟩

end Review

/-! ### An instance

The review of a file in two discussions, one of which has a comment with the token, and the review
of a file that is not there. -/

namespace Discussion

variable {before : Discussion} {id : Int} {s : Surroundings}

theorem Answered.listsComments (h : Answered before id s.reply) : s.ListsComments :=
  ⟨_, before.comments, by rw [h.listing]; rfl, ofListing_listing h.tellable⟩

theorem Answered.confirmsWrite (h : Answered before id s.reply) : s.ConfirmsWrite :=
  ⟨_, ⟨id, []⟩, by rw [h.answer]; rfl, ofText_line rfl h.short⟩

/-- The surroundings of a dry run. -/
def sampleDry : Surroundings := { files := sampleFiles }

/-- Another pull request. -/
def otherRequest : PullRequest := ⟨"acme", "lib", 7⟩

/-- The paths of the file. -/
def samplePaths : ChangedPaths := { modified := ["dev/a.js"] }

/-- The review of the same file, where a comment has the token. -/
def sampleAgain : Visit :=
  sampleRemarked.visit 8 "/w" sampleSettings samplePaths sampleFiles

/-- The paths of a file that is not there. -/
def missingPaths : ChangedPaths := { created := ["dev/b.js"] }

theorem dryRun_sample :
    ((Review.dryRun "/w" sampleSettings samplePaths).outcome sampleDry).1 =
      .ok ⟨sampleFirstBody, [sampleDigest], none⟩ := by
  have hdigests := digests_sample sampleSettings.comment
  have hbody : Review.body sampleSettings.comment [sampleDigest] = sampleFirstBody := by
    decide +kernel
  rw [Review.dryRun_outcome]
  have hfiles : Review.digestsOf "/w" sampleSettings samplePaths sampleDry.files =
    .ok [sampleDigest] := hdigests
  rw [hfiles]
  simp only [Except.map, hbody]

theorem dryRun_missing : ((Review.dryRun "/w" sampleSettings missingPaths).outcome sampleDry).1 =
    .error (.file (.notFound "/w/dev/b.js")) := by
  rw [Review.dryRun_outcome]
  rfl

/-- The body is the same in both discussions, and a missing file is reported after the listing. -/
theorem run_follows_dryRun_sample :
    (sampleFirst.surroundings.ListsComments ∧ sampleFirst.surroundings.ConfirmsWrite) ∧
    (∃ list write done,
      ((Review.run "/w" sampleSettings (some sampleRequest) samplePaths).outcome
        sampleFirst.surroundings).2.commands = [list, write] ∧
      write.input = some (Thread.payload sampleFirstBody) ∧
      ((Review.run "/w" sampleSettings (some sampleRequest) samplePaths).outcome
        sampleFirst.surroundings).1 = .ok ⟨sampleFirstBody, [sampleDigest], some done⟩ ∧
      ∃ list' write' body,
        ((Review.run "/w" sampleSettings (some otherRequest) samplePaths).outcome
          sampleAgain.surroundings).2.commands = [list', write'] ∧
        write.input = some (Thread.payload body) ∧
        write'.input = some (Thread.payload body)) ∧
    ∃ list, ((Review.run "/w" sampleSettings (some sampleRequest) missingPaths).outcome
        sampleFirst.surroundings).2.commands = [list] ∧
      ((Review.run "/w" sampleSettings (some sampleRequest) missingPaths).outcome
        sampleFirst.surroundings).1 = .error (.file (.notFound "/w/dev/b.js")) := by
  have hfirst : Answered sampleOpened 8 sampleFirst.surroundings.reply :=
    answered_visit (by decide +kernel) (by decide +kernel) _ _ _ _
  have hagain : Answered sampleRemarked 8 sampleAgain.surroundings.reply :=
    answered_visit (by decide +kernel) (by decide +kernel) _ _ _ _
  have hfiles : sampleFirst.surroundings.files = sampleDry.files := rfl
  have hfiles' : sampleAgain.surroundings.files = sampleDry.files := rfl
  have hnone : sampleFirst.surroundings.commands = [] := rfl
  have hnone' : sampleAgain.surroundings.commands = [] := rfl
  obtain ⟨hruns, hsame⟩ := Review.run_follows_dryRun "/w" sampleSettings samplePaths sampleDry
  obtain ⟨calls, hcalls, hfollows⟩ :=
    hruns sampleRequest sampleFirst.surroundings hfiles hfirst.listsComments
  obtain ⟨calls', hcalls', hfollows'⟩ :=
    hruns otherRequest sampleAgain.surroundings hfiles' hagain.listsComments
  obtain ⟨write, rfl, hinput, hresult⟩ := hfollows.writes _ dryRun_sample
  obtain ⟨write', rfl, _⟩ := hfollows'.writes _ dryRun_sample
  obtain ⟨done, hdone⟩ := hresult hfirst.confirmsWrite
  obtain ⟨body, hbody, hbody'⟩ := hsame _ _ _ _ _ _ _ _ hfiles hfiles' hcalls hcalls'
  obtain ⟨missing, hmissing, hunwritten⟩ :=
    (Review.run_follows_dryRun "/w" sampleSettings missingPaths sampleDry).1 sampleRequest
      sampleFirst.surroundings hfiles hfirst.listsComments
  obtain ⟨rfl, herror⟩ := hunwritten.fails _ dryRun_missing
  rw [hnone, List.nil_append] at hcalls hmissing
  rw [hnone', List.nil_append] at hcalls'
  exact ⟨⟨hfirst.listsComments, hfirst.confirmsWrite⟩,
    ⟨_, write, done, hcalls, hinput, hdone, _, write', body, hcalls', hbody, hbody'⟩,
    _, hmissing, herror⟩

end Discussion

end PullNotes
