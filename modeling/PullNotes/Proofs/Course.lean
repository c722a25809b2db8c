import PullNotes.Proofs.Marks
import PullNotes.Proofs.Runs

/-!
# The course of a review

The parts of a review either read the files or ask for one thing.  What comes of a part is therefore
a function: of the files for a digest and for the body of the comment, of one reply for a listing
and for a write.  Put together, a review without a pull request does nothing, and any other lists
the comments, composes the body, and writes it, in this order and up to the first part that fails.

* `Review.reads_compose`, `Review.reads_dryRun` : the body comes from the files alone.
* `Thread.asks_list`, `Thread.asks_sync` : a listing and a write are one command each.
* `Review.course_run` : the four courses that a review may take.
* `Review.run_commands` : the commands of a review are none, the listing, or the listing and one
  write, and which of them it is.
-/

namespace PullNotes

open Run (Reads Asks)

/-- The thread of a pull request. -/
def PullRequest.thread (r : PullRequest) : Thread := { request := r }

/-! ### The parts of a thread -/

namespace Thread

/-- The output that a reply to a command for a place has, which has to be a success. -/
def answer (c : Command) (place : Text) : Reply → Except Failure Text
  | .timedOut => .error (.remote (.timedOut c.seconds))
  | .notInstalled => .error (.remote .notInstalled)
  | .finished status output errors =>
    if status = 0 then .ok output
    else .error (.remote (.refused place (errors.getD []).trim status))

/-- The comments that a reply lists. -/
def listed (t : Thread) (reply : Reply) : Except Failure (List Comment) :=
  answer t.listCommand t.endpoint reply >>= Comment.ofListing

/-- The command that keeps a body in one of some comments: the one that carries a token, or a new
one. -/
def writeCommand (t : Thread) (body : Text) (comments : List Comment) (token : Text) : Command :=
  match Comment.marked? token comments with
  | some existing => t.updateCommand existing.id body
  | none => t.createCommand body

/-- What is done by keeping a body, by the reply to the write. -/
def synced (t : Thread) (body : Text) (comments : List Comment) (token : Text) (reply : Reply) :
    Except Failure SyncResult :=
  match Comment.marked? token comments with
  | some existing => do
    let _ ← answer (t.updateCommand existing.id body) (t.commentEndpoint existing.id) reply >>=
      Comment.ofText
    .ok ⟨.updated, existing.id⟩
  | none => do
    let created ← answer (t.createCommand body) t.endpoint reply >>= Comment.ofText
    .ok ⟨.created, created.id⟩

theorem answer_eq_ok_iff (c : Command) (place output : Text) (reply : Reply) :
    answer c place reply = .ok output ↔ reply.output? = some output := by
  cases reply with
  | finished status text errors =>
    simp only [answer, Reply.output?]
    by_cases h : status = 0
    · simp only [h, if_true, Except.ok.injEq, Option.some.injEq]
    · simp only [h, if_false, reduceCtorEq]
  | timedOut => simp only [answer, Reply.output?, reduceCtorEq]
  | notInstalled => simp only [answer, Reply.output?, reduceCtorEq]

theorem answer_bind_eq_ok_iff {α : Type} {c : Command} {place : Text} {reply : Reply}
    {k : Text → Except Failure α} {a : α} :
    (answer c place reply >>= k) = .ok a ↔
      ∃ output, reply.output? = some output ∧ k output = .ok a := by
  simp only [Except.bind_eq_ok_iff, answer_eq_ok_iff]

theorem listed_eq_ok_iff {t : Thread} {reply : Reply} {comments : List Comment} :
    t.listed reply = .ok comments ↔
      ∃ output, reply.output? = some output ∧ Comment.ofListing output = .ok comments :=
  answer_bind_eq_ok_iff

theorem synced_of_isFirst {t : Thread} {body token : Text} {comments : List Comment} {c : Comment}
    {reply : Reply} {done : SyncResult} (hc : Comment.IsFirst token comments c) :
    t.synced body comments token reply = .ok done ↔ done = ⟨.updated, c.id⟩ ∧
      ∃ output answered, reply.output? = some output ∧ Comment.ofText output = .ok answered := by
  simp only [synced, Comment.marked?_eq_some_iff.2 hc, Except.bind_eq_ok_iff,
    answer_eq_ok_iff, Except.ok.injEq]
  constructor
  · rintro ⟨answered, ⟨output, hreply, hread⟩, rfl⟩
    exact ⟨rfl, output, answered, hreply, hread⟩
  · rintro ⟨rfl, output, answered, hreply, hread⟩
    exact ⟨answered, ⟨output, hreply, hread⟩, rfl⟩

theorem synced_of_unmarked {t : Thread} {body token : Text} {comments : List Comment}
    {reply : Reply} {done : SyncResult} (hc : ∀ c ∈ comments, ¬ token <:+: c.body) :
    t.synced body comments token reply = .ok done ↔ ∃ output created, reply.output? = some output ∧
      Comment.ofText output = .ok created ∧ done = ⟨.created, created.id⟩ := by
  simp only [synced, Comment.marked?_eq_none_iff.2 hc, Except.bind_eq_ok_iff,
    answer_eq_ok_iff, Except.ok.injEq]
  constructor
  · rintro ⟨created, ⟨output, hreply, hread⟩, rfl⟩
    exact ⟨output, created, hreply, hread, rfl⟩
  · rintro ⟨output, created, hreply, hread, rfl⟩
    exact ⟨created, ⟨output, hreply, hread⟩, rfl⟩

theorem writeCommand_of_isFirst {t : Thread} {body token : Text} {comments : List Comment}
    {c : Comment} (hc : Comment.IsFirst token comments c) :
    t.writeCommand body comments token = t.updateCommand c.id body := by
  simp only [writeCommand, Comment.marked?_eq_some_iff.2 hc]

theorem writeCommand_of_unmarked {t : Thread} {body token : Text} {comments : List Comment}
    (hc : ∀ c ∈ comments, ¬ token <:+: c.body) :
    t.writeCommand body comments token = t.createCommand body := by
  simp only [writeCommand, Comment.marked?_eq_none_iff.2 hc]

/-- The command keeps a body: it replaces that of the first comment with a token, or creates a
comment if no comment has the token. -/
def Keeps (t : Thread) (token : Text) (comments : List Comment) (body : Text) (write : Command) :
    Prop :=
  (∃ c, Comment.IsFirst token comments c ∧ write = t.updateCommand c.id body) ∨
    ((∀ c ∈ comments, ¬ token <:+: c.body) ∧ write = t.createCommand body)

theorem keeps_writeCommand (t : Thread) (token : Text) (comments : List Comment) (body : Text) :
    t.Keeps token comments body (t.writeCommand body comments token) := by
  cases h : Comment.marked? token comments with
  | some c =>
    have hc := Comment.marked?_eq_some_iff.1 h
    exact Or.inl ⟨c, hc, writeCommand_of_isFirst hc⟩
  | none =>
    have hc := Comment.marked?_eq_none_iff.1 h
    exact Or.inr ⟨hc, writeCommand_of_unmarked hc⟩

theorem Keeps.input_eq {t : Thread} {token : Text} {comments : List Comment} {body : Text}
    {write : Command} (h : t.Keeps token comments body write) :
    write.input = some (payload body) := by
  rcases h with ⟨c, _, rfl⟩ | ⟨_, rfl⟩ <;> rfl

theorem asks_ask (c : Command) (place : Text) : Asks (ask c place) c (answer c place) := by
  intro s
  cases h : s.reply 0 with
  | finished status output errors =>
    refine ⟨s.notes, ?_⟩
    rw [ask, Run.outcome_bind_ok (Run.outcome_command c s), h]
    by_cases hs : status = 0
    · simp only [answer, hs, if_true]
      rfl
    · simp only [answer, hs, if_false]
      rfl
  | timedOut =>
    exact ⟨s.notes, by rw [ask, Run.outcome_bind_ok (Run.outcome_command c s), h]; rfl⟩
  | notInstalled =>
    exact ⟨s.notes, by rw [ask, Run.outcome_bind_ok (Run.outcome_command c s), h]; rfl⟩

theorem asks_list (t : Thread) : Asks t.list t.listCommand t.listed := by
  have hnext : ∀ output : Text, Reads (do
      let comments ← Run.ofExcept id (Comment.ofListing output)
      Run.note .debug topic (.concat ["Found ", .ofNat comments.length, " existing comment(s) on ",
        t.request.fullName, "#", .ofInt t.request.number])
      return comments) fun _ => Comment.ofListing output := by
    intro output
    refine ((Run.reads_ofFailing (Comment.ofListing output)).bind fun comments =>
      (Run.reads_note _ _ _).bind fun _ => Run.reads_pure comments).congr fun _ => ?_
    cases Comment.ofListing output <;> rfl
  exact (asks_ask _ _).bind hnext

theorem asks_create (t : Thread) (body : Text) :
    Asks (t.create body) (t.createCommand body) fun reply =>
      answer (t.createCommand body) t.endpoint reply >>= Comment.ofText :=
  (asks_ask _ _).bind fun output => Run.reads_ofFailing (Comment.ofText output)

theorem asks_update (t : Thread) (id : Int) (body : Text) :
    Asks (t.update id body) (t.updateCommand id body) fun reply =>
      answer (t.updateCommand id body) (t.commentEndpoint id) reply >>= Comment.ofText :=
  (asks_ask _ _).bind fun output => Run.reads_ofFailing (Comment.ofText output)

theorem asks_sync (t : Thread) (body : Text) (comments : List Comment) (token : Text) :
    Asks (t.sync body comments token) (t.writeCommand body comments token)
      (t.synced body comments token) := by
  have hdone : ∀ (done : String) (result : SyncResult), Reads (do
      t.noteDone done result.commentId
      return result) fun _ => .ok result :=
    fun done result => (Run.reads_note _ _ _).bind fun _ => Run.reads_pure result
  unfold sync writeCommand synced
  cases Comment.marked? token comments with
  | some existing =>
    exact (asks_update t existing.id body).bind fun _ => hdone "Updated" ⟨.updated, existing.id⟩
  | none => exact (asks_create t body).bind fun created => hdone "Created" ⟨.created, created.id⟩

end Thread

/-! ### The parts of a review -/

namespace Digest

theorem reads_ofNamedSource (source filePath : Text) (strict : Bool) :
    Reads (ofNamedSource source filePath strict) fun _ =>
      (ofSource source filePath none strict).mapError .source := by
  refine (@Reads.bind _ _ _ _ _
    (fun d _ => (ofDocument d filePath (languageFor none filePath)).mapError .source)
    (Run.reads_ofExcept _ _) fun d => ?_).congr fun _ => ?_
  · cases d.remark? with
    | none => exact Run.reads_ofExcept _ _
    | some remark =>
      exact (Run.reads_note .debug topic remark).bind fun _ => Run.reads_ofExcept _ _
  · rw [ofSource_eq]
    cases Document.ofSource (languageFor none filePath) strict source <;> rfl

end Digest

namespace Review

/-- The digest that a changed file of a checkout has, by the files. -/
def digestOf (root : Text) (settings : Settings) (files : Files) (path : Text) :
    Except Failure Digest := do
  let bytes ← (files.read (Path.plain (Path.append root path))).mapError .file
  let source ← (Encoding.readFile settings.scan.encoding bytes).mapError .coding
  (Digest.ofSource source path none settings.scan.strictParse).mapError .source

/-- The digests of the changed files that are to be scanned, by the files. -/
def digestsOf (root : Text) (settings : Settings) (paths : ChangedPaths) (files : Files) :
    Except Failure (List Digest) :=
  (paths.matching settings.scan.pathFilter).mapM (digestOf root settings files)

theorem reads_digest (root : Text) (settings : Settings) (path : Text) :
    Reads (digest root settings path) fun files => digestOf root settings files path := by
  have h : Reads (digest root settings path) _ :=
    ((Run.reads_readText settings.scan.encoding (Path.plain (Path.append root path))).bind
      fun source =>
      Digest.reads_ofNamedSource source path settings.scan.strictParse).bind fun d =>
      (Run.reads_note .debug topic (remark path d)).bind fun _ => Run.reads_pure d
  refine h.congr fun files => ?_
  rw [digestOf, bind_assoc, bind_assoc]
  refine congrArg _ (funext fun bytes => congrArg _ (funext fun source => ?_))
  cases (Digest.ofSource source path none settings.scan.strictParse).mapError Failure.source <;> rfl

theorem reads_digests (root : Text) (settings : Settings) (paths : List Text) :
    Reads (digests root settings paths) fun files => paths.mapM (digestOf root settings files) := by
  induction paths with
  | nil => exact Run.reads_pure []
  | cons path paths ih =>
    refine ((reads_digest root settings path).bind fun d =>
      ih.bind fun ds => Run.reads_pure (d :: ds)).congr fun files => ?_
    rw [List.mapM_cons]
    rfl

theorem reads_compose (root : Text) (settings : Settings) (paths : ChangedPaths) :
    Reads (compose root settings paths) fun files =>
      (digestsOf root settings paths files).map fun ds => (body settings.comment ds, ds) := by
  refine ((Run.reads_note .info topic (selectionRemark settings.scan paths)).bind fun _ =>
    (reads_digests root settings (paths.matching settings.scan.pathFilter)).bind fun ds =>
      Run.reads_pure (body settings.comment ds, ds)).congr fun files => ?_
  unfold digestsOf
  cases (paths.matching settings.scan.pathFilter).mapM (digestOf root settings files) <;> rfl

theorem reads_dryRun (root : Text) (settings : Settings) (paths : ChangedPaths) :
    Reads (dryRun root settings paths) fun files =>
      (digestsOf root settings paths files).map fun ds =>
        { body := body settings.comment ds, digests := ds } := by
  refine ((reads_compose root settings paths).bind fun x =>
    Run.reads_pure ({ body := x.1, digests := x.2 } : Outcome)).congr fun files => ?_
  cases digestsOf root settings paths files <;> rfl

/-! ### Whole reviews -/

variable {root : Text} {settings : Settings} {request : Option PullRequest} {paths : ChangedPaths}

/-- The courses that a review may take, by the files and the replies: the commands that it gives,
and what comes of it. -/
inductive Course (root : Text) (settings : Settings) (request : Option PullRequest)
    (paths : ChangedPaths) (files : Files) (reply : Nat → Reply) :
    List Command → Except Failure Outcome → Prop where
  | unasked : request = none → Course root settings request paths files reply []
      (.error .requestRequired)
  | unlisted {r : PullRequest} {e : Failure} : request = some r →
      r.thread.listed (reply 0) = .error e →
      Course root settings request paths files reply [r.thread.listCommand] (.error e)
  | unread {r : PullRequest} {comments : List Comment} {e : Failure} : request = some r →
      r.thread.listed (reply 0) = .ok comments → digestsOf root settings paths files = .error e →
      Course root settings request paths files reply [r.thread.listCommand] (.error e)
  | written {r : PullRequest} {comments : List Comment} {ds : List Digest} : request = some r →
      r.thread.listed (reply 0) = .ok comments → digestsOf root settings paths files = .ok ds →
      Course root settings request paths files reply
        [r.thread.listCommand, r.thread.writeCommand (body settings.comment ds) comments
          settings.comment.searchToken]
        ((r.thread.synced (body settings.comment ds) comments settings.comment.searchToken
          (reply 1)).map fun done => ⟨body settings.comment ds, ds, some done⟩)

/-- What a review does after it has listed the comments. -/
def afterListing (root : Text) (settings : Settings) (r : PullRequest) (paths : ChangedPaths)
    (comments : List Comment) : Run Outcome := do
  let (body, digests) ← compose root settings paths
  let done ← r.thread.sync body comments settings.comment.searchToken
  return { body := body, digests := digests, sync := some done }

theorem run_some (r : PullRequest) :
    run root settings (some r) paths = r.thread.list >>= afterListing root settings r paths := rfl

theorem afterListing_error (r : PullRequest) (comments : List Comment) {s : Surroundings}
    {e : Failure} (h : digestsOf root settings paths s.files = .error e) :
    ∃ notes,
      (afterListing root settings r paths comments).outcome s = (.error e, s.noting notes) := by
  obtain ⟨notes, hcompose⟩ := (reads_compose root settings paths).outcome_eq
    (show _ = Except.error e by rw [h]; rfl)
  exact ⟨notes, Run.outcome_bind_error hcompose⟩

theorem afterListing_ok (r : PullRequest) (comments : List Comment) {s : Surroundings}
    {ds : List Digest} (h : digestsOf root settings paths s.files = .ok ds) :
    ∃ notes, (afterListing root settings r paths comments).outcome s =
      ((r.thread.synced (body settings.comment ds) comments settings.comment.searchToken
          (s.reply 0)).map fun done => ⟨body settings.comment ds, ds, some done⟩,
        (s.gave (r.thread.writeCommand (body settings.comment ds) comments
          settings.comment.searchToken)).noting notes) := by
  obtain ⟨notes, hcompose⟩ := (reads_compose root settings paths).outcome_eq
    (show _ = Except.ok (body settings.comment ds, ds) by rw [h]; rfl)
  have hsync := (r.thread.asks_sync (body settings.comment ds) comments
    settings.comment.searchToken).bind fun done =>
      Run.reads_pure
        ({ body := body settings.comment ds, digests := ds, sync := some done } : Outcome)
  -- composing the body leaves notes alone behind, so the write meets the same replies
  obtain ⟨notes', hsync⟩ := hsync (s.noting notes)
  refine ⟨notes', (Run.outcome_bind_ok hcompose).trans (hsync.trans ?_)⟩
  simp only [Surroundings.noting_reply, Surroundings.noting_gave, Surroundings.noting_noting]
  cases
    r.thread.synced (body settings.comment ds) comments settings.comment.searchToken (s.reply 0) <;>
    rfl

/-- **A review takes one of its courses**, and leaves nothing behind but the commands of that course
and notes. -/
theorem course_run (root : Text) (settings : Settings) (request : Option PullRequest)
    (paths : ChangedPaths) (s : Surroundings) : ∃ calls notes,
    Course root settings request paths s.files s.reply calls
      ((run root settings request paths).outcome s).1 ∧
    ((run root settings request paths).outcome s).2 =
      (calls.foldl Surroundings.gave s).noting notes := by
  cases request with
  | none => exact ⟨[], s.notes, .unasked rfl, rfl⟩
  | some r =>
    rw [run_some]
    cases hcs : r.thread.listed (s.reply 0) with
    | error e =>
      obtain ⟨notes, hlist⟩ := r.thread.asks_list.outcome_eq hcs
      rw [Run.outcome_bind_error hlist]
      exact ⟨[r.thread.listCommand], notes, .unlisted rfl hcs, rfl⟩
    | ok comments =>
      obtain ⟨notes, hlist⟩ := r.thread.asks_list.outcome_eq hcs
      rw [Run.outcome_bind_ok hlist]
      cases hds : digestsOf root settings paths s.files with
      | error e =>
        obtain ⟨notes', h⟩ := afterListing_error r comments
          (s := (s.gave r.thread.listCommand).noting notes) hds
        rw [h]
        exact ⟨[r.thread.listCommand], notes', .unread rfl hcs hds, rfl⟩
      | ok ds =>
        obtain ⟨notes', h⟩ := afterListing_ok r comments
          (s := (s.gave r.thread.listCommand).noting notes) hds
        rw [h]
        simp only [Surroundings.noting_reply, Surroundings.gave_reply]
        exact ⟨[r.thread.listCommand, r.thread.writeCommand (body settings.comment ds) comments
          settings.comment.searchToken], notes', .written rfl hcs hds, rfl⟩

/-- Where the comments are listed and the files have digests, the body is written. -/
theorem Course.eq_written {r : PullRequest} {files : Files} {reply : Nat → Reply}
    {calls : List Command} {result : Except Failure Outcome} {comments : List Comment}
    {ds : List Digest} (h : Course root settings (some r) paths files reply calls result)
    (hlisted : r.thread.listed (reply 0) = .ok comments)
    (hdigests : digestsOf root settings paths files = .ok ds) :
    calls = [r.thread.listCommand, r.thread.writeCommand (body settings.comment ds) comments
        settings.comment.searchToken] ∧
      result = (r.thread.synced (body settings.comment ds) comments settings.comment.searchToken
        (reply 1)).map fun done => ⟨body settings.comment ds, ds, some done⟩ := by
  cases h with
  | unasked hrequest => cases hrequest
  | unlisted hrequest herror =>
    obtain rfl := Option.some.inj hrequest
    cases hlisted.symm.trans herror
  | unread _ _ herror => cases hdigests.symm.trans herror
  | written hrequest hlisted' hdigests' =>
    obtain rfl := Option.some.inj hrequest
    obtain rfl := Except.ok.inj (hlisted.symm.trans hlisted')
    obtain rfl := Except.ok.inj (hdigests.symm.trans hdigests')
    exact ⟨rfl, rfl⟩

/-! ### The commands of a review -/

/-- What is certain about the commands that a review gives and about what comes of it. -/
structure WritesOnce (root : Text) (settings : Settings) (request : Option PullRequest)
    (paths : ChangedPaths) (s : Surroundings) (calls : List Command)
    (result : Except Failure Outcome) : Prop where
  /-- The commands are none, the listing alone, or the listing and one more. -/
  shape : calls = [] ∨ ∃ r, request = some r ∧
    (calls = [r.thread.listCommand] ∨ ∃ write, calls = [r.thread.listCommand, write])
  /-- There is a write exactly if there is a pull request, its comments are listed, and every file
  that is to be scanned has a digest. -/
  written_iff : calls.length = 2 ↔ request.isSome = true ∧
    (∃ output comments, (s.reply 0).output? = some output ∧
      Comment.ofListing output = .ok comments) ∧
    ∀ path ∈ paths.matching settings.scan.pathFilter,
      ∃ d, digestOf root settings s.files path = .ok d
  /-- The write keeps the body about the files, which it sends as the one member of an object. -/
  write_keeps : ∀ list write, calls = [list, write] → ∃ r output comments ds, request = some r ∧
    (s.reply 0).output? = some output ∧ Comment.ofListing output = .ok comments ∧
    digestsOf root settings paths s.files = .ok ds ∧
    r.thread.Keeps settings.comment.searchToken comments (body settings.comment ds) write ∧
    write.input =
      some ((Json.object [(Text.ofString "body", .text (body settings.comment ds))]).written .line)
  /-- No command comes after one that failed. -/
  stops : ∀ n, n + 1 < calls.length → ∃ output, (s.reply n).output? = some output
  /-- A result has the body that was written, and tells which comment keeps it. -/
  returns : ∀ o, result = .ok o → ∃ r output comments write answer answered, request = some r ∧
    (s.reply 0).output? = some output ∧ Comment.ofListing output = .ok comments ∧
    (s.reply 1).output? = some answer ∧ Comment.ofText answer = .ok answered ∧
    calls = [r.thread.listCommand, write] ∧ digestsOf root settings paths s.files = .ok o.digests ∧
    o.body = body settings.comment o.digests ∧
    ((∃ c, Comment.IsFirst settings.comment.searchToken comments c ∧
        write = r.thread.updateCommand c.id o.body ∧ o.sync = some ⟨.updated, c.id⟩) ∨
      ((∀ c ∈ comments, ¬ settings.comment.searchToken <:+: c.body) ∧
        write = r.thread.createCommand o.body ∧ o.sync = some ⟨.created, answered.id⟩))

/-- A course without a write shows all there is to be certain of, if its failure is one that
prevents the write. -/
theorem WritesOnce.of_error {s : Surroundings} {calls : List Command} {e : Failure}
    (hshape : calls = [] ∨ ∃ r, request = some r ∧ calls = [r.thread.listCommand])
    (hfailed : ¬ (request.isSome = true ∧
      (∃ output comments, (s.reply 0).output? = some output ∧
        Comment.ofListing output = .ok comments) ∧
      ∀ path ∈ paths.matching settings.scan.pathFilter,
        ∃ d, digestOf root settings s.files path = .ok d)) :
    WritesOnce root settings request paths s calls (.error e) := by
  have hlength : calls.length < 2 := by
    rcases hshape with rfl | ⟨r, _, rfl⟩ <;> simp
  refine ⟨?_, ⟨fun h => by omega, fun h => absurd h hfailed⟩, ?_, fun n hn => by omega, nofun⟩
  · rcases hshape with rfl | ⟨r, hr, rfl⟩
    · exact Or.inl rfl
    · exact Or.inr ⟨r, hr, Or.inl rfl⟩
  · rintro list write rfl
    simp at hlength

theorem Course.writesOnce {s : Surroundings} {calls : List Command}
    {result : Except Failure Outcome}
    (h : Course root settings request paths s.files s.reply calls result) :
    WritesOnce root settings request paths s calls result := by
  cases h with
  | unasked hrequest =>
    refine .of_error (Or.inl rfl) ?_
    rintro ⟨hsome, _⟩
    simp [hrequest] at hsome
  | unlisted hrequest hlisted =>
    refine .of_error (Or.inr ⟨_, hrequest, rfl⟩) ?_
    rintro ⟨_, ⟨output, comments, hreply, hread⟩, _⟩
    rw [Thread.listed_eq_ok_iff.2 ⟨output, hreply, hread⟩] at hlisted
    cases hlisted
  | unread hrequest hlisted hdigests =>
    refine .of_error (Or.inr ⟨_, hrequest, rfl⟩) ?_
    rintro ⟨_, _, hread⟩
    obtain ⟨ds, hds⟩ := Except.exists_mapM_eq_ok_iff.2 hread
    rw [digestsOf, hds] at hdigests
    cases hdigests
  | @written r comments ds hrequest hlisted hdigests =>
    obtain ⟨output, hreply, hread⟩ := Thread.listed_eq_ok_iff.1 hlisted
    have hkeeps := r.thread.keeps_writeCommand settings.comment.searchToken comments
      (body settings.comment ds)
    refine ⟨Or.inr ⟨r, hrequest, Or.inr ⟨_, rfl⟩⟩, ?_, ?_, ?_, ?_⟩
    · exact ⟨fun _ => ⟨by rw [hrequest]; rfl, ⟨output, comments, hreply, hread⟩,
        Except.exists_mapM_eq_ok_iff.1 ⟨ds, hdigests⟩⟩, fun _ => rfl⟩
    · rintro list write hcalls
      obtain ⟨rfl, rfl⟩ : _ = list ∧ _ = write := by simpa using hcalls
      exact ⟨r, output, comments, ds, hrequest, hreply, hread, hdigests, hkeeps, hkeeps.input_eq⟩
    · rintro n hn
      have hzero : n = 0 := by
        simp only [List.length_cons, List.length_nil] at hn
        omega
      subst hzero
      exact ⟨output, hreply⟩
    · rintro o ho
      obtain ⟨done, hdone, rfl⟩ := Except.map_eq_ok_iff.1 ho
      rcases hkeeps with ⟨c, hc, hwrite⟩ | ⟨hnone, hwrite⟩
      · obtain ⟨rfl, answer, answered, hanswer, hanswered⟩ := (Thread.synced_of_isFirst hc).1 hdone
        exact ⟨r, output, comments, _, answer, answered, hrequest, hreply, hread, hanswer,
          hanswered, rfl, hdigests, rfl, Or.inl ⟨c, hc, hwrite, rfl⟩⟩
      · obtain ⟨answer, created, hanswer, hcreated, rfl⟩ :=
          (Thread.synced_of_unmarked hnone).1 hdone
        exact ⟨r, output, comments, _, answer, created, hrequest, hreply, hread, hanswer, hcreated,
          rfl, hdigests, rfl, Or.inr ⟨hnone, hwrite, rfl⟩⟩

/-- **A review writes at most once, and only when nothing before has failed.**  A dry run gives no
command at all. -/
theorem run_commands (root : Text) (settings : Settings) (request : Option PullRequest)
    (paths : ChangedPaths) (s : Surroundings) :
    ((dryRun root settings paths).outcome s).2.commands = s.commands ∧
    ∃ calls, ((run root settings request paths).outcome s).2.commands = s.commands ++ calls ∧
      WritesOnce root settings request paths s calls
        ((run root settings request paths).outcome s).1 := by
  constructor
  · obtain ⟨notes, h⟩ := reads_dryRun root settings paths s
    rw [h]
    rfl
  · obtain ⟨calls, notes, hcourse, hafter⟩ := course_run root settings request paths s
    refine ⟨calls, ?_, hcourse.writesOnce⟩
    rw [hafter, Surroundings.noting_commands, Surroundings.foldl_gave_commands]

end Review

end PullNotes
