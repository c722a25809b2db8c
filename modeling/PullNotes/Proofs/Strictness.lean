import PullNotes.Proofs.Independence

/-!
# Strict reviews

A strict reading of a source refuses what has an error and changes nothing else.  So a strict review
does what the lenient one does, command by command, unless it comes to a file with an error; there
it fails before anything is written.  It comes to such a file exactly if every file before it has a
digest, since the files are read in order and up to the first that fails.

* `Review.Malformed` : a changed file is read and decoded, and its document has an error.
* `Review.FirstMalformed` : the first of some files without a digest, if not one before, has an
error.
* `Review.digestsOf_strict` : what strictness does to the digests of some files.
* `Review.run_strict` : what it does to a review.
-/

namespace PullNotes

/-! ### Failures of a kind -/

section

variable {α β : Type}

/-- A failure to parse a source: its language is unknown, or a strict reading refuses it. -/
def Failure.OfParsing : Failure → Prop
  | source (.unknownLanguage _) => True
  | source (.malformed _) => True
  | _ => False

/-- What fails does so for another reason than that a source cannot be parsed. -/
def Parses (x : Except Failure α) : Prop := ∀ e, x = .error e → ¬ e.OfParsing

theorem parses_ok (a : α) : Parses (.ok a) := fun _ h => (nomatch h)

theorem parses_error {e : Failure} (h : ¬ e.OfParsing) :
    Parses (.error e : Except Failure α) := by
  rintro e' he'
  cases he'
  exact h

theorem not_parses_iff {x : Except Failure α} : ¬ Parses x ↔ ∃ e, x = .error e ∧ e.OfParsing := by
  simp only [Parses, not_forall, not_not, exists_prop]

theorem Parses.bind {x : Except Failure α} {k : α → Except Failure β} (hx : Parses x)
    (hk : ∀ a, Parses (k a)) : Parses (x >>= k) := by
  cases x with
  | error e => exact parses_error (hx e rfl)
  | ok a => exact hk a

theorem parses_mapError {ε : Type} {x : Except ε α} {reason : ε → Failure}
    (h : ∀ e, ¬ (reason e).OfParsing) : Parses (x.mapError reason) := by
  cases x with
  | error e => exact parses_error (h e)
  | ok a => exact parses_ok a

theorem parses_mapM {f : α → Except Failure β} {as : List α} (h : ∀ a ∈ as, Parses (f a)) :
    Parses (as.mapM f) := by
  intro e he
  obtain ⟨front, a, back, rfl, -, ha⟩ := Except.mapM_eq_error_iff.1 he
  exact h a (List.mem_append_right _ List.mem_cons_self) e ha

end

/-! ### Replies -/

theorem Comment.parses_ofText (t : Text) : Parses (Comment.ofText t) := by
  unfold ofText
  split
  · exact parses_error not_false
  · split
    · exact parses_ok _
    · exact parses_error not_false

namespace Thread

variable {t : Thread}

theorem parses_answer (c : Command) (place : Text) (reply : Reply) :
    Parses (answer c place reply) := by
  unfold answer
  split
  · exact parses_error not_false
  · exact parses_error not_false
  · split
    · exact parses_ok _
    · exact parses_error not_false

theorem parses_listed (reply : Reply) : Parses (t.listed reply) :=
  (parses_answer _ _ reply).bind fun _ => parses_mapM fun line _ => Comment.parses_ofText line

theorem parses_synced (body : Text) (comments : List Comment) (token : Text) (reply : Reply) :
    Parses (t.synced body comments token reply) := by
  unfold synced
  split
  · exact ((parses_answer _ _ reply).bind fun _ => Comment.parses_ofText _).bind fun _ =>
      parses_ok _
  · exact ((parses_answer _ _ reply).bind fun _ => Comment.parses_ofText _).bind fun _ =>
      parses_ok _

end Thread

/-! ### Sources -/

/-- The settings with sources read strictly, or leniently. -/
def Settings.reading (s : Settings) (strict : Bool) : Settings :=
  { s with scan := { s.scan with strictParse := strict } }

@[simp] theorem Settings.reading_strictParse (s : Settings) (strict : Bool) :
    (s.reading strict).scan.strictParse = strict := rfl

@[simp] theorem Settings.reading_encoding (s : Settings) (strict : Bool) :
    (s.reading strict).scan.encoding = s.scan.encoding := rfl

namespace Document

variable {language source : Text} {place : Point}

/-- A source in a language is read, and its document has its first error at a place. -/
def Malformed (language source : Text) (place : Point) : Prop :=
  ∃ dialect d, Dialect.named? language = some dialect ∧ read dialect source = .ok d ∧
    d.errorPoint? = some place

theorem ofSource_of_malformed (h : Malformed language source place) :
    ofSource language true source = .error (.malformed place) := by
  obtain ⟨dialect, d, hdialect, hread, hplace⟩ := h
  simp only [ofSource_eq, hdialect, hread, insist, hplace, if_true]

/-- Strictness makes no difference to a source that has no error. -/
theorem ofSource_of_not_malformed (h : ∀ place, ¬ Malformed language source place) :
    ofSource language true source = ofSource language false source := by
  rw [ofSource_eq, ofSource_eq]
  cases hdialect : Dialect.named? language with
  | none => rfl
  | some dialect =>
    cases hread : read dialect source with
    | error e => simp only [hread]
    | ok d =>
      cases hplace : d.errorPoint? with
      | none => simp only [hread, insist, hplace]
      | some place => exact absurd ⟨dialect, d, hdialect, hread, hplace⟩ (h place)

/-- A lenient reading fails only for a language that is unknown or a text that is none. -/
theorem exists_of_ofSource_error {e : SourceError} (h : ofSource language false source = .error e) :
    Dialect.named? language = none ∨ ∃ fault, e = .coding fault := by
  rw [ofSource_eq] at h
  cases hdialect : Dialect.named? language with
  | none => exact Or.inl rfl
  | some dialect =>
    simp only [hdialect] at h
    cases hread : read dialect source with
    | error fault =>
      simp only [hread, Except.error.injEq] at h
      exact Or.inr ⟨fault, h.symm⟩
    | ok d =>
      simp only [hread, insist] at h
      split at h <;> simp at h

end Document

theorem Dialect.named?_name (dialect : Dialect) : Dialect.named? dialect.name = some dialect := by
  cases dialect <;> decide

/-- A lenient digest of a source does not fail to parse it. -/
theorem Digest.parses_ofSource (source path : Text) :
    Parses ((Digest.ofSource source path none false).mapError Failure.source) := by
  intro e he
  cases hdocument : Document.ofSource (languageFor none path) false source with
  | error fault =>
    have hfails : Digest.ofSource source path none false = .error fault := by
      rw [Digest.ofSource_eq, hdocument]
      rfl
    rw [hfails] at he
    obtain rfl : Failure.source fault = e := Except.error.inj he
    rcases Document.exists_of_ofSource_error hdocument with hnone | ⟨fault, rfl⟩
    · -- the language that a path suggests is one of those that are known
      have hknown : Dialect.named? (languageFor none path) = some (Dialect.ofPath path) :=
        (Dialect.ofPath path).named?_name
      cases hknown.symm.trans hnone
    · exact not_false
  | ok d =>
    have hdigest : Digest.ofSource source path none false =
        Digest.ofDocument d path (languageFor none path) := by
      rw [Digest.ofSource_eq, hdocument]
      rfl
    rw [hdigest, Digest.ofDocument] at he
    split at he
    · obtain rfl : Failure.source _ = e := Except.error.inj he
      exact not_false
    · cases he

namespace Review

variable {root path : Text} {settings : Settings} {files : Files} {place : Point}

/-! ### Files -/

/-- The text of a changed file of a checkout. -/
def sourceOf (root encoding : Text) (files : Files) (path : Text) : Except Failure Text := do
  let bytes ← (files.read (Path.plain (Path.append root path))).mapError .file
  (Encoding.readFile encoding bytes).mapError .coding

/-- A file has a digest if its text has one. -/
theorem digestOf_eq_bind (root : Text) (settings : Settings) (files : Files) (path : Text) :
    digestOf root settings files path = sourceOf root settings.scan.encoding files path >>= fun
      source => (Digest.ofSource source path none settings.scan.strictParse).mapError .source := by
  rw [digestOf, sourceOf, bind_assoc]

theorem parses_sourceOf (root encoding : Text) (files : Files) (path : Text) :
    Parses (sourceOf root encoding files path) :=
  (parses_mapError fun _ => id).bind fun _ => parses_mapError fun _ => id

/-- A changed file of a checkout is read and decoded, and its document has its first error at a
place. -/
def Malformed (root : Text) (settings : Settings) (files : Files) (path : Text) (place : Point) :
    Prop :=
  ∃ source, sourceOf root settings.scan.encoding files path = .ok source ∧
    Document.Malformed (languageFor none path) source place

theorem digestOf_of_malformed (h : Malformed root settings files path place) :
    digestOf root (settings.reading true) files path = .error (.source (.malformed place)) := by
  obtain ⟨source, hsource, hmalformed⟩ := h
  have hdigest : Digest.ofSource source path none true = .error (.malformed place) := by
    rw [Digest.ofSource_eq, Document.ofSource_of_malformed hmalformed, Except.error_bind]
  rw [digestOf_eq_bind, Settings.reading_encoding, hsource, Except.ok_bind,
    Settings.reading_strictParse, hdigest]
  rfl

theorem digestOf_of_not_malformed (h : ∀ place, ¬ Malformed root settings files path place) :
    digestOf root (settings.reading true) files path =
      digestOf root (settings.reading false) files path := by
  simp only [digestOf_eq_bind, Settings.reading_encoding, Settings.reading_strictParse]
  cases hsource : sourceOf root settings.scan.encoding files path with
  | error e => rw [Except.error_bind, Except.error_bind]
  | ok source =>
    have hsame := Document.ofSource_of_not_malformed fun place hmalformed =>
      h place ⟨source, hsource, hmalformed⟩
    simp only [Except.ok_bind, Digest.ofSource_eq, hsame]

theorem parses_digestOf (root : Text) (settings : Settings) (files : Files) (path : Text) :
    Parses (digestOf root (settings.reading false) files path) := by
  rw [digestOf_eq_bind]
  exact (parses_sourceOf root settings.scan.encoding files path).bind fun source =>
    Digest.parses_ofSource source path

/-- Among some files one has an error at a place, and all before it have digests if they are read
leniently. -/
def FirstMalformed (root : Text) (settings : Settings) (files : Files) (paths : List Text)
    (place : Point) : Prop :=
  ∃ front path back, paths = front ++ path :: back ∧
    (∀ p ∈ front, ∃ d, digestOf root (settings.reading false) files p = .ok d) ∧
    Malformed root settings files path place

/-- A file without a digest that has no error decides that no file after it counts. -/
theorem not_firstMalformed_cons {paths : List Text} {e : Failure}
    (h : ∀ place, ¬ Malformed root settings files path place)
    (he : digestOf root (settings.reading false) files path = .error e) (place : Point) :
    ¬ FirstMalformed root settings files (path :: paths) place := by
  rintro ⟨front, path', back, heq, hfront, hmalformed⟩
  cases front with
  | nil =>
    obtain ⟨rfl, -⟩ := List.cons.inj heq
    exact h place hmalformed
  | cons p front =>
    obtain ⟨rfl, -⟩ := List.cons.inj heq
    obtain ⟨d, hd⟩ := hfront path List.mem_cons_self
    cases he.symm.trans hd

theorem firstMalformed_cons_iff {paths : List Text} {d : Digest}
    (h : ∀ place, ¬ Malformed root settings files path place)
    (hd : digestOf root (settings.reading false) files path = .ok d) :
    FirstMalformed root settings files (path :: paths) place ↔
      FirstMalformed root settings files paths place := by
  constructor
  · rintro ⟨front, path', back, heq, hfront, hmalformed⟩
    cases front with
    | nil =>
      obtain ⟨rfl, -⟩ := List.cons.inj heq
      exact absurd hmalformed (h place)
    | cons p front =>
      obtain ⟨-, rfl⟩ := List.cons.inj heq
      exact ⟨front, path', back, rfl, (List.forall_mem_cons.1 hfront).2, hmalformed⟩
  · rintro ⟨front, path', back, rfl, hfront, hmalformed⟩
    exact ⟨path :: front, path', back, rfl, List.forall_mem_cons.2 ⟨⟨d, hd⟩, hfront⟩, hmalformed⟩

/-- **The digests of some files, read strictly**, fail at the first file with an error, if all
before it have digests; otherwise they are those of a lenient reading. -/
theorem mapM_digestOf_strict (root : Text) (settings : Settings) (files : Files)
    (paths : List Text) :
    (∃ place, FirstMalformed root settings files paths place ∧
      paths.mapM (digestOf root (settings.reading true) files) =
        .error (.source (.malformed place))) ∨
    (∀ place, ¬ FirstMalformed root settings files paths place) ∧
      paths.mapM (digestOf root (settings.reading true) files) =
        paths.mapM (digestOf root (settings.reading false) files) := by
  induction paths with
  | nil =>
    refine Or.inr ⟨?_, by rw [List.mapM_nil, List.mapM_nil]⟩
    rintro place ⟨front, path, back, h, -⟩
    simp at h
  | cons path paths ih =>
    simp only [List.mapM_cons]
    by_cases hmalformed : ∃ place, Malformed root settings files path place
    · obtain ⟨place, hmalformed⟩ := hmalformed
      refine Or.inl ⟨place, ⟨[], path, paths, rfl, fun _ h => (nomatch h), hmalformed⟩, ?_⟩
      rw [digestOf_of_malformed hmalformed, Except.error_bind]
    · simp only [not_exists] at hmalformed
      rw [digestOf_of_not_malformed hmalformed]
      cases hd : digestOf root (settings.reading false) files path with
      | error e =>
        refine Or.inr ⟨not_firstMalformed_cons hmalformed hd, ?_⟩
        rw [Except.error_bind, Except.error_bind]
      | ok d =>
        simp only [firstMalformed_cons_iff hmalformed hd]
        rcases ih with ⟨place, hfirst, hstrict⟩ | ⟨hnone, hsame⟩
        · exact Or.inl ⟨place, hfirst, by rw [Except.ok_bind, hstrict, Except.error_bind]⟩
        · exact Or.inr ⟨hnone, by rw [Except.ok_bind, Except.ok_bind, hsame]⟩

variable {request : Option PullRequest} {paths : ChangedPaths} {reply : Nat → Reply}
  {calls calls' : List Command} {result result' : Except Failure Outcome}

theorem digestsOf_strict (root : Text) (settings : Settings) (paths : ChangedPaths)
    (files : Files) :
    (∃ place,
      FirstMalformed root settings files (paths.matching settings.scan.pathFilter) place ∧
      digestsOf root (settings.reading true) paths files = .error (.source (.malformed place))) ∨
    (∀ place,
      ¬ FirstMalformed root settings files (paths.matching settings.scan.pathFilter) place) ∧
      digestsOf root (settings.reading true) paths files =
        digestsOf root (settings.reading false) paths files :=
  mapM_digestOf_strict root settings files (paths.matching settings.scan.pathFilter)

/-! ### Reviews -/

/-- A review has one course. -/
theorem Course.unique (h : Course root settings request paths files reply calls result)
    (h' : Course root settings request paths files reply calls' result') :
    calls' = calls ∧ result' = result := by
  cases h with
  | unasked hrequest =>
    cases h' with
    | unasked _ => exact ⟨rfl, rfl⟩
    | unlisted hrequest' => cases hrequest.symm.trans hrequest'
    | unread hrequest' => cases hrequest.symm.trans hrequest'
    | written hrequest' => cases hrequest.symm.trans hrequest'
  | unlisted hrequest hlisted =>
    cases h' with
    | unasked hrequest' => cases hrequest.symm.trans hrequest'
    | unlisted hrequest' hlisted' =>
      obtain rfl := Option.some.inj (hrequest.symm.trans hrequest')
      obtain rfl := Except.error.inj (hlisted.symm.trans hlisted')
      exact ⟨rfl, rfl⟩
    | unread hrequest' hlisted' =>
      obtain rfl := Option.some.inj (hrequest.symm.trans hrequest')
      cases hlisted.symm.trans hlisted'
    | written hrequest' hlisted' =>
      obtain rfl := Option.some.inj (hrequest.symm.trans hrequest')
      cases hlisted.symm.trans hlisted'
  | unread hrequest hlisted hdigests =>
    cases h' with
    | unasked hrequest' => cases hrequest.symm.trans hrequest'
    | unlisted hrequest' hlisted' =>
      obtain rfl := Option.some.inj (hrequest.symm.trans hrequest')
      cases hlisted.symm.trans hlisted'
    | unread hrequest' _ hdigests' =>
      obtain rfl := Option.some.inj (hrequest.symm.trans hrequest')
      obtain rfl := Except.error.inj (hdigests.symm.trans hdigests')
      exact ⟨rfl, rfl⟩
    | written _ _ hdigests' => cases hdigests.symm.trans hdigests'
  | written hrequest hlisted hdigests =>
    subst hrequest
    exact h'.eq_written hlisted hdigests

/-- The course of a review depends on the settings of comments and on the digests alone. -/
theorem Course.congr {settings' : Settings}
    (h : Course root settings request paths files reply calls result)
    (hcomment : settings.comment = settings'.comment)
    (hdigests : digestsOf root settings paths files = digestsOf root settings' paths files) :
    Course root settings' request paths files reply calls result := by
  cases h with
  | unasked hrequest => exact .unasked hrequest
  | unlisted hrequest hlisted => exact .unlisted hrequest hlisted
  | unread hrequest hlisted herror => exact .unread hrequest hlisted (hdigests.symm.trans herror)
  | written hrequest hlisted hok =>
    rw [hcomment]
    exact .written hrequest hlisted (hdigests.symm.trans hok)

theorem Course.parses
    (h : Course root (settings.reading false) request paths files reply calls result) :
    Parses result := by
  cases h with
  | unasked _ => exact parses_error not_false
  | unlisted _ hlisted =>
    refine parses_error ?_
    exact Thread.parses_listed _ _ hlisted
  | unread _ _ hdigests =>
    refine parses_error ?_
    exact parses_mapM (fun path _ => parses_digestOf root settings files path) _ hdigests
  | @written r comments ds _ _ _ =>
    have hsynced := r.thread.parses_synced (body settings.comment ds) comments
      settings.comment.searchToken (reply 1)
    intro e he
    cases hdone : r.thread.synced (body settings.comment ds) comments settings.comment.searchToken
        (reply 1) with
    | error e' =>
      have herror := he
      rw [show (settings.reading false).comment = settings.comment from rfl, hdone] at herror
      obtain rfl : e' = e := Except.error.inj herror
      exact hsynced e' hdone
    | ok done =>
      rw [show (settings.reading false).comment = settings.comment from rfl, hdone] at he
      cases he

/-- What a review comes to when sources are read strictly, or leniently. -/
def outcomeReading (strict : Bool) (root : Text) (settings : Settings)
    (request : Option PullRequest) (paths : ChangedPaths) (s : Surroundings) :
    Except Failure Outcome × Surroundings :=
  (run root (settings.reading strict) request paths).outcome s

theorem course_outcomeReading (strict : Bool) (root : Text) (settings : Settings)
    (request : Option PullRequest) (paths : ChangedPaths) (s : Surroundings) : ∃ calls,
    (outcomeReading strict root settings request paths s).2.commands = s.commands ++ calls ∧
      Course root (settings.reading strict) request paths s.files s.reply calls
        (outcomeReading strict root settings request paths s).1 := by
  obtain ⟨calls, notes, hcourse, hafter⟩ :=
    course_run root (settings.reading strict) request paths s
  refine ⟨calls, ?_, hcourse⟩
  rw [outcomeReading, hafter, Surroundings.noting_commands, Surroundings.foldl_gave_commands]

/-- **A strict review does what the lenient one does, or refuses a file before it writes.**  It
refuses one exactly if the comments are listed and, among the files to be scanned, the first that a
lenient review has no digest of, or one before it, has an error.  A lenient review refuses none. -/
theorem run_strict (root : Text) (settings : Settings) (request : Option PullRequest)
    (paths : ChangedPaths) (s : Surroundings) :
    (¬ ∃ e, (outcomeReading false root settings request paths s).1 = .error e ∧ e.OfParsing) ∧
    ((outcomeReading true root settings request paths s).1 =
          (outcomeReading false root settings request paths s).1 ∧
        (outcomeReading true root settings request paths s).2.commands =
          (outcomeReading false root settings request paths s).2.commands ∨
      ∃ r place, request = some r ∧
        FirstMalformed root settings s.files (paths.matching settings.scan.pathFilter) place ∧
        (outcomeReading true root settings request paths s).1 =
          .error (.source (.malformed place)) ∧
        (outcomeReading true root settings request paths s).2.commands =
          s.commands ++ [r.thread.listCommand]) ∧
    ((∃ e, (outcomeReading true root settings request paths s).1 = .error e ∧ e.OfParsing) ↔
      request.isSome = true ∧ s.ListsComments ∧ ∃ place,
        FirstMalformed root settings s.files (paths.matching settings.scan.pathFilter) place) := by
  obtain ⟨calls, hcalls, hlenient⟩ := course_outcomeReading false root settings request paths s
  obtain ⟨calls', hcalls', hstrict⟩ := course_outcomeReading true root settings request paths s
  have hparses := hlenient.parses
  rw [hcalls, hcalls', ← not_parses_iff, ← not_parses_iff]
  refine ⟨not_not.2 hparses, ?_⟩
  rcases digestsOf_strict root settings paths s.files with ⟨place, hfirst, hrefused⟩ | ⟨hnone, hsame⟩
  · generalize (outcomeReading true root settings request paths s).1 = result at hstrict ⊢
    -- the files are refused, unless the review does not come to them
    cases hstrict with
    | unasked hrequest =>
      obtain ⟨rfl, hresult⟩ := Course.unique hlenient (.unasked hrequest)
      refine ⟨Or.inl ⟨hresult, rfl⟩, iff_of_false (not_not.2 (parses_error id)) ?_⟩
      rintro ⟨hsome, -⟩
      simp [hrequest] at hsome
    | unlisted hrequest hlisted =>
      obtain ⟨rfl, hresult⟩ := Course.unique hlenient (.unlisted hrequest hlisted)
      refine ⟨Or.inl ⟨hresult, rfl⟩, iff_of_false (not_not.2 ?_) ?_⟩
      · exact parses_error (Thread.parses_listed _ _ hlisted)
      · rintro ⟨-, ⟨output, comments, hreply, hread⟩, -⟩
        cases hlisted.symm.trans (Thread.listed_eq_ok_iff.2 ⟨output, hreply, hread⟩)
    | @unread r comments e hrequest hlisted hdigests =>
      obtain rfl := Except.error.inj (hrefused.symm.trans hdigests)
      obtain ⟨output, hreply, hread⟩ := Thread.listed_eq_ok_iff.1 hlisted
      refine ⟨Or.inr ⟨r, place, hrequest, hfirst, rfl, rfl⟩, iff_of_true ?_ ?_⟩
      · exact fun h => h _ rfl trivial
      · exact ⟨by rw [hrequest]; rfl, ⟨output, comments, hreply, hread⟩, place, hfirst⟩
    | written _ _ hdigests => cases hrefused.symm.trans hdigests
  · obtain ⟨rfl, hresult⟩ := Course.unique hlenient (hstrict.congr rfl hsame)
    refine ⟨Or.inl ⟨hresult, rfl⟩, iff_of_false ?_ ?_⟩
    · rw [hresult]
      exact not_not.2 hparses
    · rintro ⟨-, -, place, hfirst⟩
      exact hnone place hfirst

end Review

end PullNotes
