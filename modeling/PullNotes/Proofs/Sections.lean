import PullNotes.Proofs.Places
import PullNotes.Proofs.Selection
import PullNotes.Proofs.SettingChange

/-!
# A scan and a dry run show the same

A scan digests files by their own paths and prints each section as it comes; a dry run of a review
digests them below the name of the checkout and prints one comment.  In the working directory both
come to the same digests, and so to the same sections in the same order.

* `CommandLine.read_scan`, `CommandLine.read_dryRun` : what the two command lines ask for.
* `Review.digestsOf_of_scanned` : the digests of a scan are those of a review.
* `CommandLine.scan_shows_review` : what the two commands print.
-/

namespace PullNotes

/-! ### What is printed -/

namespace Console

theorem sequenceLength?_of_ne {t : Text} (h : t.head? ≠ some escape) : sequenceLength? t = none := by
  unfold sequenceLength?
  split
  · next c d rest =>
    rw [if_neg]
    rintro ⟨rfl, -⟩
    exact h rfl
  · rfl

/-- A text without an escape character is printed as it is. -/
theorem withoutSequences_of_not_mem {t : Text} (h : escape ∉ t) : withoutSequences t = t := by
  rw [withoutSequences]
  induction t with
  | nil => rfl
  | cons c t ih =>
    rw [List.mem_cons, not_or] at h
    obtain ⟨hc, ht⟩ := h
    rw [withoutSequencesAfter, sequenceLength?_of_ne (by simpa using Ne.symm hc)]
    exact congrArg (c :: ·) (ih ht)

end Console

namespace Digest

/-- The digest that a file has under a path, by the files. -/
def inFile (path shown encoding : Text) (strict : Bool) (files : Files) : Except Failure Digest := do
  let bytes ← (files.read (Path.plain path)).mapError .file
  let source ← (Encoding.readFile encoding bytes).mapError .coding
  (ofSource source shown none strict).mapError .source

theorem reads_ofFile (path shown encoding : Text) (strict : Bool) :
    Run.Reads (ofFile path shown encoding strict) (inFile path shown encoding strict) := by
  refine ((Run.reads_readText encoding (Path.plain path)).bind fun source =>
    reads_ofNamedSource source shown strict).congr fun files => ?_
  rw [inFile, bind_assoc]

variable {path shown encoding : Text} {strict : Bool} {files : Files} {d : Digest}

theorem inFile_eq_ok_iff : inFile path shown encoding strict files = .ok d ↔
    ∃ bytes source, files.read (Path.plain path) = .ok bytes ∧
      Encoding.readFile encoding bytes = .ok source ∧
      ofSource source shown none strict = .ok d := by
  simp only [inFile, Except.bind_eq_ok_iff, Except.mapError_eq_ok_iff]
  constructor
  · rintro ⟨bytes, hbytes, source, hsource, hd⟩
    exact ⟨bytes, source, hbytes, hsource, hd⟩
  · rintro ⟨bytes, source, hbytes, hsource, hd⟩
    exact ⟨bytes, hbytes, source, hsource, hd⟩

/-- **The digest of a file is the same** by its own path and below the name of the working
directory. -/
theorem inFile_append {d' : Digest} (hroot : Path.isAbsolute files.root = true)
    (hown : inFile path path encoding strict files = .ok d)
    (hbelow : inFile (Path.append files.root path) path encoding strict files = .ok d') : d' = d := by
  obtain ⟨bytes, source, hbytes, hsource, hd⟩ := inFile_eq_ok_iff.1 hown
  obtain ⟨bytes', source', hbytes', hsource', hd'⟩ := inFile_eq_ok_iff.1 hbelow
  rw [Files.read_of_append hroot hbytes hbytes', hsource] at hsource'
  obtain rfl := Except.ok.inj hsource'
  exact Except.ok.inj (hd'.symm.trans hd)

end Digest

namespace CommandLine

open Run (Reads)

/-! ### What is asked for -/

/-- The words that ask for the sections of some files. -/
def scanWords (files : List Text) : List Text := "scan" :: "--markdown" :: files

/-- The words that ask for a dry run over some modified files. -/
def dryRunWords (files : List Text) : List Text :=
  "review" :: "--dry-run" :: files.flatMap fun file => ["-m", file]

/-- The request for the sections of some files. -/
def scanRequest (files : List Text) : ScanRequest :=
  { files := files, markdown := true, strict := false }

/-- The request for a dry run over some modified files. -/
def dryRunRequest (files : List Text) : ReviewRequest where
  path := none
  base := none
  repository := none
  number := none
  paths := ⟨files, []⟩
  dryRun := true
  verbose := false

variable {files : List Text}

theorem ne_dashes_of_not_isOptions {word : Text} (h : Arguments.isOptions word = false) :
    word ≠ Arguments.dashes := by
  rintro rfl
  exact absurd h (by decide)

/-- Words that are no options are arguments, wherever they stand. -/
theorem read_arguments (switches : List Switch)
    (h : ∀ file ∈ files, Arguments.isOptions file = false) :
    Arguments.read switches true files = .ok { words := files } := by
  induction files with
  | nil => rfl
  | cons file files ih =>
    obtain ⟨hfile, hfiles⟩ := List.forall_mem_cons.1 h
    rw [Arguments.read, if_neg (ne_dashes_of_not_isOptions hfile), hfile,
      if_neg Bool.false_ne_true, if_pos rfl, ih hfiles]

theorem read_scanArguments (h : ∀ file ∈ files, Arguments.isOptions file = false) :
    Arguments.read Page.scan.switches true ("--markdown" :: files) =
      .ok { options := [(.markdown, [])], words := files } := by
  have hstep : Arguments.step Page.scan.switches "--markdown" = .ok (.done [(.markdown, [])]) := by
    rfl
  rw [Arguments.read, if_neg (by decide), if_pos (by decide), hstep]
  dsimp only
  rw [read_arguments _ h]
  rfl

theorem read_modified (files : List Text) :
    Arguments.read Page.review.switches true (files.flatMap fun file => ["-m", file]) =
      .ok { options := files.map fun file => (.modified, file) } := by
  have hstep : Arguments.step Page.review.switches "-m" = .ok (.wants [] .modified "-m") := by
    rfl
  induction files with
  | nil => rfl
  | cons file files ih =>
    rw [List.flatMap_cons, List.cons_append, List.singleton_append, Arguments.read,
      if_neg (by decide), if_pos (by decide), hstep]
    dsimp only
    rw [ih]
    rfl

theorem read_dryRunArguments (files : List Text) :
    Arguments.read Page.review.switches true ("--dry-run" :: files.flatMap fun file => ["-m", file]) =
      .ok { options := (.dryRun, []) :: files.map fun file => (.modified, file) } := by
  have hstep : Arguments.step Page.review.switches "--dry-run" = .ok (.done [(.dryRun, [])]) := by
    rfl
  rw [Arguments.read, if_neg (by decide), if_pos (by decide), hstep]
  dsimp only
  rw [read_modified]
  rfl

/-- A word that is a command leads to what the words after it ask for. -/
theorem read_command {fs : Files} {name : Text} (page : Page) (rest : List Text)
    (hname : name ≠ Arguments.dashes) (hargument : Arguments.isOptions name = false)
    (hpage : (Page.main.commands.find? fun (known, _) => Text.ofString known == name).map (·.2) =
      some page) :
    Request.read fs (name :: rest) = Request.ofPage fs page rest := by
  obtain ⟨⟨known, _⟩, hfind, rfl⟩ := Option.map_eq_some_iff.1 hpage
  have hwords : Arguments.read Page.main.switches false (name :: rest) =
      .ok { words := name :: rest } := by
    rw [Arguments.read, if_neg hname, hargument, if_neg Bool.false_ne_true,
      if_neg Bool.false_ne_true]
  rw [Request.read, Request.ofGroup, List.isEmpty_cons, if_neg Bool.false_ne_true, hwords]
  simp only [Request.on, Except.ok_bind, Request.first?, Arguments.first?, List.find?_nil,
    Option.map_none, hfind]

/-- The files of a scan are those that are named. -/
theorem file_eq_ok {fs : Files} {path file : Text} (h : Request.file fs path = .ok file) :
    file = path := by
  rw [Request.file] at h
  split at h
  · split at h
    · cases h
    · exact (Except.ok.inj h).symm
  · cases h

theorem ofScan_eq_ok {fs : Files} {a : Arguments} {request : Request}
    (h : Request.ofScan fs a = .ok request) :
    request = .scan ⟨a.words, a.has .markdown, a.has .strict⟩ := by
  have hgo : (a.words.mapM (Request.file fs) >>= fun named =>
      Except.ok (Request.scan ⟨named, a.has .markdown, a.has .strict⟩)) = .ok request := by
    rw [Request.ofScan] at h
    split at h
    · cases h
    · exact h
  obtain ⟨named, hnamed, h⟩ := Except.bind_eq_ok_iff.1 hgo
  have hsame : a.words = named := List.forall₂_eq_eq_eq.le _ _
    ((Except.mapM_eq_ok_iff.1 hnamed).imp fun _ _ hfile => (file_eq_ok hfile).symm)
  rw [hsame]
  exact (Except.ok.inj h).symm

/-- A scan that can be done is one of the files that are named. -/
theorem read_scan {fs : Files} (h : ∀ file ∈ files, Arguments.isOptions file = false)
    {request : Request} (hread : Request.read fs (scanWords files) = .ok request) :
    request = .scan (scanRequest files) := by
  have haction : Request.read fs (scanWords files) =
      Request.on .scan (Request.ofScan fs { options := [(.markdown, [])], words := files }) := by
    rw [scanWords, read_command .scan _ (by decide) (by decide) (by decide)]
    have hread := read_scanArguments h
    simp only [Request.ofPage, Request.ofAction, hread]
    rfl
  rw [haction] at hread
  cases hscan : Request.ofScan fs { options := [(.markdown, [])], words := files } with
  | error mistake =>
    rw [hscan] at hread
    cases hread
  | ok asked =>
    rw [hscan] at hread
    rw [← Except.ok.inj hread, ofScan_eq_ok hscan]
    rfl

theorem values_dryRun (files : List Text) (key : Key) :
    ({ options := (.dryRun, []) :: files.map fun file => (.modified, file) } : Arguments).values key =
      if key = .modified then files else if key = .dryRun then [[]] else [] := by
  have hmodified : ∀ key, (files.map fun file => (Key.modified, file)).filter (fun o => o.1 = key) =
      if key = .modified then files.map fun file => (Key.modified, file) else [] := by
    intro key
    by_cases hkey : key = .modified
    · rw [if_pos hkey, List.filter_eq_self]
      simp [hkey]
    · rw [if_neg hkey, List.filter_eq_nil_iff]
      simp [Ne.symm hkey]
  have hsame : (files.map fun file => (Key.modified, file)).map (·.2) = files := by
    rw [List.map_map]
    exact List.map_id files
  cases key <;> simp [Arguments.values, hmodified, hsame]

theorem read_dryRun (fs : Files) (files : List Text) :
    Request.read fs (dryRunWords files) = .ok (.review (dryRunRequest files)) := by
  have hread := read_dryRunArguments files
  rw [dryRunWords, read_command .review _ (by decide) (by decide) (by decide)]
  have hfirst : Request.first? .review
      { options := (.dryRun, []) :: files.map fun file => (.modified, file) } = none := by
    have hnone : ((Key.dryRun, ([] : Text)) :: files.map fun file => (Key.modified, file)).find?
        (fun o => [Key.help, .version].contains o.1) = none := by
      simp
    simp only [Request.first?, Arguments.first?, hnone, Option.map_none]
  have hrequest : Request.ofReview
      { options := (.dryRun, []) :: files.map fun file => (.modified, file) } =
        .ok (.review (dryRunRequest files)) := by
    simp [Request.ofReview, Request.number?, Request.nothingMore, Arguments.value?, Arguments.has,
      values_dryRun, dryRunRequest, Except.ok_bind]
  have hleaf : Page.review.commands.isEmpty = true := by decide
  rw [Request.ofPage, if_pos hleaf, Request.ofAction, hread, Except.ok_bind, hfirst]
  dsimp only
  rw [Request.ofArguments, hrequest, Request.on]

/-! ### How the commands go -/

variable {host : Host} {s : Surroundings} {settings : Settings}

theorem checkout_none (hroot : Path.isAbsolute s.files.root = true) :
    checkout s.files none = s.files.root := by
  have hbelow : s.files.belowRoot? here = none := Files.belowRoot?_of_relative hroot (by decide)
  have hplace : s.files.place? here = some [] := by
    rw [Files.place?, hbelow]
    rfl
  have hjoin : s.files.pathOf [] = s.files.root := by
    rw [Files.pathOf, Text.join, List.intercalate_singleton]
  have hgo : checkout s.files none = s.files.absolute here := rfl
  rw [hgo, Files.absolute, hplace]
  exact hjoin

section

variable {α : Type} {action : Run α} {result : Files → Except Failure α}
  {reported : Failure → Bool} {words : Failure → Text} {next : α → Run Nat}

/-- What ends well after a run that reads went on with its result. -/
theorem exists_of_done_reporting (hreads : Reads action result)
    (h : ((reporting host reported words action next).outcome s).1 = .ok done) :
    ∃ a notes, result s.files = .ok a ∧
      (reporting host reported words action next).outcome s = (next a).outcome (s.noting notes) := by
  cases hresult : result s.files with
  | error f =>
    obtain ⟨notes, houtcome⟩ := hreads.outcome_eq hresult
    exact absurd h (stops_reporting houtcome (Surroundings.noting_files s notes)).1
  | ok a =>
    obtain ⟨notes, houtcome⟩ := hreads.outcome_eq hresult
    exact ⟨a, notes, rfl, outcome_reporting houtcome⟩

end

theorem outcome_of_done_inCheckout {path : Option Text} {next : Text → Run Nat}
    (h : ((inCheckout host path next).outcome s).1 = .ok done) :
    (inCheckout host path next).outcome s = (next (checkout s.files path)).outcome s := by
  have hgo : (inCheckout host path next).outcome s =
      (Run.ofExcept .file (s.files.isThere (checkout s.files path)) >>= fun there =>
        if there then next (checkout s.files path) else do
          say host .problem (.concat ["Path does not exist: ", path.getD []])
          return failed).outcome s := rfl
  cases hthere : s.files.isThere (checkout s.files path) with
  | ok there =>
    cases there with
    | true => exact outcome_inCheckout hthere
    | false =>
      rw [hgo, hthere, Run.outcome_bind_ok (r := Run.ofExcept .file (.ok false)) (a := false) rfl,
        if_neg Bool.false_ne_true] at h
      exact absurd h (stops_report host .problem _ s).1
  | error e =>
    rw [hgo, hthere, Run.outcome_bind_error (r := Run.ofExcept .file (.error e)) rfl] at h
    cases h

/-- The end of what is printed. -/
def lineEnd : Text := "\n"

/-- A text as it is printed, on a line of its own. -/
def shown (t : Text) : Text := Console.withoutSequences (t ++ lineEnd)

theorem shown_of_not_mem {t : Text} (h : Console.escape ∉ t) : shown t = t ++ lineEnd := by
  refine Console.withoutSequences_of_not_mem fun hmem => ?_
  rcases List.mem_append.1 hmem with hmem | hmem
  · exact h hmem
  · exact absurd hmem (by decide)

theorem outcome_of_done_write {t : Text} {next : Run Nat}
    (h : ((write t >>= fun _ => next).outcome s).1 = .ok done) :
    (write t >>= fun _ => next).outcome s =
      next.outcome { s with printed := s.printed ++ shown t } := by
  cases hchars : (shown t).toCharsOrError with
  | error e =>
    have hwrite : (write t).outcome s = (.error (.coding e), s) :=
      Run.outcome_printOr_error hchars s
    rw [Run.outcome_bind_error hwrite] at h
    cases h
  | ok chars => exact Run.outcome_bind_ok (Run.outcome_printOr_ok hchars s)

theorem outcome_announce {o : Outcome} (hdry : o.sync = none)
    (h : ((announce host o).outcome s).1 = .ok done) :
    (announce host o).outcome s = (.ok done, { s with printed := s.printed ++ shown o.body }) := by
  have hgo : announce host o = write o.body >>= fun _ => (return done : Run Nat) := by
    rw [announce, hdry]
  rw [hgo] at h ⊢
  exact outcome_of_done_write h

/-- Files that are named are those that a review is about. -/
theorem reviewOutcome_dryRun (root : Text) (hsome : files ≠ []) :
    reviewOutcome root settings (dryRunRequest files) =
      Review.dryRun root settings ⟨files, []⟩ := by
  have hcount : (dryRunRequest files).paths.count ≠ 0 := by
    simpa [dryRunRequest, ChangedPaths.count] using hsome
  rw [reviewOutcome, changedPaths, if_pos hcount]
  rfl

/-- **A dry run that ends well** prints the body that it comes to. -/
theorem printed_of_done_review (hroot : Path.isAbsolute s.files.root = true)
    (hsettings : Settings.storedWithin host.levels s.files.root s.files = .ok settings)
    (hsome : files ≠ [])
    (h : ((review host (dryRunRequest files)).outcome s).1 = .ok done) :
    ∃ ds, Review.digestsOf s.files.root settings ⟨files, []⟩ s.files = .ok ds ∧
      ((review host (dryRunRequest files)).outcome s).2.printed =
        s.printed ++ shown (Review.body settings.comment ds) := by
  have hcheckout : (review host (dryRunRequest files)).outcome s =
      (prepared host (Settings.loadWithin host.levels s.files.root) fun settings =>
        prepared host (reviewOutcome s.files.root settings (dryRunRequest files))
          (announce host)).outcome s := by
    rw [← checkout_none hroot]
    exact outcome_of_done_inCheckout h
  rw [hcheckout] at h ⊢
  obtain ⟨loaded, notes, hloaded, hload⟩ := exists_of_done_reporting (Settings.reads_loadWithin _ _) h
  obtain rfl := Except.ok.inj (hsettings.symm.trans hloaded)
  rw [prepared, hload, reviewOutcome_dryRun _ hsome] at h ⊢
  obtain ⟨o, notes', ho, hreview⟩ := exists_of_done_reporting (Review.reads_dryRun _ _ _) h
  obtain ⟨ds, hds, rfl⟩ := Except.map_eq_ok_iff.1 ho
  rw [prepared, hreview] at h ⊢
  exact ⟨ds, hds, congrArg (fun o => o.2.printed) (outcome_announce rfl h)⟩

/-- **A scan that ends well** prints the sections of the files one after another. -/
theorem printed_of_done_scanFiles (request : ScanRequest) (hmarkdown : request.markdown = true)
    (h : ((scanFiles host settings request files).outcome s).1 = .ok done) :
    ∃ ds, List.Forall₂ (fun file d => Digest.inFile file file settings.scan.encoding
        (request.strict || settings.scan.strictParse) s.files = .ok d) files ds ∧
      ((scanFiles host settings request files).outcome s).2.printed = s.printed ++
        ds.flatMap fun d => shown (Markdown.digestSection settings.comment.fenceLanguage d) := by
  induction files generalizing s with
  | nil => exact ⟨[], .nil, (List.append_nil _).symm⟩
  | cons file files ih =>
    obtain ⟨d, notes, hd, hscan⟩ :=
      exists_of_done_reporting (Digest.reads_ofFile file file settings.scan.encoding
        (request.strict || settings.scan.strictParse)) h
    rw [scanFiles, hscan, showDigest, hmarkdown, if_pos rfl] at h ⊢
    have hwrite := outcome_of_done_write h
    rw [hwrite] at h ⊢
    obtain ⟨ds, hds, hprinted⟩ := ih h
    refine ⟨d :: ds, .cons hd hds, hprinted.trans ?_⟩
    rw [List.flatMap_cons, ← List.append_assoc]
    rfl

theorem printed_of_done_scan (hroot : Path.isAbsolute s.files.root = true)
    (hsettings : Settings.storedWithin host.levels s.files.root s.files = .ok settings)
    (h : ((scan host (scanRequest files)).outcome s).1 = .ok done) :
    ∃ ds, List.Forall₂ (fun file d => Digest.inFile file file settings.scan.encoding
        settings.scan.strictParse s.files = .ok d) files ds ∧
      ((scan host (scanRequest files)).outcome s).2.printed = s.printed ++
        ds.flatMap fun d => shown (Markdown.digestSection settings.comment.fenceLanguage d) := by
  have hcheckout : (scan host (scanRequest files)).outcome s =
      (prepared host (Settings.loadWithin host.levels s.files.root) fun settings =>
        scanFiles host settings (scanRequest files) files).outcome s := by
    have habsolute : s.files.absolute here = s.files.root := checkout_none hroot
    have hgo : (scan host (scanRequest files)).outcome s =
        (prepared host (Settings.loadWithin host.levels (s.files.absolute here)) fun settings =>
          scanFiles host settings (scanRequest files) (scanRequest files).files).outcome s := rfl
    rw [hgo, habsolute]
    rfl
  rw [hcheckout] at h ⊢
  obtain ⟨loaded, notes, hloaded, hload⟩ := exists_of_done_reporting (Settings.reads_loadWithin _ _) h
  obtain rfl := Except.ok.inj (hsettings.symm.trans hloaded)
  rw [prepared, hload] at h ⊢
  have hstrict : ((scanRequest files).strict || settings.scan.strictParse) =
      settings.scan.strictParse := Bool.false_or _
  obtain ⟨ds, hds, hprinted⟩ := printed_of_done_scanFiles (scanRequest files) rfl h
  rw [hstrict] at hds
  exact ⟨ds, hds, hprinted⟩

/-! ### Both commands -/

/-- The ending of a program that did what it was asked for and printed a text. -/
def prints (s : Surroundings) (t : Text) : Ending := { status := done, printed := s.printed ++ t }

/-- The endings of a scan and a dry run agree: both digest the files in the same way, a dry run
below the name of the checkout and a scan by their own paths, and both print the sections of the
digests in order, if the report is within its limit and no section has an escape character. -/
def PrintSame (settings : Settings) (s : Surroundings) (files : List Text) : Prop :=
  ∃ ds : List Digest,
    ((Review.dryRun s.files.root settings ⟨files, []⟩).outcome s).1 =
      .ok { body := Review.body settings.comment ds, digests := ds } ∧
    List.Forall₂ (fun file d => d.filePath = file ∧ d.language = languageFor none file ∧
      ((Digest.ofFile file file settings.scan.encoding settings.scan.strictParse).outcome s).1 =
        .ok d) files ds ∧
    ∀ sections, sections = ds.map (Markdown.digestSection settings.comment.fenceLanguage) →
      (Markdown.comment settings.comment.marker sections).length ≤ settings.comment.maxLength →
      (∀ t ∈ sections, Console.escape ∉ t) →
      (run (dryRunWords files) s).1 = prints s
        (.concat ([settings.comment.marker, " \n# Overview\n"] ++ sections ++ [lineEnd])) ∧
      (run (scanWords files) s).1 = prints s (.concat (sections.map fun t => t ++ lineEnd))

/-- A report has an escape character only where its marker or one of its sections has one. -/
theorem not_mem_report {sections : List Text} (hmarker : Console.escape ∉ settings.comment.markerId)
    (hsections : ∀ t ∈ sections, Console.escape ∉ t) :
    Console.escape ∉ Text.concat ([settings.comment.marker, " \n# Overview\n"] ++ sections) := by
  have hframe : Console.escape ∉ settings.comment.marker := by
    have hbefore : Console.escape ∉ Text.ofString "<!-- id: " := by decide
    have hafter : Console.escape ∉ Text.ofString " -->" := by decide
    simp [CommentSettings.marker, Text.concat, hmarker, hbefore, hafter]
  have hheading : Console.escape ∉ Text.ofString " \n# Overview\n" := by decide
  rw [Text.concat, List.mem_flatten]
  rintro ⟨piece, hpiece, hmem⟩
  rcases List.mem_append.1 hpiece with hpiece | hpiece
  · rcases List.mem_pair.1 hpiece with rfl | rfl
    · exact hframe hmem
    · exact hheading hmem
  · exact hsections piece hpiece hmem

theorem ending_of_done {words : List Text} {request : Request}
    (hread : Request.read s.files words = .ok request) (hquiet : request.isVerbose = false)
    (h : (runOn host words s).1.status = done) :
    ((perform host request).outcome s).1 = .ok done ∧
      (runOn host words s).1 =
        { status := done, printed := ((perform host request).outcome s).2.printed } := by
  have hrun : (runOn host words s).1 =
      ending false ((perform host request).outcome s).1 ((perform host request).outcome s).2 := by
    rw [runOn, hread, ← hquiet]
  rw [hrun, status_ending] at h
  exact ⟨h, by rw [hrun, h]; rfl⟩

/-- Both commands end well on different files with the filter in their paths, in a directory with
settings. -/
structure Comparable (settings : Settings) (s : Surroundings) (files : List Text) : Prop where
  absolute : Path.isAbsolute s.files.root = true
  loads : ((Settings.load s.files.root).outcome s).1 = .ok settings
  ne_nil : files ≠ []
  nodup : files.Nodup
  isInfix : ∀ file ∈ files, settings.scan.pathFilter <:+: file
  scanned : (run (scanWords files) s).1.status = done
  reviewed : (run (dryRunWords files) s).1.status = done

/-- **A scan and a dry run print the same sections** of files whose paths are not taken for options,
under a marker without an escape character. -/
theorem printSame (h : Comparable settings s files)
    (hargs : ∀ file ∈ files, Arguments.isOptions file = false)
    (hmarker : Console.escape ∉ settings.comment.markerId) : PrintSame settings s files := by
  obtain ⟨hroot, hsettings, hsome, hnodup, hfilter, hscan, hreview⟩ := h
  have hstored : Settings.storedWithin ({} : Host).levels s.files.root s.files = .ok settings := by
    obtain ⟨notes, hload⟩ := Settings.reads_load s.files.root s
    rw [← hsettings, hload]
  rw [run] at hscan hreview
  -- what is asked for, and that it is done
  have hask := read_dryRun s.files files
  have hask' : Request.read s.files (scanWords files) = .ok (.scan (scanRequest files)) := by
    cases hread : Request.read s.files (scanWords files) with
    | error complaint =>
      rw [runOn, hread] at hscan
      exact absurd hscan (show misused ≠ done by decide)
    | ok request => rw [read_scan hargs hread]
  obtain ⟨hdry, hended⟩ := ending_of_done hask rfl hreview
  obtain ⟨hall, hended'⟩ := ending_of_done hask' rfl hscan
  obtain ⟨ds, hds, hprinted⟩ := printed_of_done_review hroot hstored hsome hdry
  obtain ⟨ds', hds', hprinted'⟩ := printed_of_done_scan hroot hstored hall
  -- the digests are the same, since the files are
  have hmatching : (⟨files, []⟩ : ChangedPaths).matching settings.scan.pathFilter = files :=
    ChangedPaths.matching_of_selected hfilter hnodup (List.append_nil _)
  have hunique : Relator.RightUnique fun file d =>
      Digest.inFile file file settings.scan.encoding settings.scan.strictParse s.files = .ok d ∨
        Review.digestOf s.files.root settings s.files file = .ok d := by
    rintro file d d' (hd | hd) (hd' | hd')
    · exact Except.ok.inj (hd.symm.trans hd')
    · exact (Digest.inFile_append hroot hd hd').symm
    · exact Digest.inFile_append hroot hd' hd
    · exact Except.ok.inj (hd.symm.trans hd')
  obtain rfl : ds' = ds := by
    have hpairs := Except.mapM_eq_ok_iff.1 hds
    rw [hmatching] at hpairs
    exact List.right_unique_forall₂' hunique (hds'.imp fun _ _ => Or.inl)
      (hpairs.imp fun _ _ => Or.inr)
  refine ⟨ds', ?_, hds'.imp fun file d hd => ?_, fun sections hsections hlimit hplain => ?_⟩
  · rw [Review.dryRun_outcome, hds]
    rfl
  · obtain ⟨bytes, source, -, -, hsource⟩ := Digest.inFile_eq_ok_iff.1 hd
    obtain ⟨hpath, hlanguage⟩ := Digest.names_of_ofSource hsource
    obtain ⟨notes, hfile⟩ := (Digest.reads_ofFile file file settings.scan.encoding
      settings.scan.strictParse).outcome_eq hd
    exact ⟨hpath, hlanguage, by rw [hfile]⟩
  · have hdigests : ds' ≠ [] := by
      rintro rfl
      exact hsome (List.forall₂_nil_right_iff.1 hds')
    have hbody : Review.body settings.comment ds' =
        .concat ([settings.comment.marker, " \n# Overview\n"] ++ sections) := by
      rw [Review.body, if_neg (by simpa using hdigests), ← hsections, Markdown.clip, if_pos hlimit,
        Markdown.comment_eq]
    have hplainBody : Console.escape ∉ Review.body settings.comment ds' := by
      rw [hbody]
      exact not_mem_report hmarker hplain
    have hsections' : (ds'.flatMap fun d =>
        shown (Markdown.digestSection settings.comment.fenceLanguage d)) =
          Text.concat (sections.map fun t => t ++ lineEnd) := by
      rw [Text.concat, ← List.flatMap_def, hsections, List.flatMap_map]
      refine List.flatMap_congr fun d hd => shown_of_not_mem (hplain _ ?_)
      rw [hsections]
      exact List.mem_map_of_mem hd
    have hline : Text.concat ([settings.comment.marker, " \n# Overview\n"] ++ sections) ++ lineEnd =
        Text.concat ([settings.comment.marker, " \n# Overview\n"] ++ sections ++ [lineEnd]) :=
      List.flatten_concat.symm
    rw [shown_of_not_mem hplainBody, hbody, hline] at hprinted
    rw [hsections'] at hprinted'
    rw [run, run]
    exact ⟨hended.trans (congrArg (Ending.mk done · [] none) hprinted),
      hended'.trans (congrArg (Ending.mk done · [] none) hprinted')⟩

/-! ### Instances -/

/-- The source of a file with a script. -/
def projectSource : Text := "(\x7bscript:\"hi\"\x7d)"

/-- A project with a file and settings. -/
def project (path : List Text) (config : Text) : Surroundings where
  files := {
    root := "/w"
    contents := [(path, Utf8.write projectSource),
      ([Settings.folderName, Settings.fileName], Utf8.write config)] }

/-- A project with nothing but defaults in its settings. -/
def plainProject : Surroundings := project ["dev", "a.js"] "\x7b\x7d"

/-- The digest of the file. -/
def projectDigest (path : Text) : Digest where
  filePath := path
  language := languageFor none path
  scripts := ["hi"]

theorem printSame_plain : Comparable {} plainProject ["dev/a.js"] ∧
    PrintSame {} plainProject ["dev/a.js"] := by
  have h : Comparable {} plainProject ["dev/a.js"] := {
    absolute := by decide
    loads := Except.eq_ok_of_toOption (by decide +kernel)
    ne_nil := List.cons_ne_nil _ _
    nodup := List.nodup_singleton _
    isInfix := by decide +kernel
    scanned := by decide +kernel
    reviewed := by decide +kernel }
  exact ⟨h, printSame h (by decide) (by decide)⟩

/-- The settings of a project whose marker has a sequence for a terminal in it. -/
def markedSettings : Settings := { comment := { markerId := "b\x1b[1mot" } }

/-- A project whose marker has a sequence for a terminal in it. -/
def markedProject : Surroundings :=
  project ["dev", "a.js"] "\x7b\"comment\":\x7b\"marker_id\":\"b\\u001b[1mot\"\x7d\x7d"

/-- The settings of a project all of whose files are reviewed. -/
def openSettings : Settings := { scan := { pathFilter := [] } }

/-- A project all of whose files are reviewed, with a file that has the name of an option. -/
def openProject : Surroundings :=
  project ["--help"] "\x7b\"scan\":\x7b\"path_filter\":\"\"\x7d\x7d"

/-- What is printed of one file, by its digest. -/
theorem PrintSame.endings {file : Text} {d : Digest} (h : PrintSame settings s [file])
    (hd : ((Digest.ofFile file file settings.scan.encoding settings.scan.strictParse).outcome
      s).1.toOption = some d)
    (hlimit : (Markdown.comment settings.comment.marker
      [Markdown.digestSection settings.comment.fenceLanguage d]).length ≤ settings.comment.maxLength)
    (hplain : Console.escape ∉ Markdown.digestSection settings.comment.fenceLanguage d) :
    (run (dryRunWords [file]) s).1.printed = s.printed ++ .concat [settings.comment.marker,
      " \n# Overview\n", Markdown.digestSection settings.comment.fenceLanguage d, lineEnd] ∧
    (run (scanWords [file]) s).1.printed = s.printed ++
      .concat [Markdown.digestSection settings.comment.fenceLanguage d ++ lineEnd] := by
  obtain ⟨ds, -, hpairs, hall⟩ := h
  obtain ⟨d', _, ⟨-, -, hd'⟩, hnil, rfl⟩ := List.forall₂_cons_left_iff.1 hpairs
  obtain rfl := List.forall₂_nil_left_iff.1 hnil
  obtain rfl : d' = d := Except.ok.inj (hd'.symm.trans (Except.eq_ok_of_toOption hd))
  obtain ⟨hreview, hscan⟩ := hall _ rfl hlimit (by simpa using hplain)
  rw [hreview, hscan]
  exact ⟨rfl, rfl⟩

/-- The sequence is printed in no marker, so the marker line is not that of the report; and a scan
of a file with the name of an option shows the help page. -/
theorem not_printSame :
    (Comparable markedSettings markedProject ["dev/a.js"] ∧
      ¬ PrintSame markedSettings markedProject ["dev/a.js"]) ∧
    (Comparable openSettings openProject ["--help"] ∧
      ¬ PrintSame openSettings openProject ["--help"]) := by
  have hmarked : Comparable markedSettings markedProject ["dev/a.js"] := {
    absolute := by decide
    loads := Except.eq_ok_of_toOption (by decide +kernel)
    ne_nil := List.cons_ne_nil _ _
    nodup := List.nodup_singleton _
    isInfix := by decide +kernel
    scanned := by decide +kernel
    reviewed := by decide +kernel }
  have hopen : Comparable openSettings openProject ["--help"] := {
    absolute := by decide
    loads := Except.eq_ok_of_toOption (by decide +kernel)
    ne_nil := List.cons_ne_nil _ _
    nodup := List.nodup_singleton _
    isInfix := by decide +kernel
    scanned := by decide +kernel
    reviewed := by decide +kernel }
  refine ⟨⟨hmarked, fun h => ?_⟩, hopen, fun h => ?_⟩
  · obtain ⟨hreview, -⟩ := h.endings (d := projectDigest "dev/a.js") (by decide +kernel)
      (by decide +kernel) (by decide +kernel)
    exact absurd hreview (by decide +kernel)
  · obtain ⟨-, hscan⟩ := h.endings (d := projectDigest "--help") (by decide +kernel)
      (by decide +kernel) (by decide +kernel)
    exact absurd hscan (by decide +kernel)

end CommandLine

end PullNotes
