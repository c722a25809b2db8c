import PullNotes.Proofs.Json.Limits
import PullNotes.Proofs.Messages
import PullNotes.Proofs.SettingChange

/-!
# Settings files that cannot be used

A settings file may hold any bytes.  Loading it gives settings or a failure that names the file,
unless the bytes are not those of a text in UTF-8 or the text is beyond a limit of the reader: a
whole number in it has too many digits, or its brackets go deeper than the host allows.  The program
is not prepared for these.  A command that loads the settings reports the failures that name the
file, and ends with the status of a failure; but the report is markup, with parts of the file in it,
and a console need not be able to show that.

* `Settings.Foreseen` : what can come of loading settings.
* `Settings.foreseen_iff` : the files that the loading of settings is prepared for.
* `CommandLine.Request.project?` : the requests that load settings.
* `CommandLine.ReportsSettings` : a program that says that its settings cannot be used.
* `CommandLine.settings_reported_iff` : the files that are reported.
-/

namespace PullNotes

namespace Settings

/-- What can come of loading settings from a path: settings, or a failure that names the path. -/
inductive Foreseen (path : Text) : Except Failure Settings → Prop where
  | loaded (s : Settings) : Foreseen path (.ok s)
  | refused (fault : SettingsFault) : Foreseen path (.error (.settings path fault))

variable {levels : Json.Levels}

/-- The loading of settings is prepared for every text, but for one that is beyond a limit. -/
theorem foreseen_ofText_iff {path t : Text} : Foreseen path (ofText levels path t) ↔
    ∀ e, Json.readWithin levels t = .error e → e.isFault = true := by
  rw [ofText]
  cases hread : Json.readWithin levels t with
  | error e =>
    simp only [Except.error.injEq, forall_eq']
    cases e with
    | malformed fault line column index =>
      cases fault with
      | tooDeep bracket =>
        refine iff_of_false (fun h => ?_) Bool.false_ne_true
        cases h
      | _ => exact iff_of_true (.refused _) rfl
    | numeral e =>
      refine iff_of_false (fun h => ?_) Bool.false_ne_true
      cases h
  | ok v =>
    refine iff_of_true ?_ fun e he => by cases he
    cases v with
    | object ms =>
      simp only
      cases ofMembers ms with
      | ok s => exact .loaded s
      | error issues => exact .refused _
    | _ => exact .refused _

/-- The bytes are those of a text in UTF-8 that is within the limits of the reader. -/
def Readable (levels : Json.Levels) (bytes : Bytes) : Prop :=
  ∃ t : Text, t.Scalar ∧ Utf8.write t = bytes ∧
    ∀ e, Json.readWithin levels t.withLineFeeds = .error e → e.isFault = true

/-- The only texts that cannot be read have too many digits in a row, or too many brackets. -/
theorem limit_of_not_readable {t : Text} (ht : t.Scalar)
    (h : ¬ Readable levels (Utf8.write t)) :
    Json.LongRun t.withLineFeeds ∨ Json.Deep levels t.withLineFeeds := by
  by_contra hlimits
  refine h ⟨t, ht, rfl, fun e he => ?_⟩
  by_contra hfault
  exact hlimits (Json.longRun_or_deep_of_readWithin he (Bool.eq_false_iff.2 hfault))

variable {root : Text} {files : Files} {bytes : Bytes}

/-- **The files that the loading of settings is prepared for.** -/
theorem foreseen_iff (hthere : files.isThere (filePath root) = .ok true)
    (hread : files.read (filePath root) = .ok bytes) :
    Foreseen (filePath root) (storedWithin levels root files) ↔ Readable levels bytes := by
  have hstored : storedWithin levels root files =
      (Encoding.readFile Run.ownEncoding bytes).mapError .coding >>=
        ofText levels (filePath root) := by
    simp only [storedWithin, hthere, hread]
    rfl
  rw [hstored]
  cases hfile : Encoding.readFile Run.ownEncoding bytes with
  | error e =>
    refine iff_of_false (fun h => ?_) ?_
    · cases h
    · rintro ⟨t, hscalar, hbytes, -⟩
      rw [Encoding.readFile_own_eq_ok_iff.2 ⟨t, hscalar, hbytes, rfl⟩] at hfile
      cases hfile
  | ok u =>
    refine foreseen_ofText_iff.trans ⟨fun h => ?_, ?_⟩
    · obtain ⟨t, hscalar, hbytes, rfl⟩ := Encoding.readFile_own_eq_ok_iff.1 hfile
      exact ⟨t, hscalar, hbytes, h⟩
    · rintro ⟨t, hscalar, hbytes, h⟩
      rw [Encoding.readFile_own_eq_ok_iff.2 ⟨t, hscalar, hbytes, rfl⟩] at hfile
      obtain rfl := Except.ok.inj hfile
      exact h

end Settings

namespace CommandLine

open Settings (filePath Foreseen Readable)

/-- The project whose settings are loaded for a request, if there is one. -/
def Request.project? (files : Files) : Request → Option Text
  | .review r => some (checkout files r.path)
  | .scan _ => some (files.absolute here)
  | .showSettings path => some (checkout files path)
  | .changeSetting _ _ path => some (checkout files path)
  | .help _ => none
  | .version => none

/-- The words that a report about a settings file begins with. -/
def reportWords : Text := "Invalid config file "

/-- The program said what is wrong with the settings of a project, and ended with the status of a
failure. -/
structure ReportsSettings (render : Renderer) (root : Text) (fault : SettingsFault)
    (before : Surroundings) (ending : Ending) : Prop where
  status : ending.status = failed
  failure : ending.failure = none
  printed : ∃ shown,
    Console.messageBy render .problem (Failure.settings (filePath root) fault).message = .ok shown ∧
      Console.Mood.problem.sign ++ reportWords <+: shown ∧ ending.printed = before.printed ++ shown

variable {host : Host} {s : Surroundings} {root : Text} {request : Request} {words : List Text}

/-- A request first of all loads the settings of its project. -/
theorem perform_loads (hproject : request.project? s.files = some root)
    (hroot : s.files.isThere root = .ok true) : ∃ next : Settings → Run Nat,
      (perform host request).outcome s =
        (prepared host (Settings.loadWithin host.levels root) next).outcome s := by
  cases request with
  | review r =>
    obtain rfl : checkout s.files r.path = root := Option.some.inj hproject
    refine ⟨fun settings =>
      prepared host (reviewOutcome (checkout s.files r.path) settings r) (announce host), ?_⟩
    rw [perform, review, outcome_inCheckout hroot]
  | scan r =>
    obtain rfl : s.files.absolute here = root := Option.some.inj hproject
    exact ⟨fun settings => scanFiles host settings r r.files, rfl⟩
  | showSettings path =>
    obtain rfl : checkout s.files path = root := Option.some.inj hproject
    refine ⟨fun settings => do write settings.written; return done, ?_⟩
    rw [perform, showSettings, outcome_inCheckout hroot]
  | changeSetting key value path =>
    obtain rfl : checkout s.files path = root := Option.some.inj hproject
    refine ⟨fun settings => reporting host isRefusal Failure.message
      (settings.withKey key (.text value)) (conclude host (checkout s.files path) key value), ?_⟩
    rw [perform, changeSetting, outcome_inCheckout hroot]
    rfl
  | help page => cases hproject
  | version => cases hproject

/-- A failure of the loading that the program is not prepared for ends it at once, and nothing is
printed. -/
theorem runOn_of_unforeseen (hwords : Request.read s.files words = .ok request)
    (hproject : request.project? s.files = some root) (hroot : s.files.isThere root = .ok true)
    {f : Failure} (hload : Settings.storedWithin host.levels root s.files = .error f)
    (hf : f.isReported = false) :
    (runOn host words s).1.failure = some f ∧ (runOn host words s).1.printed = s.printed := by
  obtain ⟨next, hperform⟩ := perform_loads hproject hroot
  obtain ⟨notes, hfails⟩ := (Settings.reads_loadWithin host.levels root).outcome_eq hload
  have hended : (perform host request).outcome s = (.error f, s.noting notes) := by
    rw [hperform, prepared, outcome_reporting_error hfails, if_neg (by simp [hf])]
    rfl
  rw [runOn_of_read host hwords, hended]
  exact ⟨rfl, rfl⟩

/-- A fault of the settings is reported exactly if that can be said. -/
theorem reportsSettings_iff (hrender : Console.ShowsPlain host.render)
    (hwords : Request.read s.files words = .ok request)
    (hproject : request.project? s.files = some root) (hroot : s.files.isThere root = .ok true)
    {fault : SettingsFault}
    (hload : Settings.storedWithin host.levels root s.files =
      .error (.settings (filePath root) fault)) :
    ReportsSettings host.render root fault s (runOn host words s).1 ↔
      Tells host.render .problem (Failure.settings (filePath root) fault).message := by
  obtain ⟨next, hperform⟩ := perform_loads hproject hroot
  obtain ⟨notes, hfails⟩ := (Settings.reads_loadWithin host.levels root).outcome_eq hload
  have hended : (perform host request).outcome s =
      (do say host .problem (Failure.settings (filePath root) fault).message; return failed :
        Run Nat).outcome (s.noting notes) := by
    rw [hperform, prepared, outcome_reporting_error hfails, Failure.isReported, if_pos rfl]
  rw [runOn_of_read host hwords]
  by_cases htells : Tells host.render .problem (Failure.settings (filePath root) fault).message
  · obtain ⟨shown, hshown, hsay⟩ := exists_outcome_say htells (s.noting notes)
    rw [hended.trans (Run.outcome_bind_ok hsay)]
    have hmessage : (Failure.settings (filePath root) fault).message =
        reportWords ++ (Text.concat [filePath root, ": "] ++ fault.message) := by
      simp [Failure.message, Failure.settingsPrelude, Text.concat, reportWords]
    have hwords : Console.Mood.problem.sign ++ reportWords <+: shown := by
      rw [hmessage] at hshown
      exact Console.messageBy_plain hrender (by decide) hshown
    exact iff_of_true ⟨rfl, rfl, shown, hshown, hwords, rfl⟩ htells
  · obtain ⟨e, hsay⟩ := say_of_not_tells htells (s.noting notes)
    rw [hended.trans (Run.outcome_bind_error hsay)]
    refine iff_of_false (fun h => ?_) htells
    have hnone := h.failure
    cases hnone

/-- **Which settings files are reported.**  A settings file that can be read off the disk gives
settings or a failure that names it exactly if its bytes are those of a text in UTF-8 within the
limits of the reader, so a text that is not read has too many digits in a row, or more opening
brackets than there are levels.  A command that loads the settings gets them, or reports the failure
and ends with the status of a failure, exactly if moreover the report can be said.  All that has to
be known of what reads the markup is that it shows plain words. -/
theorem settings_reported_iff {bytes : Bytes} (hrender : Console.ShowsPlain host.render)
    (hwords : Request.read s.files words = .ok request)
    (hproject : request.project? s.files = some root) (hroot : s.files.isThere root = .ok true)
    (hthere : s.files.isThere (filePath root) = .ok true)
    (hread : s.files.read (filePath root) = .ok bytes) :
    (Foreseen (filePath root) ((Settings.loadWithin host.levels root).outcome s).1 ↔
      Readable host.levels bytes) ∧
    (∀ t : Text, t.Scalar → Utf8.write t = bytes → ¬ Readable host.levels bytes →
      Json.LongRun t.withLineFeeds ∨ Json.Deep host.levels t.withLineFeeds) ∧
    ((∃ settings, ((Settings.loadWithin host.levels root).outcome s).1 = .ok settings) ∨
        (∃ fault, ((Settings.loadWithin host.levels root).outcome s).1 =
            .error (.settings (filePath root) fault) ∧
          ReportsSettings host.render root fault s (runOn host words s).1) ↔
      Readable host.levels bytes ∧ ∀ fault,
        ((Settings.loadWithin host.levels root).outcome s).1 =
            .error (.settings (filePath root) fault) →
          Tells host.render .problem (Failure.settings (filePath root) fault).message) := by
  have hload : ((Settings.loadWithin host.levels root).outcome s).1 =
      Settings.storedWithin host.levels root s.files := by
    obtain ⟨notes, h⟩ := Settings.reads_loadWithin host.levels root s
    rw [h]
  have hforeseen : Foreseen (filePath root) (Settings.storedWithin host.levels root s.files) ↔
      Readable host.levels bytes := Settings.foreseen_iff hthere hread
  rw [hload]
  refine ⟨hforeseen, ?_, ?_⟩
  · rintro t ht rfl
    exact Settings.limit_of_not_readable ht
  rw [← hforeseen]
  constructor
  · rintro (⟨settings, hsettings⟩ | ⟨fault, hfault, hreports⟩)
    · rw [hsettings]
      exact ⟨.loaded settings, nofun⟩
    · refine ⟨hfault ▸ .refused fault, fun fault' hfault' => ?_⟩
      exact (reportsSettings_iff hrender hwords hproject hroot hfault').1 (by
        rw [hfault] at hfault'
        obtain ⟨-, rfl⟩ := Failure.settings.inj (Except.error.inj hfault')
        exact hreports)
  · rintro ⟨hcase, htells⟩
    cases hresult : Settings.storedWithin host.levels root s.files with
    | ok settings => exact Or.inl ⟨settings, rfl⟩
    | error f =>
      rw [hresult] at hcase
      cases hcase with
      | refused fault =>
        have htold := htells fault hresult
        exact Or.inr ⟨fault, rfl, (reportsSettings_iff hrender hwords hproject hroot hresult).2 htold⟩

/-- A project with a settings file. -/
def projectWith (content : Bytes) : Surroundings where
  files := { root := "/work", contents := [([Settings.folderName, Settings.fileName], content)] }

/-- The words that ask for the settings to be shown. -/
def showWords : List Text := ["config", "show"]

theorem read_showWords (content : Bytes) :
    Request.read (projectWith content).files showWords = .ok (.showSettings none) ∧
      Request.project? (projectWith content).files (.showSettings none) =
        some (Text.ofString "/work") ∧
      (projectWith content).files.isThere "/work" = .ok true ∧
      (projectWith content).files.isThere (filePath "/work") = .ok true ∧
      (projectWith content).files.read (filePath "/work") = .ok content :=
  ⟨rfl, rfl, rfl, rfl, rfl⟩

/-- A settings file that is not JSON is reported. -/
theorem settings_reported_malformed :
    Request.read (projectWith (Utf8.write "[")).files showWords = .ok (.showSettings none) ∧
      (projectWith (Utf8.write "[")).files.isThere "/work" = .ok true ∧
      ∃ fault, ((Settings.load "/work").outcome (projectWith (Utf8.write "["))).1 =
          .error (.settings (filePath "/work") fault) ∧
        ReportsSettings Markup.standard "/work" fault (projectWith (Utf8.write "["))
          (run showWords (projectWith (Utf8.write "["))).1 := by
  have hmalformed : Json.read (Text.withLineFeeds "[") =
      .error (.malformed .expectingValue 1 2 1) := rfl
  have hload : ((Settings.load "/work").outcome (projectWith (Utf8.write "["))).1 =
      .error (.settings (filePath "/work") (.malformed (.malformed .expectingValue 1 2 1))) := rfl
  have hreadable : Readable none (Utf8.write "[") := by
    refine ⟨"[", by decide, rfl, fun e he => ?_⟩
    obtain rfl := Except.error.inj (hmalformed.symm.trans he)
    rfl
  have htells : ∀ fault, ((Settings.load "/work").outcome (projectWith (Utf8.write "["))).1 =
      .error (.settings (filePath "/work") fault) →
        Tells Markup.standard .problem (Failure.settings (filePath "/work") fault).message := by
    intro fault hfault
    rw [hload] at hfault
    obtain ⟨-, rfl⟩ := Failure.settings.inj (Except.error.inj hfault)
    decide +kernel
  have hrender : Console.ShowsPlain ({} : Host).render := Console.showsPlain_render Handler.evaluate
  obtain ⟨hwords, hproject, hroot, hthere, hread⟩ := read_showWords (Utf8.write "[")
  refine ⟨hwords, hroot, ?_⟩
  rcases (settings_reported_iff hrender hwords hproject hroot hthere hread).2.2.2
    ⟨hreadable, htells⟩ with ⟨settings, hsettings⟩ | hreports
  · cases hload.symm.trans hsettings
  · exact hreports

/-- A settings file with a number that is too long ends the program at once. -/
theorem not_foreseen_of_readWithin {t : Text} {e : NumeralError} (ht : t.Scalar)
    (hreturn : CodePoint.carriageReturn ∉ t) (hread : Json.readWithin none t = .error (.numeral e)) :
    ¬ Foreseen (filePath "/work")
        ((Settings.load "/work").outcome (projectWith (Utf8.write t))).1 ∧
      (run showWords (projectWith (Utf8.write t))).1.failure = some (.json (.numeral e)) ∧
      (run showWords (projectWith (Utf8.write t))).1.printed = [] := by
  obtain ⟨hwords, hproject, hroot, hthere, hcontent⟩ := read_showWords (Utf8.write t)
  have hload : Settings.stored "/work" (projectWith (Utf8.write t)).files =
      .error (.json (.numeral e)) := by
    simp only [Settings.stored, Settings.storedWithin, hthere, hcontent, Except.mapError, bind,
      Except.bind, Encoding.readFile_write ht hreturn, if_true, Settings.ofText, hread]
  obtain ⟨notes, houtcome⟩ :=
    (Settings.reads_load "/work").outcome_eq (s := projectWith (Utf8.write t)) hload
  have hstored : Settings.storedWithin ({} : Host).levels "/work"
      (projectWith (Utf8.write t)).files = .error (.json (.numeral e)) := hload
  rw [houtcome, run]
  refine ⟨fun h => ?_, runOn_of_unforeseen hwords hproject hroot hstored rfl⟩
  cases h

/-- A whole number with one digit more than is read. -/
def longNumber : Text := List.replicate (Numeral.maxDigits + 1) (('1' : Char) : CodePoint)

theorem eq_of_mem_longNumber : ∀ c ∈ longNumber, c = (('1' : Char) : CodePoint) :=
  fun _ => List.eq_of_mem_replicate

theorem read_longNumber : Json.readWithin none longNumber =
    .error (.numeral (.tooLong (Numeral.maxDigits + 1))) := by
  have hlength : longNumber.length = Numeral.maxDigits + 1 := List.length_replicate
  have hones := eq_of_mem_longNumber
  cases hcons : longNumber with
  | nil =>
    rw [hcons] at hlength
    cases hlength
  | cons c digits =>
    rw [hcons] at hones hlength
    rw [← hlength]
    refine Json.readWithin_of_digits ?_ (fun d hd => ?_) (by omega) none
    · rw [hones c List.mem_cons_self]
      decide
    · rw [hones d hd]
      rfl

/-- JSON in which the settings of the comment are a closing tag. -/
def closingTag : Text := "\x7b\"comment\": \"[/x]\"\x7d"

/-- A number with too many digits is not foreseen, and what is wrong with a value that closes a tag
cannot be said: the program ends at once in both cases, and says nothing. -/
theorem settings_not_reported :
    (¬ Foreseen (filePath "/work")
        ((Settings.load "/work").outcome (projectWith (Utf8.write longNumber))).1 ∧
      (run showWords (projectWith (Utf8.write longNumber))).1.failure =
        some (.json (.numeral (.tooLong (Numeral.maxDigits + 1)))) ∧
      (run showWords (projectWith (Utf8.write longNumber))).1.printed = []) ∧
    ((Settings.load "/work").outcome (projectWith (Utf8.write closingTag))).1.toBool = false ∧
      (run showWords (projectWith (Utf8.write closingTag))).1.failure.isSome = true ∧
      (run showWords (projectWith (Utf8.write closingTag))).1.printed = [] := by
  refine ⟨not_foreseen_of_readWithin (fun c hc => ?_) (fun hreturn => ?_) read_longNumber, ?_, ?_, ?_⟩
  · rw [eq_of_mem_longNumber c hc]
    rfl
  · exact absurd (eq_of_mem_longNumber _ hreturn) (by decide)
  · decide +kernel
  · decide +kernel
  · decide +kernel

end CommandLine

end PullNotes
