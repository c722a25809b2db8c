import PullNotes.Proofs.Files
import PullNotes.Proofs.Json.Lines
import PullNotes.Proofs.SettingFields
import PullNotes.Proofs.Utf8

/-!
# Settings that are stored

Settings are stored as JSON in a file of the project.  What is loaded has no surrogate pair in two
halves and no number that is too long, and such settings come back as they were stored.

* `Settings.stored_eq_ok` : the settings that are loaded can be stored as they are.
* `Settings.stored_of_read` : the settings that are loaded after others were written.
* `Settings.save_cases` : saving fails and changes nothing, or the file holds what was saved.
-/

namespace PullNotes

open Run (Reads)

namespace Settings

variable {s new : Settings} {key value : Text} {levels : Json.Levels}

/-! ### Settings that are written -/

/-- The settings with the surrogate pairs in their texts made one. -/
def merged (s : Settings) : Settings where
  baseRef := s.baseRef.merged
  comment := ⟨s.comment.markerId.merged, s.comment.fenceLanguage.merged, s.comment.maxLength⟩
  scan := ⟨s.scan.pathFilter.merged, s.scan.strictParse, s.scan.encoding.merged⟩

theorem merged_merged (s : Settings) : s.merged.merged = s.merged := by
  simp only [merged, Text.merged_merged]

/-- The settings can be stored as they are. -/
structure Settled (s : Settings) : Prop where
  merged_eq : s.merged = s
  short : ¬ Json.TooLong s.comment.maxLength

theorem written_merged (s : Settings) : s.merged.written = s.written := by
  obtain ⟨baseRef, comment, ⟨pathFilter, strictParse, encoding⟩⟩ := s
  cases strictParse <;>
    simp only [written, merged, toMembers, commentMembers, scanMembers, Json.written,
      Json.writtenAt, Json.writtenMembers, Json.writtenText_merged]

theorem plain_toMembers (h : s.merged = s) :
    Json.Plain (fun n => n = s.comment.maxLength) (.object s.toMembers) := by
  have hkey : ∀ t : String, (Text.ofString t).merged = Text.ofString t := Text.merged_ofString
  have hbase : s.baseRef.merged = s.baseRef := congrArg baseRef h
  have hcomment : s.merged.comment = s.comment := congrArg comment h
  have hscan : s.merged.scan = s.scan := congrArg scan h
  have hplainComment : Json.Plain (fun n => n = s.comment.maxLength)
      (.object (commentMembers s.comment)) :=
    ⟨(by decide : [Text.ofString "marker_id", Text.ofString "fence_language",
        Text.ofString "max_length"].Nodup),
      hkey _, congrArg CommentSettings.markerId hcomment,
      hkey _, congrArg CommentSettings.fenceLanguage hcomment, hkey _, rfl, trivial⟩
  have hplainScan : Json.Plain (fun n => n = s.comment.maxLength)
      (.object (scanMembers s.scan)) :=
    ⟨(by decide : [Text.ofString "path_filter", Text.ofString "strict_parse",
        Text.ofString "encoding"].Nodup),
      hkey _, congrArg ScanSettings.pathFilter hscan, hkey _, trivial,
      hkey _, congrArg ScanSettings.encoding hscan, trivial⟩
  exact ⟨(by decide : [Text.ofString "base_ref", Text.ofString "comment",
      Text.ofString "scan"].Nodup),
    hkey _, hbase, hkey _, hplainComment, hkey _, hplainScan, trivial⟩

/-- **What is written of settings is read as the settings**, with their surrogate pairs made one. -/
theorem ofText_written (h : ¬ Json.TooLong s.comment.maxLength) (path : Text) :
    ofText none path s.written = .ok s.merged := by
  have hspells : Json.Spells (fun n => n = s.comment.maxLength) s.written
      (.object s.merged.toMembers) :=
    written_merged s ▸ Json.spells_written (.indented 2) (plain_toMembers (merged_merged s))
  have hread : Json.readWithin none s.written = .ok (.object s.merged.toMembers) :=
    hspells.read_eq_ok fun n hn => hn ▸ h
  simp only [ofText, hread, ofMembers_toMembers]

/-- The file that settings are written to is read as what was written. -/
theorem readFile_written (s : Settings) :
    Encoding.readFile Run.ownEncoding (Utf8.write s.written) = .ok s.written := by
  have hlined : Json.Lined s.written :=
    written_merged s ▸ Json.lined_written (.indented 2) (plain_toMembers (merged_merged s))
  refine Encoding.readFile_write (fun c hc => ?_) fun hreturn => ?_
  · rcases hlined c hc with hprintable | rfl
    · refine eq_false_of_ne_true fun hsurrogate => ?_
      have hrange := CodePoint.isSurrogate_iff.1 hsurrogate
      omega
    · decide
  · rcases hlined _ hreturn with hprintable | hfeed
    · exact absurd hprintable.1 (by decide)
    · exact absurd hfeed (by decide)

/-! ### Settings that are read -/

theorem merged_of_text {t whole : Text} {v : Json} (hv : Json.SettledIn whole v)
    (hwhole : whole.Scalar) (h : Check.text v = .ok t) : t.merged = t := by
  obtain rfl := Check.text_eq_ok h
  exact hv hwhole

/-- A field that is a text, of an object that is read, has no surrogate pair in two halves. -/
theorem merged_of_field {whole t : Text} {ms : List (Text × Json)} {name : String} {d : Text}
    (hms : Json.SettledMembersIn whole ms) (hwhole : whole.Scalar) (hd : d.merged = d)
    (h : Check.field ms name (some d) Check.text = .ok t) : t.merged = t := by
  refine Check.field_settled (P := fun t => t.merged = t) h hms
    (fun v t hv h => merged_of_text hv hwhole h) fun d' hd' => ?_
  rw [← Option.some.inj hd', hd]

theorem settled_of_checkComment {whole : Text} {v : Json} {c : CommentSettings}
    (hv : Json.SettledIn whole v) (hwhole : whole.Scalar) (h : checkComment v = .ok c) :
    c.markerId.merged = c.markerId ∧ c.fenceLanguage.merged = c.fenceLanguage ∧
      ¬ Json.TooLong c.maxLength := by
  obtain ⟨ms, hms, -⟩ := Except.bind_eq_ok_iff.1 h
  obtain rfl := Check.members_eq_ok hms
  obtain ⟨hmarker, hfence, hlength⟩ := checkComment_eq_ok_iff.1 h
  refine ⟨merged_of_field hv hwhole (Text.merged_ofString _) hmarker,
    merged_of_field hv hwhole (Text.merged_ofString _) hfence, ?_⟩
  refine Check.field_settled (P := fun n => ¬ Json.TooLong n) hlength hv
    (fun v n hv h => Check.whole_settled h hv) fun d hd => ?_
  rw [← Option.some.inj hd]
  decide

theorem settled_of_checkScan {whole : Text} {v : Json} {c : ScanSettings}
    (hv : Json.SettledIn whole v) (hwhole : whole.Scalar) (h : checkScan v = .ok c) :
    c.pathFilter.merged = c.pathFilter ∧ c.encoding.merged = c.encoding := by
  obtain ⟨ms, hms, -⟩ := Except.bind_eq_ok_iff.1 h
  obtain rfl := Check.members_eq_ok hms
  obtain ⟨hfilter, -, hencoding⟩ := checkScan_eq_ok_iff.1 h
  exact ⟨merged_of_field hv hwhole (Text.merged_ofString _) hfilter,
    merged_of_field hv hwhole (Text.merged_ofString _) hencoding⟩

theorem settled_default : Settled {} := by
  constructor
  · simp only [merged, Text.merged_ofString]
  · decide

theorem ofText_eq_ok {path t : Text} (h : ofText levels path t = .ok s) :
    ∃ ms, Json.readWithin levels t = .ok (.object ms) ∧ ofMembers ms = .ok s := by
  rw [ofText] at h
  split at h
  case h_1 => cases h
  case h_2 => cases h
  case h_3 => cases h
  case h_4 ms hread =>
    cases hms : ofMembers ms with
    | ok s' =>
      rw [hms] at h
      obtain rfl := Except.ok.inj h
      exact ⟨ms, hread, hms⟩
    | error issues =>
      rw [hms] at h
      cases h
  case h_5 => cases h

/-- **The settings that a text without surrogates spells** can be stored as they are. -/
theorem settled_of_ofText {path t : Text} (h : ofText levels path t = .ok s) (ht : t.Scalar) :
    s.Settled := by
  obtain ⟨ms, hread, hms⟩ := ofText_eq_ok h
  have heach : Json.SettledMembersIn t ms := Json.each_of_read hread
  obtain ⟨hbase, hcomment, hscan⟩ := ofMembers_eq_ok_iff.1 hms
  have hbase' : s.baseRef.merged = s.baseRef :=
    merged_of_field heach ht (Text.merged_ofString _) hbase
  obtain ⟨hmarker, hfence, hlength⟩ := Check.field_settled
    (P := fun c : CommentSettings => c.markerId.merged = c.markerId ∧
      c.fenceLanguage.merged = c.fenceLanguage ∧ ¬ Json.TooLong c.maxLength)
    hcomment heach (fun v c hv h => settled_of_checkComment hv ht h) fun d hd => by
      rw [← Option.some.inj hd]
      exact ⟨Text.merged_ofString _, Text.merged_ofString _, by decide⟩
  obtain ⟨hfilter, hencoding⟩ := Check.field_settled
    (P := fun c : ScanSettings => c.pathFilter.merged = c.pathFilter ∧
      c.encoding.merged = c.encoding)
    hscan heach (fun v c hv h => settled_of_checkScan hv ht h) fun d hd => by
      rw [← Option.some.inj hd]
      exact ⟨Text.merged_ofString _, Text.merged_ofString _⟩
  exact ⟨by rw [merged, hbase', hmarker, hfence, hfilter, hencoding], hlength⟩

/-! ### Loading -/

/-- The settings that are stored in the files, read to a number of levels. -/
def storedWithin (levels : Json.Levels) (root : Text) (files : Files) : Except Failure Settings := do
  if ← (files.isThere (filePath root)).mapError .file then
    let bytes ← (files.read (filePath root)).mapError .file
    let t ← (Encoding.readFile Run.ownEncoding bytes).mapError .coding
    ofText levels (filePath root) t
  else .ok {}

/-- The settings that are stored in the files. -/
abbrev stored (root : Text) (files : Files) : Except Failure Settings := storedWithin none root files

theorem reads_loadWithin (levels : Json.Levels) (root : Text) :
    Reads (loadWithin levels root) (storedWithin levels root) := by
  intro surroundings
  have hthere : ∀ there : Bool, Reads
      (if there then Run.readText Run.ownEncoding (filePath root) >>= fun t =>
        Run.ofExcept id (ofText levels (filePath root) t) else pure ({} : Settings))
      fun files => if there then
        (files.read (filePath root)).mapError .file >>= fun bytes =>
          (Encoding.readFile Run.ownEncoding bytes).mapError .coding >>=
            ofText levels (filePath root)
        else .ok {} := by
    intro there
    cases there with
    | false => exact Run.reads_pure ({} : Settings)
    | true =>
      refine ((Run.reads_readText Run.ownEncoding (filePath root)).bind fun t =>
        Run.reads_ofFailing (ofText levels (filePath root) t)).congr fun files => ?_
      exact bind_assoc _ _ _
  exact (Run.reads_ofExcept .file (surroundings.files.isThere (filePath root))).bind hthere
    surroundings

theorem reads_load (root : Text) : Reads (load root) (stored root) := reads_loadWithin none root

/-- **The settings that are loaded** can be stored as they are, and their file can be read if it is
there. -/
theorem stored_eq_ok {root : Text} {files : Files} (h : storedWithin levels root files = .ok s) :
    s.Settled ∧ (files.isThere (filePath root) = .ok false ∨
      ∃ bytes, files.read (filePath root) = .ok bytes) := by
  obtain ⟨there, hthere, h⟩ := Except.bind_eq_ok_iff.1 h
  rw [Except.mapError_eq_ok_iff] at hthere
  cases there with
  | false => exact ⟨Except.ok.inj h ▸ settled_default, Or.inl hthere⟩
  | true =>
    obtain ⟨bytes, hbytes, h⟩ := Except.bind_eq_ok_iff.1 h
    obtain ⟨t, ht, h⟩ := Except.bind_eq_ok_iff.1 h
    rw [Except.mapError_eq_ok_iff] at hbytes ht
    exact ⟨settled_of_ofText h (Encoding.scalar_of_readFile ht), Or.inr ⟨bytes, hbytes⟩⟩

/-- **Settings that were written are loaded again**, with their surrogate pairs made one. -/
theorem stored_of_read {root : Text} {files : Files}
    (hthere : files.isThere (filePath root) = .ok true)
    (hread : files.read (filePath root) = .ok (Utf8.write s.written))
    (hshort : ¬ Json.TooLong s.comment.maxLength) : stored root files = .ok s.merged := by
  simp only [storedWithin, hthere, hread, Except.mapError, bind, Except.bind, readFile_written,
    if_true, ofText_written hshort]

/-! ### Saving -/

theorem isComponent_folderName : Path.IsComponent folderName :=
  ⟨by decide, by decide, by decide⟩

/-- The name of the settings file. -/
def fileName : Text := "config.json"

theorem isComponent_fileName : Path.IsComponent fileName := ⟨by decide, by decide, by decide⟩

theorem filePath_eq (root : Text) : filePath root = folder root ++ Path.slash :: fileName :=
  Path.append_append isComponent_folderName isComponent_fileName root

/-- No null is in the path of the settings file if none is in that of the project. -/
theorem contains_null_filePath {root : Text} (h : root.contains CodePoint.null = false) :
    (filePath root).contains CodePoint.null = false := by
  have hroot : CodePoint.null ∉ root := by simpa using h
  have hfile : CodePoint.null ∉ filePath root := by
    intro hmem
    rcases Path.mem_append isComponent_fileName hmem with hfolder | hname | hslash
    · rcases Path.mem_append isComponent_folderName hfolder with hroot' | hname | hslash
      · exact hroot hroot'
      · exact absurd hname (by decide)
      · exact absurd hslash (by decide)
    · exact absurd hname (by decide)
    · exact absurd hslash (by decide)
  simpa using hfile

/-- The settings file can be written once its folder is made. -/
theorem exists_write_of_makeFolder {root : Text} {files made : Files}
    (hno : files.NoFolder (filePath root)) (h : files.makeFolder (folder root) = .ok made)
    (bytes : Bytes) : ∃ files', made.write (filePath root) bytes = .ok files' := by
  rw [filePath_eq] at hno ⊢
  exact Files.write_after_makeFolder (Path.getLast?_splitOn_append isComponent_folderName root)
    isComponent_folderName (by decide) isComponent_fileName (by decide) (by decide) hno h

theorem outcome_save {root : Text} {surroundings : Surroundings} {made files' : Files}
    (hmade : surroundings.files.makeFolder (folder root) = .ok made)
    (hwrite : made.write (filePath root) (Utf8.write new.written) = .ok files') :
    (save root new).outcome surroundings = (.ok (), { surroundings with files := files' }) := by
  have hfolder := Run.outcome_bind_ok (k := fun _ => Run.changeFiles
    (Files.write · (filePath root) (Utf8.write new.written)))
    (Run.outcome_changeFiles_ok (f := (Files.makeFolder · (folder root))) hmade)
  exact hfolder.trans (Run.outcome_changeFiles_ok
    (f := (Files.write · (filePath root) (Utf8.write new.written))) hwrite)

/-- **Settings are saved as a whole**, in any surroundings with the files: saving fails and changes
nothing, or the file is there afterwards and holds what was written. -/
theorem save_cases {root : Text} {files : Files} (hroot : files.isThere root = .ok true)
    (h : storedWithin levels root files = .ok s) (new : Settings) :
    (∃ e, ∀ surroundings : Surroundings, surroundings.files = files →
      (save root new).outcome surroundings = (.error (.file e), surroundings)) ∨
    ∃ files', (∀ surroundings : Surroundings, surroundings.files = files →
        (save root new).outcome surroundings = (.ok (), { surroundings with files := files' })) ∧
      files'.isThere (filePath root) = .ok true ∧
      files'.read (filePath root) = .ok (Utf8.write new.written) := by
  have hnull : (filePath root).contains CodePoint.null = false := by
    refine contains_null_filePath (eq_false_of_ne_true fun hnull => ?_)
    rw [Files.isThere, if_pos hnull] at hroot
    cases hroot
  cases hfolder : files.makeFolder (folder root) with
  | error e =>
    refine Or.inl ⟨e, ?_⟩
    rintro surroundings rfl
    exact Run.outcome_bind_error
      (Run.outcome_changeFiles_error (f := (Files.makeFolder · (folder root))) hfolder)
  | ok made =>
    -- what was loaded is a file, or there was nothing
    have hno : files.NoFolder (filePath root) := by
      rcases (stored_eq_ok h).2 with hthere | ⟨bytes, hread⟩
      · exact Files.noFolder_of_not_isThere hnull hthere
      · exact Files.noFolder_of_read hread
    obtain ⟨files', hfiles'⟩ := exists_write_of_makeFolder hno hfolder (Utf8.write new.written)
    obtain ⟨hread, hthere⟩ := Files.read_of_write hfiles' hnull
    refine Or.inr ⟨files', ?_, hthere, hread⟩
    rintro surroundings rfl
    exact outcome_save hfolder hfiles'

/-! ### Settings that are changed -/

theorem Sets.short (h : Sets s value key new) (hs : ¬ Json.TooLong s.comment.maxLength) :
    ¬ Json.TooLong new.comment.maxLength := by
  cases h with
  | maxLength hn =>
    have heach : Json.Each (fun n => ¬ Json.TooLong n) (fun _ => True) (.text value) := trivial
    exact Check.whole_settled hn heach
  | _ => exact hs

/-- The keys whose values are stored as the texts that they are. -/
def textKeys : List Text := ["base_ref", "comment.marker_id", "comment.fence_language",
  "scan.path_filter", "scan.encoding"]

/-- Settings that could be stored still can after a change, unless a text with a surrogate pair in
two halves came into them. -/
theorem Sets.merged_eq_iff (h : Sets s value key new) (hs : s.merged = s) :
    new.merged = new ↔ (key ∈ textKeys → value.merged = value) := by
  obtain ⟨baseRef, ⟨markerId, fenceLanguage, maxLength⟩, ⟨pathFilter, strictParse, encoding⟩⟩ := s
  simp only [merged, Settings.mk.injEq, CommentSettings.mk.injEq, ScanSettings.mk.injEq] at hs
  obtain ⟨hbase, ⟨hmarker, hfence, -⟩, hfilter, -, hencoding⟩ := hs
  by_cases hkey : key ∈ textKeys
  · have htext : new.merged = new ↔ value.merged = value := by
      cases h with
      | maxLength => exact absurd hkey (by decide)
      | strictParse => exact absurd hkey (by decide)
      | _ => simp [merged, hbase, hmarker, hfence, hfilter, hencoding]
    rw [htext]
    exact ⟨fun h _ => h, fun h => h hkey⟩
  · have hother : new.merged = new := by
      cases h with
      | maxLength => simp [merged, hbase, hmarker, hfence, hfilter, hencoding]
      | strictParse => simp [merged, hbase, hmarker, hfence, hfilter, hencoding]
      | _ => exact absurd (by decide) hkey
    exact ⟨fun _ h => absurd h hkey, fun _ => hother⟩

end Settings

end PullNotes
