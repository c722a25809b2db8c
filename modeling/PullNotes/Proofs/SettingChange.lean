import PullNotes.CommandLine.Program
import PullNotes.Proofs.Settings

/-!
# A setting that is changed

The command that changes a setting loads the settings, changes one of them, saves the new settings
and says what was set.  It fails before anything is saved, or it saves; but what it says is markup
with the key and the value in it, and saying it can fail when the settings are saved already.  When
it fails is up to the console, so this is said of every reader of markup.

* `CommandLine.read_setting` : every key and every value can be asked for.
* `CommandLine.Tells` : what is said on the console can be said.
* `CommandLine.changeSetting_cases` : how the command goes.
* `CommandLine.allOrNothing_iff` : when it does all that is asked for or nothing.
-/

namespace PullNotes

open Run (Reads)

namespace CommandLine

/-- **Every key and every value** can be asked for, behind two dashes. -/
theorem read_setting (files : Files) (key value : Text) :
    Request.read files ["config", "set", "--", key, value] =
      .ok (.changeSetting key value none) := rfl

/-! ### What is said -/

/-- What is said can be said: it is markup, and what it shows has no surrogates in it. -/
def Tells (render : Renderer) (mood : Console.Mood) (text : Text) : Prop :=
  ∃ shown chars, Console.messageBy render mood text = .ok shown ∧ shown.toCharsOrError = .ok chars

instance (render : Renderer) (mood : Console.Mood) (text : Text) :
    Decidable (Tells render mood text) :=
  match hshown : Console.messageBy render mood text with
  | .error _ => .isFalse fun ⟨_, _, hshown', _⟩ => nomatch hshown.symm.trans hshown'
  | .ok shown =>
    match hchars : shown.toCharsOrError with
    | .ok chars => .isTrue ⟨shown, chars, hshown, hchars⟩
    | .error _ => .isFalse <| by
      rintro ⟨shown', chars, hshown', hchars'⟩
      obtain rfl := Except.ok.inj (hshown.symm.trans hshown')
      rw [hchars] at hchars'
      cases hchars'

variable {host : Host} {mood : Console.Mood} {text : Text}

/-- What can be said is printed. -/
theorem exists_outcome_say (h : Tells host.render mood text) (s : Surroundings) :
    ∃ shown, Console.messageBy host.render mood text = .ok shown ∧
      (say host mood text).outcome s = (.ok (), { s with printed := s.printed ++ shown }) := by
  obtain ⟨shown, chars, hshown, hchars⟩ := h
  refine ⟨shown, hshown, ?_⟩
  rw [say, hshown]
  exact Run.outcome_printOr_ok hchars s

theorem say_of_tells (h : Tells host.render mood text) (s : Surroundings) :
    ∃ s', (say host mood text).outcome s = (.ok (), s') ∧ s'.files = s.files := by
  obtain ⟨shown, -, hsay⟩ := exists_outcome_say h s
  exact ⟨_, hsay, rfl⟩

theorem say_of_not_tells (h : ¬ Tells host.render mood text) (s : Surroundings) :
    ∃ e, (say host mood text).outcome s = (.error e, s) := by
  cases hshown : Console.messageBy host.render mood text with
  | error e =>
    rw [say, hshown]
    exact ⟨.markup e, rfl⟩
  | ok shown =>
    cases hchars : shown.toCharsOrError with
    | ok chars => exact absurd ⟨shown, chars, hshown, hchars⟩ h
    | error e =>
      rw [say, hshown]
      exact ⟨.display e, Run.outcome_printOr_error hchars s⟩

/-! ### Going on -/

/-- The run does not end well, and the files are as they were. -/
def Stops (r : Run Nat) (s : Surroundings) : Prop :=
  (r.outcome s).1 ≠ .ok done ∧ (r.outcome s).2.files = s.files

theorem stops_of_error {r : Run Nat} {s s' : Surroundings} {e : Failure}
    (h : r.outcome s = (.error e, s')) (hfiles : s'.files = s.files) : Stops r s := by
  rw [Stops, h]
  exact ⟨nofun, hfiles⟩

theorem stops_report (host : Host) (mood : Console.Mood) (text : Text) (s : Surroundings) :
    Stops (do say host mood text; return failed) s := by
  by_cases h : Tells host.render mood text
  · obtain ⟨s', hsay, hfiles⟩ := say_of_tells h s
    rw [Stops, Run.outcome_bind_ok hsay]
    exact ⟨nofun, hfiles⟩
  · obtain ⟨e, hsay⟩ := say_of_not_tells h s
    exact stops_of_error (Run.outcome_bind_error hsay) rfl

section

variable {α : Type} {reported : Failure → Bool} {words : Failure → Text} {action : Run α}
  {next : α → Run Nat} {s s' : Surroundings}

theorem outcome_reporting {a : α} (h : action.outcome s = (.ok a, s')) :
    (reporting host reported words action next).outcome s = (next a).outcome s' :=
  Run.outcome_bind_ok (Run.outcome_observe h)

/-- A failure is said, or ends the program. -/
theorem outcome_reporting_error {f : Failure} (h : action.outcome s = (.error f, s')) :
    (reporting host reported words action next).outcome s =
      (if reported f then do say host .problem (words f); return failed else throw f : Run Nat).outcome
        s' :=
  Run.outcome_bind_ok (Run.outcome_observe h)

theorem stops_reporting {f : Failure} (h : action.outcome s = (.error f, s'))
    (hfiles : s'.files = s.files) : Stops (reporting host reported words action next) s := by
  rw [Stops, outcome_reporting_error h, ← hfiles]
  split
  · exact stops_report host .problem (words f) s'
  · exact ⟨nofun, rfl⟩

end

/-- The directory of the checkout that is meant by a path, if one is given. -/
def checkout (files : Files) (path : Option Text) : Text :=
  files.absolute (match path with
    | some (c :: cs) => c :: cs
    | _ => here)

theorem outcome_inCheckout {path : Option Text} {s : Surroundings} {next : Text → Run Nat}
    (h : s.files.isThere (checkout s.files path) = .ok true) :
    (inCheckout host path next).outcome s = (next (checkout s.files path)).outcome s := by
  have hgo : (inCheckout host path next).outcome s =
      (Run.ofExcept .file (s.files.isThere (checkout s.files path)) >>= fun there =>
        if there then next (checkout s.files path) else do
          say host .problem (.concat ["Path does not exist: ", path.getD []])
          return failed).outcome s := rfl
  rw [hgo, h]
  rfl

/-! ### Changing a setting -/

/-- What is said when a setting was changed. -/
def announcement (key value : Text) : Text := .concat ["Set ", key, " = ", value]

/-- What is done with the new settings. -/
def conclude (host : Host) (root key value : Text) (new : Settings) : Run Nat := do
  Settings.save root new
  say host .success (announcement key value)
  return done

/-- The run leaves the new settings in their file, and it ends well if it can say so. -/
structure Saves (render : Renderer) (r : Run Nat) (s : Surroundings) (root key value : Text)
    (new : Settings) : Prop where
  isThere : (r.outcome s).2.files.isThere (Settings.filePath root) = .ok true
  read : (r.outcome s).2.files.read (Settings.filePath root) = .ok (Utf8.write new.written)
  done_iff : (r.outcome s).1 = .ok done ↔ Tells render .success (announcement key value)

section

variable {s : Surroundings} {root : Text} {path : Option Text} {settings : Settings}

theorem conclude_cases (key value : Text) (hthere : s.files.isThere root = .ok true)
    (hsettings : Settings.storedWithin host.levels root s.files = .ok settings) (new : Settings)
    (notes : List Note) :
    (Stops (conclude host root key value new) (s.noting notes) ∧
      ((Settings.save root new).outcome s).1 ≠ .ok ()) ∨
    (Saves host.render (conclude host root key value new) (s.noting notes) root key value new ∧
      ((Settings.save root new).outcome s).1 = .ok ()) := by
  rcases Settings.save_cases hthere hsettings new with ⟨e, hsave⟩ | ⟨files, hsave, hfile, hread⟩
  · refine Or.inl ⟨stops_of_error (Run.outcome_bind_error (hsave (s.noting notes) rfl)) rfl, ?_⟩
    rw [hsave s rfl]
    exact nofun
  · have hsaved : (conclude host root key value new).outcome (s.noting notes) =
        (do say host .success (announcement key value); return done : Run Nat).outcome
          { s.noting notes with files := files } :=
      Run.outcome_bind_ok (hsave (s.noting notes) rfl)
    refine Or.inr ⟨?_, by rw [hsave s rfl]⟩
    -- the file is as it was written, whether or not it can be said
    by_cases htells : Tells host.render .success (announcement key value)
    · obtain ⟨s', hsay, hfiles⟩ := say_of_tells htells { s.noting notes with files := files }
      have hended := hsaved.trans (Run.outcome_bind_ok hsay)
      constructor
      · rw [hended, ← hfile]
        exact congrArg (Files.isThere · (Settings.filePath root)) hfiles
      · rw [hended, ← hread]
        exact congrArg (Files.read · (Settings.filePath root)) hfiles
      · rw [hended]
        exact ⟨fun _ => htells, fun _ => rfl⟩
    · obtain ⟨e, hsay⟩ := say_of_not_tells htells { s.noting notes with files := files }
      have hended := hsaved.trans (Run.outcome_bind_error hsay)
      constructor
      · rw [hended]
        exact hfile
      · rw [hended]
        exact hread
      · rw [hended]
        exact ⟨nofun, fun h => absurd h htells⟩

/-- **How the change of a setting goes**: nothing is saved and the command fails, or the new
settings are saved and the command ends well if it can say so. -/
theorem changeSetting_cases (key value : Text) (hroot : checkout s.files path = root)
    (hthere : s.files.isThere root = .ok true)
    (hsettings : Settings.storedWithin host.levels root s.files = .ok settings) :
    (Stops (changeSetting host key value path) s ∧
      ∀ new, settings.Sets value key new → ((Settings.save root new).outcome s).1 ≠ .ok ()) ∨
    ∃ new, Saves host.render (changeSetting host key value path) s root key value new ∧
      settings.Sets value key new ∧ ((Settings.save root new).outcome s).1 = .ok () := by
  subst hroot
  obtain ⟨notes, hload⟩ :=
    (Settings.reads_loadWithin host.levels (checkout s.files path)).outcome_eq hsettings
  have hloaded : (changeSetting host key value path).outcome s =
      (reporting host isRefusal Failure.message (settings.withKey key (.text value))
        (conclude host (checkout s.files path) key value)).outcome (s.noting notes) :=
    (outcome_inCheckout hthere).trans (outcome_reporting hload)
  cases hchanged : settings.changed key (.text value) with
  | error f =>
    obtain ⟨notes', hkey⟩ := (settings.reads_withKey key (.text value)).outcome_eq
      (s := s.noting notes) hchanged
    refine Or.inl ⟨?_, fun new hnew => ?_⟩
    · rw [Stops, hloaded]
      exact stops_reporting hkey rfl
    · rw [← Settings.changed_eq_ok_iff, hchanged] at hnew
      cases hnew
  | ok new =>
    have hnew := Settings.changed_eq_ok_iff.1 hchanged
    obtain ⟨notes', hkey⟩ := (settings.reads_withKey key (.text value)).outcome_eq
      (s := s.noting notes) hchanged
    have hset := hloaded.trans (outcome_reporting hkey)
    rcases conclude_cases key value hthere hsettings new notes' with
      ⟨hstops, hsave⟩ | ⟨hsaves, hsave⟩
    · refine Or.inl ⟨?_, fun new' hnew' => ?_⟩
      · rw [Stops, hset]
        exact hstops
      · rw [hnew.unique hnew']
        exact hsave
    · refine Or.inr ⟨new, ⟨?_, ?_, ?_⟩, hnew, hsave⟩
      · rw [hset]
        exact hsaves.isThere
      · rw [hset]
        exact hsaves.read
      · rw [hset]
        exact hsaves.done_iff

/-- A change of a setting did all that was asked for, or it failed and left the settings file as it
was: the program succeeded and the settings that are loaded now are those with the one changed, or
it did not succeed and what is read of the file, or why nothing is, has not changed. -/
def AllOrNothing (root key value : Text) (settings : Settings) (before : Surroundings)
    (ending : Ending) (after : Surroundings) : Prop :=
  (ending.status = done ∧ ∃ new, settings.Sets value key new ∧
    ((Settings.load root).outcome after).1 = .ok new) ∨
  (ending.status ≠ done ∧
    after.files.read (Settings.filePath root) = before.files.read (Settings.filePath root))

theorem status_ending (verbose : Bool) (result : Except Failure Nat) (s : Surroundings) :
    (ending verbose result s).status = done ↔ result = .ok done := by
  cases result with
  | ok status => exact ⟨congrArg Except.ok, Except.ok.inj⟩
  | error f => exact ⟨nofun, nofun⟩

/-- The program does what the words ask for. -/
theorem runOn_of_read {words : List Text} {request : Request} (host : Host)
    (h : Request.read s.files words = .ok request) :
    runOn host words s = (ending request.isVerbose ((perform host request).outcome s).1
        ((perform host request).outcome s).2, ((perform host request).outcome s).2) := by
  rw [runOn, h]

/-- **The change of a setting is done as a whole or not at all** exactly if, once the value is
accepted and the new settings can be saved, one of two things holds: what was set can be said, and
no surrogate pair in two halves came into a text of the settings; or it cannot be said, and the file
held before what is saved.  This is so whatever reads the markup. -/
theorem allOrNothing_iff {render : Renderer} {words : List Text} {key value : Text}
    (hwords : Request.read s.files words = .ok (.changeSetting key value path))
    (hroot : checkout s.files path = root) (hthere : s.files.isThere root = .ok true)
    (hsettings : ((Settings.load root).outcome s).1 = .ok settings) :
    AllOrNothing root key value settings s (runOn { render := render } words s).1
        (runOn { render := render } words s).2 ↔
      ∀ new, settings.Sets value key new → ((Settings.save root new).outcome s).1 = .ok () →
        (Tells render .success (announcement key value) →
          key ∈ Settings.textKeys → value.merged = value) ∧
        (¬ Tells render .success (announcement key value) →
          s.files.read (Settings.filePath root) = .ok (Utf8.write new.written)) := by
  have hload : ∀ s : Surroundings,
      ((Settings.load root).outcome s).1 = Settings.stored root s.files := by
    intro s
    obtain ⟨notes, h⟩ := Settings.reads_load root s
    rw [h]
  rw [hload] at hsettings
  have hstored : Settings.storedWithin ({ render := render } : Host).levels root s.files =
      .ok settings := hsettings
  simp only [AllOrNothing, runOn_of_read _ hwords, perform, ne_eq, status_ending, hload]
  rcases changeSetting_cases key value hroot hthere hstored with
    ⟨⟨hfails, hfiles⟩, hnone⟩ | ⟨new, hsaves, hnew, hsave⟩
  · -- nothing was saved, so the right side says nothing and the left side holds
    rw [hfiles]
    exact ⟨fun _ new hnew hsave => absurd hsave (hnone new hnew), fun _ => Or.inr ⟨hfails, rfl⟩⟩
  · obtain ⟨hsettled, -⟩ := Settings.stored_eq_ok hsettings
    have hreloaded := Settings.stored_of_read hsaves.isThere hsaves.read
      (hnew.short hsettled.short)
    have hmerged := hnew.merged_eq_iff hsettled.merged_eq
    rw [hsaves.done_iff, hsaves.read, hreloaded]
    constructor
    · -- there is no other way to set the value, so what was loaded is what was set
      rintro hwhole new' hnew' -
      obtain rfl := hnew.unique hnew'
      refine ⟨fun htold => ?_, fun hsilent => ?_⟩
      · rcases hwhole with ⟨-, new'', hnew'', hloaded⟩ | ⟨hsilent, -⟩
        · rw [← hmerged, Except.ok.inj hloaded, hnew.unique hnew'']
        · exact absurd htold hsilent
      · rcases hwhole with ⟨htold, -⟩ | ⟨-, hsame⟩
        · exact absurd htold hsilent
        · exact hsame.symm
    · intro h
      obtain ⟨htext, hsame⟩ := h new hnew hsave
      by_cases htold : Tells render .success (announcement key value)
      · exact Or.inl ⟨htold, new, hnew, congrArg Except.ok (hmerged.2 (htext htold))⟩
      · exact Or.inr ⟨htold, (hsame htold).symm⟩

/-- A project without files. -/
def emptyProject : Surroundings := { files := { root := "/work" } }

/-- A name is set as the branch that a pull request goes to. -/
theorem allOrNothing_plain :
    Request.read emptyProject.files ["config", "set", "base_ref", "dev"] =
        .ok (.changeSetting "base_ref" "dev" none) ∧
      checkout emptyProject.files none = "/work" ∧
      emptyProject.files.isThere "/work" = .ok true ∧
      ((Settings.load "/work").outcome emptyProject).1 = .ok {} ∧
      AllOrNothing "/work" "base_ref" "dev" {} emptyProject
        (run ["config", "set", "base_ref", "dev"] emptyProject).1
        (run ["config", "set", "base_ref", "dev"] emptyProject).2 := by
  refine ⟨rfl, by decide, rfl, rfl, ?_⟩
  refine (allOrNothing_iff rfl (by decide) rfl rfl).2 fun new hnew hsaves => ⟨fun _ _ => ?_, ?_⟩
  · decide
  · exact fun hsilent => absurd (by decide +kernel) hsilent

/-- A closing tag that closes nothing is saved as the branch, but what was set cannot be said: the
program fails, and the file that was not there holds the tag. -/
theorem not_allOrNothing_closingTag :
    Request.read emptyProject.files ["config", "set", "base_ref", "[/x]"] =
        .ok (.changeSetting "base_ref" "[/x]" none) ∧
      checkout emptyProject.files none = "/work" ∧
      emptyProject.files.isThere "/work" = .ok true ∧
      ((Settings.load "/work").outcome emptyProject).1 = .ok {} ∧
      ¬ AllOrNothing "/work" "base_ref" "[/x]" {} emptyProject
        (run ["config", "set", "base_ref", "[/x]"] emptyProject).1
        (run ["config", "set", "base_ref", "[/x]"] emptyProject).2 := by
  refine ⟨rfl, by decide, rfl, rfl, ?_⟩
  rintro (⟨hstatus, -⟩ | ⟨-, hread⟩)
  · exact absurd hstatus (by decide +kernel)
  · have hbefore : (emptyProject.files.read (Settings.filePath "/work")).toBool = false := by
      decide +kernel
    have hafter : ((run ["config", "set", "base_ref", "[/x]"] emptyProject).2.files.read
        (Settings.filePath "/work")).toBool = true := by
      decide +kernel
    rw [hread, hbefore] at hafter
    cases hafter

end

end CommandLine

end PullNotes
