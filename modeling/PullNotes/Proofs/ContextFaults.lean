import PullNotes.Proofs.Console.Verbatim
import PullNotes.Proofs.Precedence

/-!
# Pull requests that cannot be told

A review first of all finds out which pull request is meant.  The program is prepared for two things
that can go wrong: no repository, and no number.  It is not prepared for a number that is set to a
text without an integer in it, nor for an event that is not JSON, that is not an object where it is
looked at, or whose number is no number: the program ends at once then.

* `Run.Keeps` : runs that give commands and change nothing.
* `PullRequest.Foreseen` : what can come of looking for the pull request.
* `PullRequest.Convertible` : the values that give a number, or count as none.
* `PullRequest.found_cases` : what comes of looking for the pull request.
* `CommandLine.ReportsContext` : a program that says that it knows no pull request.
* `CommandLine.context_reported_iff` : when that is what it does.
-/

namespace PullNotes

namespace Run

variable {α β : Type} {r : Run α} {s : Surroundings}

/-- A run leaves the files, the environment and what is printed as they are. -/
def Keeps (r : Run α) : Prop := ∀ s, (r.outcome s).2.files = s.files ∧
  (r.outcome s).2.environment = s.environment ∧ (r.outcome s).2.printed = s.printed

theorem Keeps.bind {k : α → Run β} (hr : Keeps r) (hk : ∀ a, Keeps (k a)) : Keeps (r >>= k) := by
  intro s
  obtain ⟨hfiles, henvironment, hprinted⟩ := hr s
  rcases h : r.outcome s with ⟨result, after⟩
  rw [h] at hfiles henvironment hprinted
  cases result with
  | error f =>
    rw [outcome_bind_error h]
    exact ⟨hfiles, henvironment, hprinted⟩
  | ok a =>
    rw [outcome_bind_ok h, ← hfiles, ← henvironment, ← hprinted]
    exact hk a after

theorem keeps_pure (a : α) : Keeps (pure a) := fun _ => ⟨rfl, rfl, rfl⟩

theorem keeps_throw (f : Failure) : Keeps (throw f : Run α) := fun _ => ⟨rfl, rfl, rfl⟩

theorem keeps_note (level : NoteLevel) (topic : String) (text : Text) :
    Keeps (note level topic text) :=
  fun _ => ⟨rfl, rfl, rfl⟩

theorem keeps_command (c : Command) : Keeps (command c) := by
  intro s
  rw [outcome_command]
  exact ⟨rfl, rfl, rfl⟩

end Run

namespace Discovery

open Run (Keeps)

theorem keeps_finish (c : Command) : Keeps (finish c) := by
  refine (Run.keeps_command c).bind fun reply => ?_
  cases reply with
  | finished status output errors => exact Run.keeps_pure _
  | timedOut => exact Run.keeps_throw _
  | notInstalled => exact Run.keeps_throw _

theorem keeps_listing (base : Text) : Keeps (listing base) := by
  refine (keeps_finish _).bind fun sinceLeaving => ?_
  split
  case isTrue => exact Run.keeps_pure _
  case isFalse =>
    refine (Run.keeps_note _ _ _).bind fun _ => (keeps_finish _).bind fun sinceBase => ?_
    split
    case isTrue => exact Run.keeps_pure _
    case isFalse =>
      split
      case h_1 => exact Run.keeps_throw _
      case h_2 => exact Run.keeps_throw _

theorem keeps_changedPaths (base : Text) : Keeps (changedPaths base) :=
  (keeps_listing base).bind fun _ => Run.keeps_pure _

theorem keeps_requestPaths (base : Text) : Keeps (requestPaths base) :=
  fun s => keeps_changedPaths (requestBase s.environment base) s

end Discovery

namespace PullRequest

variable {repository : Option Text} {given : Option Int} {environment : Environment} {files : Files}
  {event v : Json} {owner repo : Text} {f : Failure}

/-- What can come of looking for the pull request: it, or one of two failures. -/
inductive Foreseen : Except Failure PullRequest → Prop where
  | meant (pr : PullRequest) : Foreseen (.ok pr)
  | repositoryUnknown : Foreseen (.error .repositoryUnknown)
  | numberUnknown : Foreseen (.error .numberUnknown)

theorem Foreseen.isReported (h : Foreseen (.error f)) : f.isReported = true := by
  cases h <;> rfl

/-! ### Values for a number -/

/-- A value that gives a number, or that counts as none. -/
inductive Convertible : Json → Prop where
  | empty {v : Json} (h : v.isEmpty = true) : Convertible v
  | bool (b : Bool) : Convertible (.bool b)
  | whole (n : Int) : Convertible (.whole n)
  | real (negative : Bool) (m : Nat) (q : Int) : Convertible (.real (.finite negative m q))
  | text {t : Text} {n : Int} (h : Numeral.read 10 t = .ok n) : Convertible (.text t)

/-- A value gives a number, or a failure that the program is not prepared for. -/
theorem wholeNumber_cases (h : v.isEmpty = false) :
    (Convertible v ∧ ∃ n, wholeNumber v = .ok n) ∨
      (¬ Convertible v ∧ ∃ f, wholeNumber v = .error f ∧ f.isReported = false) := by
  have hempty : v.isEmpty ≠ true := by simp [h]
  cases v with
  | null => cases h
  | bool b => exact Or.inl ⟨.bool b, _, rfl⟩
  | whole n => exact Or.inl ⟨.whole n, _, rfl⟩
  | real x =>
    cases x with
    | finite negative m q => exact Or.inl ⟨.real negative m q, _, rfl⟩
    | nan =>
      refine Or.inr ⟨fun hv => ?_, _, rfl, rfl⟩
      cases hv with | empty h => exact hempty h
    | infinite negative =>
      refine Or.inr ⟨fun hv => ?_, _, rfl, rfl⟩
      cases hv with | empty h => exact hempty h
  | text t =>
    cases hread : Numeral.read 10 t with
    | ok n => exact Or.inl ⟨.text hread, n, by simp only [wholeNumber, hread]⟩
    | error e =>
      refine Or.inr ⟨fun hv => ?_, .numeral e, by simp only [wholeNumber, hread], rfl⟩
      cases hv with
      | empty h => exact hempty h
      | text hn =>
        rw [hread] at hn
        cases hn
  | list items =>
    refine Or.inr ⟨fun hv => ?_, _, rfl, rfl⟩
    cases hv with | empty h => exact hempty h
  | object members =>
    refine Or.inr ⟨fun hv => ?_, _, rfl, rfl⟩
    cases hv with | empty h => exact hempty h

theorem numbered_cases (owner repo : Text) (v : Json) :
    (Convertible v ∧ Foreseen (numbered owner repo v)) ∨
      (¬ Convertible v ∧ ∃ f, numbered owner repo v = .error f ∧ f.isReported = false) := by
  unfold numbered
  cases hempty : v.isEmpty with
  | true => exact Or.inl ⟨.empty hempty, .numberUnknown⟩
  | false =>
    rcases wholeNumber_cases hempty with ⟨hv, n, hn⟩ | ⟨hv, f, hf, hreported⟩
    · rw [hn]
      exact Or.inl ⟨hv, .meant _⟩
    · rw [hf]
      exact Or.inr ⟨hv, f, rfl, hreported⟩

/-! ### Looking for the number -/

/-- An event is an object where it is looked at, and has no number or one that is convertible. -/
def Usable (event : Json) : Prop :=
  ∃ members, event = .object members ∧ ∀ r, Json.lookup? "pull_request" members = some r →
    ∃ request, r = .object request ∧ ∀ v, Json.lookup? "number" request = some v → Convertible v

theorem usable_iff : Usable event ↔ ∃ v, eventNumber event = .ok v ∧ Convertible v := by
  have hnull : Convertible .null := .empty rfl
  unfold eventNumber
  constructor
  · rintro ⟨members, rfl, hrequest⟩
    cases hlookup : Json.lookup? "pull_request" members with
    | none => exact ⟨.null, by simp only [hlookup], hnull⟩
    | some r =>
      obtain ⟨request, rfl, hnumber⟩ := hrequest r hlookup
      refine ⟨(Json.lookup? "number" request).getD .null, by simp only [hlookup], ?_⟩
      cases hn : Json.lookup? "number" request with
      | none => exact hnull
      | some v => exact hnumber v hn
  · rintro ⟨v, hv, hconvertible⟩
    split at hv
    case h_1 members =>
      refine ⟨members, rfl, fun r hr => ?_⟩
      rw [hr] at hv
      cases r with
      | object request =>
        obtain rfl := Except.ok.inj hv
        refine ⟨request, rfl, fun v hn => ?_⟩
        rwa [hn] at hconvertible
      | _ => cases hv
    case h_2 => cases hv

/-- The number is given, or it is set and an integer, or there is no event to look at, or one that
is usable. -/
inductive Told (given : Option Int) (environment : Environment) (files : Files) : Prop where
  | given {n : Int} (hgiven : given = some n)
  | set {t : Text} {n : Int} (hgiven : given = none) (hset : environment.number = some t)
      (ht : t ≠ []) (hread : Numeral.read 10 t = .ok n)
  | withoutEvent (hgiven : given = none) (hunset : Unset environment.number)
      (hwithout : WithoutEvent environment files)
  | event {event : Json} (hgiven : given = none) (hunset : Unset environment.number)
      (hevent : HoldsEvent environment files event) (husable : Usable event)

theorem exists_numberFound_iff :
    (∃ v, numberFound given environment files = .ok v ∧ Convertible v) ↔
      Told given environment files := by
  constructor
  · rintro ⟨v, hv, hconvertible⟩
    cases given with
    | some n => exact .given rfl
    | none =>
      rcases unset_or environment.number with hunset | ⟨c, cs, hset⟩
      · rw [numberFound_of_unset hunset] at hv
        rcases eventFound_eq_ok_iff.1 hv with ⟨hwithout, -⟩ | ⟨event, hevent, hnumber⟩
        · exact .withoutEvent rfl hunset hwithout
        · exact .event rfl hunset hevent (usable_iff.2 ⟨v, hnumber, hconvertible⟩)
      · have ht : c :: cs ≠ [] := List.cons_ne_nil c cs
        rw [numberFound_of_text ht hset] at hv
        obtain ⟨n, hread, -⟩ := Except.map_eq_ok_iff.1 hv
        exact .set rfl hset ht (Except.mapError_eq_ok_iff.1 hread)
  · intro h
    cases h with
    | given hgiven =>
      subst hgiven
      exact ⟨_, rfl, .whole _⟩
    | set hgiven hset ht hread =>
      subst hgiven
      rw [numberFound_of_text ht hset, hread]
      exact ⟨_, rfl, .whole _⟩
    | withoutEvent hgiven hunset hwithout =>
      subst hgiven
      rw [numberFound_of_unset hunset]
      exact ⟨.null, eventFound_eq_ok_iff.2 (Or.inl ⟨hwithout, rfl⟩), .empty rfl⟩
    | event hgiven hunset hevent husable =>
      subst hgiven
      obtain ⟨v, hv, hconvertible⟩ := usable_iff.1 husable
      rw [numberFound_of_unset hunset]
      exact ⟨v, eventFound_eq_ok_iff.2 (Or.inr ⟨_, hevent, hv⟩), hconvertible⟩

/-- The program is not prepared for a failure here. -/
def Unprepared {α : Type} (x : Except Failure α) : Prop := ∀ f, x = .error f → f.isReported = false

theorem Unprepared.bind {α β : Type} {x : Except Failure α} {k : α → Except Failure β}
    (hx : Unprepared x) (hk : ∀ a, Unprepared (k a)) : Unprepared (x >>= k) := by
  cases x with
  | error e =>
    intro f h
    cases h
    exact hx e rfl
  | ok a => exact hk a

theorem unprepared_ok {α : Type} (a : α) : Unprepared (.ok a : Except Failure α) := nofun

theorem unprepared_mapError {ε α : Type} {reason : ε → Failure}
    (h : ∀ e, (reason e).isReported = false) (x : Except ε α) : Unprepared (x.mapError reason) := by
  cases x with
  | error e => exact fun f hf => Except.error.inj hf ▸ h e
  | ok a => exact unprepared_ok a

theorem unprepared_eventFound : Unprepared (eventFound environment files) := by
  rcases unset_or environment.eventPath with hunset | ⟨c, cs, hpath⟩
  · rw [eventFound_of_unset hunset]
    exact unprepared_ok _
  · rw [eventFound_of_path (List.cons_ne_nil c cs) hpath]
    refine (unprepared_mapError (fun _ => rfl) _).bind fun there => ?_
    cases there with
    | false => exact unprepared_ok _
    | true =>
      have hevent : Unprepared (eventIn (c :: cs) files) :=
        (unprepared_mapError (fun _ => rfl) _).bind fun bytes =>
          (unprepared_mapError (fun _ => rfl) _).bind fun text =>
            unprepared_mapError (fun _ => rfl) _
      exact hevent.bind fun event => unprepared_mapError (fun _ => rfl) _

/-- The program is not prepared for the failures of looking for a number. -/
theorem unprepared_numberFound : Unprepared (numberFound given environment files) := by
  cases given with
  | some n => exact unprepared_ok _
  | none =>
    rcases unset_or environment.number with hunset | ⟨c, cs, hset⟩
    · rw [numberFound_of_unset hunset]
      exact unprepared_eventFound
    · rw [numberFound_of_text (List.cons_ne_nil c cs) hset]
      cases Numeral.read 10 (c :: cs) with
      | ok n => exact unprepared_ok _
      | error e => exact fun f hf => Except.error.inj hf ▸ rfl

/-- The repository has no owner, or the number is told. -/
def Clear (repository : Option Text) (given : Option Int) (environment : Environment)
    (files : Files) : Prop :=
  Path.slash ∉ repositoryText repository environment ∨ Told given environment files

/-- **What comes of looking for the pull request** is foreseen if the repository has no owner or the
number is told, and is a failure that the program is not prepared for otherwise. -/
theorem found_cases (repository : Option Text) (given : Option Int) (environment : Environment)
    (files : Files) :
    (Clear repository given environment files ∧
        Foreseen (found repository given environment files)) ∨
      (¬ Clear repository given environment files ∧
        ∃ f, found repository given environment files = .error f ∧ f.isReported = false) := by
  unfold found
  cases hname : ownerAndName? (repositoryText repository environment) with
  | none =>
    refine Or.inl ⟨Or.inl fun hslash => ?_, .repositoryUnknown⟩
    obtain ⟨owner, repo, heq, howner⟩ := List.eq_append_cons_of_mem hslash
    rw [ownerAndName?_eq_some_iff.2 ⟨heq, howner⟩] at hname
    cases hname
  | some named =>
    have hslash : Path.slash ∈ repositoryText repository environment := by
      rw [(ownerAndName?_eq_some_iff.1 hname).1]
      exact List.mem_append_right _ List.mem_cons_self
    rw [Clear, or_iff_right (not_not.2 hslash), ← exists_numberFound_iff]
    cases hfound : numberFound given environment files with
    | error f =>
      refine Or.inr ⟨?_, f, rfl, unprepared_numberFound f hfound⟩
      rintro ⟨v, hv, -⟩
      cases hv
    | ok v =>
      rcases numbered_cases named.1 named.2 v with ⟨hv, hforeseen⟩ | ⟨hv, hfails⟩
      · exact Or.inl ⟨⟨v, rfl, hv⟩, hforeseen⟩
      · refine Or.inr ⟨?_, hfails⟩
        rintro ⟨v', hv', hconvertible⟩
        obtain rfl := Except.ok.inj hv'
        exact hv hconvertible

theorem foreseen_found_iff : Foreseen (found repository given environment files) ↔
    Clear repository given environment files := by
  rcases found_cases repository given environment files with ⟨hclear, hforeseen⟩ |
    ⟨hclear, f, hf, hreported⟩
  · exact iff_of_true hforeseen hclear
  · rw [hf]
    refine iff_of_false (fun h => ?_) hclear
    rw [h.isReported] at hreported
    cases hreported

/-- The program is prepared for the failures that are foreseen, and for no others. -/
theorem isReported_iff_of_found (h : found repository given environment files = .error f) :
    f.isReported = true ↔ Foreseen (.error f) := by
  refine ⟨fun hreported => ?_, fun hforeseen => hforeseen.isReported⟩
  rcases found_cases repository given environment files with ⟨-, hforeseen⟩ |
    ⟨-, f', hf', hunreported⟩
  · exact h ▸ hforeseen
  · obtain rfl := Except.error.inj (h.symm.trans hf')
    rw [hreported] at hunreported
    cases hunreported

end PullRequest

namespace CommandLine

open PullRequest (Clear Foreseen meant)

variable {words : List Text} {r : ReviewRequest} {s s' : Surroundings} {f : Failure}

/-- A review is asked for, and it gets as far as looking for its pull request, in other
surroundings. -/
structure Reaches (words : List Text) (s : Surroundings) (r : ReviewRequest) (s' : Surroundings) :
    Prop where
  asked : Request.read s.files words = .ok (.review r)
  posted : r.dryRun = false
  there : s.files.isThere (checkout s.files r.path) = .ok true
  paths : ∃ settings between paths,
    (Settings.load (checkout s.files r.path)).outcome s = (.ok settings, between) ∧
      (changedPaths r settings).outcome between = (.ok paths, s')

/-- The program said why it knows no pull request, and ended with the status of a failure. -/
structure ReportsContext (f : Failure) (before : Surroundings) (ending : Ending) : Prop where
  status : ending.status = failed
  failure : ending.failure = none
  printed : ending.printed =
    before.printed ++ (Console.Mood.problem.sign ++ f.message ++ [CodePoint.lineFeed])

theorem keeps_changedPaths (r : ReviewRequest) (settings : Settings) :
    Run.Keeps (changedPaths r settings) := by
  unfold changedPaths
  split
  case isTrue => exact Run.keeps_pure _
  case isFalse =>
    split
    case h_1 => exact Discovery.keeps_changedPaths _
    case h_2 => exact Discovery.keeps_requestPaths _

/-- On the way to the pull request nothing is changed and nothing is printed. -/
theorem Reaches.keeps (h : Reaches words s r s') : s'.files = s.files ∧
    s'.environment = s.environment ∧ s'.printed = s.printed := by
  obtain ⟨settings, between, paths, hload, hpaths⟩ := h.paths
  obtain ⟨notes, hnotes⟩ := Settings.reads_load (checkout s.files r.path) s
  have hkeeps := keeps_changedPaths r settings between
  rw [hload] at hnotes
  rw [hpaths, (Prod.mk.inj hnotes).2] at hkeeps
  exact hkeeps

/-- A failure of looking for the pull request is said, or ends the program. -/
theorem Reaches.outcome_eq (h : Reaches words s r s')
    (hf : ((meant r.repository r.number).outcome s').1 = .error f) : ∃ notes,
      (perform {} (.review r)).outcome s =
        (if f.isReported then do say {} .problem f.message; return failed
          else throw f : Run Nat).outcome (s'.noting notes) := by
  obtain ⟨settings, between, paths, hload, hpaths⟩ := h.paths
  obtain ⟨notes, hmeant⟩ := PullRequest.meant_outcome r.repository r.number s'
  rw [hmeant] at hf
  have hfound : (meant r.repository r.number).outcome s' = (.error f, s'.noting notes) := by
    rw [hmeant]
    exact congrArg (·, s'.noting notes) hf
  have hreview : (reviewOutcome (checkout s.files r.path) settings r).outcome between =
      (.error f, s'.noting notes) := by
    rw [reviewOutcome, Run.outcome_bind_ok hpaths, h.posted, if_neg Bool.false_ne_true]
    exact Run.outcome_bind_error hfound
  have hloaded : (Settings.loadWithin ({} : Host).levels (checkout s.files r.path)).outcome s =
      (.ok settings, between) := hload
  refine ⟨notes, ?_⟩
  rw [perform, review, outcome_inCheckout h.there, prepared, outcome_reporting hloaded, prepared,
    outcome_reporting_error hreview]

/-- The two failures that are foreseen are shown as they are. -/
theorem saysVerbatim_of_foreseen (h : Foreseen (.error f)) (s : Surroundings) :
    SaysVerbatim Markup.standard .problem f.message s := by
  cases h with
  | repositoryUnknown =>
    refine (saysVerbatim_iff (Text.scalar_ofString _) .problem s).2 ?_
    decide +kernel
  | numberUnknown =>
    refine (saysVerbatim_iff (Text.scalar_ofString _) .problem s).2 ?_
    decide +kernel

/-- The foreseen failures are reported, and any other ends the program, which says nothing. -/
theorem Reaches.cases_of_error (h : Reaches words s r s')
    (hf : ((meant r.repository r.number).outcome s').1 = .error f) :
    (Foreseen (.error f) ∧ ReportsContext f s (run words s).1) ∨
      (¬ Foreseen (.error f) ∧ (run words s).1.failure = some f ∧
        (run words s).1.printed = s.printed) := by
  obtain ⟨notes, houtcome⟩ := h.outcome_eq hf
  obtain ⟨notes', hmeant⟩ := PullRequest.meant_outcome r.repository r.number s'
  obtain ⟨-, -, hprinted⟩ := h.keeps
  rw [hmeant] at hf
  have hreported := PullRequest.isReported_iff_of_found hf
  rw [run, runOn_of_read {} h.asked, houtcome, ← hprinted]
  by_cases hforeseen : Foreseen (.error f)
  · rw [if_pos (hreported.2 hforeseen),
      Run.outcome_bind_ok (saysVerbatim_of_foreseen hforeseen _)]
    exact Or.inl ⟨hforeseen, rfl, rfl, congrArg (· ++ _) hprinted⟩
  · rw [if_neg fun h => hforeseen (hreported.1 h)]
    exact Or.inr ⟨hforeseen, rfl, rfl⟩

/-- **When a pull request that cannot be told is reported.**  What comes of looking for the pull
request is the pull request, or that the repository or the number is unknown, exactly if the
repository has no owner or the number is told.  A review that gets that far has its pull request, or
says which of the two is unknown and ends with the status of a failure, in the same cases. -/
theorem context_reported_iff (repository : Option Text) (given : Option Int) (s : Surroundings) :
    (Foreseen ((meant repository given).outcome s).1 ↔
      Clear repository given s.environment s.files) ∧
    ∀ words r s', r.repository = repository → r.number = given → Reaches words s r s' →
      ((∃ pr, ((meant repository given).outcome s').1 = .ok pr) ∨
        (∃ f, ((meant repository given).outcome s').1 = .error f ∧
          ReportsContext f s (run words s).1) ↔
      Clear repository given s.environment s.files) := by
  have hforeseen : ∀ s, Foreseen ((meant repository given).outcome s).1 ↔
      Clear repository given s.environment s.files := by
    intro s
    obtain ⟨notes, h⟩ := PullRequest.meant_outcome repository given s
    rw [h]
    exact PullRequest.foreseen_found_iff
  refine ⟨hforeseen s, ?_⟩
  rintro words r s' rfl rfl h
  obtain ⟨hfiles, henvironment, -⟩ := h.keeps
  rw [← hfiles, ← henvironment, ← hforeseen]
  cases hmeant : ((meant r.repository r.number).outcome s').1 with
  | ok pr => exact iff_of_true (Or.inl ⟨pr, rfl⟩) (.meant pr)
  | error f =>
    rcases h.cases_of_error hmeant with ⟨hf, hreports⟩ | ⟨hf, hfailure, -⟩
    · exact iff_of_true (Or.inr ⟨f, rfl, hreports⟩) hf
    · refine iff_of_false ?_ hf
      rintro (⟨pr, hpr⟩ | ⟨f', hf', hreports⟩)
      · cases hpr
      · rw [hreports.failure] at hfailure
        cases hfailure

/-- The words that ask for a review of a file. -/
def reviewWords : List Text := ["review", "-m", "dev/a.js"]

/-- The review that they ask for. -/
def reviewAsked : ReviewRequest := ⟨none, none, none, none, ⟨["dev/a.js"], []⟩, false, false⟩

/-- Surroundings in which a repository is set, and maybe a number, and an event is pointed to. -/
def inRepository (number : Option Text) (event : Text) : Surroundings where
  files := { root := "/work", contents := [([Text.ofString "event.json"], Utf8.write event)] }
  environment := { repository := some "acme/app", number, eventPath := some "event.json" }

/-- An event without a pull request, as it is written. -/
def emptyEvent : Text := "\x7b\x7d"

/-- An event without a pull request has no number, and that is reported. -/
theorem context_reported_emptyEvent :
    Reaches reviewWords (inRepository none emptyEvent) reviewAsked (inRepository none emptyEvent) ∧
      Foreseen ((meant none none).outcome (inRepository none emptyEvent)).1 ∧
      ∃ f, ((meant none none).outcome (inRepository none emptyEvent)).1 = .error f ∧
        ReportsContext f (inRepository none emptyEvent)
          (run reviewWords (inRepository none emptyEvent)).1 := by
  have hreaches : Reaches reviewWords (inRepository none emptyEvent) reviewAsked
      (inRepository none emptyEvent) :=
    ⟨rfl, rfl, rfl, {}, inRepository none emptyEvent, ⟨["dev/a.js"], []⟩, rfl, rfl⟩
  have hclear : Clear none none (inRepository none emptyEvent).environment
      (inRepository none emptyEvent).files :=
    Or.inr (.event rfl (Or.inl rfl) ⟨"event.json", by decide, rfl, rfl, rfl⟩
      ⟨[], rfl, fun r hr => nomatch hr⟩)
  have hunknown : ((meant none none).outcome (inRepository none emptyEvent)).1 =
      .error .numberUnknown := rfl
  refine ⟨hreaches, (context_reported_iff none none _).1.2 hclear, ?_⟩
  rcases ((context_reported_iff none none _).2 reviewWords reviewAsked _ rfl rfl hreaches).2
    hclear with ⟨pr, hpr⟩ | hreports
  · cases hunknown.symm.trans hpr
  · exact hreports

/-- A number that is set to a word ends the program, and so does an event that is a list; it says
nothing. -/
theorem context_not_reported :
    ((meant none none).outcome (inRepository (some "abc") emptyEvent)).1 =
        .error (.numeral (.malformed 10 "abc")) ∧
      ¬ Foreseen ((meant none none).outcome (inRepository (some "abc") emptyEvent)).1 ∧
      (run reviewWords (inRepository (some "abc") emptyEvent)).1.failure.isSome = true ∧
      (run reviewWords (inRepository (some "abc") emptyEvent)).1.printed = [] ∧
      ((meant none none).outcome (inRepository none "[]")).1 = .error (.event .notObject) ∧
      ¬ Foreseen ((meant none none).outcome (inRepository none "[]")).1 ∧
      (run reviewWords (inRepository none "[]")).1.failure.isSome = true ∧
      (run reviewWords (inRepository none "[]")).1.printed = [] := by
  refine ⟨rfl, nofun, rfl, rfl, rfl, nofun, rfl, rfl⟩

end CommandLine

end PullNotes
