import Mathlib.Data.List.TakeWhile
import PullNotes.Proofs.Runs
import PullNotes.PullRequest

/-!
# Which pull request is meant

The repository and the number of the pull request each have several sources: what is given, what is
set in the environment and, for the number, the event that the environment points to.  The first
source that has something is the one that counts, and none after it is looked at; a number that is
zero counts too, and means no pull request.

* `PullRequest.found` : the pull request that is meant, from an environment and files.
* `PullRequest.NamesRepository`, `PullRequest.Numbered` : the repository and the number that count.
* `PullRequest.SameSources` : surroundings that agree on the sources that are looked at.
* `PullRequest.meant_of_sources` : the pull request is that of the sources that count.
-/

namespace PullNotes

open Run (Reads)

namespace PullRequest

variable {repository : Option Text} {given : Option Int} {environment : Environment} {files : Files}
  {event v : Json} {n : Int} {pr : PullRequest} {s s' : Surroundings}

/-! ### Looking at the sources -/

/-- The event in a file. -/
def eventIn (path : Text) (files : Files) : Except Failure Json :=
  (files.read path).mapError .file >>= fun bytes =>
    (Encoding.readFile Run.ownEncoding bytes).mapError .coding >>= fun text =>
      (Json.read text).mapError .json

/-- The number in the event that an environment points to; without an event it is null. -/
def eventFound (environment : Environment) (files : Files) : Except Failure Json :=
  match environment.eventPath with
  | some (c :: cs) =>
    (files.isThere (Path.plain (c :: cs))).mapError .file >>= fun there =>
      if there then
        eventIn (c :: cs) files >>= fun event => (eventNumber event).mapError .event
      else .ok .null
  | _ => .ok .null

/-- The number of the first source that has one. -/
def numberFound (given : Option Int) (environment : Environment) (files : Files) :
    Except Failure Json :=
  match given with
  | some n => .ok (.whole n)
  | none =>
    numberSet environment >>= fun set =>
      match set with
      | some n => .ok (.whole n)
      | none => eventFound environment files

/-- A pull request of a repository from what its number is found to be. -/
def numbered (owner repo : Text) (number : Json) : Except Failure PullRequest :=
  if number.isEmpty then .error .numberUnknown
  else (wholeNumber number).map fun n => ⟨owner, repo, n⟩

/-- The pull request that is meant, from an environment and files. -/
def found (repository : Option Text) (given : Option Int) (environment : Environment)
    (files : Files) : Except Failure PullRequest :=
  match ownerAndName? (repositoryText repository environment) with
  | none => .error .repositoryUnknown
  | some (owner, repo) => numberFound given environment files >>= numbered owner repo

theorem reads_numberOfEvent (environment : Environment) :
    Reads (numberOfEvent environment) (eventFound environment) := by
  unfold numberOfEvent eventFound
  rcases environment.eventPath with - | ⟨- | ⟨c, cs⟩⟩
  case none => exact Run.reads_pure Json.null
  case some.nil => exact Run.reads_pure Json.null
  case some.cons =>
    have hevent : Reads (Run.readText Run.ownEncoding (c :: cs) >>= fun text =>
        Run.ofExcept .json (Json.read text)) (eventIn (c :: cs)) :=
      ((Run.reads_readText Run.ownEncoding (c :: cs)).bind fun text =>
        Run.reads_ofExcept Failure.json (Json.read text)).congr fun files => bind_assoc _ _ _
    have hthere : ∀ there : Bool, Reads
        (if there then (do
          let event ← Run.ofExcept .json (Json.read (← Run.readText Run.ownEncoding (c :: cs)))
          Run.ofExcept .event (eventNumber event)) else pure Json.null)
        fun files => if there then
          eventIn (c :: cs) files >>= fun event => (eventNumber event).mapError .event
        else .ok .null := by
      intro there
      cases there with
      | false => exact Run.reads_pure Json.null
      | true =>
        have hnumber := hevent.bind fun event =>
          Run.reads_ofExcept Failure.event (eventNumber event)
        rw [bind_assoc] at hnumber
        exact hnumber
    intro s
    exact (Run.reads_ofExcept .file (s.files.isThere (Path.plain (c :: cs)))).bind hthere s

theorem reads_numberMeant (given : Option Int) (environment : Environment) :
    Reads (numberMeant given environment) (numberFound given environment) := by
  unfold numberMeant numberFound
  cases given with
  | some n => exact Run.reads_pure (Json.whole n)
  | none =>
    refine (Run.reads_ofFailing (numberSet environment)).bind fun set => ?_
    cases set with
    | some n => exact Run.reads_pure (Json.whole n)
    | none => exact reads_numberOfEvent environment

theorem reads_numbered (owner repo : Text) (number : Json) :
    Reads (do
      if number.isEmpty then throw .numberUnknown
      return ⟨owner, repo, ← Run.ofExcept id (wholeNumber number)⟩) fun _ =>
        numbered owner repo number := by
  unfold numbered
  cases number.isEmpty with
  | true => exact fun s => ⟨s.notes, rfl⟩
  | false =>
    refine ((Run.reads_ofFailing (wholeNumber number)).bind fun n =>
      Run.reads_pure (⟨owner, repo, n⟩ : PullRequest)).congr fun _ => ?_
    cases wholeNumber number <;> rfl

/-- **Looking for the pull request** changes nothing, and what comes of it depends on the
environment and the files alone. -/
theorem meant_outcome (repository : Option Text) (given : Option Int) (s : Surroundings) :
    ∃ notes, (meant repository given).outcome s =
      (found repository given s.environment s.files, s.noting notes) := by
  have hgo : (meant repository given).outcome s =
      (match ownerAndName? (repositoryText repository s.environment) with
      | none => throw .repositoryUnknown
      | some (owner, repo) => numberMeant given s.environment >>= fun number => do
        if number.isEmpty then throw .numberUnknown
        return ⟨owner, repo, ← Run.ofExcept id (wholeNumber number)⟩ :
        Run PullRequest).outcome s := rfl
  rw [hgo, found]
  cases ownerAndName? (repositoryText repository s.environment) with
  | none => exact ⟨s.notes, rfl⟩
  | some named =>
    exact (reads_numberMeant given s.environment).bind (reads_numbered named.1 named.2) s

/-! ### The repository -/

/-- A value that is not set, or is set to nothing. -/
def Unset (value : Option Text) : Prop := value = none ∨ value = some []

theorem unset_or (value : Option Text) : Unset value ∨ ∃ c cs, value = some (c :: cs) := by
  rcases value with - | ⟨- | ⟨c, cs⟩⟩
  · exact Or.inl (Or.inl rfl)
  · exact Or.inl (Or.inr rfl)
  · exact Or.inr ⟨c, cs, rfl⟩

/-- The repository that counts: the one that is given, or else the one that is set. -/
inductive NamesRepository (repository set : Option Text) : Text → Prop where
  | given {name : Text} (hgiven : repository = some name) (hname : name ≠ []) :
      NamesRepository repository set name
  | set {name : Text} (hunset : Unset repository) (hset : set = some name) :
      NamesRepository repository set name

theorem repositoryText_of_unset (h : Unset repository) (environment : Environment) :
    repositoryText repository environment = environment.repository.getD [] := by
  rcases h with rfl | rfl <;> rfl

theorem namesRepository_iff {name : Text} (hname : name ≠ []) :
    NamesRepository repository environment.repository name ↔
      repositoryText repository environment = name := by
  constructor
  · rintro (⟨rfl, -⟩ | ⟨hunset, hset⟩)
    · obtain ⟨c, cs, rfl⟩ := List.exists_cons_of_ne_nil hname
      rfl
    · rw [repositoryText_of_unset hunset, hset, Option.getD_some]
  · intro h
    rcases unset_or repository with hunset | ⟨c, cs, rfl⟩
    · rw [repositoryText_of_unset hunset] at h
      cases hset : environment.repository with
      | none =>
        rw [hset] at h
        exact absurd h.symm hname
      | some set =>
        rw [hset, Option.getD_some] at h
        exact .set hunset (by rw [h])
    · exact .given (congrArg some h) hname

/-- The owner is what stands before the first slash. -/
theorem ownerAndName?_eq_some_iff {name owner repo : Text} :
    ownerAndName? name = some (owner, repo) ↔ name = owner ++ Path.slash :: repo ∧
      Path.slash ∉ owner := by
  unfold ownerAndName?
  induction name generalizing owner with
  | nil => simp [Text.cutAt?]
  | cons c rest ih =>
    rw [Text.cutAt?]
    by_cases hslash : c = Path.slash
    · subst hslash
      rw [if_pos rfl, Option.some_inj, Prod.mk.injEq]
      constructor
      · rintro ⟨rfl, rfl⟩
        exact ⟨rfl, List.not_mem_nil⟩
      · rintro ⟨heq, howner⟩
        cases owner with
        | nil => exact ⟨rfl, (List.cons.inj heq).2⟩
        | cons d owner =>
          exact absurd ((List.cons.inj heq).1 ▸ List.mem_cons_self) howner
    · rw [if_neg hslash, Option.map_eq_some_iff]
      constructor
      · rintro ⟨⟨owner', repo'⟩, hrest, heq⟩
        obtain ⟨rfl, rfl⟩ := Prod.mk.inj heq
        obtain ⟨rfl, howner⟩ := ih.1 hrest
        refine ⟨rfl, ?_⟩
        rw [List.mem_cons, not_or]
        exact ⟨Ne.symm hslash, howner⟩
      · rintro ⟨heq, howner⟩
        cases owner with
        | nil => exact absurd (List.cons.inj heq).1 hslash
        | cons d owner =>
          obtain ⟨rfl, rfl⟩ := List.cons.inj heq
          exact ⟨(owner, repo), ih.2 ⟨rfl, fun h => howner (List.mem_cons_of_mem _ h)⟩, rfl⟩

theorem fullName_eq (pr : PullRequest) : pr.fullName = pr.owner ++ Path.slash :: pr.repo := by
  simp [fullName, Text.concat]
  rfl

/-! ### The number -/

/-- The environment points to no event. -/
def WithoutEvent (environment : Environment) (files : Files) : Prop :=
  Unset environment.eventPath ∨ ∃ path, path ≠ [] ∧ environment.eventPath = some path ∧
    files.isThere (Path.plain path) = .ok false

/-- The environment points to an event. -/
def HoldsEvent (environment : Environment) (files : Files) (event : Json) : Prop :=
  ∃ path, path ≠ [] ∧ environment.eventPath = some path ∧
    files.isThere (Path.plain path) = .ok true ∧ eventIn path files = .ok event

/-- The value that an event has for the number of its pull request. -/
def NumberAt (event v : Json) : Prop :=
  ∃ members request, event = .object members ∧
    Json.lookup? "pull_request" members = some (.object request) ∧
    Json.lookup? "number" request = some v

/-- The number that counts: the one that is given, or else the one that is set, or else that of the
event. -/
inductive Numbered (given : Option Int) (environment : Environment) (files : Files) :
    Int → Prop where
  | given {n : Int} (hgiven : given = some n) : Numbered given environment files n
  | set {t : Text} {n : Int} (hgiven : given = none) (hset : environment.number = some t)
      (ht : t ≠ []) (hread : Numeral.read 10 t = .ok n) : Numbered given environment files n
  | event {event : Json} {n : Int} (hgiven : given = none) (hunset : Unset environment.number)
      (hevent : HoldsEvent environment files event) (hnumber : NumberAt event (.whole n)) :
      Numbered given environment files n

/-- The number of an event that is looked at is a whole number or null, if the event has one. -/
def WholeOrNull (given : Option Int) (environment : Environment) (files : Files) : Prop :=
  given = none → Unset environment.number → ∀ event v, HoldsEvent environment files event →
    NumberAt event v → v = .null ∨ ∃ n, v = .whole n

theorem eventFound_of_unset (h : Unset environment.eventPath) (files : Files) :
    eventFound environment files = .ok .null := by
  rcases h with h | h <;> simp only [eventFound, h]

theorem eventFound_of_path {path : Text} (hne : path ≠ [])
    (h : environment.eventPath = some path) (files : Files) :
    eventFound environment files =
      ((files.isThere (Path.plain path)).mapError .file >>= fun there =>
        if there then eventIn path files >>= fun event => (eventNumber event).mapError .event
        else .ok .null) := by
  obtain ⟨c, cs, rfl⟩ := List.exists_cons_of_ne_nil hne
  simp only [eventFound, h]

theorem eventFound_eq_ok_iff : eventFound environment files = .ok v ↔
    (WithoutEvent environment files ∧ v = .null) ∨
      ∃ event, HoldsEvent environment files event ∧ eventNumber event = .ok v := by
  constructor
  · intro h
    rcases unset_or environment.eventPath with hunset | ⟨c, cs, hpath⟩
    · rw [eventFound_of_unset hunset] at h
      exact Or.inl ⟨Or.inl hunset, (Except.ok.inj h).symm⟩
    · have hne : c :: cs ≠ [] := List.cons_ne_nil c cs
      rw [eventFound_of_path hne hpath] at h
      obtain ⟨there, hthere, h⟩ := Except.bind_eq_ok_iff.1 h
      rw [Except.mapError_eq_ok_iff] at hthere
      cases there with
      | false => exact Or.inl ⟨Or.inr ⟨_, hne, hpath, hthere⟩, (Except.ok.inj h).symm⟩
      | true =>
        obtain ⟨event, hevent, h⟩ := Except.bind_eq_ok_iff.1 h
        exact Or.inr ⟨event, ⟨_, hne, hpath, hthere, hevent⟩, Except.mapError_eq_ok_iff.1 h⟩
  · rintro (⟨hunset | ⟨path, hne, hpath, hthere⟩, rfl⟩ |
      ⟨event, ⟨path, hne, hpath, hthere, hevent⟩, hv⟩)
    · exact eventFound_of_unset hunset files
    · rw [eventFound_of_path hne hpath, hthere]
      rfl
    · rw [eventFound_of_path hne hpath, hthere, hevent]
      exact Except.mapError_eq_ok_iff.2 hv

theorem numberAt_of_eventNumber (h : eventNumber event = .ok v) : v = .null ∨ NumberAt event v := by
  unfold eventNumber at h
  split at h
  case h_1 members =>
    split at h
    case h_1 hrequest => exact Or.inl (Except.ok.inj h).symm
    case h_2 request hrequest =>
      cases hnumber : Json.lookup? "number" request with
      | none =>
        rw [hnumber] at h
        exact Or.inl (Except.ok.inj h).symm
      | some v' =>
        rw [hnumber] at h
        obtain rfl := Except.ok.inj h
        exact Or.inr ⟨members, request, rfl, hrequest, hnumber⟩
    case h_3 => cases h
  case h_2 => cases h

theorem NumberAt.eventNumber_eq (h : NumberAt event v) : eventNumber event = .ok v := by
  obtain ⟨members, request, rfl, hrequest, hnumber⟩ := h
  simp only [eventNumber, hrequest, hnumber, Option.getD_some]

theorem numberSet_of_unset (h : Unset environment.number) : numberSet environment = .ok none := by
  rcases h with h | h <;> simp only [numberSet, h]

theorem numberSet_of_text {t : Text} (ht : t ≠ []) (h : environment.number = some t) :
    numberSet environment = ((Numeral.read 10 t).mapError .numeral).map some := by
  obtain ⟨c, cs, rfl⟩ := List.exists_cons_of_ne_nil ht
  simp only [numberSet, h]
  cases Numeral.read 10 (c :: cs) <;> rfl

theorem numberFound_of_unset (h : Unset environment.number) (files : Files) :
    numberFound none environment files = eventFound environment files := by
  rw [numberFound, numberSet_of_unset h]
  rfl

theorem numberFound_of_text {t : Text} (ht : t ≠ []) (h : environment.number = some t)
    (files : Files) : numberFound none environment files =
      ((Numeral.read 10 t).mapError .numeral).map .whole := by
  rw [numberFound, numberSet_of_text ht h]
  cases Numeral.read 10 t <;> rfl

/-- **The whole number that is found** is the one that counts. -/
theorem numberFound_eq_whole_iff :
    numberFound given environment files = .ok (.whole n) ↔ Numbered given environment files n := by
  constructor
  · intro h
    cases given with
    | some m =>
      obtain rfl := Json.whole.inj (Except.ok.inj h)
      exact .given rfl
    | none =>
      rcases unset_or environment.number with hunset | ⟨c, cs, hset⟩
      · rw [numberFound_of_unset hunset] at h
        rcases eventFound_eq_ok_iff.1 h with ⟨-, hnull⟩ | ⟨event, hevent, hnumber⟩
        · cases hnull
        · rcases numberAt_of_eventNumber hnumber with hnull | hat
          · cases hnull
          · exact .event rfl hunset hevent hat
      · have ht : c :: cs ≠ [] := List.cons_ne_nil c cs
        rw [numberFound_of_text ht hset] at h
        obtain ⟨m, hread, hm⟩ := Except.map_eq_ok_iff.1 h
        obtain rfl := Json.whole.inj hm
        exact .set rfl hset ht (Except.mapError_eq_ok_iff.1 hread)
  · rintro (rfl | ⟨rfl, hset, ht, hread⟩ | ⟨rfl, hunset, hevent, hat⟩)
    · rfl
    · rw [numberFound_of_text ht hset, hread]
      rfl
    · rw [numberFound_of_unset hunset]
      exact eventFound_eq_ok_iff.2 (Or.inr ⟨_, hevent, hat.eventNumber_eq⟩)

theorem whole_or_null_of_numberFound (hwhole : WholeOrNull given environment files)
    (h : numberFound given environment files = .ok v) : v = .null ∨ ∃ n, v = .whole n := by
  cases given with
  | some m => exact Or.inr ⟨m, (Except.ok.inj h).symm⟩
  | none =>
    rcases unset_or environment.number with hunset | ⟨c, cs, hset⟩
    · rw [numberFound_of_unset hunset] at h
      rcases eventFound_eq_ok_iff.1 h with ⟨-, hnull⟩ | ⟨event, hevent, hnumber⟩
      · exact Or.inl hnull
      · rcases numberAt_of_eventNumber hnumber with hnull | hat
        · exact Or.inl hnull
        · exact hwhole rfl hunset event v hevent hat
    · rw [numberFound_of_text (List.cons_ne_nil c cs) hset] at h
      obtain ⟨m, -, hm⟩ := Except.map_eq_ok_iff.1 h
      exact Or.inr ⟨m, hm.symm⟩

/-! ### The pull request -/

/-- The pull request is that of the sources that count. -/
structure Addressed (repository : Option Text) (given : Option Int) (environment : Environment)
    (files : Files) (pr : PullRequest) : Prop where
  names : NamesRepository repository environment.repository pr.fullName
  slash : Path.slash ∈ pr.fullName
  owner : pr.owner = pr.fullName.takeWhile (· ≠ Path.slash)
  numbered : Numbered given environment files pr.number
  nonzero : pr.number ≠ 0

theorem owner_eq_takeWhile_iff :
    pr.owner = pr.fullName.takeWhile (· ≠ Path.slash) ↔ Path.slash ∉ pr.owner := by
  constructor
  · intro h hmem
    rw [h] at hmem
    simpa using List.mem_takeWhile_imp hmem
  · intro h
    have howner : ∀ c ∈ pr.owner, decide (c ≠ Path.slash) = true := by
      intro c hc
      exact decide_eq_true fun heq => h (heq ▸ hc)
    rw [fullName_eq, List.takeWhile_append_of_pos howner]
    simp

theorem found_eq_ok_iff (hwhole : WholeOrNull given environment files) :
    found repository given environment files = .ok pr ↔
      Addressed repository given environment files pr := by
  have hslash : Path.slash ∈ pr.fullName := by
    rw [fullName_eq]
    exact List.mem_append_right _ List.mem_cons_self
  have hnamed : Path.slash ∉ pr.owner →
      NamesRepository repository environment.repository pr.fullName →
      ownerAndName? (repositoryText repository environment) = some (pr.owner, pr.repo) := by
    intro howner hnames
    rw [(namesRepository_iff (List.ne_nil_of_mem hslash)).1 hnames]
    exact ownerAndName?_eq_some_iff.2 ⟨fullName_eq pr, howner⟩
  constructor
  · intro h
    unfold found at h
    split at h
    case h_1 => cases h
    case h_2 owner repo hname =>
      obtain ⟨v, hv, hnumbered⟩ := Except.bind_eq_ok_iff.1 h
      obtain ⟨hrepository, howner⟩ := ownerAndName?_eq_some_iff.1 hname
      rcases whole_or_null_of_numberFound hwhole hv with rfl | ⟨n, rfl⟩
      · -- null counts as no number
        cases hnumbered
      · unfold numbered at hnumbered
        split at hnumbered
        case isTrue => cases hnumbered
        case isFalse hzero =>
          obtain rfl := Except.ok.inj hnumbered
          exact {
            names := (namesRepository_iff (List.ne_nil_of_mem hslash)).2 (by
              rw [hrepository, fullName_eq])
            slash := hslash
            owner := owner_eq_takeWhile_iff.2 howner
            numbered := numberFound_eq_whole_iff.1 hv
            nonzero := by simpa [Json.isEmpty] using hzero }
  · rintro ⟨hnames, -, howner, hnumbered, hnonzero⟩
    have hzero : (Json.whole pr.number).isEmpty = false := by simpa [Json.isEmpty] using hnonzero
    rw [found, hnamed (owner_eq_takeWhile_iff.1 howner) hnames]
    simp only [numberFound_eq_whole_iff.2 hnumbered, Except.ok_bind, numbered, hzero]
    rfl

/-- Two surroundings agree on the sources that are looked at: each one that comes after those that
are absent. -/
structure SameSources (repository : Option Text) (given : Option Int) (s s' : Surroundings) :
    Prop where
  repository : Unset repository → s'.environment.repository = s.environment.repository
  number : given = none → s'.environment.number = s.environment.number
  eventPath : given = none → Unset s.environment.number →
    s'.environment.eventPath = s.environment.eventPath
  event : given = none → Unset s.environment.number → ∀ path, s.environment.eventPath = some path →
    s'.files.isThere (Path.plain path) = s.files.isThere (Path.plain path) ∧
      s'.files.read path = s.files.read path

theorem numberFound_congr (h : SameSources repository given s s') :
    numberFound given s'.environment s'.files = numberFound given s.environment s.files := by
  cases given with
  | some n => rfl
  | none =>
    have hset := h.number rfl
    rcases unset_or s.environment.number with hunset | ⟨c, cs, htext⟩
    · -- only here is the event looked at
      rw [numberFound_of_unset hunset, numberFound_of_unset (hset ▸ hunset)]
      have hpath := h.eventPath rfl hunset
      rcases unset_or s.environment.eventPath with hnone | ⟨d, ds, hsome⟩
      · rw [eventFound_of_unset hnone, eventFound_of_unset (hpath ▸ hnone)]
      · obtain ⟨hthere, hread⟩ := h.event rfl hunset _ hsome
        have hne : d :: ds ≠ [] := List.cons_ne_nil d ds
        rw [eventFound_of_path hne hsome, eventFound_of_path hne (hpath.trans hsome), hthere,
          eventIn, eventIn, hread]
    · have ht : c :: cs ≠ [] := List.cons_ne_nil c cs
      rw [numberFound_of_text ht htext, numberFound_of_text ht (hset.trans htext)]

theorem found_congr (h : SameSources repository given s s') :
    found repository given s'.environment s'.files =
      found repository given s.environment s.files := by
  have hrepository : repositoryText repository s'.environment =
      repositoryText repository s.environment := by
    rcases unset_or repository with hunset | ⟨c, cs, rfl⟩
    · rw [repositoryText_of_unset hunset, repositoryText_of_unset hunset, h.repository hunset]
    · rfl
  rw [found, found, hrepository, numberFound_congr h]

/-- A number that is zero means no pull request. -/
theorem found_of_zero (h : Numbered given environment files 0) :
    found repository given environment files = .error .repositoryUnknown ∨
      found repository given environment files = .error .numberUnknown := by
  unfold found
  split
  case h_1 => exact Or.inl rfl
  case h_2 owner repo hname =>
    rw [numberFound_eq_whole_iff.2 h]
    exact Or.inr rfl

/-- **The pull request is that of the sources that count**, if the event has a whole number where it
is looked at and has one: its repository is the one that is given, or else the one that is set, and
has an owner; its number is the one that is given, or else the one that is set, or else that of the
event, and is not zero.  Nothing but the sources that are looked at has a part in what comes of it.
A number that is zero is refused, whatever comes after it. -/
theorem meant_of_sources (repository : Option Text) (given : Option Int) (s : Surroundings) :
    (WholeOrNull given s.environment s.files → ∀ pr,
      ((meant repository given).outcome s).1 = .ok pr ↔
        Addressed repository given s.environment s.files pr) ∧
    (∀ s', SameSources repository given s s' →
      ((meant repository given).outcome s').1 = ((meant repository given).outcome s).1) ∧
    (Numbered given s.environment s.files 0 →
      ((meant repository given).outcome s).1 = .error .repositoryUnknown ∨
        ((meant repository given).outcome s).1 = .error .numberUnknown) := by
  have hmeant : ∀ s, ((meant repository given).outcome s).1 =
      found repository given s.environment s.files := by
    intro s
    obtain ⟨notes, h⟩ := meant_outcome repository given s
    rw [h]
  simp only [hmeant]
  exact ⟨fun hwhole pr => found_eq_ok_iff hwhole, fun s' h => found_congr h, found_of_zero⟩

/-- The whole number that was found, if one was. -/
def whole? : Except Failure Json → Option Int
  | .ok (.whole n) => some n
  | _ => none

theorem eq_of_whole? {x : Except Failure Json} (h : whole? x = some n) : x = .ok (.whole n) := by
  cases x with
  | error f => cases h
  | ok v =>
    cases v with
    | whole m =>
      obtain rfl := Option.some.inj h
      rfl
    | _ => cases h

/-- An event about a pull request, as it is written. -/
def writtenEvent : Text := "\x7b\"pull_request\": \x7b\"number\": 7\x7d\x7d"

/-- Surroundings in which a repository is set, and an event is pointed to. -/
def atEvent : Surroundings where
  files := {
    root := "/work"
    contents := [([Text.ofString "event.json"], Utf8.write writtenEvent)] }
  environment := { repository := some "acme/app", eventPath := some "event.json" }

/-- The same, but there is no file, and what is set for the number is none. -/
def afterEvent : Surroundings where
  files := { root := "/work" }
  environment := { atEvent.environment with number := some "none" }

theorem meant_of_sources_event :
    WholeOrNull none atEvent.environment atEvent.files ∧
      ((meant none none).outcome atEvent).1 = .ok ⟨"acme", "app", 7⟩ ∧
      ((meant none (some 42)).outcome afterEvent).1 = ((meant none (some 42)).outcome atEvent).1 ∧
      (((meant none (some 0)).outcome atEvent).1 = .error .repositoryUnknown ∨
        ((meant none (some 0)).outcome atEvent).1 = .error .numberUnknown) := by
  have hunset : Unset atEvent.environment.number := Or.inl rfl
  have hfound : eventFound atEvent.environment atEvent.files = .ok (.whole 7) :=
    eq_of_whole? (by decide +kernel)
  have hwhole : WholeOrNull none atEvent.environment atEvent.files := by
    intro _ _ event v hevent hat
    rw [eventFound_eq_ok_iff.2 (Or.inr ⟨event, hevent, hat.eventNumber_eq⟩)] at hfound
    exact Or.inr ⟨7, Except.ok.inj hfound⟩
  have hnumbered : Numbered none atEvent.environment atEvent.files 7 :=
    numberFound_eq_whole_iff.1 ((numberFound_of_unset hunset _).trans hfound)
  have haddressed : Addressed none none atEvent.environment atEvent.files ⟨"acme", "app", 7⟩ :=
    ⟨.set (Or.inl rfl) rfl, by decide, by decide, hnumbered, by decide⟩
  have hsame : SameSources none (some 42) atEvent afterEvent := ⟨fun _ => rfl, nofun, nofun, nofun⟩
  exact ⟨hwhole, ((meant_of_sources none none atEvent).1 hwhole _).2 haddressed,
    (meant_of_sources none (some 42) atEvent).2.1 afterEvent hsame,
    (meant_of_sources none (some 0) atEvent).2.2 (.given rfl)⟩

end PullRequest

end PullNotes
