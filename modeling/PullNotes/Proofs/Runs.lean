import Mathlib.Data.List.Forall2
import PullNotes.Run

/-!
# What a run does

Two forms of run are told apart by what they leave behind.  A run that *reads* takes its result from
the files alone and leaves nothing but notes.  A run that *asks* gives one command, takes its result
from the reply to it, and leaves nothing else but notes.  Both forms are closed under going on, so a
run is described by describing its parts.

* `Run.Reads`, `Run.Asks` : the two forms.
* `Run.Reads.bind`, `Run.Asks.bind` : going on after a run of either form.
-/

namespace PullNotes

/-! ### Results -/

section

variable {ε α β : Type}

theorem Except.ok_bind (a : α) (k : α → Except ε β) : (Except.ok a >>= k) = k a := rfl

theorem Except.error_bind (e : ε) (k : α → Except ε β) :
    (Except.error e >>= k) = .error e := rfl

theorem Except.bind_eq_ok_iff {x : Except ε α} {k : α → Except ε β} {b : β} :
    (x >>= k) = .ok b ↔ ∃ a, x = .ok a ∧ k a = .ok b := by
  cases x with
  | error e => exact ⟨fun h => (nomatch h), fun ⟨a, h, _⟩ => (nomatch h)⟩
  | ok a => exact ⟨fun h => ⟨a, rfl, h⟩, fun ⟨a', h, hk⟩ => by cases h; exact hk⟩

theorem Except.eq_ok_of_toOption {x : Except ε α} {a : α} (h : x.toOption = some a) : x = .ok a := by
  cases x with
  | error e => cases h
  | ok a' => exact congrArg Except.ok (Option.some.inj h)

theorem Except.map_eq_ok_iff {x : Except ε α} {f : α → β} {b : β} :
    x.map f = .ok b ↔ ∃ a, x = .ok a ∧ f a = b := by
  cases x with
  | error e => exact ⟨fun h => (nomatch h), fun ⟨a, h, _⟩ => (nomatch h)⟩
  | ok a =>
    refine ⟨fun h => ⟨a, rfl, Except.ok.inj h⟩, ?_⟩
    rintro ⟨a', h, hf⟩
    cases h
    exact hf ▸ rfl

theorem Except.map_eq_error_iff {x : Except ε α} {f : α → β} {e : ε} :
    x.map f = .error e ↔ x = .error e := by
  cases x with
  | error e' => exact ⟨fun h => congrArg Except.error (Except.error.inj h), fun h => h ▸ rfl⟩
  | ok a => exact ⟨fun h => (nomatch h), fun h => (nomatch h)⟩

theorem Except.mapError_eq_ok_iff {ε' : Type} {x : Except ε α} {f : ε → ε'} {a : α} :
    x.mapError f = .ok a ↔ x = .ok a := by
  cases x with
  | error e => exact ⟨fun h => (nomatch h), fun h => (nomatch h)⟩
  | ok a' => exact ⟨fun h => congrArg Except.ok (Except.ok.inj h), fun h => h ▸ rfl⟩

/-- Several results are had together if each of them is. -/
theorem Except.exists_mapM_eq_ok_iff {f : α → Except ε β} {as : List α} :
    (∃ bs, as.mapM f = .ok bs) ↔ ∀ a ∈ as, ∃ b, f a = .ok b := by
  induction as with
  | nil => exact ⟨fun _ a ha => (nomatch ha), fun _ => ⟨[], rfl⟩⟩
  | cons a as ih =>
    simp only [List.mapM_cons, Except.bind_eq_ok_iff, List.forall_mem_cons, ← ih]
    constructor
    · rintro ⟨_, b, hb, bs, hbs, _⟩
      exact ⟨⟨b, hb⟩, bs, hbs⟩
    · rintro ⟨⟨b, hb⟩, bs, hbs⟩
      exact ⟨b :: bs, b, hb, bs, hbs, rfl⟩

theorem Except.mapM_eq_ok_iff {f : α → Except ε β} {as : List α} {bs : List β} :
    as.mapM f = .ok bs ↔ List.Forall₂ (fun a b => f a = .ok b) as bs := by
  induction as generalizing bs with
  | nil =>
    rw [List.forall₂_nil_left_iff]
    exact ⟨fun h => (Except.ok.inj h).symm, fun h => h ▸ rfl⟩
  | cons a as ih =>
    rw [List.forall₂_cons_left_iff]
    simp only [List.mapM_cons, Except.bind_eq_ok_iff, ih]
    constructor
    · rintro ⟨b, hb, bs, hbs, hpure⟩
      exact ⟨b, bs, hb, hbs, (Except.ok.inj hpure).symm⟩
    · rintro ⟨b, bs, hb, hbs, rfl⟩
      exact ⟨b, hb, bs, hbs, rfl⟩

/-- All several results were had, or some were up to the first failure. -/
theorem Except.mapM_eq_error_iff {f : α → Except ε β} {as : List α} {e : ε} :
    as.mapM f = .error e ↔ ∃ front a back, as = front ++ a :: back ∧
      (∀ x ∈ front, ∃ b, f x = .ok b) ∧ f a = .error e := by
  induction as with
  | nil =>
    refine iff_of_false (nomatch ·) ?_
    rintro ⟨front, a, back, h, -⟩
    simp at h
  | cons a as ih =>
    rw [List.mapM_cons]
    cases ha : f a with
    | error e' =>
      constructor
      · intro h
        obtain rfl : e' = e := Except.error.inj h
        exact ⟨[], a, as, rfl, fun _ h => (nomatch h), ha⟩
      · rintro ⟨front, a', back, heq, hfront, ha'⟩
        cases front with
        | nil =>
          obtain ⟨rfl, -⟩ := List.cons.inj heq
          obtain rfl := Except.error.inj (ha.symm.trans ha')
          rfl
        | cons x front =>
          obtain ⟨rfl, -⟩ := List.cons.inj heq
          obtain ⟨b, hb⟩ := hfront a List.mem_cons_self
          cases ha.symm.trans hb
    | ok b =>
      have hgo : (do let b ← Except.ok b; let bs ← as.mapM f; pure (b :: bs) : Except ε (List β)) =
          .error e ↔ as.mapM f = .error e := by
        cases as.mapM f with
        | error e' => exact Iff.rfl
        | ok bs => exact iff_of_false (nomatch ·) (nomatch ·)
      refine hgo.trans (ih.trans ⟨?_, ?_⟩)
      · rintro ⟨front, a', back, rfl, hfront, ha'⟩
        refine ⟨a :: front, a', back, rfl, ?_, ha'⟩
        exact List.forall_mem_cons.2 ⟨⟨b, ha⟩, hfront⟩
      · rintro ⟨front, a', back, heq, hfront, ha'⟩
        cases front with
        | nil =>
          obtain ⟨rfl, -⟩ := List.cons.inj heq
          cases ha.symm.trans ha'
        | cons x front =>
          obtain ⟨-, rfl⟩ := List.cons.inj heq
          exact ⟨front, a', back, rfl, (List.forall_mem_cons.1 hfront).2, ha'⟩

/-- A run over a list fails at one of its elements, and has come there without a failure. -/
theorem Except.foldlM_eq_error_iff {f : β → α → Except ε β} {as : List α} {b : β} {e : ε} :
    as.foldlM f b = .error e ↔ ∃ front a back b', as = front ++ a :: back ∧
      front.foldlM f b = .ok b' ∧ f b' a = .error e := by
  constructor
  · intro h
    induction as generalizing b with
    | nil => cases h
    | cons a as ih =>
      rw [List.foldlM_cons] at h
      cases ha : f b a with
      | error e' =>
        rw [ha, Except.error_bind] at h
        obtain rfl := Except.error.inj h
        exact ⟨[], a, as, b, rfl, rfl, ha⟩
      | ok b₁ =>
        rw [ha, Except.ok_bind] at h
        obtain ⟨front, a', back, b', rfl, hfront, ha'⟩ := ih h
        refine ⟨a :: front, a', back, b', rfl, ?_, ha'⟩
        rw [List.foldlM_cons, ha, Except.ok_bind, hfront]
  · rintro ⟨front, a, back, b', rfl, hfront, ha⟩
    rw [List.foldlM_append, hfront, Except.ok_bind, List.foldlM_cons, ha, Except.error_bind]

end

/-! ### Replies and surroundings -/

namespace Reply

/-- The output of a command that succeeded. -/
def output? : Reply → Option Text
  | finished status output _ => if status = 0 then some output else none
  | _ => none

end Reply

namespace Surroundings

/-- The reply that comes after a number of others. -/
def reply (s : Surroundings) (n : Nat) : Reply := s.replies.getD n s.afterwards

/-- The surroundings after a command, whose reply is taken. -/
def gave (s : Surroundings) (c : Command) : Surroundings :=
  { s with commands := s.commands ++ [c], replies := s.replies.tail }

/-- The surroundings with other notes. -/
def noting (s : Surroundings) (notes : List Note) : Surroundings := { s with notes := notes }

@[simp] theorem gave_files (s : Surroundings) (c : Command) : (s.gave c).files = s.files := rfl

@[simp] theorem gave_commands (s : Surroundings) (c : Command) :
    (s.gave c).commands = s.commands ++ [c] := rfl

@[simp] theorem gave_reply (s : Surroundings) (c : Command) (n : Nat) :
    (s.gave c).reply n = s.reply (n + 1) := by
  simp only [gave, reply]
  cases s.replies <;> simp

theorem foldl_gave_commands (calls : List Command) (s : Surroundings) :
    (calls.foldl gave s).commands = s.commands ++ calls := by
  induction calls generalizing s with
  | nil => exact (List.append_nil _).symm
  | cons c calls ih =>
    rw [List.foldl_cons, ih, gave_commands, List.append_assoc, List.singleton_append]

@[simp] theorem noting_files (s : Surroundings) (notes : List Note) :
    (s.noting notes).files = s.files := rfl

@[simp] theorem noting_commands (s : Surroundings) (notes : List Note) :
    (s.noting notes).commands = s.commands := rfl

@[simp] theorem noting_reply (s : Surroundings) (notes : List Note) (n : Nat) :
    (s.noting notes).reply n = s.reply n := rfl

@[simp] theorem noting_gave (s : Surroundings) (notes : List Note) (c : Command) :
    (s.noting notes).gave c = (s.gave c).noting notes := rfl

@[simp] theorem noting_noting (s : Surroundings) (notes notes' : List Note) :
    (s.noting notes).noting notes' = s.noting notes' := rfl

end Surroundings

namespace Run

variable {α β : Type}

/-! ### The steps of a run -/

theorem outcome_bind_ok {r : Run α} {k : α → Run β} {s s' : Surroundings} {a : α}
    (h : r.outcome s = (.ok a, s')) : (r >>= k).outcome s = (k a).outcome s' := by
  simp only [outcome] at h ⊢
  simp only [bind, ExceptT.bind, ExceptT.mk, StateT.bind, h, ExceptT.bindCont]

theorem outcome_bind_error {r : Run α} {k : α → Run β} {s s' : Surroundings} {e : Failure}
    (h : r.outcome s = (.error e, s')) : (r >>= k).outcome s = (.error e, s') := by
  simp only [outcome] at h ⊢
  simp only [bind, ExceptT.bind, ExceptT.mk, StateT.bind, h, ExceptT.bindCont]
  rfl

theorem outcome_command (c : Command) (s : Surroundings) :
    (command c).outcome s = (.ok (s.reply 0), s.gave c) := by
  obtain ⟨files, environment, replies, afterwards, commands, notes, printed⟩ := s
  cases replies <;> rfl

theorem outcome_observe {r : Run α} {s s' : Surroundings} {x : Except Failure α}
    (h : r.outcome s = (x, s')) : (observe r).outcome s = (.ok x, s') := by
  have hgo : (observe r).outcome s = (.ok (r.outcome s).1, (r.outcome s).2) := rfl
  rw [hgo, h]

theorem outcome_printOr_ok {reason : CodingError → Failure} {text : Text} {chars : List Char}
    (h : text.toCharsOrError = .ok chars) (s : Surroundings) :
    (printOr reason text).outcome s = (.ok (), { s with printed := s.printed ++ text }) := by
  rw [printOr, h]
  rfl

theorem outcome_printOr_error {reason : CodingError → Failure} {text : Text} {e : CodingError}
    (h : text.toCharsOrError = .error e) (s : Surroundings) :
    (printOr reason text).outcome s = (.error (reason e), s) := by
  rw [printOr, h]
  rfl

theorem outcome_changeFiles_ok {f : Files → Except FileError Files} {s : Surroundings}
    {files : Files} (h : f s.files = .ok files) :
    (changeFiles f).outcome s = (.ok (), { s with files := files }) := by
  have hset : (ofExcept .file (f s.files) >>= fun files => set { s with files := files } :
      Run Unit).outcome s = (.ok (), { s with files := files }) := by
    rw [h]
    rfl
  exact hset

theorem outcome_changeFiles_error {f : Files → Except FileError Files} {s : Surroundings}
    {e : FileError} (h : f s.files = .error e) :
    (changeFiles f).outcome s = (.error (.file e), s) := by
  have hset : (ofExcept .file (f s.files) >>= fun files => set { s with files := files } :
      Run Unit).outcome s = (.error (.file e), s) := by
    rw [h]
    rfl
  exact hset

/-! ### Runs that read -/

/-- What comes of the run depends on the files alone, and nothing changes but the notes. -/
def Reads (r : Run α) (result : Files → Except Failure α) : Prop :=
  ∀ s, ∃ notes, r.outcome s = (result s.files, s.noting notes)

theorem reads_pure (a : α) : Reads (pure a) fun _ => .ok a := fun s => ⟨s.notes, rfl⟩

theorem reads_ofExcept {ε : Type} (reason : ε → Failure) (x : Except ε α) :
    Reads (ofExcept reason x) fun _ => x.mapError reason := by
  intro s
  cases x with
  | error e => exact ⟨s.notes, rfl⟩
  | ok a => exact ⟨s.notes, rfl⟩

theorem reads_ofFailing (x : Except Failure α) : Reads (ofExcept id x) fun _ => x := by
  intro s
  cases x with
  | error e => exact ⟨s.notes, rfl⟩
  | ok a => exact ⟨s.notes, rfl⟩

theorem reads_note (level : NoteLevel) (topic : String) (text : Text) :
    Reads (note level topic text) fun _ => .ok () :=
  fun s => ⟨s.notes ++ [⟨level, topic, text⟩], rfl⟩

theorem Reads.outcome_eq {r : Run α} {result : Files → Except Failure α} (hr : Reads r result)
    {s : Surroundings} {x : Except Failure α} (hx : result s.files = x) :
    ∃ notes, r.outcome s = (x, s.noting notes) :=
  hx ▸ hr s

theorem Reads.congr {r : Run α} {result result' : Files → Except Failure α} (hr : Reads r result)
    (h : ∀ files, result files = result' files) : Reads r result' :=
  funext h ▸ hr

theorem Reads.bind {r : Run α} {k : α → Run β} {result : Files → Except Failure α}
    {next : α → Files → Except Failure β} (hr : Reads r result) (hk : ∀ a, Reads (k a) (next a)) :
    Reads (r >>= k) fun files => result files >>= fun a => next a files := by
  intro s
  cases hres : result s.files with
  | error e =>
    obtain ⟨notes, h⟩ := hr.outcome_eq hres
    exact ⟨notes, by rw [outcome_bind_error h]; simp only [hres]; rfl⟩
  | ok a =>
    obtain ⟨notes, h⟩ := hr.outcome_eq hres
    obtain ⟨notes', h'⟩ := hk a (s.noting notes)
    exact ⟨notes', by rw [outcome_bind_ok h, h']; simp only [hres]; rfl⟩

theorem reads_readBytes (path : Text) :
    Reads (readBytes path) fun files => (files.read path).mapError .file :=
  fun s => reads_ofExcept .file (s.files.read path) s

theorem reads_readText (encoding path : Text) :
    Reads (readText encoding path) fun files =>
      (files.read path).mapError .file >>= fun bytes =>
        (Encoding.readFile encoding bytes).mapError .coding :=
  (reads_readBytes path).bind fun bytes => reads_ofExcept .coding (Encoding.readFile encoding bytes)

/-! ### Runs that ask -/

/-- One command is given, what comes of the run depends on the reply alone, and nothing else changes
but the notes. -/
def Asks (r : Run α) (c : Command) (result : Reply → Except Failure α) : Prop :=
  ∀ s, ∃ notes, r.outcome s = (result (s.reply 0), (s.gave c).noting notes)

theorem Asks.outcome_eq {r : Run α} {c : Command} {result : Reply → Except Failure α}
    (hr : Asks r c result) {s : Surroundings} {x : Except Failure α} (hx : result (s.reply 0) = x) :
    ∃ notes, r.outcome s = (x, (s.gave c).noting notes) :=
  hx ▸ hr s

theorem Asks.bind {r : Run α} {c : Command} {k : α → Run β} {result : Reply → Except Failure α}
    {next : α → Except Failure β} (hr : Asks r c result) (hk : ∀ a, Reads (k a) fun _ => next a) :
    Asks (r >>= k) c fun reply => result reply >>= next := by
  intro s
  cases hres : result (s.reply 0) with
  | error e =>
    obtain ⟨notes, h⟩ := hr.outcome_eq hres
    exact ⟨notes, by rw [outcome_bind_error h]; simp only [hres]; rfl⟩
  | ok a =>
    obtain ⟨notes, h⟩ := hr.outcome_eq hres
    obtain ⟨notes', h'⟩ := hk a ((s.gave c).noting notes)
    exact ⟨notes', by rw [outcome_bind_ok h, h']; simp only [hres]; rfl⟩

end Run

end PullNotes
