import PullNotes.Change.Basic
import PullNotes.Proofs.Listing
import PullNotes.Proofs.Pieces

/-!
# Records of changes

A record says what happened to one file.  It is a line of cells with tabs between them: a letter
with whatever follows it, the old path of a file that was renamed or copied, and the path.  A
listing may have other lines between its records: blank ones, ones without a tab, and ones with
another letter.

A path may hold anything but a tab and the boundaries of lines.  Even a path of blanks is read,
since the letter before it makes the line one that is not blank.

* `Change.ofLine?_record`, `Change.ofLine?_noise` : what each kind of line is read as.
* `Change.ofListing_printed` : a listing is read as its records.
-/

namespace PullNotes

namespace Text

open CodePoint (carriageReturn lineFeed)

/-- A line with no boundary in it is the first line of a text that goes on after a carriage return
and a line feed. -/
theorem lines_append_returnFeed {line : Text} (h : ∀ c ∈ line, c.isLineBoundary = false)
    (rest : Text) : lines (line ++ carriageReturn :: lineFeed :: rest) = line :: lines rest := by
  induction line with
  | nil => rw [List.nil_append, lines, if_pos ⟨rfl, rfl⟩]
  | cons c line ih =>
    obtain ⟨hc, hline⟩ := List.forall_mem_cons.1 h
    obtain ⟨d, more, hmore⟩ := List.exists_cons_of_ne_nil
      (List.append_ne_nil_of_right_ne_nil line (List.cons_ne_nil carriageReturn (lineFeed :: rest)))
    have hreturn : c ≠ carriageReturn := by
      rintro rfl
      exact absurd hc (by decide)
    rw [List.cons_append, hmore, lines, if_neg (fun h => hreturn h.1), hc, ← hmore, ih hline]
    rfl

end Text

namespace Change

/-! ### Records -/

/-- The text has neither a tab nor a boundary of lines, so it can be a cell of a line. -/
def IsCell (t : Text) : Prop := ∀ c ∈ t, c ≠ tab ∧ c.isLineBoundary = false

instance (t : Text) : Decidable (IsCell t) := List.decidableBAll _ t

/-- What happened to a file, as a letter of a listing says it; a file that was renamed or copied had
an old path. -/
inductive Action where
  | added
  | modified
  | retyped
  | deleted
  | renamed (old : Text)
  | copied (old : Text)
deriving DecidableEq, Repr

namespace Action

/-- The letter of an action. -/
def letter : Action → Char
  | added => 'A'
  | modified => 'M'
  | retyped => 'T'
  | deleted => 'D'
  | renamed _ => 'R'
  | copied _ => 'C'

/-- The letters of all actions. -/
def letters : List Char := ['A', 'C', 'M', 'T', 'D', 'R']

/-- The kind of change that an action counts as. -/
def kind : Action → ChangeKind
  | added | copied _ => .added
  | modified | retyped => .modified
  | deleted => .deleted
  | renamed _ => .renamed

/-- The path that the file had before. -/
def old? : Action → Option Text
  | renamed old | copied old => some old
  | _ => none

end Action

/-- A record of a listing: an action, what follows its letter, such as the digits of a score, and
the path of the file. -/
structure Record where
  action : Action
  score : Text
  path : Text
  score_isCell : IsCell score := by decide
deriving DecidableEq

namespace Record

/-- The cell with the letter. -/
def mark (r : Record) : Text := r.action.letter :: r.score

/-- The cells of a record. -/
def cells (r : Record) : List Text := r.mark :: (r.action.old?.toList ++ [r.path])

/-- The line of a record. -/
def line (r : Record) : Text := .join [tab] r.cells

/-- The change that a record tells. -/
def change (r : Record) : Change := ⟨r.path, r.action.kind, r.action.old?⟩

end Record

/-- The paths of a record fit in cells. -/
def Record.InCells (r : Record) : Prop :=
  (∀ old ∈ r.action.old?, IsCell old) ∧ IsCell r.path

theorem Record.InCells.cells {r : Record} (h : r.InCells) : ∀ cell ∈ r.cells, IsCell cell := by
  obtain ⟨hold, hpath⟩ := h
  have hletter : ∀ a : Action, (a.letter : CodePoint) ≠ tab ∧
      (a.letter : CodePoint).isLineBoundary = false := fun a => by
    cases a <;> rw [Action.letter] <;> decide
  intro cell hcell
  simp only [Record.cells, List.mem_cons, List.mem_append, Option.mem_toList, List.not_mem_nil,
    or_false] at hcell
  rcases hcell with rfl | hcell | rfl
  · exact List.forall_mem_cons.2 ⟨hletter r.action, r.score_isCell⟩
  · exact hold cell hcell
  · exact hpath

theorem Record.splitOn_line {r : Record} (h : r.InCells) : r.line.splitOn tab = r.cells :=
  Text.splitOn_join tab (fun cell hcell htab => (h.cells cell hcell tab htab).1 rfl)
    (List.cons_ne_nil _ _)

theorem Record.letter_mem_line (r : Record) : (r.action.letter : CodePoint) ∈ r.line :=
  (Text.isInfix_join [tab] (List.mem_cons_self : r.mark ∈ r.cells)).subset List.mem_cons_self

/-- The line of a record is on one line. -/
theorem Record.not_isLineBoundary_of_mem_line {r : Record} (h : r.InCells) :
    ∀ c ∈ r.line, c.isLineBoundary = false := by
  intro c hc
  rcases Text.mem_join hc with htab | ⟨cell, hcell, hc⟩
  · obtain rfl := List.mem_singleton.1 htab
    decide
  · exact (h.cells cell hcell c hc).2

/-- **A record is read as the change that it tells.** -/
theorem ofLine?_record {r : Record} (h : r.InCells) : ofLine? r.line = some r.change := by
  have hletter : ∀ a : Action, ¬ (a.letter : CodePoint).isBlank = true := fun a => by
    cases a <;> rw [Action.letter] <;> decide
  have hblank : r.line.isBlank = false :=
    List.all_eq_false.2 ⟨_, r.letter_mem_line, hletter r.action⟩
  rw [ofLine?, if_neg (by rw [hblank]; decide), r.splitOn_line h]
  obtain ⟨action, _, _, _⟩ := r
  cases action <;> rfl

/-! ### Other lines -/

/-- A line that is no record: a blank one, one without a tab, or one that starts with none of the
letters. -/
def IsNoise (line : Text) : Prop :=
  line.isBlank = true ∨ tab ∉ line ∨ ∀ letter ∈ Action.letters, line.head? ≠ some (letter : CodePoint)

theorem ofLetter?_eq_none {c : CodePoint}
    (h : ∀ letter ∈ Action.letters, c ≠ (letter : CodePoint)) : ChangeKind.ofLetter? c = none := by
  rw [ChangeKind.ofLetter?, Option.map_eq_none_iff, List.find?_eq_none]
  rintro ⟨letter, kind⟩ hmem
  have hletter : letter ∈ Action.letters := by
    have hall : ∀ p ∈ ChangeKind.letters, p.1 ∈ Action.letters := by decide
    exact hall _ hmem
  simpa using fun heq => h letter hletter heq.symm

/-- **A line that is no record says nothing.** -/
theorem ofLine?_noise {line : Text} (h : IsNoise line) : ofLine? line = none := by
  rw [ofLine?]
  by_cases hblank : line.isBlank = true
  · rw [if_pos hblank]
  rw [if_neg hblank]
  rcases h with h | htab | hletter
  · exact absurd h hblank
  · rw [Text.splitOn_of_not_mem tab htab]
    cases line <;> rfl
  · -- the first cell is empty, or the line starts with its letter
    cases hcells : line.splitOn tab with
    | nil => rfl
    | cons mark cells =>
      have hline := Text.join_splitOn tab line
      rw [hcells] at hline
      cases mark with
      | nil => rfl
      | cons c score =>
        have hhead : line.head? = some c := by
          rw [← hline]
          cases cells <;> rfl
        have hnone : ChangeKind.ofLetter? c = none := ofLetter?_eq_none fun letter hmem heq =>
          hletter letter hmem (hhead.trans (congrArg some heq))
        cases cells with
        | nil => rfl
        | cons first more =>
          simp only [hnone]
          rfl

/-! ### Listings -/

/-- What stands on a line of a listing. -/
inductive Entry where
  | record (r : Record) (inCells : r.InCells)
  | noise (line : Text) (isNoise : IsNoise line) (oneLine : ∀ c ∈ line, c.isLineBoundary = false)

namespace Entry

/-- The line of an entry, without its end. -/
def line : Entry → Text
  | record r _ => r.line
  | noise line _ _ => line

/-- The record of an entry, if it is one. -/
def record? : Entry → Option Record
  | record r _ => some r
  | noise _ _ _ => none

theorem not_isLineBoundary_of_mem_line (e : Entry) : ∀ c ∈ e.line, c.isLineBoundary = false := by
  cases e with
  | record r h => exact Record.not_isLineBoundary_of_mem_line h
  | noise line _ h => exact h

theorem ofLine?_line (e : Entry) : ofLine? e.line = e.record?.map Record.change := by
  cases e with
  | record r h => exact ofLine?_record h
  | noise line h _ => exact ofLine?_noise h

end Entry

/-- How a line ends: with a line feed, or with a carriage return before it. -/
inductive LineEnd where
  | feed
  | returnFeed

/-- The text of the end of a line. -/
def LineEnd.text : LineEnd → Text
  | feed => [CodePoint.lineFeed]
  | returnFeed => [CodePoint.carriageReturn, CodePoint.lineFeed]

/-- The text of a listing. -/
def printed (entries : List (Entry × LineEnd)) : Text :=
  entries.flatMap fun (entry, stop) => entry.line ++ stop.text

/-- The records of a listing. -/
def records (entries : List (Entry × LineEnd)) : List Record :=
  entries.filterMap fun (entry, _) => entry.record?

theorem lines_printed (entries : List (Entry × LineEnd)) :
    (printed entries).lines = entries.map fun (entry, _) => entry.line := by
  induction entries with
  | nil => rfl
  | cons e entries ih =>
    obtain ⟨entry, stop⟩ := e
    have hline := entry.not_isLineBoundary_of_mem_line
    rw [printed, List.flatMap_cons, ← printed, List.append_assoc, List.map_cons, ← ih]
    cases stop with
    | feed => exact Text.lines_append_lineFeed hline _
    | returnFeed => exact Text.lines_append_returnFeed hline _

theorem ofListing_eq (entries : List (Entry × LineEnd)) :
    ofListing (printed entries) = (records entries).map Record.change := by
  rw [ofListing, lines_printed, List.filterMap_map, records, List.map_filterMap]
  exact List.filterMap_congr fun e _ => e.1.ofLine?_line

/-- The paths of the records with one of some letters. -/
def pathsWith (letters : List Char) (rs : List Record) : List Text :=
  (rs.filter fun r => letters.contains r.action.letter).map Record.path

/-- A choice among changes by their kind is one among records by their letter. -/
theorem paths_filter_changes (p : ChangeKind → Bool) (letters : List Char)
    (h : ∀ a : Action, p a.kind = letters.contains a.letter) (rs : List Record) :
    ((rs.map Record.change).filter fun c => p c.kind).map Change.path = pathsWith letters rs := by
  rw [List.filter_map, List.map_map, pathsWith]
  have hfilter : (fun c => p c.kind) ∘ Record.change = fun r => letters.contains r.action.letter :=
    funext fun r => h r.action
  rw [hfilter]
  rfl

theorem ofChanges_changes (rs : List Record) :
    ChangedPaths.ofChanges (rs.map Record.change) =
      ⟨pathsWith ['M', 'T', 'R'] rs, pathsWith ['A', 'C'] rs⟩ := by
  have hmodified := paths_filter_changes (fun k => k == .modified || k == .renamed) ['M', 'T', 'R']
    (fun a => by cases a <;> rfl) rs
  have hcreated := paths_filter_changes (fun k => k == .added) ['A', 'C']
    (fun a => by cases a <;> rfl) rs
  rw [ChangedPaths.ofChanges, hmodified, hcreated]

/-- **A listing is read as its records**, one change for each in order, whatever else stands on
lines between them.  The paths of modified files are those of the records with the letters `M`, `T`
and `R`, the paths of created ones those with `A` and `C`, each in the order of the records and as
often as there. -/
theorem ofListing_printed (entries : List (Entry × LineEnd)) :
    ofListing (printed entries) = (records entries).map (fun r =>
      ⟨r.path, r.action.kind, r.action.old?⟩) ∧
    ChangedPaths.ofChanges (ofListing (printed entries)) =
      ⟨pathsWith ['M', 'T', 'R'] (records entries), pathsWith ['A', 'C'] (records entries)⟩ := by
  have hchanges := ofListing_eq entries
  refine ⟨hchanges, ?_⟩
  rw [hchanges, ofChanges_changes]

end Change

end PullNotes
