import PullNotes.Change.Discovery
import PullNotes.Proofs.Change.Records
import PullNotes.Proofs.Digits
import PullNotes.Proofs.Runs
import PullNotes.Proofs.Utf8

/-!
# Paths in quotes

The command that lists the changes writes a path as it is only if all its bytes are usual: printable
ASCII, neither a double quote nor a backslash.  Any other path stands in double quotes, with a
backslash and a letter or three octal digits for each byte that is not usual.

The quotes are read as a part of the path.  So the paths that are read are those that are written,
and these are the real ones exactly if all bytes are usual.

* `Change.Quoting.path_eq_self_iff` : the paths that are written as they are.
* `Change.Quoting.ofListing_listing` : the paths that are read of a listing.
* `Change.realPaths_iff` : when they are the real ones.
-/

namespace PullNotes

open CodePoint (ofChar)

namespace Change

/-! ### Writing a path -/

/-- A byte that is written as it is: one of printable ASCII, but no double quote and no
backslash. -/
def isUsual (b : UInt8) : Bool := 0x20 ≤ b.toNat && b.toNat < 0x7F && b.toNat != 0x22 && b.toNat != 0x5C

/-- All bytes of the path are usual. -/
def IsUsual (name : Text) : Prop := (Utf8.write name).all isUsual = true

instance (name : Text) : Decidable (IsUsual name) := inferInstanceAs (Decidable (_ = true))

/-- How the bytes that are not usual are written: the letters that stand for some of them after a
backslash. -/
structure Quoting where
  letters : List (UInt8 × Char)
  visible : ∀ l ∈ letters, 0x20 ≤ l.2.toNat ∧ l.2.toNat < 0x7F := by decide

namespace Quoting

variable (q : Quoting)

/-- The three octal digits of a byte. -/
def octal (b : UInt8) : Text :=
  [CodePoint.digit (b.toNat / 64), CodePoint.digit (b.toNat / 8 % 8), CodePoint.digit (b.toNat % 8)]

/-- What is written for a byte in quotes. -/
def byte (b : UInt8) : Text :=
  if isUsual b then [Utf8.pointOf b.toNat]
  else
    match q.letters.lookup b with
    | some letter => [ofChar '\\', ofChar letter]
    | none => ofChar '\\' :: octal b

/-- What is written for a path. -/
def path (name : Text) : Text :=
  if IsUsual name then name else ofChar '"' :: (Utf8.write name).flatMap q.byte ++ [ofChar '"']

theorem path_of_isUsual {name : Text} (h : IsUsual name) : q.path name = name := if_pos h

theorem length_le_length_flatMap_byte (bs : Bytes) : bs.length ≤ (bs.flatMap q.byte).length := by
  induction bs with
  | nil => exact Nat.le_refl _
  | cons b bs ih =>
    have hbyte : 1 ≤ (q.byte b).length := by
      rw [byte]
      split
      · exact Nat.le_refl _
      · split <;> exact Nat.succ_le_succ (Nat.zero_le _)
    rw [List.flatMap_cons, List.length_append, List.length_cons]
    omega

/-- **A path is written as it is exactly if all its bytes are usual**; in quotes it is longer. -/
theorem path_eq_self_iff {name : Text} : q.path name = name ↔ IsUsual name := by
  refine ⟨fun h => Decidable.byContradiction fun hname => ?_, q.path_of_isUsual⟩
  have hlength := congrArg List.length h
  rw [path, if_neg hname, List.length_append, List.length_cons, List.length_singleton] at hlength
  have hbytes := q.length_le_length_flatMap_byte (Utf8.write name)
  have hname := Utf8.length_le_length_write name
  omega

/-! ### What is written is a cell -/

theorem isCell_of_printable {t : Text} (h : ∀ c ∈ t, 0x20 ≤ c.val ∧ c.val < 0x7F) : IsCell t := by
  intro c hc
  have hprintable := h c hc
  constructor
  · rintro rfl
    exact absurd hprintable (by decide)
  · simp only [CodePoint.isLineBoundary, Bool.or_eq_false_iff, Bool.and_eq_false_iff,
      decide_eq_false_iff_not]
    omega

theorem isUsual_iff {b : UInt8} :
    isUsual b = true ↔ 0x20 ≤ b.toNat ∧ b.toNat < 0x7F ∧ b.toNat ≠ 0x22 ∧ b.toNat ≠ 0x5C := by
  simp only [isUsual, Bool.and_eq_true, decide_eq_true_eq, bne_iff_ne, and_assoc]

/-- The code points of a path whose bytes are usual are those bytes. -/
theorem printable_of_isUsual {name : Text} (h : IsUsual name) :
    ∀ c ∈ name, 0x20 ≤ c.val ∧ c.val < 0x7F := by
  intro c hc
  have hbytes : ∀ b ∈ Utf8.writePoint c, isUsual b = true := fun b hb =>
    List.all_eq_true.1 h b (List.mem_flatMap.2 ⟨c, hc, hb⟩)
  by_cases hascii : c.val < 0x80
  · have hwrite : Utf8.writePoint c = [c.val.toUInt8] := if_pos hascii
    have hbyte := isUsual_iff.1 (hbytes _ (hwrite ▸ List.mem_singleton_self _))
    rw [Utf8.toNat_toUInt8 (by omega)] at hbyte
    exact ⟨hbyte.1, hbyte.2.1⟩
  · -- a code point beyond ASCII begins with a byte beyond it
    exfalso
    have hlt := c.isLt
    simp only [Utf8.writePoint, if_neg hascii] at hbytes
    split at hbytes
    · have hbyte := isUsual_iff.1 (hbytes _ List.mem_cons_self)
      rw [Utf8.toNat_toUInt8 (by omega)] at hbyte
      omega
    · split at hbytes
      · have hbyte := isUsual_iff.1 (hbytes _ List.mem_cons_self)
        rw [Utf8.toNat_toUInt8 (by omega)] at hbyte
        omega
      · have hbyte := isUsual_iff.1 (hbytes _ List.mem_cons_self)
        rw [Utf8.toNat_toUInt8 (by omega)] at hbyte
        omega

theorem printable_digit {d : Nat} (h : d < 10) :
    0x20 ≤ (CodePoint.digit d).val ∧ (CodePoint.digit d).val < 0x7F := by
  rw [CodePoint.digit_val h]
  omega

theorem printable_byte (b : UInt8) : ∀ c ∈ q.byte b, 0x20 ≤ c.val ∧ c.val < 0x7F := by
  have hbackslash : 0x20 ≤ (ofChar '\\').val ∧ (ofChar '\\').val < 0x7F := by decide
  rw [byte]
  split
  · next husual =>
    have hb := isUsual_iff.1 husual
    rw [List.forall_mem_singleton, Utf8.val_pointOf (by omega)]
    exact ⟨hb.1, hb.2.1⟩
  · split
    · next letter hletter =>
      -- a backslash and a letter, else a backslash and three digits
      have hmem : ∃ k, (k, letter) ∈ q.letters := by
        rw [List.lookup_eq_some_iff] at hletter
        obtain ⟨front, back, hletters, -⟩ := hletter
        exact ⟨b, hletters ▸ List.mem_append_right _ List.mem_cons_self⟩
      obtain ⟨k, hmem⟩ := hmem
      simp only [List.forall_mem_cons]
      exact ⟨hbackslash, q.visible _ hmem, List.forall_mem_nil _⟩
    · have hb := b.toNat_lt
      simp only [octal, List.forall_mem_cons]
      exact ⟨hbackslash, printable_digit (by omega), printable_digit (by omega),
        printable_digit (by omega), List.forall_mem_nil _⟩

/-- What is written for a path is a cell, whatever the path is. -/
theorem isCell_path (name : Text) : IsCell (q.path name) := by
  have hquote : 0x20 ≤ (ofChar '"').val ∧ (ofChar '"').val < 0x7F := by decide
  refine isCell_of_printable ?_
  rw [path]
  split
  · next h => exact printable_of_isUsual h
  · intro c hc
    simp only [List.cons_append, List.mem_cons, List.mem_append, List.mem_flatMap,
      List.not_mem_nil, or_false] at hc
    rcases hc with rfl | ⟨b, -, hc⟩ | rfl
    · exact hquote
    · exact q.printable_byte b c hc
    · exact hquote

/-! ### Listings -/

/-- An action with its old path as it is written. -/
def action : Action → Action
  | .renamed old => .renamed (q.path old)
  | .copied old => .copied (q.path old)
  | a => a

/-- A record with its paths as they are written. -/
def record (r : Record) : Record := { r with action := q.action r.action, path := q.path r.path }

theorem old?_action (a : Action) : (q.action a).old? = a.old?.map q.path := by
  cases a <;> rfl

theorem letter_action (a : Action) : (q.action a).letter = a.letter := by
  cases a <;> rfl

theorem kind_action (a : Action) : (q.action a).kind = a.kind := by
  cases a <;> rfl

theorem inCells_record (r : Record) : (q.record r).InCells := by
  refine ⟨fun old hold => ?_, q.isCell_path r.path⟩
  rw [record, old?_action, Option.mem_def, Option.map_eq_some_iff] at hold
  obtain ⟨name, -, rfl⟩ := hold
  exact q.isCell_path name

/-- The listing of some records: a line for each of them. -/
def listing (rs : List Record) : Text :=
  printed (rs.map fun r => (.record (q.record r) (q.inCells_record r), .feed))

/-- **The paths that are read of a listing are those that are written.** -/
theorem ofListing_listing (rs : List Record) :
    ofListing (q.listing rs) = rs.map fun r => (q.record r).change := by
  have hrecords : records (rs.map fun r =>
      (Entry.record (q.record r) (q.inCells_record r), LineEnd.feed)) = rs.map q.record := by
    rw [records, List.filterMap_map]
    exact congrFun List.filterMap_eq_map rs
  rw [listing, ofListing_eq, hrecords, List.map_map]
  rfl

end Quoting

/-! ### Real paths -/

/-- The paths of a record, the old one included. -/
def Record.paths (r : Record) : List Text := r.action.old?.toList ++ [r.path]

variable (q : Quoting)

theorem change_record_eq_iff {r : Record} :
    (q.record r).change = r.change ↔ ∀ name ∈ r.paths, IsUsual name := by
  have hold : r.action.old?.map q.path = r.action.old? ↔
      ∀ name ∈ r.action.old?.toList, IsUsual name := by
    cases r.action.old? with
    | none => exact iff_of_true rfl (List.forall_mem_nil _)
    | some old =>
      rw [Option.map_some, Option.some.injEq, q.path_eq_self_iff]
      exact List.forall_mem_singleton.symm
  rw [Record.paths, List.forall_mem_append, List.forall_mem_singleton, ← hold, ← q.path_eq_self_iff,
    Quoting.record, Record.change, Record.change, Change.mk.injEq, Quoting.old?_action,
    Quoting.kind_action]
  exact ⟨fun h => ⟨h.2.2, h.1⟩, fun h => ⟨h.2, rfl, h.1⟩⟩

theorem pathsWith_record_eq_iff (letters : List Char) (rs : List Record) :
    pathsWith letters (rs.map q.record) = pathsWith letters rs ↔
      ∀ r ∈ rs, r.action.letter ∈ letters → IsUsual r.path := by
  have hletter : (fun r => letters.contains r.action.letter) ∘ q.record =
      fun r => letters.contains r.action.letter :=
    funext fun r => congrArg letters.contains (q.letter_action r.action)
  rw [pathsWith, pathsWith, List.filter_map, hletter, List.map_map, List.map_inj_left]
  simp only [List.mem_filter, List.contains_iff_mem, and_imp]
  exact forall₃_congr fun r _ _ => q.path_eq_self_iff

theorem outcome_changedPaths {base listing : Text} {s s' : Surroundings}
    (h : (Discovery.listing base).outcome s = (.ok listing, s')) :
    (Discovery.changedPaths base).outcome s = (.ok (.ofChanges (ofListing listing)), s') := by
  rw [Discovery.changedPaths, Run.outcome_bind_ok h]
  rfl

/-- **The paths that are read are the real ones exactly if all their bytes are usual.**  For the
paths of the files that can be read, which are those of the records without the letter `D`, it is
their bytes that count: they are found under their real names exactly if none of those names is
written in quotes. -/
theorem realPaths_iff (rs : List Record) :
    (ofListing (q.listing rs) = rs.map Record.change ↔
      ∀ r ∈ rs, ∀ name ∈ r.paths, IsUsual name) ∧
    ∀ (base : Text) (s s' : Surroundings),
      (Discovery.listing base).outcome s = (.ok (q.listing rs), s') →
      ((Discovery.changedPaths base).outcome s = (.ok (.ofChanges (rs.map Record.change)), s') ↔
        ∀ r ∈ rs, r.action ≠ .deleted → IsUsual r.path) := by
  constructor
  · rw [q.ofListing_listing, List.map_inj_left]
    exact forall₂_congr fun r _ => change_record_eq_iff q
  · intro base s s' hlisting
    have hread : (rs.map fun r => (q.record r).change) = (rs.map q.record).map Record.change := by
      rw [List.map_map]
      rfl
    -- the letters of the changes that are taken are those of all actions but one
    have hdeleted : ∀ a : Action, a ≠ .deleted ↔
        a.letter ∈ ['M', 'T', 'R'] ∨ a.letter ∈ ['A', 'C'] := by
      intro a
      cases a <;> simp [Action.letter]
    rw [outcome_changedPaths hlisting, Prod.mk.injEq, Except.ok.injEq, q.ofListing_listing, hread,
      ofChanges_changes, ofChanges_changes, ChangedPaths.mk.injEq, pathsWith_record_eq_iff,
      pathsWith_record_eq_iff]
    simp only [and_true, hdeleted, or_imp, forall_and]

/-- The letters that the command gives to bytes. -/
def usualLetters : Quoting where
  letters := [(7, 'a'), (8, 'b'), (9, 't'), (10, 'n'), (11, 'v'), (12, 'f'), (13, 'r'), (34, '"'),
    (92, '\\')]

/-- Surroundings in which the changes are listed as a text. -/
def listingOf (text : Text) : Surroundings where
  files := { root := "/" }
  replies := [.finished 0 text none]

/-- A file that was renamed to a path with a blank, and one that was deleted under a path in
quotes. -/
def plainRecords : List Record := [
  ⟨.renamed "dev/a.js", "087", "dev/a b.js", by decide⟩, ⟨.deleted, [], "dev/\"é\".js", by decide⟩]

theorem realPaths_blank :
    ((Discovery.listing "main").outcome (listingOf (usualLetters.listing plainRecords)) =
        (.ok (usualLetters.listing plainRecords),
          (listingOf (usualLetters.listing plainRecords)).gave
            (Discovery.listingCommand (Discovery.sinceLeaving "main")))) ∧
      (Discovery.changedPaths "main").outcome (listingOf (usualLetters.listing plainRecords)) =
        (.ok ⟨["dev/a b.js"], []⟩,
          (listingOf (usualLetters.listing plainRecords)).gave
            (Discovery.listingCommand (Discovery.sinceLeaving "main"))) := by
  refine ⟨rfl, ?_⟩
  exact ((realPaths_iff usualLetters plainRecords).2 "main" _ _ rfl).2 (by decide +kernel)

/-- A path that is not in ASCII is read with its quotes and with the digits of its bytes. -/
theorem not_realPaths_accent :
    ofListing (usualLetters.listing [⟨.added, [], "dev/café.js", by decide⟩]) =
        [⟨"\"dev/caf\\303\\251.js\"", .added, none⟩] ∧
      ofListing (usualLetters.listing [⟨.added, [], "dev/café.js", by decide⟩]) ≠
        [⟨"dev/café.js", .added, none⟩] := by
  decide +kernel

end Change

end PullNotes
