import PullNotes.Text.Blank
import PullNotes.Text.Line

/-!
# Changed files

A listing of changes has one line for each: a letter with a score, a tab and a path, and for a
rename or a copy another tab and the new path.  A line of any other form says nothing.
-/

namespace PullNotes

/-- What happened to a file. -/
inductive ChangeKind where
  | added
  | modified
  | deleted
  | renamed
deriving DecidableEq, Repr

namespace ChangeKind

/-- The name of a kind of change. -/
def name : ChangeKind → String
  | added => "added"
  | modified => "modified"
  | deleted => "deleted"
  | renamed => "renamed"

/-- All kinds of changes. -/
def all : List ChangeKind := [added, modified, deleted, renamed]

/-- The kind of change with a name. -/
def named? (name : Text) : Option ChangeKind := all.find? fun k => Text.ofString k.name == name

/-- The letters of a listing and what they stand for; a copy adds a file, and a change of type
modifies one. -/
def letters : List (Char × ChangeKind) :=
  [('A', added), ('C', added), ('M', modified), ('T', modified), ('D', deleted), ('R', renamed)]

/-- The kind of change that a letter stands for. -/
def ofLetter? (c : CodePoint) : Option ChangeKind :=
  (letters.find? fun (letter, _) => CodePoint.ofChar letter = c).map (·.2)

/-- Whether a letter is followed by two paths. -/
def hasTwoPaths (c : CodePoint) : Bool := c = ('R' : Char) || c = ('C' : Char)

end ChangeKind

/-- A changed file: its path, and the path it had before if it has another one now. -/
structure Change where
  path : Text
  kind : ChangeKind
  oldPath : Option Text := none
deriving DecidableEq, Repr

namespace Change

/-- The tab, which separates the parts of a line. -/
def tab : CodePoint := '\t'

/-- The change of a line of a listing, if the line is one. -/
def ofLine? (line : Text) : Option Change :=
  if line.isBlank then none
  else
    match line.splitOn tab with
    | (letter :: _) :: first :: more =>
      (ChangeKind.ofLetter? letter).map fun kind =>
        match more with
        | second :: _ =>
          if ChangeKind.hasTwoPaths letter then ⟨second, kind, some first⟩ else ⟨first, kind, none⟩
        | [] => ⟨first, kind, none⟩
    | _ => none

/-- The changes of a listing. -/
def ofListing (listing : Text) : List Change := listing.lines.filterMap ofLine?

end Change

/-- The paths of changed files: those modified, and those created. -/
structure ChangedPaths where
  modified : List Text := []
  created : List Text := []
deriving DecidableEq, Repr

namespace ChangedPaths

/-- The paths of changes.  A renamed file counts as modified, and a deleted one not at all. -/
def ofChanges (changes : List Change) : ChangedPaths where
  modified :=
    (changes.filter fun c => c.kind == .modified || c.kind == .renamed).map Change.path
  created := (changes.filter fun c => c.kind == .added).map Change.path

/-- The paths of a list without those seen before, in the list or outside it. -/
def unrepeated (seen : List Text) : List Text → List Text
  | [] => []
  | p :: ps => if seen.contains p then unrepeated seen ps else p :: unrepeated (p :: seen) ps

/-- The paths that contain a filter, first the modified then the created ones, each once. -/
def matching (paths : ChangedPaths) (filter : Text) : List Text :=
  unrepeated [] ((paths.modified ++ paths.created).filter fun p => Text.isInfixOf filter p)

/-- The number of paths, repetitions included. -/
def count (paths : ChangedPaths) : Nat := paths.modified.length + paths.created.length

end ChangedPaths

end PullNotes
