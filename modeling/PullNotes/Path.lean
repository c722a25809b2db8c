import PullNotes.Text.Basic

/-!
# File paths

Paths with slashes.  In its plain form a path has single slashes between its components and no
component that is a lone dot; the components that are two dots stay.  Two slashes in front stay two.
-/

namespace PullNotes

namespace Path

/-- The slash. -/
def slash : CodePoint := '/'

/-- The dot. -/
def dot : CodePoint := '.'

/-- The component that names the directory itself. -/
def here : Text := [dot]

/-- The component that names the directory above. -/
def above : Text := [dot, dot]

/-- The components of a path that say something: those that are not empty and not a lone dot. -/
def components (path : Text) : List Text :=
  (path.splitOn slash).filter fun part => !part.isEmpty && part != here

/-- The slashes in front of a path, in its plain form. -/
def root (path : Text) : Text :=
  match (path.takeWhile (· = slash)).length with
  | 0 => []
  | 2 => [slash, slash]
  | _ => [slash]

/-- Whether a path starts at the root. -/
def isAbsolute (path : Text) : Bool := path.head? == some slash

/-- The path with a root and components, in plain form. -/
def ofComponents (root : Text) (parts : List Text) : Text :=
  if root.isEmpty && parts.isEmpty then here else root ++ Text.join [slash] parts

/-- A path in plain form. -/
def plain (path : Text) : Text := ofComponents (root path) (components path)

/-- A path as seen from a directory. -/
def append (directory path : Text) : Text :=
  if isAbsolute path then plain path
  else ofComponents (root directory) (components directory ++ components path)

/-- The last component of a path. -/
def name (path : Text) : Text := (components path).getLast?.getD []

/-- The end of the name from its last dot on, if the dot is neither its first nor its last code
point. -/
def extension (path : Text) : Text :=
  let name := name path
  let after := (name.reverse.takeWhile (· ≠ dot)).reverse
  let stem := name.length - after.length
  if 2 ≤ stem ∧ after ≠ [] then dot :: after else []

end Path

end PullNotes
