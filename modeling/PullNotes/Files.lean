import PullNotes.Path
import PullNotes.Text.Quoted
import PullNotes.Text.Utf8

/-!
# Files

The files below a working directory.  A folder is there if it was made, or if a file is below it.  A
path leads from the working directory step by step, each of which has to be a folder but the last.
-/

namespace PullNotes

/-- Why a file could not be used; each case but the last says which path was meant. -/
inductive FileError where
  | notFound (path : Text)
  | isFolder (path : Text)
  | notFolder (path : Text)
  | alreadyThere (path : Text)
  | nameTooLong (path : Text)
  | nullInPath
deriving DecidableEq, Repr

/-- The error in words. -/
def FileError.message : FileError → Text
  | notFound path => .concat ["[Errno 2] No such file or directory: ", path.quoted]
  | isFolder path => .concat ["[Errno 21] Is a directory: ", path.quoted]
  | notFolder path => .concat ["[Errno 20] Not a directory: ", path.quoted]
  | alreadyThere path => .concat ["[Errno 17] File exists: ", path.quoted]
  | nameTooLong path => .concat ["[Errno 36] File name too long: ", path.quoted]
  | nullInPath => "embedded null byte"

/-- The files below a working directory, which has a name itself. -/
structure Files where
  root : Text
  contents : List (List Text × Bytes) := []
  folders : List (List Text) := []

namespace Files

/-- What is at a place. -/
inductive Entry where
  | file (content : Bytes)
  | folder
  | nothing

/-- Where a path leads: to a place whose folder is there, or nowhere. -/
inductive Goal where
  | place (parts : List Text)
  | missing
  | throughFile
  | tooLong
deriving DecidableEq

/-- The content of the file at a place. -/
def content? (place : List Text) : List (List Text × Bytes) → Option Bytes
  | [] => none
  | (p, bytes) :: rest => if p = place then some bytes else content? place rest

/-- Whether there is a folder at a place. -/
def hasFolder (fs : Files) (place : List Text) : Bool :=
  place.isEmpty || fs.folders.any (place.isPrefixOf ·) ||
    fs.contents.any fun (p, _) => place.isPrefixOf p && place.length < p.length

/-- What is at a place. -/
def entry (fs : Files) (place : List Text) : Entry :=
  match content? place fs.contents with
  | some bytes => .file bytes
  | none => if fs.hasFolder place then .folder else .nothing

/-- The greatest number of bytes of a name. -/
def nameLimit : Nat := 255

/-- Where steps lead from a place. -/
def follow (fs : Files) : List Text → List Text → Goal
  | place, [] => .place place
  | place, step :: rest =>
    match fs.entry place with
    | .file _ => .throughFile
    | .nothing => .missing
    | .folder =>
      if step = Path.here then follow fs place rest
      else if step = Path.above then
        if place.isEmpty then if rest.isEmpty then .place [] else .missing
        else follow fs place.dropLast rest
      else if nameLimit < (Utf8.write step).length then .tooLong
      else follow fs (place ++ [step]) rest

/-- The steps of a path; a slash at its end is a step that stays where it is. -/
def steps (path : Text) : List Text :=
  let parts := path.splitOn Path.slash
  parts.filter (fun part => !part.isEmpty) ++
    if parts.getLast? = some [] then [Path.here] else []

/-- The part of a path below the working directory, if it starts with the directory's name. -/
def belowRoot? (fs : Files) (path : Text) : Option Text :=
  if fs.root.isPrefixOf path then
    match path.drop fs.root.length with
    | [] => some []
    | c :: rest => if c = Path.slash then some (c :: rest) else none
  else none

/-- Where a path leads. -/
def locate (fs : Files) (path : Text) : Goal :=
  match fs.belowRoot? path with
  | some below => fs.follow [] (steps below)
  | none =>
    if path.isEmpty then .missing
    else if Path.isAbsolute path then
      if (Path.components path).isEmpty then .place [] else .missing
    else fs.follow [] (steps path)

/-- Whether a path leads to a file or a folder; a name that is too long leaves that open. -/
def isThere (fs : Files) (path : Text) : Except FileError Bool :=
  if path.contains CodePoint.null then .ok false
  else
    match fs.locate path with
    | .place parts =>
      match fs.entry parts with
      | .nothing => .ok false
      | _ => .ok true
    | .tooLong => .error (.nameTooLong path)
    | _ => .ok false

/-- Whether a path leads to a folder. -/
def hasFolderAt (fs : Files) (path : Text) : Bool :=
  match fs.locate path with
  | .place parts => fs.hasFolder parts && (content? parts fs.contents).isNone
  | _ => false

/-- The content of the file that a path leads to. -/
def read (fs : Files) (path : Text) : Except FileError Bytes :=
  if path.contains CodePoint.null then .error .nullInPath
  else
    match fs.locate path with
    | .missing => .error (.notFound path)
    | .throughFile => .error (.notFolder path)
    | .tooLong => .error (.nameTooLong path)
    | .place parts =>
      match fs.entry parts with
      | .file bytes => .ok bytes
      | .folder => .error (.isFolder path)
      | .nothing => .error (.notFound path)

/-- The contents with those of one file replaced or added. -/
def putContent (place : List Text) (bytes : Bytes) :
    List (List Text × Bytes) → List (List Text × Bytes)
  | [] => [(place, bytes)]
  | (p, b) :: rest =>
    if p = place then (p, bytes) :: rest else (p, b) :: putContent place bytes rest

/-- The files with one written at a place, whose folders are made. -/
def put (fs : Files) (place : List Text) (bytes : Bytes) : Files :=
  { fs with contents := putContent place bytes fs.contents }

/-- Makes a folder where a path leads, unless it is there. -/
def makeFolder (fs : Files) (path : Text) : Except FileError Files :=
  match fs.locate path with
  | .missing => .error (.notFound path)
  | .throughFile => .error (.notFolder path)
  | .tooLong => .error (.nameTooLong path)
  | .place parts =>
    match fs.entry parts with
    | .file _ => .error (.alreadyThere path)
    | .folder => .ok fs
    | .nothing => .ok { fs with folders := parts :: fs.folders }

/-- Writes a file where a path leads. -/
def write (fs : Files) (path : Text) (bytes : Bytes) : Except FileError Files :=
  match fs.locate path with
  | .missing => .error (.notFound path)
  | .throughFile => .error (.notFolder path)
  | .tooLong => .error (.nameTooLong path)
  | .place parts =>
    match fs.entry parts with
    | .file _ => .ok (fs.put parts bytes)
    | .folder => .error (.isFolder path)
    | .nothing =>
      if fs.hasFolder parts.dropLast then .ok (fs.put parts bytes) else .error (.notFound path)

/-- The place that components lead to from a place, unless they lead out of the working
directory. -/
def placeOf? : List Text → List Text → Option (List Text)
  | place, [] => some place
  | place, part :: rest =>
    if part = Path.above then
      if place.isEmpty then none else placeOf? place.dropLast rest
    else placeOf? (place ++ [part]) rest

/-- The place that a path leads to by its components alone, if it is below the working directory. -/
def place? (fs : Files) (path : Text) : Option (List Text) :=
  match fs.belowRoot? path with
  | some below => placeOf? [] (Path.components below)
  | none => if Path.isAbsolute path then none else placeOf? [] (Path.components path)

/-- The path of a place. -/
def pathOf (fs : Files) (place : List Text) : Text := Text.join [Path.slash] (fs.root :: place)

/-- A path from the root on, without steps up.  What is outside of the working directory is not
known, so a path that leads there keeps nothing but its other components. -/
def absolute (fs : Files) (path : Text) : Text :=
  match fs.place? path with
  | some place => fs.pathOf place
  | none =>
    Path.ofComponents [Path.slash] ((Path.components path).filter fun part => part != Path.above)

end Files

end PullNotes
