import PullNotes.Digest.OfTree
import PullNotes.Source.Document

/-!
# The digest of a source

A source text is read in a dialect, by name or by the extension of its path, and its tree is
digested.  A strict reading refuses a text with errors at the first of them.
-/

namespace PullNotes

/-- Why a source has no digest. -/
inductive SourceError where
  | unknownLanguage (name : Text)
  | malformed (place : Point)
  | coding (e : CodingError)
  | escape (e : EscapeError)
deriving DecidableEq, Repr

/-- The error in words; lines and columns count from one. -/
def SourceError.message : SourceError → Text
  | unknownLanguage name => .concat ["No tree-sitter grammar for language: ", name]
  | malformed place =>
    .concat ["Syntax error at line ", .ofNat (place.row + 1), ", column ", .ofNat (place.column + 1)]
  | coding e => e.message
  | escape e => e.message

/-- The name of the language that is meant: the given one, or else the one that the path
suggests. -/
def languageFor (given : Option Text) (filePath : Text) : Text :=
  match given with
  | some (c :: cs) => c :: cs
  | _ => (Dialect.ofPath filePath).name

namespace Document

/-- A document, unless it has errors and is to be strict. -/
def insist (strict : Bool) (d : Document) : Except SourceError Document :=
  match d.errorPoint? with
  | some place => if strict then .error (.malformed place) else .ok d
  | none => .ok d

/-- Reads a source in the language with a name. -/
def ofSourceBy (parse : Parser) (language : Text) (strict : Bool) (source : Text) :
    Except SourceError Document :=
  match Dialect.named? language with
  | none => .error (.unknownLanguage language)
  | some dialect =>
    match readBy parse dialect source with
    | .error e => .error (.coding e)
    | .ok d => d.insist strict

/-- Reads a source with the parser that the program comes with. -/
def ofSource (language : Text) (strict : Bool) (source : Text) : Except SourceError Document :=
  ofSourceBy Source.tree language strict source

theorem ofSource_eq (language : Text) (strict : Bool) (source : Text) :
    ofSource language strict source =
      match Dialect.named? language with
      | none => .error (.unknownLanguage language)
      | some dialect =>
        match read dialect source with
        | .error e => .error (.coding e)
        | .ok d => d.insist strict := rfl

/-- What there is to note about the way a document was read. -/
def remark? (d : Document) : Option Text :=
  match d.errorPoint? with
  | some place =>
    some (.concat ["Syntax error at line ", .ofNat (place.row + 1),
      ", continuing with recovered tree"])
  | none => if d.isBareObject then some "Parsed source as a bare object literal" else none

end Document

namespace Digest

/-- The digest of a document. -/
def ofDocument (d : Document) (filePath language : Text) : Except SourceError Digest :=
  match ofTree d.tree filePath language with
  | .error e => .error (.escape e)
  | .ok digest => .ok digest

/-- The digest of a source. -/
def ofSourceBy (parse : Parser) (source filePath : Text) (language : Option Text)
    (strict : Bool) : Except SourceError Digest := do
  let name := languageFor language filePath
  ofDocument (← Document.ofSourceBy parse name strict source) filePath name

/-- The digest of a source, by the parser that the program comes with. -/
def ofSource (source filePath : Text) (language : Option Text) (strict : Bool) :
    Except SourceError Digest :=
  ofSourceBy Source.tree source filePath language strict

theorem ofSource_eq (source filePath : Text) (language : Option Text) (strict : Bool) :
    ofSource source filePath language strict =
      Document.ofSource (languageFor language filePath) strict source >>= fun d =>
        ofDocument d filePath (languageFor language filePath) := rfl

end Digest

end PullNotes
