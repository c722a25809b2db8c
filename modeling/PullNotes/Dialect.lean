import PullNotes.Path

/-!
# Dialects

The three dialects that a source may be in, their names, and the one that a file's extension
suggests.
-/

namespace PullNotes

/-- A dialect of the source language: plain, typed, or typed with markup. -/
inductive Dialect where
  | javascript
  | typescript
  | tsx
deriving DecidableEq, Repr

namespace Dialect

/-- The name of a dialect. -/
def name : Dialect → String
  | javascript => "javascript"
  | typescript => "typescript"
  | tsx => "tsx"

/-- All dialects. -/
def all : List Dialect := [javascript, typescript, tsx]

/-- The dialect with a name. -/
def named? (name : Text) : Option Dialect := all.find? fun d => Text.ofString d.name == name

/-- Whether a dialect has type annotations. -/
def isTyped : Dialect → Bool
  | javascript => false
  | _ => true

/-- Whether a dialect has markup elements among its expressions. -/
def hasMarkup : Dialect → Bool
  | typescript => false
  | _ => true

/-- The extensions of files and the dialects that they suggest. -/
def extensions : List (String × Dialect) := [
  (".ts", typescript), (".mts", typescript), (".cts", typescript), (".tsx", tsx),
  (".js", javascript), (".mjs", javascript), (".cjs", javascript), (".jsx", javascript)]

/-- The dialect of files with any other extension; it reads plain sources too. -/
def fallback : Dialect := typescript

/-- The dialect that the extension of a path suggests, in letters of either case. -/
def ofPath (path : Text) : Dialect :=
  let extension := (Path.extension path).asciiLower
  ((extensions.find? fun (e, _) => Text.ofString e == extension).map (·.2)).getD fallback

/-- The parts of the program that read a dialect: the reader itself and the rules of its grammar. -/
inductive Part where
  | reader
  | plainRules
  | typedRules
deriving DecidableEq, Repr

/-- The rules that a dialect needs. -/
def rules (d : Dialect) : Part := if d.isTyped then .typedRules else .plainRules

/-- Whether sources in a dialect can be read when some parts are lacking; without a dialect, whether
anything can. -/
def isAvailable (lacking : List Part) (dialect : Option Text) : Bool :=
  !lacking.contains .reader &&
    match dialect with
    | none => true
    | some name =>
      match named? name with
      | none => false
      | some d => !lacking.contains d.rules

end Dialect

end PullNotes
