import PullNotes.Digest.Pending
import PullNotes.Escape
import PullNotes.SyntaxTree.Walk

/-!
# The digest of a syntax tree

A walk over a tree meets properties.  One with the key `script` and a string literal as its value is
a script, one with a function as its value is a handler, and a handler goes with the script that was
noted last if no other handler did.
-/

namespace PullNotes

namespace Node

/-- What a part of a string literal adds to its value: a fragment itself, an escape sequence what it
stands for, and anything else nothing. -/
def literalPart (n : Node) : Except EscapeError Text :=
  if n.kind == "string_fragment" then .ok n.text
  else if n.kind == "escape_sequence" then Escape.decode n.text
  else .ok []

/-- The value of a string literal.  A literal without named parts is its text without the quotes. -/
def literalValue (n : Node) : Except EscapeError Text :=
  if n.children.any isNamed then do
    let parts ← n.children.mapM literalPart
    .ok (Text.concat parts)
  else .ok (n.text.drop 1).dropLast

/-- The name that a key gives its property: the value of a string literal, the text of any other
key. -/
def keyName (n : Node) : Except EscapeError Text :=
  if n.kind == stringKind then n.literalValue else .ok n.text

end Node

/-- What a property means for a digest. -/
inductive Finding where
  | script (text : Text)
  | handler (h : Handler)
deriving DecidableEq, Repr

namespace Finding

/-- The key of the properties that are scripts. -/
def scriptKey : Text := "script"

/-- What a node means for a digest: only a property with a key and a value can mean anything. -/
def ofNode (n : Node) : Except EscapeError (Option Finding) :=
  if n.kind != Node.pairKind then .ok none
  else
    match n.keyChild?, n.valueChild? with
    | some key, some value => do
      let name ← key.keyName
      if name = scriptKey ∧ value.kind = Node.stringKind then
        let script ← value.literalValue
        .ok (some (.script script))
      else if value.isFunction then .ok (some (.handler ⟨name, value.text⟩))
      else .ok none
    | _, _ => .ok none

end Finding

/-- A digest in the making: what is listed so far, and the pending script. -/
structure Collecting where
  digest : Digest
  pending : Pending := {}
deriving DecidableEq, Repr

namespace Collecting

/-- Lists a finding.  A handler that claims the pending script takes it off the scripts, where it is
the last. -/
def add (s : Collecting) : Finding → Collecting
  | .script text =>
    { digest := { s.digest with scripts := s.digest.scripts ++ [text] }
      pending := s.pending.note text }
  | .handler h =>
    match s.pending.claim with
    | (some script, pending) =>
      { digest := { s.digest with
          scripts := s.digest.scripts.dropLast
          pairs := s.digest.pairs ++ [⟨script, h⟩] }
        pending := pending }
    | (none, pending) =>
      { digest := { s.digest with handlers := s.digest.handlers ++ [h] }
        pending := pending }

/-- Lists what a node means, if anything. -/
def visit (s : Collecting) (n : Node) : Except EscapeError Collecting := do
  match ← Finding.ofNode n with
  | some finding => .ok (s.add finding)
  | none => .ok s

end Collecting

/-- The digest of a syntax tree, for a file path and the name of a language. -/
def Digest.ofTree (root : Node) (filePath language : Text) : Except EscapeError Digest := do
  let start : Collecting := { digest := { filePath := filePath, language := language } }
  let final ← root.walk.foldlM Collecting.visit start
  .ok final.digest

end PullNotes
