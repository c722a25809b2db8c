import PullNotes.Digest.OfTree
import PullNotes.Proofs.Literal.Forms
import PullNotes.Proofs.Runs
import PullNotes.Proofs.Utf8

/-!
# Parts of string literals

Between the quotes of a literal stand fragments, which are taken as they are, and escape sequences.
The value of the literal is what its parts stand for, one after the other: each part is read on its
own, and the quotes add nothing wherever they stand.

* `Node.IsLiteral` : a literal with some parts.
* `Node.literalValue_eq` : its value.
-/

namespace PullNotes

open CodePoint (ofChar)

namespace Escape

theorem Form.scalar_body (f : Form) : Text.Scalar f.body := by
  have hdigit : ∀ d : Fin 8, (CodePoint.digit d.val).isSurrogate = false := by decide
  have hhex : ∀ d : Numeral.HexDigit, d.written.isSurrogate = false := by
    have hall : ∀ (v : Fin 16) (u : Bool), (Numeral.HexDigit.mk v u).written.isSurrogate = false := by
      decide
    exact fun d => hall d.value d.upper
  have hdigits : ∀ ds : List Numeral.HexDigit, Text.Scalar (ds.map Numeral.HexDigit.written) :=
    fun ds => List.forall_mem_map.2 fun d _ => hhex d
  cases f with
  | control k => cases k <;> decide
  | itself c hc _ => exact List.forall_mem_singleton.2 hc
  | octal first more _ => exact List.forall_mem_map.2 fun d _ => hdigit d
  | twoDigits a b => exact List.forall_mem_cons.2 ⟨by decide, hdigits _⟩
  | fourDigits a b c d => exact List.forall_mem_cons.2 ⟨by decide, hdigits _⟩
  | braced digits _ _ =>
    refine List.forall_mem_cons.2 ⟨by decide, List.forall_mem_cons.2 ⟨by decide, ?_⟩⟩
    exact List.forall_mem_append.2 ⟨hdigits digits, List.forall_mem_singleton.2 (by decide)⟩
  | lineBreak b => cases b <;> decide

theorem Form.scalar_written (f : Form) : Text.Scalar f.written :=
  List.forall_mem_cons.2 ⟨by decide, f.scalar_body⟩

end Escape

/-- A part of a literal: one of its quotes, a fragment of text, or an escape sequence. -/
inductive LiteralPart where
  | quote (double : Bool)
  | fragment (t : Text) (scalar : t.Scalar)
  | escape (f : Escape.Form)

namespace LiteralPart

/-- The kind of the node of a part. -/
def kind : LiteralPart → String
  | quote double => if double then "\"" else "'"
  | fragment _ _ => "string_fragment"
  | escape _ => "escape_sequence"

/-- A part as it is written. -/
def written : LiteralPart → Text
  | quote double => if double then "\"" else "'"
  | fragment t _ => t
  | escape f => f.written

/-- A part is named if it is no quote. -/
def isNamed : LiteralPart → Bool
  | quote _ => false
  | _ => true

/-- What a part stands for. -/
def text : LiteralPart → Text
  | quote _ => []
  | fragment t _ => t
  | escape f => f.text

/-- The node is that of the part. -/
structure IsNode (p : LiteralPart) (n : Node) : Prop where
  kind_eq : n.kind = p.kind
  bytes_eq : n.bytes = Utf8.write p.written
  isNamed_eq : n.isNamed = p.isNamed

variable {p : LiteralPart} {n : Node}

theorem scalar_written (p : LiteralPart) : p.written.Scalar := by
  cases p with
  | quote double => cases double <;> decide
  | fragment t h => exact h
  | escape f => exact f.scalar_written

theorem IsNode.text_eq (h : p.IsNode n) : n.text = p.written := by
  rw [Node.text, h.bytes_eq, Utf8.readForgiving_write p.scalar_written]

theorem IsNode.literalPart_eq (h : p.IsNode n) : n.literalPart = .ok p.text := by
  rw [Node.literalPart, h.kind_eq, h.text_eq]
  cases p with
  | quote double => cases double <;> rfl
  | fragment t _ => rfl
  | escape f => exact Escape.decode_written f

end LiteralPart

namespace Node

open LiteralPart (IsNode)

/-- The node is a literal with some parts.  If none of them is named, then only the quotes are
there, one code point each. -/
structure IsLiteral (parts : List LiteralPart) (n : Node) : Prop where
  children : List.Forall₂ IsNode parts n.children
  quotes : (∀ p ∈ parts, p.isNamed = false) → n.text.length ≤ 2

variable {parts : List LiteralPart} {n : Node}

theorem any_isNamed {ns : List Node} (h : List.Forall₂ IsNode parts ns) :
    ns.any isNamed = parts.any LiteralPart.isNamed := by
  induction h with
  | nil => rfl
  | cons hnode _ ih => rw [List.any_cons, List.any_cons, hnode.isNamed_eq, ih]

theorem mapM_literalPart {ns : List Node} (h : List.Forall₂ IsNode parts ns) :
    ns.mapM literalPart = .ok (parts.map LiteralPart.text) := by
  rw [Except.mapM_eq_ok_iff, List.forall₂_map_right_iff]
  exact h.flip.imp fun _ _ hnode => hnode.literalPart_eq

/-- **The value of a literal is what its parts stand for**, in order. -/
theorem IsLiteral.literalValue_eq (h : n.IsLiteral parts) :
    n.literalValue = .ok (parts.flatMap LiteralPart.text) := by
  rw [literalValue, any_isNamed h.children]
  by_cases hnamed : parts.any LiteralPart.isNamed = true
  · rw [if_pos hnamed, mapM_literalPart h.children]
    rfl
  · -- quotes alone stand for nothing, and nothing is left of the text without them
    have hquotes : ∀ p ∈ parts, p.isNamed = false := fun p hp =>
      eq_false_of_ne_true fun hname => hnamed (List.any_eq_true.2 ⟨p, hp, hname⟩)
    have hlength := h.quotes hquotes
    have hnone : parts.flatMap LiteralPart.text = [] := by
      rw [List.flatMap_eq_nil_iff]
      intro p hp
      cases p with
      | quote => rfl
      | fragment => cases hquotes _ hp
      | escape => cases hquotes _ hp
    have hempty : (n.text.drop 1).dropLast = [] := by
      rw [← List.length_eq_zero_iff, List.length_dropLast, List.length_drop]
      omega
    rw [if_neg hnamed, hnone, hempty]

end Node

/-! ### Spellings -/

namespace Escape

open Numeral (HexDigit hexNumber)

/-- The ways to write a code point in an escape sequence. -/
inductive Spells : CodePoint → Form → Prop
  | control (k : Control) : Spells k.point (.control k)
  | itself {c : CodePoint} (scalar : c.isSurrogate = false) (plain : c ∉ meaningful) :
      Spells c (.itself c scalar plain)
  | octal {c : CodePoint} {first : Fin 8} {more : List (Fin 8)} (short : more.length ≤ 2)
      (number : Form.octalNumber first more = c.val) : Spells c (.octal first more short)
  | twoDigits {c : CodePoint} {a b : HexDigit} (number : hexNumber [a, b] = c.val) :
      Spells c (.twoDigits a b)
  | fourDigits {c : CodePoint} {a b d e : HexDigit} (number : hexNumber [a, b, d, e] = c.val) :
      Spells c (.fourDigits a b d e)
  | braced {c : CodePoint} {digits : List HexDigit} (nonempty : digits ≠ [])
      (inRange : hexNumber digits < 0x110000) (number : hexNumber digits = c.val) :
      Spells c (.braced digits nonempty inRange)

theorem Spells.text_eq {c : CodePoint} {f : Form} (h : Spells c f) : f.text = [c] := by
  cases h with
  | control k => rfl
  | itself _ _ => rfl
  | octal _ number => rw [Form.text, Utf8.pointOf_eq number]
  | twoDigits number => rw [Form.text, Utf8.pointOf_eq number]
  | fourDigits number => rw [Form.text, Utf8.pointOf_eq number]
  | braced _ _ number => rw [Form.text, Utf8.pointOf_eq number]

/-- Every code point has a number, which six digits can write. -/
theorem exists_spells (c : CodePoint) : ∃ f, Spells c f := by
  have hlt := c.isLt
  let digits : List HexDigit := [⟨⟨c.val / 0x100000, by omega⟩, false⟩,
    ⟨⟨c.val / 0x10000 % 16, by omega⟩, false⟩, ⟨⟨c.val / 0x1000 % 16, by omega⟩, false⟩,
    ⟨⟨c.val / 0x100 % 16, by omega⟩, false⟩, ⟨⟨c.val / 0x10 % 16, by omega⟩, false⟩,
    ⟨⟨c.val % 16, by omega⟩, false⟩]
  have hnumber : hexNumber digits = c.val := by
    simp only [digits, hexNumber, Numeral.value, List.map_cons, List.map_nil, List.foldl_cons,
      List.foldl_nil]
    omega
  exact ⟨_, .braced (List.cons_ne_nil _ _) (by rw [hnumber]; exact hlt) hnumber⟩

end Escape

/-- The parts spell a text: each code point stands in a fragment or is escaped, and lines may be
broken and quotes stand anywhere between them. -/
inductive Spelling : Text → List LiteralPart → Prop
  | nil : Spelling [] []
  | quote {s : Text} {ps : List LiteralPart} (double : Bool) (rest : Spelling s ps) :
      Spelling s (.quote double :: ps)
  | fragment {s t : Text} {ps : List LiteralPart} (scalar : t.Scalar) (rest : Spelling s ps) :
      Spelling (t ++ s) (.fragment t scalar :: ps)
  | escape {s : Text} {c : CodePoint} {f : Escape.Form} {ps : List LiteralPart}
      (spells : Escape.Spells c f) (rest : Spelling s ps) : Spelling (c :: s) (.escape f :: ps)
  | lineBreak {s : Text} {ps : List LiteralPart} (b : Escape.Break) (rest : Spelling s ps) :
      Spelling s (.escape (.lineBreak b) :: ps)

theorem Spelling.flatMap_text_eq {s : Text} {ps : List LiteralPart} (h : Spelling s ps) :
    ps.flatMap LiteralPart.text = s := by
  induction h with
  | nil => rfl
  | quote _ _ ih => exact ih
  | fragment _ _ ih => rw [List.flatMap_cons, ih]; rfl
  | escape spells _ ih => rw [List.flatMap_cons, ih, LiteralPart.text, spells.text_eq]; rfl
  | lineBreak _ _ ih => exact ih

theorem exists_spelling (s : Text) : ∃ ps, Spelling s ps := by
  induction s with
  | nil => exact ⟨[], .nil⟩
  | cons c s ih =>
    obtain ⟨ps, hps⟩ := ih
    obtain ⟨f, hf⟩ := Escape.exists_spells c
    exact ⟨_, .escape hf hps⟩

namespace Node

/-- **Reading a literal undoes every spelling.**  Every text can be spelled, and the value of a
literal whose parts spell a text is that text, whichever form is chosen for each code point. -/
theorem literalValue_of_spelling (s : Text) :
    (∃ parts, Spelling s parts) ∧
    ∀ {parts : List LiteralPart} {n : Node}, Spelling s parts → n.IsLiteral parts →
      n.literalValue = .ok s := by
  refine ⟨exists_spelling s, fun hspelling hliteral => ?_⟩
  rw [hliteral.literalValue_eq, hspelling.flatMap_text_eq]

end Node

/-! ### A literal -/

/-- A node for a part. -/
def LiteralPart.node (p : LiteralPart) : Node :=
  .mk p.kind (Utf8.write p.written) [] p.isNamed false false ⟨0, 0⟩ none none

/-- Parts between quotes. -/
def LiteralPart.quoted (parts : List LiteralPart) : List LiteralPart :=
  .quote true :: (parts ++ [.quote true])

/-- A node for a literal with some parts between quotes. -/
def Node.literal (parts : List LiteralPart) : Node :=
  .mk stringKind ((LiteralPart.quoted parts).flatMap fun p => Utf8.write p.written)
    ((LiteralPart.quoted parts).map LiteralPart.node) true false false ⟨0, 0⟩ none none

theorem Node.isLiteral_literal {parts : List LiteralPart}
    (h : parts.any LiteralPart.isNamed = true) :
    (Node.literal parts).IsLiteral (LiteralPart.quoted parts) where
  children := List.forall₂_map_right_iff.2 (List.forall₂_same.2 fun _ _ => ⟨rfl, rfl, rfl⟩)
  quotes hnone := by
    obtain ⟨p, hp, hnamed⟩ := List.any_eq_true.1 h
    have hmem : p ∈ LiteralPart.quoted parts :=
      List.mem_cons_of_mem _ (List.mem_append_left _ hp)
    rw [hnone p hmem] at hnamed
    cases hnamed

/-- A fragment, a high surrogate with zeros before its digits, a broken line, a byte in octal
digits, a control character and a quote. -/
def sampleParts : List LiteralPart := [
  .fragment "é\\" (by decide),
  .escape (.braced [.lower 0, .lower 0, ⟨⟨13, by decide⟩, true⟩, .lower 8, .lower 0, .lower 0]
    (by decide) (by decide)),
  .escape (.lineBreak .returnFeed),
  .escape (.octal ⟨3, by decide⟩ [⟨7, by decide⟩, ⟨7, by decide⟩] (by decide)),
  .escape (.control .verticalTab), .escape (.itself (ofChar '"') (by decide) (by decide))]

theorem spelling_sample : Spelling (Text.ofString "é\\" ++ [0xD800, 0xFF, 11, ofChar '"'])
    (LiteralPart.quoted sampleParts) :=
  .quote true (.fragment (by decide) (.escape (.braced (by decide) (by decide) (by decide))
    (.lineBreak .returnFeed (.escape (.octal (by decide) (by decide)) (.escape (.control .verticalTab)
      (.escape (.itself (by decide) (by decide)) (.quote true .nil)))))))

theorem literalValue_of_spelling_sample :
    (Node.literal sampleParts).literalValue =
      .ok (Text.ofString "é\\" ++ [0xD800, 0xFF, 11, ofChar '"']) :=
  (Node.literalValue_of_spelling _).2 spelling_sample (Node.isLiteral_literal (by decide))

end PullNotes
