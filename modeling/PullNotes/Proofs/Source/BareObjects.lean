import PullNotes.Proofs.Source.Wholes

/-!
# Objects as whole sources

A source that is an object alone is read as an expression unless its first key is a word that starts
statements.  Then it is taken for a block, at whose first word no statement starts, so the source
has an error, whatever is passed over or supplied for it.  So of the two ways to take it this parser
knows one only, and it reads an object in parentheses whatever its keys are.

* `ObjectText.atLooseObject_eq` : the first key decides how the brace is read.
* `BareObject.hasError_tree_of_startsStatement`, `BareObject.unplaced_tree` : the tree with an
  error, and the one without.
* `follows_tree` : what is known of parsers in general is so of this one.
-/

namespace PullNotes

namespace Source

open State (after)
open Grammar (readers)
open Reader

variable {d : Dialect} {n : Nat} {place : Cursor} {parts : List Part} {enclosed operand : Bool}
  {ws cs ds u : List Char} {depth : Nat} {s : State}

/-! ### The first key -/

namespace KeyText

/-- The word that a key is, if it is a name. -/
def word : KeyText → List Char
  | name cs _ => cs
  | quoted _ => []

/-- A key is a word that starts statements. -/
def startsStatement (k : KeyText) (d : Dialect) : Bool :=
  (startingWordsOf d).any fun w => w.toList == k.word

/-- What is taken for a name where a key is. -/
theorem take_name (k : KeyText) (hu : Follows u) :
    (k.text ++ u).take (Lexeme.name (k.text ++ u)) = k.word := by
  cases k with
  | name cs h =>
    obtain ⟨ws, v, hws, rfl⟩ := hu
    rw [text, word, h.length_eq (endsName_blanks hws (.cons (by decide) v)), List.take_left]
  | quoted t =>
    have hquote : t.quote ∈ Lexeme.marks ∧ t.quote ≠ '\\' := by
      rcases t.isQuote with h | h <;> rw [h] <;> decide
    have hends : Lexeme.EndsName (t.text ++ u) := .cons hquote.1 hquote.2 _
    rw [text, word, Lexeme.name_of_endsName hends]
    rfl

theorem head?_ne_brace (k : KeyText) (u : List Char) : (k.text ++ u).head? ≠ some '\x7d' := by
  cases k with
  | name cs h =>
    obtain ⟨c, rest, hcs, hc⟩ := h.exists_head
    rw [text, hcs]
    intro hbrace
    obtain rfl : c = '\x7d' := Option.some.inj hbrace
    revert hc
    decide
  | quoted t =>
    intro hbrace
    obtain hquote : t.quote = '\x7d' := Option.some.inj hbrace
    rcases t.isQuote with h | h <;> rw [h] at hquote <;> exact absurd hquote (by decide)

end KeyText

theorem atLooseObject_brace (hrest : s.cursor.rest = '\x7b' :: u) :
    atLooseObject (.plain d n) s = (((Cursor.ofChars u).next d n).rest.head? != some '\x7d' &&
      !(startingWordsOf d).any fun w => w.toList ==
        ((Cursor.ofChars u).next d n).rest.take (Lexeme.name ((Cursor.ofChars u).next d n).rest)) := by
  rw [atLooseObject, hrest]
  rfl

namespace ObjectText

variable (o : ObjectText d) {k : KeyText} (hk : k.text = o.initial.key.text)

include hk

/-- An object starts with its brace and its first key, blanks between them. -/
theorem exists_text_eq (u : List Char) : ∃ v, KeyText.Follows v ∧
    o.text ++ u = '\x7b' :: (o.front.1 ++ (k.text ++ v)) := by
  refine ⟨o.initial.rest ++ (o.items ++ (o.back.1 ++ '\x7d' :: u)),
    PropertyText.follows_rest o.initial _, ?_⟩
  simp [hk, ObjectGrammar.ObjectText.text, ObjectGrammar.PropertyText.text]

/-- **The first key decides how the brace is read**: as that of an object, or of a block. -/
theorem atLooseObject_eq (hrest : s.cursor.rest = o.text ++ u) (f : Option Stuck) :
    atLooseObject (.plain d n) (s.far f) = !k.startsStatement d := by
  obtain ⟨v, hv, htext⟩ := exists_text_eq o hk u
  have hfar : (s.far f).cursor.rest = _ := hrest.trans htext
  have hnext : (Cursor.ofChars (o.front.1 ++ (k.text ++ v))).next d n = _ :=
    Cursor.next_of_offset_le rfl o.front.2 (k.startsToken v) (Nat.zero_le n)
  rw [atLooseObject_brace hfar, hnext, Cursor.rest_past rfl,
    k.take_name hv, bne_iff_ne.2 (k.head?_ne_brace v), Bool.true_and, KeyText.startsStatement]

/-- Where the first key starts statements, no block does with it. -/
theorem sticks_block (h : k.startsStatement d = true) (hws : Blank ws)
    (hrest : place.rest = ws ++ (o.text ++ u)) (hplace : place.EndsAt n) :
    Sticks (readers depth .block) (.plain d n) (after d n place parts enclosed operand) := by
  obtain ⟨w, hw, hword⟩ := List.any_eq_true.1 h
  obtain ⟨v, ⟨ws', v', hws', rfl⟩, htext⟩ := exists_text_eq o hk u
  rw [beq_iff_eq] at hword
  rw [htext] at hrest
  cases k with
  | name cs hname =>
    rw [KeyText.word] at hword
    rw [KeyText.text, ← hword] at hrest
    exact sticks_block_of_word hw (hword ▸ hname) hws o.front.2 hws' hrest hplace
  | quoted t =>
    have hne : ∀ d : Dialect, ∀ w ∈ startingWordsOf d, w.toList ≠ [] := by
      intro d
      cases d <;> decide
    exact absurd hword (hne d w hw)

end ObjectText

/-! ### Bare objects -/

namespace BareObject

variable (b : BareObject d) {k : KeyText} (hk : k.text = b.object.initial.key.text)

theorem rest_ofChars_text : (Cursor.ofChars b.text).rest =
    b.front.1 ++ (b.object.text ++ b.back.1) := rfl

include hk

/-- **Taken for a block, it has an error.** -/
theorem hasError_tree_of_startsStatement (h : k.startsStatement d = true) :
    (tree d b.text).hasError = true := by
  have hrest := rest_ofChars_text b
  have hplace := endsAt_ofChars b.text
  have hcursor := (ObjectText.atBrace b.object [] false false b.front.2 hrest hplace).2.2
  have hnext : ((Cursor.ofChars b.text).next d (byteLength b.text)).rest =
      '\x7b' :: ((b.object.front.1 ++ (b.object.initial.text ++ (b.object.items ++
        (b.object.back.1 ++ ['\x7d'])))) ++ b.back.1) := hcursor
  have hstatement : Sticks (readers (Grammar.depthFor (byteLength b.text)) .statement)
      (.plain d (byteLength b.text))
      (after d (byteLength b.text) (.ofChars b.text) [] false false) := by
    refine sticks_statement_of_brace (Grammar.depthFor (byteLength b.text) - 1) b.front.2 hrest
      hplace (fun f => ?_) (ObjectText.sticks_block b.object hk h b.front.2 hrest hplace)
    rw [ObjectText.atLooseObject_eq b.object hk hcursor, h]
    rfl
  obtain ⟨e, he⟩ := exists_attempt_of_sticks (by rw [hnext]; rfl) hstatement
    (sticks_pageComment (Or.inr rfl) hcursor) (by rw [hnext]; exact List.cons_ne_nil _ _)
  exact hasError_tree he

/-- **Otherwise its tree is a statement of the object.** -/
theorem unplaced_tree (h : k.startsStatement d = false) : (tree d b.text).unplaced =
    shapeOver rootKind noFields (b.object.text ++ b.back.1)
      [shapeOver "expression_statement" noFields b.object.text [ObjectText.shape b.object]] := by
  have hrest := rest_ofChars_text b
  have hwithin : b.object.text <:+: b.text :=
    ⟨b.front.1, b.back.1, by simp [ObjectGrammar.BareObject.text]⟩
  -- the depth grows with the bytes of the source, so it is enough for every value in it
  have hdepth : Grammar.depthPerCharacter * byteLength b.object.text ≤
      Grammar.depthPerCharacter * byteLength b.text + 65 := Nat.le_add_right_of_le
    (Nat.mul_le_mul_left _ (Cursor.byteLength_le_of_within hwithin))
  have hcursor :=
    (ObjectText.atBrace b.object [] false false b.front.2 hrest (endsAt_ofChars b.text)).2.2
  refine Source.unplaced_tree (Or.inr rfl) b.front.2 b.back.2 rfl (fun _ f => ?_) ?_
    (ObjectText.reads_expression b.object (ObjectText.fitsIn b.object hdepth))
    (ObjectText.isExpression b.object).kind_ne
  · rw [ObjectText.atLooseObject_eq b.object hk hcursor, h]
    rfl
  · simp only [Grammar.depthFor, Grammar.depthPerCharacter]
    omega

end BareObject

/-- **An expression in parentheses has the tree of a statement of these.** -/
theorem IsExpression.unplaced_tree {text : List Char} {shape : Node} (h : IsExpression d text shape)
    (front back : Blanks) :
    (tree d ('(' :: (front.1 ++ (text ++ back.1)) ++ [')'])).unplaced =
      shapeOver rootKind noFields ('(' :: (front.1 ++ (text ++ back.1)) ++ [')'])
        [shapeOver "expression_statement" noFields ('(' :: (front.1 ++ (text ++ back.1)) ++ [')'])
          [parenthesizedShape (front.1 ++ (text ++ back.1)) shape]] := by
  have hblank : Blank [] := List.forall_mem_nil _
  have hwithin : text <:+: '(' :: (front.1 ++ (text ++ back.1)) ++ [')'] :=
    ⟨'(' :: front.1, back.1 ++ [')'], by simp⟩
  have hdepth : Grammar.depthPerCharacter * byteLength text ≤ Grammar.depthPerCharacter *
      byteLength ('(' :: (front.1 ++ (text ++ back.1)) ++ [')']) + 59 := Nat.le_add_right_of_le
    (Nat.mul_le_mul_left _ (Cursor.byteLength_le_of_within hwithin))
  have hwhole : (parenthesizedShape (front.1 ++ (text ++ back.1)) shape).kind =
    "parenthesized_expression" := rfl
  have htree : (tree d ('(' :: (front.1 ++ (text ++ back.1)) ++ [')'])).unplaced = _ :=
    Source.unplaced_tree (u := (front.1 ++ (text ++ back.1)) ++ [')']) (Or.inl rfl) hblank hblank
      (List.append_nil _).symm (fun h => absurd h (by decide))
      (by simp only [Grammar.depthFor, Grammar.depthPerCharacter]; omega)
      (h.reads_parenthesized false front back hdepth) (by rw [hwhole]; decide)
  rw [List.append_nil] at htree
  exact htree

/-! ### What is known of parsers -/

theorem isOver_shapeOver (kind : String) (fields : List Node → Option Nat × Option Nat)
    (cs : List Char) (children : List Node) :
    (shapeOver kind fields cs children).IsOver kind children :=
  ⟨rfl, rfl, rfl⟩

/-- Read without an error, a bare object is taken for an expression. -/
theorem BareObject.exists_isOver (b : BareObject d) (h : (tree d b.text).hasError = false) :
    ∃ statement, (tree d b.text).unplaced.IsOver rootKind [statement] ∧
      statement.IsOver "expression_statement" [ObjectText.shape b.object] := by
  obtain ⟨k, hk, -⟩ := b.object.initial.key.isKey
  cases hword : k.startsStatement d with
  | true => cases h.symm.trans (hasError_tree_of_startsStatement b hk hword)
  | false =>
    rw [unplaced_tree b hk hword]
    exact ⟨_, isOver_shapeOver _ _ _ _, isOver_shapeOver _ _ _ _⟩

/-- **What has to be known of a parser is so of this one.** -/
theorem follows_tree : Parser.Follows tree objectGrammar where
  object o := ⟨ObjectText.shape o, ObjectText.isExpression o, ObjectText.isTree_shape o⟩
  parenthesized front back h := by
    rw [IsExpression.unplaced_tree h front back]
    exact ⟨_, _, _, _, isOver_shapeOver _ _ _ _, isOver_shapeOver _ _ _ _, isOver_shapeOver _ _ _ _,
      ⟨rfl, rfl, rfl⟩, ⟨rfl, rfl, rfl⟩⟩
  alone b h := by
    obtain ⟨statement, hroot, hstatement⟩ := BareObject.exists_isOver b h
    exact ⟨0, .object hroot hstatement (ObjectText.isExpression b.object)⟩
  preferred b h := by
    obtain ⟨statement, hroot, hstatement⟩ := BareObject.exists_isOver b h
    intro labels others n hlabels _
    cases hlabels with
    | object => exact Nat.zero_le _
    | block _ _ hroot' hblock _ =>
      -- the one statement is no block
      obtain rfl := List.singleton_inj.1 (hroot.children_eq.symm.trans hroot'.children_eq)
      exact absurd (hstatement.kind_eq.symm.trans hblock.kind_eq) (by decide)

end Source

end PullNotes
