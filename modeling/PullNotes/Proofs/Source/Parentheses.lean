import PullNotes.Proofs.Source.Functions
import PullNotes.Proofs.Source.Patterns
import PullNotes.Source.Document

/-!
# Expressions in parentheses

An expression in parentheses is read as such, and not as the parameters of an arrow function, unless
it could be taken for these.  An object could not: whatever a look past the closing parenthesis
finds, the object is no parameter.

* `ObjectText.sticks_parameters` : an object is no parameter.
* `ObjectText.isExpression` : an object is an expression.
* `IsExpression.reads_parenthesized` : an expression in parentheses is an expression.
-/

namespace PullNotes

namespace Source

open State (after)
open Grammar (readers)
open Reader

variable {d : Dialect} {n : Nat} {place : Cursor} {parts : List Part} {enclosed operand : Bool}
  {ws ws' u : List Char} {depth : Nat}

/-! ### No parameter -/

namespace ObjectText

variable (o : ObjectText d)

theorem sticks_parameter (hws : Blank ws) (hrest : place.rest = ws ++ (o.text ++ u))
    (hplace : place.EndsAt n) : Sticks (parameter (readers (depth + 2))) (.plain d n)
      (after d n place parts enclosed operand) := by
  have hne : ∀ w ∈ parameterWords, ([] : List Char) ≠ w.toList := by decide
  refine sticks_node (sticks_seq (goes_many_of_sticks (sticks_node (sticks_seq_head
    (sticks_symbol o hws hrest hplace (by decide))))) (sticks_seq
      (goes_parameterWords fun w hw => (atBrace o _ _ _ hws hrest hplace).1 ▸ hne w hw)
      (sticks_seq_head (sticks_first_cons (sticks_typed (sticks_word ?_)) ?_))))
  · rw [(atBrace o _ _ _ hws hrest hplace).1]
    decide
  · exact sticks_binding o hws hrest hplace

/-- **An object in parentheses is no list of parameters.** -/
theorem sticks_parameters (depth : Nat) (hws : Blank ws) (hws' : Blank ws')
    (hrest : place.rest = ws ++ '(' :: (ws' ++ (o.text ++ u))) (hplace : place.EndsAt n) :
    Sticks (readers (depth + 3) .parameters) (.plain d n)
      (after d n place parts enclosed operand) := by
  have hafter : (place.past (ws ++ ['('])).rest = ws' ++ (o.text ++ u) :=
    Cursor.rest_past_mark hrest
  have hend := hplace.past_mark hrest
  have hopening := goes_mark (d := d) "(" parts true operand (by decide) (by decide) hws hrest hplace
  have hcomma : Sticks (seq [symbol ",", maybe (parameter (readers (depth + 2)))]) (.plain d n)
      (after d n (place.past (ws ++ ['('])) (markPart "(" (place.past ws) '(' :: parts) true false) :=
    sticks_seq_head (sticks_symbol o hws' hafter hend (by decide))
  refine sticks_node (sticks_within (sticks_withArrows (sticks_seq hopening (sticks_seq
    (goes_seq (goes_maybe_of_sticks (sticks_parameter o hws' hafter hend))
      (goes_seq_one (goes_many_of_sticks hcomma))) (sticks_seq_head ?_)))))
  exact sticks_symbol o hws' hafter hend (by decide)

theorem text_value_within (p : PropertyText d) : p.value.text <:+: p.text :=
  ⟨p.key.text ++ (p.beforeColon.1 ++ ':' :: p.afterColon.1), [], by
    simp [ObjectGrammar.PropertyText.text, ObjectGrammar.PropertyText.rest]⟩

theorem text_property_within {p : PropertyText d} (h : p ∈ o.properties) : p.text <:+: o.text := by
  rcases List.mem_cons.1 h with rfl | h
  · exact ⟨'\x7b' :: o.front.1, o.items ++ (o.back.1 ++ ['\x7d']),
      by simp [ObjectGrammar.ObjectText.text]⟩
  · obtain ⟨item, hitem, rfl⟩ := List.mem_map.1 h
    obtain ⟨before, behind, hmore⟩ := List.append_of_mem hitem
    refine ⟨'\x7b' :: (o.front.1 ++ (o.initial.text ++ (before.flatMap ObjectGrammar.ItemText.text ++
      (item.beforeComma.1 ++ ',' :: item.afterComma.1)))),
        behind.flatMap ObjectGrammar.ItemText.text ++ (ObjectGrammar.trailingText o.trailing ++
          (o.back.1 ++ ['\x7d'])), ?_⟩
    simp [ObjectGrammar.ObjectText.text, ObjectGrammar.ObjectText.items, ObjectGrammar.itemsText, hmore,
      ObjectGrammar.ItemText.text]

/-- The number of its bytes allows for the depth of an object. -/
theorem fitsIn (hdepth : Grammar.depthPerCharacter * byteLength o.text ≤ depth) : FitsIn o depth :=
  fun p hp => (Nat.mul_le_mul_left _ ((Cursor.byteLength_le_of_within (text_value_within p)).trans
    (Cursor.byteLength_le_of_within (text_property_within o hp)))).trans hdepth

/-- **An object is an expression.** -/
theorem isExpression : IsExpression d o.text (shape o) where
  kind_ne := by
    rw [(isTree_shape o).kind_eq]
    decide
  reads _ _ hdepth := reads_expression o (fitsIn o hdepth)
  sticks_parameters depth hws hws' hrest hplace := sticks_parameters o depth hws hws' hrest hplace

end ObjectText

/-! ### An expression -/

/-- The shape of a text in parentheses, given that of what is read of it. -/
def parenthesizedShape (text : List Char) (shape : Node) : Node :=
  shapeOver "parenthesized_expression" noFields ('(' :: text ++ [')'])
    [leafShape "(" false ['('], shape, leafShape ")" false [')']]

namespace IsExpression

variable {text : List Char} {shape : Node}

theorem sticks_arrowFunction (h : IsExpression d text shape) (hws : Blank ws) (hws' : Blank ws')
    (hrest : place.rest = ws ++ '(' :: (ws' ++ (text ++ u))) (hplace : place.EndsAt n) :
    Sticks (arrowFunction (readers (depth + 3))) (.plain d n)
      (after d n place parts enclosed operand) := by
  obtain ⟨hname, hsymbol, -⟩ := atMark (d := d) parts enclosed operand (by decide) hws hrest hplace
  have hasync : ∀ {ps : List Reader}, Sticks (seq (word "async" :: ps)) (.plain d n)
      (after d n place parts enclosed operand) :=
    sticks_seq_head (sticks_word (by rw [hname]; decide))
  have hparameters : Sticks (readers (depth + 3) .parameters) (.plain d n)
      (after d n place parts enclosed operand) := h.sticks_parameters depth hws hws' hrest hplace
  refine sticks_first_cons (sticks_node hasync) (sticks_first_cons (sticks_node (sticks_seq_head
    (sticks_identifier (Or.inl hname)))) (sticks_first_cons (sticks_node hasync) (sticks_node ?_)))
  refine sticks_first_cons (sticks_seq_check (sticks_seq_head hparameters)) ?_
  refine sticks_first_cons (sticks_seq_check (sticks_seq_head hparameters)) ?_
  refine sticks_seq_head (sticks_check fun f => ?_)
  rw [atSymbol, State.far_symbol, hsymbol]
  rfl

/-- An opening parenthesis with an expression after it opens an expression. -/
theorem goes_parenthesized {s' : State} (h : IsExpression d text shape) (hws : Blank ws)
    (hws' : Blank ws') (hrest : place.rest = ws ++ '(' :: (ws' ++ (text ++ u)))
    (hplace : place.EndsAt n) (hgoes : Goes (parenthesized (readers (depth + 3))) (.plain d n)
      (after d n place parts enclosed operand) s') :
    Goes (readers (depth + 4) .primary) (.plain d n) (after d n place parts enclosed operand) s' := by
  obtain ⟨hname, -, hcursor⟩ := atMark (d := d) parts enclosed operand (by decide) hws hrest hplace
  have hstarts : ∀ {condition : Char → Bool} {b : Bool}, condition '(' = b → ∀ f,
      startsWith condition (.plain d n) ((after d n place parts enclosed operand).far f) = b := by
    intro condition b hb f
    rw [startsWith, State.far_cursor, hcursor]
    exact hb
  refine goes_choose_of_false (fun f => ?_) ?_
  · rw [State.far_name, hname]
    rfl
  refine goes_choose_of_false (hstarts (by decide)) ?_
  refine goes_choose_of_false (hstarts (by decide)) ?_
  refine goes_choose_of_true (hstarts (by decide)) ?_
  -- the expression is no parameter, so no arrow function starts here
  exact goes_first (h.sticks_arrowFunction hws hws' hrest hplace) (goes_first_head hgoes)

/-- The parentheses around an expression are read with the expression in them. -/
theorem exists_goes_parenthesized (h : IsExpression d text shape) (parts : List Part)
    (enclosed before : Bool) (front back : Blanks)
    (hdepth : Grammar.depthPerCharacter * byteLength text ≤ depth) (hws : Blank ws)
    (hrest : place.rest = ws ++ ('(' :: (front.1 ++ (text ++ back.1)) ++ [')'] ++ u))
    (hplace : place.EndsAt n) :
    ∃ node : Node, node.unplaced = parenthesizedShape (front.1 ++ (text ++ back.1)) shape ∧
      Goes (parenthesized (readers (depth + 14))) (.plain d n) (after d n place parts enclosed before)
        (after d n (place.past (ws ++ ('(' :: (front.1 ++ (text ++ back.1)) ++ [')'])))
          (⟨place.past ws, node⟩ :: parts) enclosed false) := by
  have hopen : place.rest = ws ++ '(' :: (front.1 ++ (text ++ (back.1 ++ ')' :: u))) := by
    rw [hrest]
    simp
  have hinside := Cursor.rest_past_mark hopen
  have hopenEnd := hplace.past_mark hopen
  have hclose : ((place.past (ws ++ ['('])).past (front.1 ++ text)).rest = back.1 ++ ')' :: u :=
    Cursor.rest_past_text hinside
  have hcloseEnd := hopenEnd.past_text hinside
  have hmark : ∀ parts operand, (after d n ((place.past (ws ++ ['('])).past (front.1 ++ text)) parts
      true operand).symbol = [')'] := fun parts operand =>
    (atMark _ _ _ (by decide) back.2 hclose hcloseEnd).2.1
  let opening := markPart "(" (place.past ws) '('
  have hgoOpening := goes_mark (d := d) "(" parts true before (by decide) (by decide) hws hopen hplace
  obtain ⟨node, hnode, hgoText⟩ := h.reads true depth hdepth n _ (opening :: parts) false front.1 _
    front.2 hinside hopenEnd ⟨back.1, ')' :: u, back.2, .cons (by decide) u, rfl⟩
  have hgoTexts := goes_expressions hgoText (by
    rw [hmark]
    decide)
  have hascription : Goes (maybe (typed (readers (depth + 14) .ascription))) (.plain d n)
      (after d n ((place.past (ws ++ ['('])).past (front.1 ++ text))
        (⟨(place.past (ws ++ ['('])).past front.1, node⟩ :: opening :: parts) true true) _ :=
    goes_maybe_of_sticks (sticks_typed (sticks_ascription (by rw [hmark]; decide)))
  have hgoClosing := goes_mark (d := d) ")"
    (⟨(place.past (ws ++ ['('])).past front.1, node⟩ :: opening :: parts) true true (by decide)
    (by decide) back.2 hclose hcloseEnd
  have hall := goes_seq hgoOpening (goes_seq hgoTexts (goes_seq hascription
    (goes_seq_one hgoClosing)))
  have hparts : ∀ p q r : Part, r :: q :: p :: parts = [p, q, r].reverse ++ parts := by simp
  have hstop : ((place.past (ws ++ ['('])).past (front.1 ++ text)).past (back.1 ++ [')']) =
      place.past (ws ++ ('(' :: (front.1 ++ (text ++ back.1)) ++ [')'])) := by
    simp
  rw [hparts, hstop] at hall
  have hkind : opening.node.kind = "(" := rfl
  have hparenthesized : Goes (parenthesized (readers (depth + 14))) (.plain d n) _ _ :=
    goes_node_over _ (goes_within (s := after d n place parts enclosed before)
      (goes_withArrows (s := after d n place parts true before) hall)) (by rw [hkind]; decide)
  exact ⟨_, unplaced_over "parenthesized_expression" (fun _ => rfl) hrest
    (by simp [hnode, opening]), hparenthesized⟩

/-- **An expression in parentheses is read as an expression**, whatever blanks stand around it. -/
theorem reads_parenthesized (h : IsExpression d text shape) (enclosed : Bool) (front back : Blanks)
    (hdepth : Grammar.depthPerCharacter * byteLength text ≤ depth) :
    Reads d (readers (depth + 19) .expression) enclosed true AfterObject
      ('(' :: (front.1 ++ (text ++ back.1)) ++ [')'])
      (parenthesizedShape (front.1 ++ (text ++ back.1)) shape) := by
  intro n place parts before ws u hws hrest hplace hu
  have hopen : place.rest = ws ++ '(' :: (front.1 ++ (text ++ (back.1 ++ ')' :: u))) := by
    rw [hrest]
    simp
  obtain ⟨hname, hsymbol, hcursor⟩ := atMark (d := d) parts enclosed before (by decide) hws hopen
    hplace
  obtain ⟨node, hnode, hgoes⟩ := h.exists_goes_parenthesized parts enclosed before front
    back hdepth hws hrest hplace
  have hprimary : Goes (readers (depth + 15) .primary) (.plain d n) _ _ :=
    h.goes_parenthesized hws front.2 hopen hplace hgoes
  have hstop : (after d n (place.past (ws ++ ('(' :: (front.1 ++ (text ++ back.1)) ++ [')'])))
      (⟨place.past ws, node⟩ :: parts) enclosed false).AtStop :=
    ObjectText.atStop_of_afterObject hu (Cursor.rest_past_text hrest) (hplace.past_text hrest)
  have hpattern : Sticks (patternAssignment (readers (depth + 16))) (.plain d n)
      (after d n place parts enclosed before) := by
    refine sticks_node (sticks_seq_head (sticks_check fun f => ?_))
    rw [startsWith, State.far_cursor, hcursor]
    rfl
  exact ⟨node, hnode, goes_expression (depth + 16)
    ⟨by rw [hname]; decide, Or.inr (Or.inr hsymbol)⟩ hpattern
    (goes_access (depth + 15) hprimary hstop.endsOperand) hstop.endsOperand⟩

end IsExpression

end Source

end PullNotes
