import PullNotes.Proofs.Source.Objects

/-!
# Objects are no patterns

An object with a string or a function as its first value cannot be bound or assigned to: the reader
of a pattern is stuck after its first key or its first value at the latest.  So such an object is
read as an expression, and as no parameter of an arrow function.

* `ObjectText.sticks_objectPattern` : the object is no pattern.
* `ObjectText.reads_expression` : it is an expression.
-/

namespace PullNotes

namespace Source

open State (after)
open Grammar (readers)
open Reader

variable {d : Dialect} {n : Nat} {place : Cursor} {parts : List Part} {enclosed operand : Bool}
  {ws cs u : List Char} {kind : String} {depth : Nat} {s s' : State} {rules : Rules}
  {target : Reader}

/-- The next token is a word, a string or a colon: neither a comma, a closing brace nor an equals
sign. -/
def State.InProperty (s : State) : Prop := s.symbol = [] ∨ s.symbol = [':']

theorem State.InProperty.far (h : s.InProperty) (f : Option Stuck) : (s.far f).InProperty := h

namespace Reader

theorem sticks_symbol_in_property (h : s.InProperty) {text : String} (htext : text.toList ≠ [])
    (hcolon : text.toList ≠ [':']) : Sticks (symbol text) (.plain d n) s := by
  refine sticks_symbol fun heq => ?_
  rcases h with h | h
  · exact htext (heq.symm.trans h)
  · exact hcolon (heq.symm.trans h)

theorem ensures_defaulted (htarget : Ensures target (.plain d n) s State.InProperty) :
    Ensures (defaulted rules kind target) (.plain d n) s State.InProperty := by
  intro f
  refine ensures_seq htarget (fun s' hs' => ensures_seq_one ?_) f
  exact (goes_maybe_of_sticks (sticks_seq_head (sticks_symbol_in_property hs' (by decide)
    (by decide)))).ensures hs'.far

end Reader

/-- A key that is taken for a name stands before its colon. -/
theorem KeyText.ensures_anyName (k : KeyText) (hws : Blank ws)
    (hrest : place.rest = ws ++ (k.text ++ u)) (hplace : place.EndsAt n) (hu : KeyText.Follows u) :
    Ensures (anyName kind) (.plain d n) (after d n place parts enclosed operand)
      State.InProperty := by
  cases k with
  | name cs h =>
    obtain ⟨ws', v, hws', rfl⟩ := hu
    obtain ⟨node, -, hgoes⟩ := reads_anyName (d := d) kind enclosed h n place parts operand ws _ hws
      hrest hplace (endsName_blanks hws' (.cons (by decide) v))
    refine hgoes.ensures fun f => State.InProperty.far (Or.inr ?_) f
    exact (atMark _ _ _ (by decide) hws' (Cursor.rest_past_text hrest) (hplace.past_text hrest)).2.1
  | quoted t => exact (sticks_anyName (t.atString _ _ _ hws hrest hplace).name).ensures

/-- A target that is not over before another word stands where the text of a value starts. -/
def PassesValue (d : Dialect) (n : Nat) (target : Reader) (text : List Char) : Prop :=
  ∀ (place : Cursor) (parts : List Part) (operand : Bool) (ws u : List Char), Blank ws →
    place.rest = ws ++ (text ++ u) → place.EndsAt n → AfterValue u →
    Ensures target (.plain d n) (after d n place parts true operand) State.InProperty

/-- No symbol starts with the key of a property. -/
theorem PropertyText.symbol_eq_nil (p : PropertyText d) (hws : Blank ws)
    (hrest : place.rest = ws ++ (p.text ++ u)) (hplace : place.EndsAt n) :
    (after d n place parts enclosed operand).symbol = [] := by
  obtain ⟨k, hk, -⟩ := p.key.isKey
  rw [ObjectGrammar.PropertyText.text, ← hk, List.append_assoc] at hrest
  exact k.symbol_eq_nil hws hrest hplace

/-- What is read of a property as that of a pattern ends before the value does. -/
theorem PropertyText.ensures_patternProperty (p : PropertyText d)
    (htarget : PassesValue d n target p.value.text) (hws : Blank ws)
    (hrest : place.rest = ws ++ (p.text ++ u)) (hplace : place.EndsAt n) (hu : AfterValue u) :
    Ensures (patternProperty (readers (depth + 1)) target) (.plain d n)
      (after d n place parts true operand) State.InProperty := by
  obtain ⟨k, hk, hkey⟩ := p.key.isKey
  have hkeyRest : place.rest = ws ++ (k.text ++ (p.rest ++ u)) := by
    rw [hrest, ObjectGrammar.PropertyText.text, hk, List.append_assoc]
  have hfollows := PropertyText.follows_rest p u
  -- a pair with a target, a rest with dots, or a name with perhaps a default
  refine ensures_first_cons ?_ (ensures_first_cons ?_ ?_)
  · obtain ⟨keyNode, -, hgoKey⟩ :=
      hkey.reads depth n place parts operand ws _ hws hkeyRest hplace hfollows
    obtain ⟨hcolon, hvalue, -⟩ := PropertyText.places p hrest
    have hkeyEnd := hplace.past_text hkeyRest
    rw [hk] at hgoKey hkeyEnd
    have hgoColon := goes_mark (d := d) ":" (⟨place.past ws, keyNode⟩ :: parts) true false (by decide)
      (by decide) p.beforeColon.2 hcolon hkeyEnd
    refine ensures_node ((ensures_seq_of_goes hgoKey (ensures_seq_of_goes hgoColon
      (ensures_seq_one (ensures_defaulted ?_)))).mono fun s' hs' _ _ => hs')
    exact htarget _ _ false _ u p.afterColon.2 hvalue (hkeyEnd.past_mark hcolon) hu
  · refine (sticks_node (sticks_seq_head (sticks_symbol ?_))).ensures
    rw [k.symbol_eq_nil hws hkeyRest hplace]
    decide
  · exact ensures_defaulted (k.ensures_anyName hws hkeyRest hplace hfollows)

namespace ObjectText

variable (o : ObjectText d)

/-! ### The opening brace -/

/-- The next token is the opening brace. -/
theorem atBrace (parts : List Part) (enclosed operand : Bool) (hws : Blank ws)
    (hrest : place.rest = ws ++ (o.text ++ u)) (hplace : place.EndsAt n) :
    (after d n place parts enclosed operand).name = [] ∧
      (after d n place parts enclosed operand).symbol = ['\x7b'] ∧
        (after d n place parts enclosed operand).cursor.rest = o.text ++ u :=
  atMark _ _ _ (by decide) hws hrest hplace

theorem sticks_symbol (hws : Blank ws) (hrest : place.rest = ws ++ (o.text ++ u))
    (hplace : place.EndsAt n) {text : String} (htext : text.toList ≠ ['\x7b']) :
    Sticks (symbol text) (.plain d n) (after d n place parts enclosed operand) :=
  Reader.sticks_symbol (by rw [(atBrace o _ _ _ hws hrest hplace).2.1]; exact htext.symm)

/-! ### No pattern -/

/-- **An object is no pattern** if what is bound or assigned to is none of its values. -/
theorem sticks_objectPattern (depth : Nat)
    (htarget : PassesValue d n target o.initial.value.text)
    (hws : Blank ws) (hrest : place.rest = ws ++ (o.text ++ u)) (hplace : place.EndsAt n) :
    Sticks (objectPattern (readers (depth + 1)) target) (.plain d n)
      (after d n place parts enclosed operand) := by
  have hbrace := rest_text o hrest
  have hfirst := Cursor.rest_past_mark hbrace
  have hend := hplace.past_mark hbrace
  have hu := afterValue_items o.more o.trailing o.back u
  have hopening := goes_mark (d := d) "\x7b" parts true operand (by decide) (by decide) hws hbrace
    hplace
  -- whether the first property is read or left out, neither a comma nor the brace comes next
  refine sticks_node (sticks_within (sticks_seq hopening
    (sticks_seq_of_ensures (Q := State.InProperty) ?_ fun s' hs' => ?_)))
  · have hsymbol : ∀ parts,
        (after d n (place.past (ws ++ ['\x7b'])) parts true false).symbol = [] := fun _ =>
      PropertyText.symbol_eq_nil o.initial o.front.2 hfirst hend
    refine ensures_seq (ensures_maybe (PropertyText.ensures_patternProperty o.initial htarget
      o.front.2 hfirst hend hu) (State.InProperty.far (Or.inl (hsymbol _)))) fun s' hs' => ?_
    refine ensures_seq_one ((goes_many_of_sticks (sticks_seq_head ?_)).ensures hs'.far)
    exact sticks_symbol_in_property hs' (by decide) (by decide)
  · exact sticks_seq_head (sticks_symbol_in_property hs' (by decide) (by decide))

theorem sticks_binding (hws : Blank ws) (hrest : place.rest = ws ++ (o.text ++ u))
    (hplace : place.EndsAt n) : Sticks (readers (depth + 2) .binding) (.plain d n)
      (after d n place parts enclosed operand) := by
  obtain ⟨v, hv, -⟩ := o.initial.value.isValue
  have htarget : PassesValue d n (readers (depth + 1) .binding) o.initial.value.text := by
    intro place parts operand ws u hws hrest hplace hu
    rw [← hv] at hrest
    exact (v.ensures_binding hws hrest hplace hu _).mono fun s' hs' => Or.inl hs'
  refine sticks_first_cons (sticks_objectPattern o _ htarget hws hrest hplace) ?_
  refine sticks_first_cons (sticks_node (sticks_within (sticks_seq_head ?_))) ?_
  · exact sticks_symbol o hws hrest hplace (by decide)
  · refine sticks_first_cons (sticks_identifier (Or.inl (atBrace o _ _ _ hws hrest hplace).1)) ?_
    exact sticks_node (sticks_seq_head (sticks_symbol o hws hrest hplace (by decide)))

/-! ### An expression -/

theorem atStop_of_afterObject (hu : AfterObject u) (hrest : place.rest = u)
    (hplace : place.EndsAt n) : (after d n place parts enclosed operand).AtStop := by
  obtain ⟨ws, v, hws, hv, rfl⟩ := hu
  exact atStop_after _ _ _ hws hv hrest hplace

theorem goes_primary (hws : Blank ws) (hrest : place.rest = ws ++ (o.text ++ u))
    (hplace : place.EndsAt n) (hobject : Goes (readers depth .object) (.plain d n)
      (after d n place parts enclosed operand) s') :
    Goes (readers (depth + 1) .primary) (.plain d n) (after d n place parts enclosed operand) s' := by
  obtain ⟨hname, -, hcursor⟩ := atBrace o parts enclosed operand hws hrest hplace
  have hstarts : ∀ {condition : Char → Bool} {b : Bool}, condition '\x7b' = b → ∀ f,
      startsWith condition (.plain d n) ((after d n place parts enclosed operand).far f) = b := by
    intro condition b hb f
    rw [startsWith, State.far_cursor, hcursor]
    exact hb
  refine goes_choose_of_false (fun f => ?_) ?_
  · rw [State.far_name, hname]
    rfl
  refine goes_choose_of_false (hstarts (by decide)) ?_
  refine goes_choose_of_false (hstarts (by decide)) ?_
  refine goes_choose_of_false (hstarts (by decide)) ?_
  refine goes_choose_of_false (hstarts (by decide)) ?_
  exact goes_choose_of_true (hstarts (by decide)) hobject

/-- An object is not assigned to. -/
theorem sticks_pattern (hdepth : FitsIn o depth) (hws : Blank ws)
    (hrest : place.rest = ws ++ (o.text ++ u)) (hplace : place.EndsAt n)
    (haccess : ∃ node : Node, node.kind = "object" ∧ Goes (readers (depth + 9) .access) (.plain d n)
      (after d n place parts enclosed operand) (after d n (place.past (ws ++ o.text))
        (⟨place.past ws, node⟩ :: parts) enclosed false)) :
    Sticks (readers (depth + 10) .pattern) (.plain d n)
      (after d n place parts enclosed operand) := by
  obtain ⟨v, hv, -⟩ := o.initial.value.isValue
  have hvalue : v.depthOf ≤ depth + 5 := by
    rw [ValueText.depthOf, hv]
    exact Nat.le_add_right_of_le (hdepth o.initial List.mem_cons_self)
  have htarget : PassesValue d n (readers (depth + 9) .pattern) o.initial.value.text := by
    intro place parts operand ws u hws hrest hplace hu
    rw [← hv] at hrest
    exact (v.sticks_pattern hws hrest hplace hu (depth + 5) hvalue).ensures
  obtain ⟨node, hkind, hgoes⟩ := haccess
  refine sticks_first_cons (sticks_seq_head (sticks_first_cons
    (sticks_objectPattern o (depth + 8) htarget hws hrest hplace) ?_)) ?_
  · exact sticks_node (sticks_within (sticks_seq_head
      (sticks_symbol o hws hrest hplace (by decide))))
  · refine sticks_first_cons
      (sticks_node (sticks_seq_head (sticks_symbol o hws hrest hplace (by decide)))) ?_
    refine sticks_seq hgoes (sticks_seq_head (sticks_check fun f => ?_))
    have htarget : targetKinds.contains node.kind = false := by
      rw [hkind]
      decide
    exact htarget

theorem FitsIn.mono {o : ObjectText d} (h : FitsIn o depth) {more : Nat} (hmore : depth ≤ more) :
    FitsIn o more := fun p hp => (h p hp).trans hmore

/-- **An object is read as an expression.** -/
theorem reads_expression (hdepth : FitsIn o depth) :
    Reads d (readers (depth + 13) .expression) enclosed true AfterObject o.text (shape o) := by
  intro n place parts before ws u hws hrest hplace hu
  have hstop : ∀ parts,
      (after d n (place.past (ws ++ o.text)) parts enclosed false).AtStop := fun parts =>
    atStop_of_afterObject hu (Cursor.rest_past_text hrest) (hplace.past_text hrest)
  have haccess : ∀ k, FitsIn o k → ∃ node : Node, node.unplaced = shape o ∧
      Goes (readers (k + 9) .access) (.plain d n) (after d n place parts enclosed before)
        (after d n (place.past (ws ++ o.text)) (⟨place.past ws, node⟩ :: parts) enclosed false) := by
    intro k hk
    have hreads : Reads d (readers (k + 7) .object) enclosed false (fun _ => True) o.text
        (shape o) := reads o hk
    obtain ⟨node, hnode, hgoes⟩ := hreads n place parts before ws u hws hrest hplace trivial
    exact ⟨node, hnode, goes_access _ (goes_primary o hws hrest hplace hgoes) (hstop _).endsOperand⟩
  -- the object is tried as a pattern one level deeper before it is read as a value
  obtain ⟨node, hnode, hgoes⟩ := haccess (depth + 1) (hdepth.mono (Nat.le_succ _))
  obtain ⟨inner, hinner, hgoInner⟩ := haccess depth hdepth
  have hpattern := sticks_pattern o hdepth hws hrest hplace ⟨inner, by
    rw [← Node.kind_unplaced, hinner, (isTree_shape o).kind_eq], hgoInner⟩
  obtain ⟨hname, hsymbol, -⟩ := atBrace o parts enclosed before hws hrest hplace
  refine ⟨node, hnode, goes_expression (depth + 10)
    ⟨by rw [hname]; decide, Or.inr (Or.inl hsymbol)⟩
    (sticks_node (sticks_seq_check (sticks_seq_check (sticks_seq_head hpattern)))) hgoes
    (hstop _).endsOperand⟩

end ObjectText

end Source

end PullNotes
