import PullNotes.Proofs.Source.Values

/-!
# Reading objects

An object of named or quoted keys with strings and functions as values is read property by property,
with any blanks between the tokens and perhaps a comma after the last property.

* `KeyText`, `objectGrammar` : the keys and the grammar whose objects these are.
* `PropertyText.reads` : a property is read as a pair.
* `ObjectText.reads` : an object is read as an object.
-/

namespace PullNotes

namespace Source

open State (after)
open Grammar (readers)
open Reader

variable {d : Dialect} {n : Nat} {place : Cursor} {parts : List Part} {enclosed operand : Bool}
  {ws cs u : List Char} {kind : String} {depth : Nat} {s s' : State}

/-! ### Keys -/

/-- The text of a key: a name or a string literal. -/
inductive KeyText where
  | name (cs : List Char) (isName : Lexeme.IsName cs)
  | quoted (t : StringText)

namespace KeyText

/-- The characters of a key. -/
def text : KeyText → List Char
  | name cs _ => cs
  | quoted t => t.text

theorem startsToken (k : KeyText) (u : List Char) : StartsToken (k.text ++ u) := by
  cases k with
  | name cs h => exact startsToken_name h u
  | quoted t => exact t.startsToken u

/-- What follows a key: blanks and a colon. -/
def Follows (u : List Char) : Prop := ∃ ws v, Blank ws ∧ u = ws ++ ':' :: v

/-- A key is read as the name of a property, whose node is that of a tree. -/
structure IsReadAs (k : KeyText) (d : Dialect) (shape : Node) : Prop where
  hasError_eq : shape.hasError = false
  reads : ∀ depth, Reads d (propertyName (readers (depth + 1))) true false Follows k.text shape

/-- **A key is read as the name of a property**: a name or a string. -/
theorem exists_isReadAs (k : KeyText) (d : Dialect) : ∃ shape : Node,
    (shape.kind = "property_identifier" ∨ shape.kind = Node.stringKind) ∧ k.IsReadAs d shape := by
  cases k with
  | name cs h =>
    refine ⟨leafShape "property_identifier" true cs, Or.inl rfl, rfl, fun depth => ?_⟩
    rintro n place parts before ws u hws hrest hplace ⟨ws', v, hws', rfl⟩
    obtain ⟨node, hnode, hgoes⟩ := reads_anyName (d := d) "property_identifier" true h n place parts
      before ws _ hws hrest hplace (endsName_blanks hws' (.cons (by decide) v))
    exact ⟨node, hnode, goes_first_head hgoes⟩
  | quoted t =>
    obtain ⟨shape, hkind, herror, hreads⟩ := t.exists_reads d
    refine ⟨shape, Or.inr hkind, herror, fun depth => ?_⟩
    intro n place parts before ws u hws hrest hplace hu
    obtain ⟨node, hnode, hgoes⟩ := hreads true n place parts before ws u hws hrest hplace trivial
    have hstart := t.atString (d := d) parts true before hws hrest hplace
    exact ⟨node, hnode, goes_first (sticks_anyName hstart.name) (goes_first_head hgoes)⟩

/-- No symbol starts with a key. -/
theorem symbol_eq_nil (k : KeyText) (hws : Blank ws) (hrest : place.rest = ws ++ (k.text ++ u))
    (hplace : place.EndsAt n) : (after d n place parts enclosed operand).symbol = [] := by
  cases k with
  | name cs h =>
    obtain ⟨c, rest, hcs, hc⟩ := h.exists_head
    have hnext := Cursor.next_of_blanks (d := d) hrest hws (startsToken_name h u) hplace
    rw [State.after_symbol, hnext, Cursor.rest_past hrest, text, hcs]
    exact Lexeme.symbol_of_isNamePart hc _
  | quoted t => exact (t.atString _ _ _ hws hrest hplace).symbol

end KeyText

/-! ### Properties -/

namespace Reader

theorem goes_pair {rules : Rules} {ctx : Context} {s'' : State}
    (hseq : Goes (seq [propertyName rules, symbol ":", rules .expression]) ctx s s')
    (hgather : Goes (gather Node.pairKind s.size keyAndValue) ctx s' s'') :
    Goes (pair rules) ctx s s'' := by
  intro f
  obtain ⟨f', hseq⟩ := hseq f
  rw [pair, hseq]
  exact hgather f'

theorem goes_property {rules : Rules} {ctx : Context} (hpair : Goes (pair rules) ctx s s') :
    Goes (property rules) ctx s s' := goes_first_head hpair

theorem goes_sparse {item : Reader} {ctx : Context} {s'' : State} (hfirst : Goes item ctx s s')
    (hmore : Goes (many (seq [symbol ",", maybe item])) ctx s' s'') :
    Goes (sparse item) ctx s s'' := goes_seq (goes_maybe hfirst) (goes_seq_one hmore)

theorem sticks_pair {rules : Rules} {ctx : Context}
    (hseq : Sticks (seq [propertyName rules, symbol ":", rules .expression]) ctx s) :
    Sticks (pair rules) ctx s := by
  intro f
  obtain ⟨e, hseq⟩ := hseq f
  rw [pair, hseq]
  exact ⟨e, rfl⟩

end Reader

/-! ### The grammar -/

/-- What follows an object: blanks, and then a stop. -/
def AfterObject (u : List Char) : Prop := ∃ ws v, Blank ws ∧ Stops v ∧ u = ws ++ v

/-- A text is read as an expression, whose node is that of a tree, and in parentheses it is not
taken for the parameters of an arrow function. -/
structure IsExpression (d : Dialect) (text : List Char) (shape : Node) : Prop where
  kind_ne : shape.kind ≠ Node.errorKind
  reads : ∀ enclosed depth, Grammar.depthPerCharacter * byteLength text ≤ depth →
    Reads d (readers (depth + 13) .expression) enclosed true AfterObject text shape
  sticks_parameters : ∀ {n place parts enclosed operand ws ws' u} (depth : Nat), Blank ws → Blank ws' →
    place.rest = ws ++ '(' :: (ws' ++ (text ++ u)) → place.EndsAt n →
      Sticks (readers (depth + 3) .parameters) (.plain d n) (after d n place parts enclosed operand)

/-- What this parser says about objects. -/
def objectGrammar : ObjectGrammar where
  key d cs shape := ∃ k : KeyText, k.text = cs ∧ k.IsReadAs d shape
  value d cs shape := ∃ v : ValueText d, v.text = cs ∧ v.IsReadAs shape
  expression := IsExpression

/-- A name or a string as a key of a property. -/
noncomputable def KeyText.toKey (k : KeyText) (d : Dialect) : objectGrammar.Key d where
  text := k.text
  tree := (k.exists_isReadAs d).choose
  isKey := ⟨k, rfl, (k.exists_isReadAs d).choose_spec.2⟩
  isNameOrString := (k.exists_isReadAs d).choose_spec.1

/-- A string or a function as the value of a property. -/
noncomputable def ValueText.toValue (v : ValueText d) : objectGrammar.Value d where
  text := v.text
  tree := v.exists_isReadAs.choose
  isValue := ⟨v, rfl, v.exists_isReadAs.choose_spec.2⟩
  isStringOrFunction := v.exists_isReadAs.choose_spec.1

/-- A property of names, strings and functions. -/
abbrev PropertyText (d : Dialect) := objectGrammar.PropertyText d

/-- A further property, with the comma before it. -/
abbrev ItemText (d : Dialect) := objectGrammar.ItemText d

/-- An object of names, strings and functions. -/
abbrev ObjectText (d : Dialect) := objectGrammar.ObjectText d

/-- A source that is an object alone. -/
abbrev BareObject (d : Dialect) := objectGrammar.BareObject d

namespace PropertyText

variable (p : PropertyText d)

/-- The depth that the value of a property needs. -/
def depthOf : Nat := Grammar.depthPerCharacter * byteLength p.value.text

/-- After the key come blanks and the colon. -/
theorem follows_rest (u : List Char) : KeyText.Follows (p.rest ++ u) :=
  ⟨p.beforeColon.1, p.afterColon.1 ++ (p.value.text ++ u), p.beforeColon.2,
    by simp [ObjectGrammar.PropertyText.rest]⟩

/-- The place of the colon and what follows it. -/
theorem places (hrest : place.rest = ws ++ (p.text ++ u)) :
    (place.past (ws ++ p.key.text)).rest =
        p.beforeColon.1 ++ ':' :: (p.afterColon.1 ++ (p.value.text ++ u)) ∧
      ((place.past (ws ++ p.key.text)).past (p.beforeColon.1 ++ [':'])).rest =
        p.afterColon.1 ++ (p.value.text ++ u) ∧
      ((place.past (ws ++ p.key.text)).past (p.beforeColon.1 ++ [':'])).past
        (p.afterColon.1 ++ p.value.text) = place.past (ws ++ p.text) := by
  have hkey : (place.past (ws ++ p.key.text)).rest =
      p.beforeColon.1 ++ ':' :: (p.afterColon.1 ++ (p.value.text ++ u)) :=
    Cursor.rest_past (by
      rw [hrest]
      simp [ObjectGrammar.PropertyText.text, ObjectGrammar.PropertyText.rest])
  refine ⟨hkey, Cursor.rest_past_mark hkey, ?_⟩
  simp [ObjectGrammar.PropertyText.text, ObjectGrammar.PropertyText.rest]

/-- The shape of a property. -/
def shape : Node :=
  shapeOver Node.pairKind keyAndValue p.text [p.key.tree, leafShape ":" false [':'], p.value.tree]

theorem isTree_shape : ObjectGrammar.PropertyText.IsTree p p.shape where
  isOver := ⟨leafShape ":" false [':'], ⟨rfl, rfl, rfl⟩, rfl, rfl, rfl⟩
  keyChild_eq := rfl
  valueChild_eq := rfl

theorem hasError_shape : p.shape.hasError = false := by
  obtain ⟨k, -, hkey⟩ := p.key.isKey
  obtain ⟨v, -, hvalue⟩ := p.value.isValue
  have hany : [p.key.tree, leafShape ":" false [':'], p.value.tree].any Node.hasError = false := by
    rw [List.any_cons, List.any_cons, List.any_cons, hkey.hasError_eq, hvalue.hasError_eq]
    rfl
  exact hany

/-- **A property is read as a pair** of its key and its value. -/
theorem reads (hdepth : p.depthOf ≤ depth) :
    Reads d (pair (readers (depth + 6))) true true AfterValue p.text p.shape := by
  obtain ⟨k, hk, hkey⟩ := p.key.isKey
  obtain ⟨v, hv, hvalue⟩ := p.value.isValue
  intro n place parts before ws u hws hrest hplace hu
  obtain ⟨hcolon, hvalueRest, hstop⟩ := p.places hrest
  have hkeyRest : place.rest = ws ++ (p.key.text ++ (p.rest ++ u)) := by
    rw [hrest, ObjectGrammar.PropertyText.text, List.append_assoc]
  have hcolonEnd := (hplace.past_text hkeyRest).past_mark hcolon
  obtain ⟨keyNode, hkeyNode, hgoKey⟩ := hkey.reads (depth + 5) n place parts before ws _ hws
    (hk ▸ hkeyRest) hplace (p.follows_rest u)
  rw [hk] at hgoKey
  have hgoColon := goes_mark (d := d) ":" (⟨place.past ws, keyNode⟩ :: parts) true false (by decide)
    (by decide) p.beforeColon.2 hcolon (hplace.past_text hkeyRest)
  rw [← hv] at hvalueRest
  obtain ⟨valueNode, hvalueNode, hgoAccess⟩ := hvalue.reads_access depth
    (by rw [ValueText.depthOf, hv]; exact hdepth) n _ _ false _ u p.afterColon.2 hvalueRest
    hcolonEnd hu
  have hend := hplace.past_text hrest
  have hafter := Cursor.rest_past_text hrest
  rw [hv, hstop] at hgoAccess
  have hgoValue := goes_expression (depth + 3)
    (v.unsigned p.afterColon.2 hvalueRest hcolonEnd hu)
    (v.sticks_patternAssignment p.afterColon.2 hvalueRest hcolonEnd hu) hgoAccess
    (hu.atStop hafter hend).endsOperand
  have hkind : keyNode.kind ≠ Node.errorKind := by
    rw [← Node.kind_unplaced, hkeyNode]
    rcases p.key.isNameOrString with h | h <;> rw [h] <;> decide
  have hgoes := goes_pair (goes_seq hgoKey (goes_seq hgoColon (goes_seq_one hgoValue)))
    (goes_gathered [_, _, _] parts rfl hkind)
  exact ⟨_, unplaced_over Node.pairKind (fun ns => by simp [keyAndValue]) hrest
    (by simp [hkeyNode, hvalueNode]), hgoes⟩

end PropertyText

/-! ### Where properties end -/

namespace Reader

theorem sticks_propertyName_of_stop (h : s.AtStop) :
    Sticks (propertyName (readers depth)) (.plain d n) s := by
  refine sticks_first_cons (sticks_anyName h.name) ?_
  refine sticks_first_cons (sticks_readers h depth .string (by decide) (by decide)) ?_
  refine sticks_first_cons (sticks_number_of_stop h) ?_
  refine sticks_first_cons (sticks_privateName_of_stop h) ?_
  exact sticks_node (sticks_within (sticks_seq_head
    (sticks_symbol_of_stop (h.within true) (by decide))))

theorem sticks_beforeName {p : Reader} {ctx : Context} (hp : Sticks p ctx s) :
    Sticks (beforeName p) ctx s := by
  intro f
  obtain ⟨e, hp⟩ := hp f
  rw [beforeName, hp]
  exact ⟨e, rfl⟩

theorem sticks_method_of_stop (h : s.AtStop) : Sticks (method (readers depth)) (.plain d n) s := by
  have hmethod : Sticks (first (methodWords.map word)) (.plain d n) s :=
    sticks_words_of_stop h (by decide)
  have hmember : Sticks (typed (first (memberWords.map word))) (.plain d n) s :=
    sticks_typed (sticks_words_of_stop h (by decide))
  have hmodifiers : Goes modifiers (.plain d n) s s :=
    goes_seq (goes_many_of_sticks (sticks_beforeName (sticks_first_cons hmethod hmember)))
      (goes_seq_one (goes_maybe_of_sticks (sticks_symbol_of_stop h (by decide))))
  exact sticks_node (sticks_seq hmodifiers (sticks_seq_head (sticks_propertyName_of_stop h)))

theorem sticks_shorthand_of_stop (h : s.AtStop) : Sticks property.shorthand (.plain d n) s := by
  intro f
  have hname : (s.far f).name = [] := h.name
  rw [property.shorthand, hname, if_neg (by decide)]
  exact sticks_anyName h.name f

/-- No property starts at a stop. -/
theorem sticks_property_of_stop (h : s.AtStop) :
    Sticks (property (readers depth)) (.plain d n) s := by
  refine sticks_first_cons (sticks_pair (sticks_seq_head (sticks_propertyName_of_stop h))) ?_
  refine sticks_first_cons (sticks_method_of_stop h) ?_
  exact sticks_first_cons (sticks_spread_of_stop h) (sticks_shorthand_of_stop h)

end Reader

/-! ### Objects -/

open ObjectGrammar (itemsText trailingText)

theorem itemsText_cons (item : ItemText d) (items : List (ItemText d)) (trailing : Option Blanks) :
    itemsText (item :: items) trailing = item.text ++ itemsText items trailing := by
  rw [itemsText, List.flatMap_cons, List.append_assoc, itemsText]

/-- What follows a property in an object. -/
theorem afterValue_items (items : List (ItemText d)) (trailing : Option Blanks) (back : Blanks)
    (u : List Char) : AfterValue (itemsText items trailing ++ (back.1 ++ '\x7d' :: u)) := by
  cases items with
  | nil =>
    cases trailing with
    | none => exact ⟨back.1, '\x7d', u, back.2, Or.inr rfl, rfl⟩
    | some ws =>
      exact ⟨ws.1, ',', back.1 ++ '\x7d' :: u, ws.2, Or.inl rfl, by simp [itemsText, trailingText]⟩
  | cons item items =>
    refine ⟨item.beforeComma.1, ',', item.afterComma.1 ++ (item.property.text ++
      (itemsText items trailing ++ (back.1 ++ '\x7d' :: u))), item.beforeComma.2, Or.inl rfl, ?_⟩
    rw [itemsText_cons, ObjectGrammar.ItemText.text]
    simp only [List.append_assoc, List.cons_append]

/-- A comma and what may follow it in an object. -/
def itemReader (rules : Rules) : Reader := seq [symbol ",", maybe (property rules)]

theorem sticks_itemReader (back : Blanks) {rules : Rules}
    (hrest : place.rest = back.1 ++ '\x7d' :: u) (hplace : place.EndsAt n) :
    Sticks (itemReader rules) (.plain d n) (after d n place parts enclosed operand) := by
  refine sticks_seq_head (sticks_symbol ?_)
  rw [(atMark _ _ _ (by decide) back.2 hrest hplace).2.1]
  decide

/-- The comma before a further property is read with the property. -/
theorem ItemText.exists_goes (parts : List Part) (item : ItemText d)
    (hdepth : PropertyText.depthOf item.property ≤ depth)
    (hrest : place.rest = item.text ++ u) (hplace : place.EndsAt n) (hu : AfterValue u) :
    ∃ part : Part, part.node.unplaced = PropertyText.shape item.property ∧
      Goes (itemReader (readers (depth + 6))) (.plain d n) (after d n place parts true true)
        (after d n (place.past item.text)
          (part :: markPart "," (place.past item.beforeComma.1) ',' :: parts) true true) := by
  have hcomma : place.rest = item.beforeComma.1 ++ ',' :: (item.afterComma.1 ++
      (item.property.text ++ u)) := by
    rw [hrest, ObjectGrammar.ItemText.text]
    simp only [List.append_assoc, List.cons_append]
  have hgoComma := goes_mark (d := d) "," parts true true (by decide) (by decide) item.beforeComma.2
    hcomma hplace
  obtain ⟨node, hnode, hpair⟩ := PropertyText.reads item.property hdepth n _ _ false _ u
    item.afterComma.2 (Cursor.rest_past_mark hcomma) (hplace.past_mark hcomma) hu
  have hstop : (place.past (item.beforeComma.1 ++ [','])).past
      (item.afterComma.1 ++ item.property.text) = place.past item.text := by
    simp [ObjectGrammar.ItemText.text]
  rw [hstop] at hpair
  exact ⟨_, hnode, goes_seq hgoComma (goes_seq_one (goes_maybe (goes_property hpair)))⟩

/-- The last comma is read alone. -/
theorem goes_lastComma {ws : Blanks} (back : Blanks) (hrest : place.rest = ws.1 ++ ',' ::
      (back.1 ++ '\x7d' :: u)) (hplace : place.EndsAt n) :
    Goes (itemReader (readers depth)) (.plain d n) (after d n place parts true true)
      (after d n (place.past (ws.1 ++ [','])) (markPart "," (place.past ws.1) ',' :: parts) true
        false) := by
  have hstop := atStop_after (d := d) (markPart "," (place.past ws.1) ',' :: parts) true false back.2
    (.cons (by decide) u) (Cursor.rest_past_mark hrest) (hplace.past_mark hrest)
  exact goes_seq (goes_mark _ _ _ _ (by decide) (by decide) ws.2 hrest hplace)
    (goes_seq_one (goes_maybe_of_sticks (sticks_property_of_stop hstop)))

/-- The shapes of the further properties and of all commas. -/
def itemShapes (items : List (ItemText d)) (trailing : Option Blanks) : List Node :=
  (items.flatMap fun item => [leafShape "," false [','], PropertyText.shape item.property]) ++
    if trailing.isSome then [leafShape "," false [',']] else []

theorem itemShapes_cons (item : ItemText d) (items : List (ItemText d)) (trailing : Option Blanks) :
    itemShapes (item :: items) trailing =
      leafShape "," false [','] :: PropertyText.shape item.property :: itemShapes items trailing := rfl

theorem hasError_of_mem_itemShapes {items : List (ItemText d)} {trailing : Option Blanks} :
    ∀ shape ∈ itemShapes items trailing, shape.hasError = false := by
  induction items with
  | nil =>
    intro shape hshape
    cases trailing with
    | none => exact absurd hshape List.not_mem_nil
    | some ws => rw [List.mem_singleton.1 hshape, hasError_leafShape]
  | cons item items ih =>
    rw [itemShapes_cons]
    exact List.forall_mem_cons.2 ⟨rfl, List.forall_mem_cons.2
      ⟨PropertyText.hasError_shape item.property, ih⟩⟩

/-- The pairs among these shapes are those of the properties. -/
theorem filter_itemShapes (items : List (ItemText d)) (trailing : Option Blanks) :
    ((itemShapes items trailing).filter fun c => c.kind == Node.pairKind) =
      items.map fun item => PropertyText.shape item.property := by
  have hcomma : ((leafShape "," false [',']).kind == Node.pairKind) = false := by decide
  induction items with
  | nil =>
    cases trailing with
    | none => rfl
    | some ws => exact List.filter_cons_of_neg (by rw [hcomma]; decide)
  | cons item items ih =>
    rw [itemShapes_cons, List.filter_cons_of_neg (by rw [hcomma]; decide),
      List.filter_cons_of_pos rfl, ih, List.map_cons]

/-- **The further properties are read one after the other**, up to the closing brace. -/
theorem exists_repeats_itemReader (parts : List Part) (items : List (ItemText d))
    (trailing : Option Blanks) (back : Blanks)
    (hdepth : ∀ item ∈ items, PropertyText.depthOf item.property ≤ depth)
    (hrest : place.rest = itemsText items trailing ++ (back.1 ++ '\x7d' :: u))
    (hplace : place.EndsAt n) : ∃ new : List Part,
      new.reverse.map (·.node.unplaced) = itemShapes items trailing ∧
        Repeats (itemReader (readers (depth + 6))) (.plain d n) (after d n place parts true true)
          (after d n (place.past (itemsText items trailing)) (new ++ parts) true
            trailing.isNone) := by
  induction items generalizing place parts with
  | nil =>
    cases trailing with
    | none => exact ⟨[], rfl, .stop (sticks_itemReader back hrest hplace)⟩
    | some ws =>
      have hcomma : place.rest = ws.1 ++ ',' :: (back.1 ++ '\x7d' :: u) := by
        rw [hrest]
        simp [itemsText, trailingText]
      have hforward : place.offset < (place.past (ws.1 ++ [','])).offset :=
        Cursor.offset_lt_past (u := back.1 ++ '\x7d' :: u) (by simp [hcomma]) (by simp)
      exact ⟨[markPart "," (place.past ws.1) ','], rfl,
        .step (goes_lastComma back hcomma hplace) hforward (.stop (sticks_itemReader back
          (Cursor.rest_past_mark hcomma) (hplace.past_mark hcomma)))⟩
  | cons item items ih =>
    obtain ⟨hvalue, hvalues⟩ := List.forall_mem_cons.1 hdepth
    rw [itemsText_cons, List.append_assoc] at hrest
    obtain ⟨part, hpart, hgoItem⟩ := ItemText.exists_goes parts item hvalue hrest hplace
      (afterValue_items items trailing back u)
    obtain ⟨new, hnew, hrepeats⟩ := ih
      (part :: markPart "," (place.past item.beforeComma.1) ',' :: parts) hvalues
      (Cursor.rest_past hrest) (hplace.past hrest)
    rw [Cursor.past_past, ← itemsText_cons] at hrepeats
    refine ⟨new ++ [part, _], ?_, .step hgoItem ?_ (by rw [List.append_assoc]; exact hrepeats)⟩
    · rw [itemShapes_cons, ← hnew, ← hpart]
      simp
    · exact Cursor.offset_lt_past hrest (by simp [ObjectGrammar.ItemText.text])

namespace ObjectText

variable (o : ObjectText d)

/-- A depth is enough for all values. -/
def FitsIn (depth : Nat) : Prop := ∀ p ∈ o.properties, PropertyText.depthOf p ≤ depth

/-- The place after the opening brace, and what is left after each part. -/
theorem rest_text (hrest : place.rest = ws ++ (o.text ++ u)) :
    place.rest = ws ++ '\x7b' :: (o.front.1 ++ (o.initial.text ++
      (o.items ++ (o.back.1 ++ '\x7d' :: u)))) := by
  rw [hrest]
  simp [ObjectGrammar.ObjectText.text]

/-- The shape of an object. -/
def shape : Node :=
  shapeOver "object" noFields o.text (leafShape "\x7b" false ['\x7b'] ::
    (PropertyText.shape o.initial :: itemShapes o.more o.trailing ++
      [leafShape "\x7d" false ['\x7d']]))

/-- The shape of an object is that of a tree of it, with a pair for each property. -/
theorem isTree_shape : ObjectGrammar.ObjectText.IsTree o (shape o) where
  kind_eq := rfl
  hasError_eq := hasError_shapeOver _ _ _ _ rfl rfl (List.forall_mem_cons.2
    ⟨PropertyText.hasError_shape o.initial, hasError_of_mem_itemShapes⟩)
  bytes_eq := rfl
  pairs := by
    have hopening : ((leafShape "\x7b" false ['\x7b']).kind == Node.pairKind) = false := by decide
    have hclosing : ([leafShape "\x7d" false ['\x7d']].filter fun c => c.kind == Node.pairKind) =
      [] := List.filter_cons_of_neg (by decide)
    have hpairs : ((shape o).children.filter fun c => c.kind == Node.pairKind) =
        o.properties.map PropertyText.shape := by
      have hchildren : (shape o).children = leafShape "\x7b" false ['\x7b'] ::
        (PropertyText.shape o.initial :: itemShapes o.more o.trailing ++
          [leafShape "\x7d" false ['\x7d']]) := rfl
      rw [hchildren, List.filter_cons_of_neg (by rw [hopening]; decide), List.filter_append,
        List.filter_cons_of_pos rfl, filter_itemShapes, hclosing, List.append_nil,
        ObjectGrammar.ObjectText.properties, List.map_cons, List.map_map]
      rfl
    rw [hpairs]
    exact List.forall₂_map_right_iff.2 (List.forall₂_same.2 fun p _ => PropertyText.isTree_shape p)

/-- **An object is read as an object**, with a pair for each property and without an error. -/
theorem reads (hdepth : FitsIn o depth) :
    Reads d (readers (depth + 7) .object) enclosed false (fun _ => True) o.text (shape o) := by
  intro n place parts before ws u hws hrest hplace _
  obtain ⟨hinitial, hothers⟩ := List.forall_mem_cons.1 hdepth
  have hitems : ∀ item ∈ o.more, PropertyText.depthOf item.property ≤ depth := fun item hitem =>
    hothers _ (List.mem_map_of_mem hitem)
  -- what is left after the brace, after the first property and after the further ones
  have hbrace := rest_text o hrest
  have hfirst := Cursor.rest_past_mark hbrace
  have hbraceEnd := hplace.past_mark hbrace
  have hmore := Cursor.rest_past_text hfirst
  have hfirstEnd := hbraceEnd.past_text hfirst
  have hback := Cursor.rest_past hmore
  have hmoreEnd := hfirstEnd.past hmore
  let brace := markPart "\x7b" (place.past ws) '\x7b'
  have hgoOpening := goes_mark (d := d) "\x7b" parts true before (by decide) (by decide) hws hbrace
    hplace
  obtain ⟨pairNode, hpairNode, hgoPair⟩ := PropertyText.reads o.initial hinitial n _ (brace :: parts)
    false _ _ o.front.2 hfirst hbraceEnd (afterValue_items o.more o.trailing o.back u)
  let pair : Part := ⟨(place.past (ws ++ ['\x7b'])).past o.front.1, pairNode⟩
  obtain ⟨new, hnew, hrepeats⟩ := exists_repeats_itemReader (pair :: brace :: parts) o.more
    o.trailing o.back hitems hmore hfirstEnd
  have hgoMore := hrepeats.goes_many hmoreEnd.offset_le
  have hgoClosing := goes_mark (d := d) "\x7d" (new ++ pair :: brace :: parts) true
    o.trailing.isNone (by decide) (by decide) o.back.2 hback hmoreEnd
  have hall := goes_seq hgoOpening (goes_seq (goes_sparse (goes_property hgoPair) hgoMore)
    (goes_seq_one hgoClosing))
  have hparts : ∀ p q r : Part, r :: (new ++ q :: p :: parts) =
      (p :: q :: (new.reverse ++ [r])).reverse ++ parts := by simp
  have hstop : (((place.past (ws ++ ['\x7b'])).past (o.front.1 ++ o.initial.text)).past
      o.items).past (o.back.1 ++ ['\x7d']) = place.past (ws ++ o.text) := by
    simp [ObjectGrammar.ObjectText.text]
  rw [hparts, hstop] at hall
  have hkind : brace.node.kind = "\x7b" := rfl
  have hnode := goes_node_over "object" (goes_within (s := after d n place parts enclosed
    before) hall) (by rw [hkind]; decide)
  exact ⟨_, unplaced_over "object" (fun _ => rfl) hrest
    (by simp [hpairNode, ← hnew, pair, brace]), hnode⟩

end ObjectText

end Source

end PullNotes
