import PullNotes.Proofs.Source.Sequences
import PullNotes.Proofs.Source.Strings

/-!
# Reading values

An expression that is a string literal or a function is read as such, if a mark follows at which
nothing starts.  Neither can be assigned to, so a pattern with such a value is none.

* `FunctionText` : the texts that are read as function expressions in an object.
* `Reader.goes_expression` : an operand without signs, operators and members as an expression.
* `ValueText.exists_isReadAs` : strings and functions are read as operands.
* `ValueText.ensures_binding`, `ValueText.sticks_pattern` : they are no targets.
-/

namespace PullNotes

namespace Source

open State (after)
open Grammar (readers)

variable {d : Dialect} {n : Nat} {place : Cursor} {parts : List Part} {enclosed operand : Bool}
  {ws cs u : List Char} {kind : String} {depth : Nat} {s s' : State}

/-! ### Expressions without operators -/

/-- The words that an operand with a sign starts with, and the one that an expression may start with
in front of an operand. -/
def signingWords : List (List Char) := ("yield" :: Operator.signWords).map String.toList

/-- An operand without a sign may start with the next token. -/
structure State.Unsigned (s : State) : Prop where
  name : s.name ∉ signingWords
  symbol : s.symbol = [] ∨ s.symbol = ['\x7b'] ∨ s.symbol = ['(']

namespace Reader

theorem sticks_symbols_of_unsigned (h : s.Unsigned) {texts : List String}
    (htexts : ∀ text ∈ texts, text.toList ∉ [[], ['\x7b'], ['(']]) :
    Sticks (first (texts.map symbol)) (.plain d n) s := by
  refine sticks_first fun p hp => ?_
  obtain ⟨text, htext, rfl⟩ := List.mem_map.1 hp
  refine sticks_symbol fun heq => htexts text htext ?_
  rw [← heq]
  simpa using h.symbol

theorem sticks_words_of_unsigned (texts : List String) (h : s.Unsigned) {ctx : Context}
    (htexts : ∀ text ∈ texts, text.toList ∈ signingWords) :
    Sticks (first (texts.map word)) ctx s := by
  refine sticks_first fun p hp => ?_
  obtain ⟨text, htext, rfl⟩ := List.mem_map.1 hp
  exact sticks_word fun heq => h.name (heq ▸ htexts text htext)

theorem sticks_signedOperand_of_unsigned (h : s.Unsigned) {rules : Rules} :
    Sticks (signedOperand rules) (.plain d n) s := by
  refine sticks_first_cons ?_ ?_
  · exact sticks_node (sticks_seq_head (sticks_symbols_of_unsigned h (by decide)))
  · exact sticks_node (sticks_seq_head (sticks_first_cons
      (sticks_symbols_of_unsigned h (by decide)) (sticks_words_of_unsigned _ h (by decide))))

/-- **An operand is an expression** if it has no sign, is not assigned to and ends there. -/
theorem goes_expression (depth : Nat) (hunsigned : s.Unsigned)
    (hpattern : Sticks (patternAssignment (readers depth)) (.plain d n) s)
    (haccess : Goes (readers depth .access) (.plain d n) s
      (after d n place parts enclosed operand))
    (hend : (after d n place parts enclosed operand).EndsOperand) :
    Goes (readers (depth + 3) .expression) (.plain d n) s (after d n place parts enclosed true) := by
  have hoperand : Goes (readers (depth + 1) .operand) (.plain d n) s
      (after d n place parts enclosed operand) := fun f =>
    goes_first hpattern (goes_first (sticks_signedOperand_of_unsigned hunsigned)
      (goes_first_head (goes_seq haccess (goes_seq_one
        (goes_maybe_of_sticks (sticks_update_of_end hend _)))))) f
  have hbinary : Goes (readers (depth + 2) (.binary 1)) (.plain d n) s
      (after d n place parts enclosed operand) :=
    goes_chain hoperand (goes_many_of_sticks (sticks_operation_of_end hend 1 _))
  have hyield : Sticks (yielding (readers (depth + 2))) (.plain d n) s :=
    sticks_node (sticks_seq_head (sticks_words_of_unsigned ["yield"] hunsigned (by decide)))
  refine goes_operand (show Goes _ _ s (after d n place parts enclosed operand) from fun f => ?_)
  exact goes_first hyield (goes_first_head (goes_seq hbinary (goes_seq_one
    (goes_maybe_of_sticks (sticks_cases_of_end hend _))))) f

theorem goes_expressions (hexpression : Goes (readers depth .expression) (.plain d n) s
      (after d n place parts enclosed operand))
    (hcomma : (after d n place parts enclosed operand).symbol ≠ [',']) :
    Goes (readers (depth + 1) .expressions) (.plain d n) s (after d n place parts enclosed true) :=
  goes_operand (show Goes _ _ s (after d n place parts enclosed operand) from goes_chain hexpression
    (goes_many_of_sticks (sticks_seq_head (sticks_symbol hcomma))))

end Reader

/-! ### Functions -/

/-- What follows a value in an object: blanks, and then a comma or the closing brace. -/
def AfterValue (u : List Char) : Prop :=
  ∃ ws c v, Blank ws ∧ (c = ',' ∨ c = '\x7d') ∧ u = ws ++ c :: v

theorem AfterValue.atStop (h : AfterValue u) (hrest : place.rest = u) (hplace : place.EndsAt n) :
    (after d n place parts enclosed operand).AtStop := by
  obtain ⟨ws, c, v, hws, hc, rfl⟩ := h
  refine atStop_after _ _ _ hws (.cons ?_ v) hrest hplace
  rcases hc with rfl | rfl <;> decide

/-- A comma or a closing brace ends an operand. -/
theorem AfterValue.endsOperand (h : AfterValue u) : Before operandEnds u := by
  obtain ⟨ws, c, v, hws, hc, rfl⟩ := h
  refine Before.cons hws ?_ v
  rcases hc with rfl | rfl <;> decide

theorem operandEnds_subset : ∀ c ∈ operandEnds, c ∈ Lexeme.singleMarks :=
  Lexeme.forall_mem_of_all (by decide)

/-- The text of a function expression: the reader of function expressions reads it wherever it
stands as a value in an object, up to its end and without an error, to a depth that the number of
its bytes allows for. -/
structure FunctionText (d : Dialect) where
  text : List Char
  shape : Node
  isFunction : shape.isFunction = true
  hasError : shape.hasError = false
  reads : ∀ depth, Grammar.depthPerCharacter * byteLength text ≤ depth →
    Reads d (Reader.functionExpression (readers depth)) true false AfterValue text shape

theorem name_next_ne_zero (h : (after d n place parts enclosed operand).name ≠ []) :
    Lexeme.name (place.next d n).rest ≠ 0 := by
  intro hzero
  refine h ?_
  have hgo : (after d n place parts enclosed operand).name =
    (place.next d n).rest.take (Lexeme.name (place.next d n).rest) := rfl
  rw [hgo, hzero]
  rfl

theorem symbol_of_name_ne_nil (h : (after d n place parts enclosed operand).name ≠ []) :
    (after d n place parts enclosed operand).symbol = [] :=
  Lexeme.symbol_of_name (name_next_ne_zero h)

/-- No mark is at the start of a name. -/
theorem startsWith_of_name_ne_nil (h : (after d n place parts enclosed operand).name ≠ [])
    {ctx : Context} {condition : Char → Bool}
    (hcondition : ∀ c, Lexeme.isNamePart c = true ∨ c = '\\' → condition c = false)
    (f : Option Stuck) :
    Reader.startsWith condition ctx ((after d n place parts enclosed operand).far f) = false := by
  have hname := name_next_ne_zero h
  rw [Reader.startsWith, State.far_cursor, State.after_cursor]
  cases hrest : (place.next d n).rest with
  | nil => rfl
  | cons c u => exact hcondition c (Lexeme.isNamePart_of_name (hrest ▸ hname))

namespace Reader

theorem goes_shift_name {named : Bool} (hname : (after d n place parts enclosed operand).name = cs)
    (hcs : cs ≠ []) :
    Goes (shift kind named cs.length) (.plain d n) (after d n place parts enclosed operand)
      (after d n ((place.next d n).past cs)
        (⟨place.next d n, leaf kind named (place.next d n) cs⟩ :: parts) enclosed false) := by
  have hrest : (place.next d n).rest =
      cs ++ (place.next d n).rest.drop (Lexeme.name (place.next d n).rest) := by
    rw [← hname]
    exact (List.take_append_drop _ _).symm
  exact goes_shift hrest hcs

/-- A word of the language as the next token. -/
theorem goes_word {text : String} (htext : text.toList ≠ [])
    (hname : (after d n place parts enclosed operand).name = text.toList) :
    Goes (word text) (.plain d n) (after d n place parts enclosed operand)
      (after d n ((place.next d n).past text.toList)
        (⟨place.next d n, leaf text false (place.next d n) text.toList⟩ :: parts) enclosed
          false) := by
  intro f
  have hfar : ((after d n place parts enclosed operand).far f).name = text.toList := hname
  rw [word, if_pos hfar, hfar]
  exact goes_shift_name hname htext f

end Reader

theorem Reader.goes_identifier (hcs : cs ≠ []) (hreserved : cs ∉ Reader.reservedWords)
    (hname : (after d n place parts enclosed operand).name = cs) :
    Reader.Goes Reader.identifier (.plain d n) (after d n place parts enclosed operand)
      (after d n ((place.next d n).past cs)
        (⟨place.next d n, leaf "identifier" true (place.next d n) cs⟩ :: parts) enclosed false) := by
  intro f
  have hfar : ((after d n place parts enclosed operand).far f).name = cs := hname
  have htest : (cs.isEmpty || Reader.reservedWords.contains cs) = false := by
    rw [Bool.or_eq_false_iff, List.isEmpty_eq_false_iff, List.contains_eq_mem, decide_eq_false_iff_not]
    exact ⟨hcs, hreserved⟩
  rw [Reader.identifier, hfar, htest, if_neg Bool.false_ne_true]
  exact Reader.goes_shift_name hname hcs f

/-- The next tokens are the words with which a function starts. -/
def AtFunction (d : Dialect) (n : Nat) (place : Cursor) : Prop :=
  ∀ parts enclosed operand,
    (after d n place parts enclosed operand).name = "function".toList ∨
      (after d n place parts enclosed operand).name = "async".toList ∧
        ∀ parts operand, (after d n ((place.next d n).past "async".toList) parts enclosed
          operand).name = "function".toList

/-- A function that is read starts with its words. -/
theorem atFunction_of_goes {rules : Rules}
    (h : Reader.Goes (Reader.functionExpression rules) (.plain d n)
      (after d n place parts enclosed operand) s') : AtFunction d n place := by
  intro parts' enclosed' operand'
  by_contra hno
  refine h.not_sticks ?_
  have hhead : Reader.Sticks Reader.functionHead (.plain d n)
      (after d n place parts enclosed operand) := by
    obtain ⟨hfunction, hasync⟩ := not_or.1 hno
    by_cases hname : (after d n place parts enclosed operand).name = "async".toList
    · refine Reader.sticks_seq (Reader.goes_maybe (Reader.goes_word (by decide) hname))
        (Reader.sticks_word fun heq => hasync ⟨hname, fun _ _ => heq⟩)
    · exact Reader.sticks_seq_maybe (Reader.sticks_word hname) (Reader.sticks_word hfunction)
  exact Reader.sticks_first_cons (Reader.sticks_node (Reader.sticks_seq_head hhead))
    (Reader.sticks_node (Reader.sticks_seq_head hhead))

namespace AtFunction

variable (h : AtFunction d n place)

include h

theorem name_ne_nil : (after d n place parts enclosed operand).name ≠ [] := by
  rcases h parts enclosed operand with hname | ⟨hname, -⟩ <;> rw [hname] <;> decide

theorem unsigned : (after d n place parts enclosed operand).Unsigned := by
  refine ⟨?_, Or.inl (symbol_of_name_ne_nil h.name_ne_nil)⟩
  rcases h parts enclosed operand with hname | ⟨hname, -⟩ <;> rw [hname] <;> decide

theorem sticks_symbol {text : String} (htext : text.toList ≠ []) :
    Reader.Sticks (Reader.symbol text) (.plain d n) (after d n place parts enclosed operand) :=
  Reader.sticks_symbol (by rw [symbol_of_name_ne_nil h.name_ne_nil]; exact htext.symm)

theorem sticks_arrowSignature :
    Reader.Sticks (Reader.arrowFunction.arrowSignature (readers depth)) (.plain d n)
      (after d n place parts enclosed operand) :=
  Reader.sticks_arrowSignature_of_symbol (symbol_of_name_ne_nil h.name_ne_nil) depth

end AtFunction

/-- After the first of two words the second one is where the function starts. -/
theorem atFunction_past (h : ∀ parts operand,
      (after d n ((place.next d n).past "async".toList) parts enclosed operand).name =
        "function".toList) :
    AtFunction d n ((place.next d n).past "async".toList) :=
  fun parts _ operand => Or.inl (h parts operand)

namespace Reader

/-- No arrow function starts with the words of a function. -/
theorem sticks_arrowFunction_of_function (h : AtFunction d n place) :
    Sticks (arrowFunction (readers depth)) (.plain d n) (after d n place parts enclosed operand) := by
  have hreserved : "function".toList ∈ reservedWords := by decide
  rcases h parts enclosed operand with hname | ⟨hname, hnext⟩
  -- the next word is that of the function itself
  · have hasync : Sticks (word "async") (.plain d n) (after d n place parts enclosed operand) :=
      sticks_word (by rw [hname]; decide)
    refine sticks_first_cons (sticks_node (sticks_seq_head hasync)) ?_
    refine sticks_first_cons (sticks_node (sticks_seq_head
      (sticks_identifier (Or.inr (hname ▸ hreserved))))) ?_
    refine sticks_first_cons (sticks_node (sticks_seq_head hasync)) ?_
    exact sticks_node h.sticks_arrowSignature
  -- the next word may be read as one before an arrow, or as a name, and the one after it as neither
  · have hasync : Goes (word "async") (.plain d n) (after d n place parts enclosed operand) _ :=
      goes_word (by decide) hname
    have hfunction := atFunction_past hnext
    have hidentifier : Goes identifier (.plain d n) (after d n place parts enclosed operand) _ :=
      goes_identifier (by decide) (by decide) hname
    refine sticks_first_cons (sticks_node (sticks_seq hasync (sticks_seq_head
      (sticks_identifier (Or.inr ((hnext _ _) ▸ hreserved)))))) ?_
    refine sticks_first_cons (sticks_node (sticks_seq hidentifier (sticks_seq_head
      (sticks_seq_head (hfunction.sticks_symbol (by decide)))))) ?_
    refine sticks_first_cons (sticks_node (sticks_seq hasync (sticks_seq_head
      hfunction.sticks_arrowSignature))) ?_
    exact sticks_node h.sticks_arrowSignature

end Reader

/-! ### Values -/

/-- The text of a value: a string literal or a function. -/
inductive ValueText (d : Dialect) where
  | string (t : StringText)
  | function (f : FunctionText d)

namespace ValueText

/-- The characters of a value. -/
def text : ValueText d → List Char
  | string t => t.text
  | function f => f.text

/-- The depth that a value needs. -/
def depthOf (v : ValueText d) : Nat := Grammar.depthPerCharacter * byteLength v.text

end ValueText

/-- The next token is the start of a string literal. -/
structure AtString (s : State) : Prop where
  name : s.name = []
  symbol : s.symbol = []
  rest : s.cursor.rest.head? = some '"' ∨ s.cursor.rest.head? = some '\''

theorem AtString.startsWith (h : AtString s) {ctx : Context} {condition : Char → Bool}
    (hcondition : condition '"' = false ∧ condition '\'' = false) (f : Option Stuck) :
    Reader.startsWith condition ctx (s.far f) = false := by
  rw [Reader.startsWith, State.far_cursor]
  rcases h.rest with hrest | hrest <;> rw [hrest]
  · exact hcondition.1
  · exact hcondition.2

theorem StringText.atString (t : StringText) (parts : List Part) (enclosed operand : Bool)
    (hws : Blank ws) (hrest : place.rest = ws ++ (t.text ++ u)) (hplace : place.EndsAt n) :
    AtString (after d n place parts enclosed operand) := by
  have hnext : (place.next d n).rest = t.quote :: (t.content ++ [t.quote] ++ u) := by
    rw [Cursor.next_of_blanks hrest hws (t.startsToken u) hplace, Cursor.rest_past hrest, text]
    rfl
  have hquote : t.quote ∈ Lexeme.marks ∧ t.quote ≠ '\\' ∧ t.quote ∉ Lexeme.shortSymbols := by
    rcases t.isQuote with h | h <;> rw [h] <;> decide
  have hends : Lexeme.EndsName (t.quote :: (t.content ++ [t.quote] ++ u)) :=
    .cons hquote.1 hquote.2.1 _
  constructor
  · have hgo : (after d n place parts enclosed operand).name =
      (place.next d n).rest.take (Lexeme.name (place.next d n).rest) := rfl
    rw [hgo, hnext, Lexeme.name_of_endsName hends]
    rfl
  · rw [State.after_symbol, hnext]
    exact Lexeme.symbol_cons hquote.2.2 _
  · rw [State.after_cursor, hnext]
    exact t.isQuote.imp (congrArg some) (congrArg some)

namespace Reader

theorem goes_access (depth : Nat) (hprimary : Goes (readers depth .primary) (.plain d n) s s')
    (hend : s'.EndsOperand) : Goes (readers (depth + 1) .access) (.plain d n) s s' :=
  goes_chain hprimary (goes_many_of_sticks (sticks_suffix_of_end hend _))

end Reader

open Reader

/-- A string literal is read as an operand. -/
theorem StringText.exists_reads_access (t : StringText) (d : Dialect) :
    ∃ shape : Node, shape.kind = Node.stringKind ∧ shape.hasError = false ∧
      ∀ enclosed depth, Reads d (readers (depth + 3) .access) enclosed false (Before operandEnds)
        t.text shape := by
  obtain ⟨shape, hkind, herror, hreads⟩ := t.exists_reads d
  refine ⟨shape, hkind, herror, fun enclosed depth n place parts before ws u hws hrest hplace hu => ?_⟩
  obtain ⟨node, hnode, hgoes⟩ := hreads enclosed n place parts before ws u hws hrest hplace trivial
  have hstart := t.atString (d := d) parts enclosed before hws hrest hplace
  refine ⟨node, hnode, goes_access (depth + 2) ?_ (hu.atMarks operandEnds_subset
    (Cursor.rest_past_text hrest) (hplace.past_text hrest))⟩
  refine goes_choose_of_false (fun f => ?_) (goes_choose_of_true (fun f => ?_) hgoes)
  · rw [State.far_name, hstart.name]
    rfl
  · rw [Reader.startsWith, State.far_cursor]
    rcases hstart.rest with h | h <;> rw [h] <;> rfl

/-- A function that ends an operand is read as one. -/
theorem Reader.goes_access_of_function (hgoes : Goes (functionExpression (readers depth)) (.plain d n)
      (after d n place parts enclosed operand) s') (hend : s'.EndsOperand) :
    Goes (readers (depth + 2) .access) (.plain d n) (after d n place parts enclosed operand) s' := by
  have hstart := atFunction_of_goes hgoes
  refine goes_access (depth + 1) (goes_choose_of_true (fun g => ?_)
    (goes_first (sticks_arrowFunction_of_function hstart) (goes_first_head hgoes))) hend
  rw [State.far_name, Bool.not_eq_true', List.isEmpty_eq_false_iff]
  exact hstart.name_ne_nil

/-- A function is read as an operand. -/
theorem FunctionText.reads_access (f : FunctionText d)
    (hdepth : Grammar.depthPerCharacter * byteLength f.text ≤ depth) :
    Reads d (readers (depth + 2) .access) true false AfterValue f.text f.shape := by
  intro n place parts before ws u hws hrest hplace hu
  obtain ⟨node, hnode, hgoes⟩ := f.reads depth hdepth n place parts before ws u hws hrest hplace hu
  exact ⟨node, hnode, goes_access_of_function hgoes
    (hu.atStop (Cursor.rest_past_text hrest) (hplace.past_text hrest)).endsOperand⟩

namespace ValueText

/-- A value is read as an operand, whose node is that of a tree. -/
structure IsReadAs (v : ValueText d) (shape : Node) : Prop where
  hasError_eq : shape.hasError = false
  reads_access : ∀ depth, v.depthOf ≤ depth →
    Reads d (readers (depth + 3) .access) true false AfterValue v.text shape

/-- **A value is read as an operand**, and its node is a string or a function. -/
theorem exists_isReadAs (v : ValueText d) :
    ∃ shape : Node, (shape.kind = Node.stringKind ∨ shape.isFunction = true) ∧ v.IsReadAs shape := by
  cases v with
  | string t =>
    obtain ⟨shape, hkind, herror, hreads⟩ := t.exists_reads_access d
    exact ⟨shape, Or.inl hkind, herror, fun depth _ =>
      (hreads true depth).mono fun u hu => hu.endsOperand⟩
  | function f =>
    exact ⟨f.shape, Or.inr f.isFunction, f.hasError, fun depth hdepth =>
      f.reads_access (Nat.le_succ_of_le hdepth)⟩

/-! ### No targets -/

/-- What the next token is where a value starts. -/
theorem atString_or_atFunction (v : ValueText d) (hws : Blank ws)
    (hrest : place.rest = ws ++ (v.text ++ u)) (hplace : place.EndsAt n) (hu : AfterValue u) :
    (∀ parts enclosed operand, AtString (after d n place parts enclosed operand)) ∨
      AtFunction d n place := by
  cases v with
  | string t => exact Or.inl fun parts enclosed operand => t.atString _ _ _ hws hrest hplace
  | function f =>
    obtain ⟨node, -, hgoes⟩ := f.reads _ (Nat.le_refl _) n place [] false ws u hws hrest hplace hu
    exact Or.inr (atFunction_of_goes hgoes)

variable (v : ValueText d) (hws : Blank ws) (hrest : place.rest = ws ++ (v.text ++ u))
  (hplace : place.EndsAt n) (hu : AfterValue u)

include hws hrest hplace hu

theorem unsigned : (after d n place parts enclosed operand).Unsigned := by
  rcases v.atString_or_atFunction hws hrest hplace hu with h | h
  · have hstart := h parts enclosed operand
    exact ⟨by rw [hstart.name]; decide, Or.inl hstart.symbol⟩
  · exact h.unsigned

theorem symbol_eq_nil : (after d n place parts enclosed operand).symbol = [] := by
  rcases v.atString_or_atFunction hws hrest hplace hu with h | h
  · exact (h parts enclosed operand).symbol
  · exact symbol_of_name_ne_nil h.name_ne_nil

theorem sticks_patternAssignment {rules : Rules} :
    Sticks (patternAssignment rules) (.plain d n) (after d n place parts enclosed operand) := by
  refine sticks_node (sticks_seq_head (sticks_check fun f => ?_))
  rcases v.atString_or_atFunction hws hrest hplace hu with h | h
  · exact (h parts enclosed operand).startsWith (by decide) f
  · refine startsWith_of_name_ne_nil h.name_ne_nil (fun c hc => ?_) f
    rw [ne_of_isNamePart _ hc (by decide) (by decide), ne_of_isNamePart _ hc (by decide) (by decide)]
    rfl

/-- Patterns in brackets do not start with a value. -/
theorem sticks_symbol {text : String} (htext : text.toList ≠ []) :
    Sticks (symbol text) (.plain d n) (after d n place parts enclosed operand) :=
  Reader.sticks_symbol (by rw [v.symbol_eq_nil hws hrest hplace hu]; exact htext.symm)

theorem sticks_brackets (kind : String) (rules : Rules) (target : Reader) (parts : List Part)
    (enclosed operand : Bool) :
    Sticks (objectPattern rules target) (.plain d n) (after d n place parts enclosed operand) ∧
      Sticks (arrayPattern rules target) (.plain d n) (after d n place parts enclosed operand) ∧
        Sticks (node kind (seq [symbol "...", target])) (.plain d n)
          (after d n place parts enclosed operand) := by
  have hsymbol : ∀ (enclosed : Bool) {text : String} {ps : List Reader}, text.toList ≠ [] →
      Sticks (seq (symbol text :: ps)) (.plain d n) (after d n place parts enclosed operand) :=
    fun enclosed _ _ htext => sticks_seq_head (v.sticks_symbol hws hrest hplace hu htext)
  exact ⟨sticks_node (sticks_within (hsymbol true (by decide))),
    sticks_node (sticks_within (hsymbol true (by decide))),
    sticks_node (hsymbol enclosed (by decide))⟩

/-- **No value is bound**: at most the first word of a function is, before the second one. -/
theorem ensures_binding (depth : Nat) : Ensures (readers depth .binding) (.plain d n)
    (after d n place parts enclosed operand) fun s' => s'.symbol = [] := by
  cases depth with
  | zero => exact sticks_fail.ensures
  | succ depth =>
    obtain ⟨hobject, harray, hrestPattern⟩ := v.sticks_brackets hws hrest hplace hu "rest_pattern"
      (readers depth) (readers depth .binding) parts enclosed operand
    refine ensures_first_cons hobject.ensures (ensures_first_cons harray.ensures
      (ensures_first_cons ?_ hrestPattern.ensures))
    rcases v.atString_or_atFunction hws hrest hplace hu with h | h
    · exact (sticks_identifier (Or.inl (h parts enclosed operand).name)).ensures
    · rcases h parts enclosed operand with hname | ⟨hname, hnext⟩
      · exact (sticks_identifier (Or.inr (by rw [hname]; decide))).ensures
      · refine (goes_identifier (by decide) (by decide) hname).ensures fun f => ?_
        rw [State.far_symbol]
        exact symbol_of_name_ne_nil (atFunction_past hnext).name_ne_nil

/-- **No value is assigned to.** -/
theorem sticks_pattern (depth : Nat) (hdepth : v.depthOf ≤ depth) :
    Sticks (readers (depth + 4) .pattern) (.plain d n) (after d n place parts true operand) := by
  obtain ⟨hobject, harray, hrestPattern⟩ := v.sticks_brackets hws hrest hplace hu "rest_pattern"
    (readers (depth + 3)) (readers (depth + 3) .pattern) parts true operand
  obtain ⟨shape, hkind, hshape⟩ := v.exists_isReadAs
  obtain ⟨node, hnode, hgoes⟩ :=
    hshape.reads_access depth hdepth n place parts operand ws u hws hrest hplace hu
  refine sticks_first_cons (sticks_seq_head (sticks_first_cons hobject harray))
    (sticks_first_cons hrestPattern (sticks_seq hgoes (sticks_seq_head (sticks_check fun f => ?_))))
  have htarget : targetKinds.contains node.kind = false := by
    rw [← Node.kind_unplaced, hnode]
    rcases hkind with hkind | hkind
    · rw [hkind]
      decide
    · have hkinds : ∀ kind ∈ Node.functionKinds, targetKinds.contains kind = false := by decide
      exact hkinds _ (List.contains_iff_mem.1 hkind)
  exact htarget

end ValueText

end Source

end PullNotes
