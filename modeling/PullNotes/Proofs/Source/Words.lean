import PullNotes.Proofs.Source.Implied

/-!
# Words before a colon

No statement starts with a word before a colon, but one with a label and one that consists of an
object or the like: where a rule goes on over such a word, it goes no further than to the colon, and
no statement ends there.  The words that start statements are no labels, so no statement starts at
one of them before a colon.

* `State.BeforeColon` : the next token is a word before a colon.
* `Reader.ensures_expressions` : an expression there ends at the colon.
* `Reader.sticks_statement_of_word` : no statement starts there.
-/

namespace PullNotes

namespace Source

/-- The next token is a word, and a colon follows it. -/
structure State.BeforeColon (d : Dialect) (n : Nat) (s : State) : Prop where
  name : s.name ≠ []
  symbol : s.symbol = []
  rest : ∀ c, s.cursor.rest.head? = some c → Lexeme.isNamePart c = true ∨ c = '\\'
  shift : ∀ kind named,
    Reader.Ensures (Reader.shift kind named s.name.length) (.plain d n) s State.AtColon

namespace Reader

variable {d : Dialect} {n : Nat} {s : State} {rules : Rules} {ps : List Reader} {kind : String}

/-! ### Tokens -/

theorem sticks_symbol_of_word (h : s.BeforeColon d n) {text : String} (htext : text.toList ≠ []) :
    Sticks (symbol text) (.plain d n) s :=
  sticks_symbol (by rw [h.symbol]; exact htext.symm)

theorem sticks_symbols_of_word (h : s.BeforeColon d n) {texts : List String}
    (htexts : ∀ text ∈ texts, text.toList ≠ []) :
    Sticks (first (texts.map symbol)) (.plain d n) s := by
  refine sticks_first fun p hp => ?_
  obtain ⟨text, htext, rfl⟩ := List.mem_map.1 hp
  exact sticks_symbol_of_word h (htexts text htext)

theorem ensures_word (h : s.BeforeColon d n) (text : String) :
    Ensures (word text) (.plain d n) s State.AtColon := by
  intro f after hafter
  rw [word] at hafter
  split at hafter
  · exact h.shift text false f after hafter
  · cases hafter

theorem ensures_words (h : s.BeforeColon d n) (texts : List String) :
    Ensures (first (texts.map word)) (.plain d n) s State.AtColon := by
  refine ensures_first fun p hp => ?_
  obtain ⟨text, -, rfl⟩ := List.mem_map.1 hp
  exact ensures_word h text

theorem ensures_identifier (h : s.BeforeColon d n) :
    Ensures identifier (.plain d n) s State.AtColon := by
  intro f after hafter
  rw [identifier] at hafter
  split at hafter
  · cases hafter
  · exact h.shift "identifier" true f after hafter

/-- Nothing that begins with a word starts where it would have to go on after the colon. -/
theorem sticks_seq_word (h : s.BeforeColon d n) {text : String}
    (hps : ∀ s', s'.AtColon → Sticks (seq ps) (.plain d n) s') :
    Sticks (seq (word text :: ps)) (.plain d n) s :=
  sticks_seq_of_ensures (ensures_word h text) hps

theorem startsWith_of_word (h : s.BeforeColon d n) {ctx : Context} {condition : Char → Bool}
    (hcondition : ∀ c, Lexeme.isNamePart c = true ∨ c = '\\' → condition c = false)
    (f : Option Stuck) : startsWith condition ctx (s.far f) = false := by
  rw [startsWith, State.far_cursor]
  cases hrest : s.cursor.rest with
  | nil => rfl
  | cons c u => exact hcondition c (h.rest c (by rw [hrest]; rfl))

theorem ne_of_isNamePart (mark : Char) {c : Char} (hc : Lexeme.isNamePart c = true ∨ c = '\\')
    (hmark : mark ∈ Lexeme.marks) (hne : mark ≠ '\\') : (c == mark) = false := by
  rw [beq_eq_false_iff_ne]
  rintro rfl
  rcases hc with hc | hc
  · rw [Lexeme.isNamePart_eq_false hmark] at hc
    cases hc
  · exact hne hc

theorem sticks_decorator_of_word (h : s.BeforeColon d n) (depth : Nat) :
    Sticks (Grammar.readers depth .decorator) (.plain d n) s := by
  cases depth with
  | zero => exact sticks_fail
  | succ depth => exact sticks_node (sticks_seq_head (sticks_symbol_of_word h (by decide)))

theorem sticks_parameters_of_symbol (h : s.symbol = []) (depth : Nat) :
    Sticks (Grammar.readers depth .parameters) (.plain d n) s := by
  cases depth with
  | zero => exact sticks_fail
  | succ depth =>
    refine sticks_node (sticks_within (sticks_withArrows (sticks_seq_head (sticks_symbol ?_))))
    have hsymbol : s.symbol = [] := h
    rw [hsymbol]
    decide

theorem ensures_functionHead (h : s.BeforeColon d n) :
    Ensures functionHead (.plain d n) s State.AtColon := by
  refine ensures_seq (Q := fun s' => s'.AtColon ∨ ∃ f, s' = s.far f)
    (ensures_maybe ((ensures_word h "async").mono fun s' hs' => Or.inl hs')
      fun f => Or.inr ⟨f, rfl⟩) ?_
  rintro s' (hs' | ⟨f, rfl⟩)
  · exact (sticks_seq_head (sticks_word_of_stop hs'.stop (by decide))).ensures
  · exact ensures_seq_one fun g => ensures_word h "function" g

/-! ### Expressions -/

theorem sticks_arrow (hs : s.AtColon) : Sticks (seq [arrow rules]) (.plain d n) s :=
  sticks_seq_head (sticks_seq_head (sticks_symbol_of_stop hs.stop (by decide)))

theorem sticks_arrowSignature_of_stop (h : s.AtStop) (depth : Nat) :
    Sticks (arrowFunction.arrowSignature (Grammar.readers depth)) (.plain d n) s := by
  have hparameters := sticks_readers (d := d) (n := n) h depth .parameters (by decide) (by decide)
  refine sticks_first_cons (sticks_seq_check (sticks_seq_head hparameters)) ?_
  refine sticks_first_cons (sticks_seq_check (sticks_seq_head hparameters)) ?_
  exact sticks_seq_head (sticks_check (atSymbol_of_stop h (by decide)))

/-- Where no symbol is, no parameters start. -/
theorem sticks_arrowSignature_of_symbol (h : s.symbol = []) (depth : Nat) :
    Sticks (arrowFunction.arrowSignature (Grammar.readers depth)) (.plain d n) s := by
  have hparameters := sticks_parameters_of_symbol (d := d) (n := n) h depth
  refine sticks_first_cons (sticks_seq_check (sticks_seq_head hparameters)) ?_
  refine sticks_first_cons (sticks_seq_check (sticks_seq_head hparameters)) ?_
  refine sticks_seq_head (sticks_check fun f => ?_)
  rw [atSymbol, State.far_symbol, h]
  rfl

theorem sticks_arrowFunction_of_word (h : s.BeforeColon d n) (depth : Nat) :
    Sticks (arrowFunction (Grammar.readers depth)) (.plain d n) s := by
  refine sticks_first_cons (sticks_node (sticks_seq_word h fun s' hs' =>
    sticks_seq_head (sticks_identifier_of_stop hs'.stop))) ?_
  refine sticks_first_cons (sticks_node (sticks_seq_of_ensures (ensures_identifier h)
    fun s' hs' => sticks_arrow hs')) ?_
  refine sticks_first_cons (sticks_node (sticks_seq_word h fun s' hs' =>
    sticks_seq_head (sticks_arrowSignature_of_stop hs'.stop depth))) ?_
  exact sticks_node (sticks_arrowSignature_of_symbol h.symbol depth)

theorem sticks_functionRest_of_stop (h : s.AtStop) (depth : Nat) :
    Sticks (functionRest (Grammar.readers depth)) (.plain d n) s := by
  have hrest : Sticks (seq [maybe identifier, Grammar.readers depth .signature,
      body (Grammar.readers depth)]) (.plain d n) s :=
    sticks_seq_maybe (sticks_identifier_of_stop h)
      (sticks_seq_head (sticks_readers h depth .signature (by decide) (by decide)))
  cases htyped : d.isTyped
  · exact sticks_choose_of_false (fun _ => htyped) hrest
  · exact sticks_choose_of_true (fun _ => htyped) (sticks_upToImplied hrest)

theorem sticks_functionExpression_of_word (h : s.BeforeColon d n) (depth : Nat) :
    Sticks (functionExpression (Grammar.readers depth)) (.plain d n) s := by
  refine sticks_first_cons ?_ ?_
  · exact sticks_node (sticks_seq_of_ensures (ensures_functionHead h) fun s' hs' =>
      sticks_seq_head (sticks_symbol_of_stop hs'.stop (by decide)))
  · exact sticks_node (sticks_seq_of_ensures (ensures_functionHead h) fun s' hs' =>
      sticks_seq_head (sticks_functionRest_of_stop hs'.stop depth))

theorem ensures_valueWord (h : s.BeforeColon d n) :
    Ensures valueWord (.plain d n) s State.AtColon := by
  refine ensures_first fun p hp => ?_
  obtain ⟨⟨text, kind⟩, -, rfl⟩ := List.mem_map.1 hp
  exact ensures_node ((ensures_word h text).mono fun s' hs' => hs'.gathered)

theorem sticks_classExpression_of_word (h : s.BeforeColon d n) (depth : Nat) :
    Sticks (classExpression (Grammar.readers depth)) (.plain d n) s := by
  refine sticks_node (sticks_seq_many (sticks_decorator_of_word h depth)
    (sticks_seq_word h fun s' hs' => sticks_seq_maybe ?_ (sticks_seq_head ?_)))
  · exact sticks_seq_check (sticks_seq_head (sticks_identifier_of_stop hs'.stop))
  · exact sticks_readers hs'.stop depth .classBody (by decide) (by decide)

theorem sticks_creation_of_word (h : s.BeforeColon d n) (depth : Nat) :
    Sticks (creation (Grammar.readers depth)) (.plain d n) s := by
  refine sticks_first_cons ?_ ?_
  · exact sticks_node (sticks_seq_word h fun s' hs' =>
      sticks_seq_head (sticks_symbol_of_stop hs'.stop (by decide)))
  · exact sticks_node (sticks_seq_word h fun s' hs' => sticks_seq_head (sticks_chain
      (sticks_readers hs'.stop depth .primary (by decide) (by decide))))

theorem sticks_importOperand_of_word (h : s.BeforeColon d n) :
    Sticks importOperand (.plain d n) s := by
  refine sticks_first_cons ?_ ?_
  · exact sticks_node (sticks_seq_word h fun s' hs' =>
      sticks_seq_head (sticks_symbol_of_stop hs'.stop (by decide)))
  · refine sticks_seq_of_ensures (ensures_node ((ensures_word h "import").mono fun s' hs' =>
      hs'.gathered)) fun s' hs' => ?_
    exact sticks_seq_head (sticks_check (atSymbol_of_stop hs'.stop (by decide)))

theorem ensures_primary (h : s.BeforeColon d n) (depth : Nat) :
    Ensures (Grammar.readers depth .primary) (.plain d n) s State.AtColon := by
  cases depth with
  | zero => exact sticks_fail.ensures
  | succ depth =>
    refine ensures_choose_of_true (fun f => ?_) ?_
    · rw [State.far_name, Bool.not_eq_true', List.isEmpty_eq_false_iff]
      exact h.name
    refine ensures_first_cons (sticks_arrowFunction_of_word h depth).ensures ?_
    refine ensures_first_cons (sticks_functionExpression_of_word h depth).ensures ?_
    refine ensures_first_cons (ensures_identifier h) ?_
    refine ensures_first_cons (ensures_valueWord h) ?_
    refine ensures_first_cons (sticks_classExpression_of_word h depth).ensures ?_
    refine ensures_first_cons (sticks_creation_of_word h depth).ensures ?_
    exact (sticks_importOperand_of_word h).ensures

theorem ensures_access (h : s.BeforeColon d n) (depth : Nat) :
    Ensures (Grammar.readers depth .access) (.plain d n) s State.AtColon := by
  cases depth with
  | zero => exact sticks_fail.ensures
  | succ depth =>
    exact ensures_chain (ensures_primary h depth)
      (fun s' hs' size => sticks_suffix_of_end hs'.stop.endsOperand size)
      fun s' f hs' => hs'.far f

theorem sticks_signedOperand_of_word (h : s.BeforeColon d n) (depth : Nat) :
    Sticks (signedOperand (Grammar.readers depth)) (.plain d n) s := by
  refine sticks_first_cons ?_ ?_
  · exact sticks_node (sticks_seq_head (sticks_symbols_of_word h (by decide)))
  · refine sticks_node (sticks_seq_of_ensures (Q := State.AtColon)
      (ensures_first_cons (sticks_symbols_of_word h (by decide)).ensures (ensures_words h _)) ?_)
    exact fun s' hs' =>
      sticks_seq_head (sticks_readers hs'.stop depth .operand (by decide) (by decide))

theorem ensures_operandReader (h : s.BeforeColon d n) (depth : Nat) :
    Ensures (Grammar.readers depth .operand) (.plain d n) s State.AtColon := by
  cases depth with
  | zero => exact sticks_fail.ensures
  | succ depth =>
    intro f
    refine ensures_first_cons ?_ (ensures_first_cons (sticks_signedOperand_of_word h depth).ensures
      (ensures_first_cons ?_ ?_)) f
    · refine (sticks_node (sticks_seq_head (sticks_check
        (startsWith_of_word h fun c hc => ?_)))).ensures
      rw [ne_of_isNamePart _ hc (by decide) (by decide), ne_of_isNamePart _ hc (by decide) (by decide)]
      rfl
    · refine ensures_seq (ensures_access h depth) fun s' hs' => ensures_seq_one ?_
      exact (goes_maybe_of_sticks (sticks_update_of_end hs'.stop.endsOperand _)).ensures fun f =>
        hs'.far f
    · cases hmarkup : d.hasMarkup
      · refine ensures_choose_of_false (fun _ => hmarkup) (sticks_node (sticks_seq_head
          (sticks_check (startsWith_of_word h fun c hc => ?_)))).ensures
        exact ne_of_isNamePart _ hc (by decide) (by decide)
      · exact ensures_choose_of_true (fun _ => hmarkup) sticks_fail.ensures

theorem ensures_binary (h : s.BeforeColon d n) (least depth : Nat) :
    Ensures (Grammar.readers depth (.binary least)) (.plain d n) s State.AtColon := by
  cases depth with
  | zero => exact sticks_fail.ensures
  | succ depth =>
    exact ensures_chain (ensures_operandReader h depth)
      (fun s' hs' size => sticks_operation_of_end hs'.stop.endsOperand least size)
      fun s' f hs' => hs'.far f

theorem ensures_yielding (h : s.BeforeColon d n) (depth : Nat) :
    Ensures (yielding (Grammar.readers depth)) (.plain d n) s State.AtColon := by
  refine ensures_node (ensures_seq (ensures_word h "yield") fun s' hs' => ensures_seq_one ?_)
  refine ensures_first_cons ?_ (ensures_first_cons ?_ ?_)
  · exact (sticks_seq_head (sticks_symbol_of_stop hs'.stop (by decide))).ensures
  · exact (sticks_seq_check (sticks_seq_head
      (sticks_readers hs'.stop depth .expression (by decide) (by decide)))).ensures
  · exact goes_done.ensures fun f => (hs'.far f).gathered

theorem ensures_expression (h : s.BeforeColon d n) (depth : Nat) :
    Ensures (Grammar.readers depth .expression) (.plain d n) s State.AtColon := by
  cases depth with
  | zero => exact sticks_fail.ensures
  | succ depth =>
    refine ensures_operand fun f => ensures_first_cons ?_ ?_ f
    · exact (ensures_yielding h depth).mono fun s' hs' => hs'.operand
    · refine ensures_seq (ensures_binary h 1 depth) fun s' hs' => ensures_seq_one ?_
      exact (goes_maybe_of_sticks (sticks_cases_of_end hs'.stop.endsOperand _)).ensures fun f =>
        (hs'.far f).operand

/-- **An expression at a word before a colon ends at the colon.** -/
theorem ensures_expressions (h : s.BeforeColon d n) (depth : Nat) :
    Ensures (Grammar.readers depth .expressions) (.plain d n) s State.AtColon := by
  cases depth with
  | zero => exact sticks_fail.ensures
  | succ depth =>
    refine ensures_operand (ensures_chain ?_ (fun s' hs' size => sticks_seq_head ?_) ?_)
    · exact (ensures_expression h depth).mono fun s' hs' => hs'.operand
    · have hsymbol : s'.symbol = [':'] := hs'.symbol
      exact sticks_symbol (by rw [hsymbol]; decide)
    · exact fun s' f hs' => hs'.far f

end Reader

end Source

end PullNotes
