import PullNotes.Proofs.Source.Landing
import PullNotes.Proofs.Source.Lexing

/-!
# Tokens at which nothing starts

At a colon, a comma, a closing brace or parenthesis, and at the end of a source, no rule starts: the
readers of all rules are stuck there, whatever their depth.  Only a type annotation starts at a
colon.

* `State.AtStop` : the next token is one of these.
* `State.EndsOperand` : the next token ends an operand.
* `Reader.sticks_readers` : no rule starts there.
-/

namespace PullNotes

namespace Source

/-- The marks at which nothing starts. -/
def stopMarks : List Char := [':', ',', '\x7d', ')']

/-- What stands as the next symbol at a stop: none, or one of those marks. -/
def stopSymbols : List (List Char) := [] :: stopMarks.map fun c => [c]

/-- The next token is one of some marks, or there is none. -/
structure State.AtMarks (marks : List Char) (s : State) : Prop where
  name : s.name = []
  symbol : s.symbol = [] ∨ ∃ c ∈ marks, s.symbol = [c]
  rest : ∀ c, s.cursor.rest.head? = some c → c ∈ marks

/-- The next token is a mark at which nothing starts, or there is none. -/
structure State.AtStop (s : State) : Prop where
  name : s.name = []
  symbol : s.symbol = [] ∨ ∃ c ∈ stopMarks, s.symbol = [c]
  rest : ∀ c, s.cursor.rest.head? = some c → c ∈ stopMarks

theorem State.AtStop.atMarks {s : State} (h : s.AtStop) : s.AtMarks stopMarks :=
  ⟨h.name, h.symbol, h.rest⟩

theorem State.AtStop.within {s : State} (h : s.AtStop) (enclosed : Bool) :
    { s with enclosed := enclosed }.AtStop := ⟨h.name, h.symbol, h.rest⟩

theorem State.AtStop.withArrows {s : State} (h : s.AtStop) (arrows : Bool) :
    { s with typedArrows := arrows }.AtStop := ⟨h.name, h.symbol, h.rest⟩

/-- The marks that end an operand: those at which nothing starts, and the end of a statement. -/
def operandEnds : List Char := ';' :: stopMarks

/-- The next token is a mark that ends an operand, or there is none. -/
abbrev State.EndsOperand (s : State) : Prop := s.AtMarks operandEnds

namespace State.AtMarks

variable {marks : List Char} {s : State}

theorem mono (h : s.AtMarks marks) {others : List Char} (hmarks : ∀ c ∈ marks, c ∈ others) :
    s.AtMarks others :=
  ⟨h.name, h.symbol.imp_right fun ⟨c, hc, hsymbol⟩ => ⟨c, hmarks c hc, hsymbol⟩,
    fun c hc => hmarks c (h.rest c hc)⟩

theorem within (h : s.AtMarks marks) (enclosed : Bool) :
    { s with enclosed := enclosed }.AtMarks marks := ⟨h.name, h.symbol, h.rest⟩

theorem symbol_mem (h : s.AtMarks marks) : s.symbol ∈ [] :: marks.map fun c => [c] := by
  rcases h.symbol with hnil | ⟨c, hc, hsymbol⟩
  · rw [hnil]
    exact List.mem_cons_self
  · rw [hsymbol]
    exact List.mem_cons_of_mem _ (List.mem_map_of_mem hc)

theorem atStop (h : s.AtMarks marks) (hmarks : ∀ c ∈ marks, c ∈ stopMarks) : s.AtStop :=
  have hstop := h.mono hmarks
  ⟨hstop.name, hstop.symbol, hstop.rest⟩

end State.AtMarks

theorem State.AtStop.endsOperand {s : State} (h : s.AtStop) : s.EndsOperand :=
  h.atMarks.mono fun _ hc => List.mem_cons_of_mem _ hc

namespace Reader

variable {d : Dialect} {n : Nat} {s : State} {rules : Rules} {ps : List Reader} {kind : String}
  {marks : List Char}

/-! ### Tokens -/

theorem sticks_word_of_marks (h : s.AtMarks marks) {ctx : Context} {text : String}
    (htext : text.toList ≠ []) : Sticks (word text) ctx s :=
  sticks_word (by rw [h.name]; exact htext.symm)

theorem sticks_words_of_marks (h : s.AtMarks marks) {ctx : Context} {texts : List String}
    (htexts : ∀ text ∈ texts, text.toList ≠ []) : Sticks (first (texts.map word)) ctx s := by
  refine sticks_first fun p hp => ?_
  obtain ⟨text, htext, rfl⟩ := List.mem_map.1 hp
  exact sticks_word_of_marks h (htexts text htext)

theorem sticks_symbol_of_marks (h : s.AtMarks marks) {text : String}
    (htext : text.toList ∉ [] :: marks.map fun c => [c]) : Sticks (symbol text) (.plain d n) s :=
  sticks_symbol fun heq => htext (heq ▸ h.symbol_mem)

theorem sticks_symbols_of_marks (h : s.AtMarks marks) {texts : List String}
    (htexts : ∀ text ∈ texts, text.toList ∉ [] :: marks.map fun c => [c]) :
    Sticks (first (texts.map symbol)) (.plain d n) s := by
  refine sticks_first fun p hp => ?_
  obtain ⟨text, htext, rfl⟩ := List.mem_map.1 hp
  exact sticks_symbol_of_marks h (htexts text htext)

theorem startsWith_of_marks (h : s.AtMarks marks) {ctx : Context} {condition : Char → Bool}
    (hcondition : marks.any condition = false) (f : Option Stuck) :
    startsWith condition ctx (s.far f) = false := by
  rw [startsWith, State.far_cursor]
  cases hrest : s.cursor.rest with
  | nil => rfl
  | cons c u =>
    have hc : c ∈ marks := h.rest c (by rw [hrest]; rfl)
    exact Bool.eq_false_iff.2 (List.any_eq_false.1 hcondition c hc)

theorem atSymbol_of_marks (h : s.AtMarks marks) {ctx : Context} {text : String}
    (htext : text.toList ∉ [] :: marks.map fun c => [c]) (f : Option Stuck) :
    atSymbol text ctx (s.far f) = false := by
  rw [atSymbol, State.far_symbol, beq_eq_false_iff_ne]
  exact fun heq => htext (heq ▸ h.symbol_mem)

theorem sticks_word_of_stop (h : s.AtStop) {ctx : Context} {text : String} (htext : text.toList ≠ []) :
    Sticks (word text) ctx s := sticks_word_of_marks h.atMarks htext

theorem sticks_words_of_stop (h : s.AtStop) {ctx : Context} {texts : List String}
    (htexts : ∀ text ∈ texts, text.toList ≠ []) : Sticks (first (texts.map word)) ctx s :=
  sticks_words_of_marks h.atMarks htexts

theorem sticks_symbol_of_stop (h : s.AtStop) {text : String} (htext : text.toList ∉ stopSymbols) :
    Sticks (symbol text) (.plain d n) s := sticks_symbol_of_marks h.atMarks htext

theorem sticks_symbols_of_stop (h : s.AtStop) {texts : List String}
    (htexts : ∀ text ∈ texts, text.toList ∉ stopSymbols) :
    Sticks (first (texts.map symbol)) (.plain d n) s := sticks_symbols_of_marks h.atMarks htexts

theorem sticks_opening_of_stop (h : s.AtStop) {ctx : Context} {c : Char} (hc : c ∉ stopMarks) :
    Sticks (opening c) ctx s :=
  sticks_opening fun heq => hc (h.rest c heq)

/-- A token of which no stop is the start. -/
theorem sticks_token_of_stop (h : s.AtStop) {ctx : Context} {length : List Char → Nat}
    (hnil : length [] = 0) (hlength : ∀ c ∈ stopMarks, ∀ u, length (c :: u) = 0) :
    Sticks (token kind length) ctx s := by
  refine sticks_token ?_
  cases hrest : s.cursor.rest with
  | nil => exact hnil
  | cons c u => exact hlength c (h.rest c (by rw [hrest]; rfl)) u

theorem startsWith_of_stop (h : s.AtStop) {ctx : Context} {condition : Char → Bool}
    (hcondition : stopMarks.any condition = false) (f : Option Stuck) :
    startsWith condition ctx (s.far f) = false := startsWith_of_marks h.atMarks hcondition f

theorem atSymbol_of_stop (h : s.AtStop) {ctx : Context} {text : String}
    (htext : text.toList ∉ stopSymbols) (f : Option Stuck) : atSymbol text ctx (s.far f) = false :=
  atSymbol_of_marks h.atMarks htext f

theorem sticks_number_of_stop (h : s.AtStop) {ctx : Context} : Sticks number ctx s := by
  refine sticks_token_of_stop h rfl fun c hc u => ?_
  simp only [stopMarks, List.mem_cons, List.not_mem_nil, or_false] at hc
  rcases hc with rfl | rfl | rfl | rfl <;> rfl

theorem sticks_privateName_of_stop (h : s.AtStop) {ctx : Context} : Sticks privateName ctx s := by
  refine sticks_token_of_stop h rfl fun c hc u => ?_
  simp only [stopMarks, List.mem_cons, List.not_mem_nil, or_false] at hc
  rcases hc with rfl | rfl | rfl | rfl <;> rfl

/-- A comment of a page starts with one of two characters. -/
theorem sticks_pageComment_of_head {ctx : Context}
    (h : ∀ c, s.cursor.rest.head? = some c → c ≠ '<' ∧ c ≠ '-') : Sticks pageComment ctx s := by
  refine sticks_token ?_
  cases hrest : s.cursor.rest with
  | nil => rfl
  | cons c u =>
    obtain ⟨hless, hminus⟩ := h c (by rw [hrest]; rfl)
    simp [Lexeme.pageComment, hless.symm, hminus.symm]

theorem sticks_pageComment_of_stop (h : s.AtStop) {ctx : Context} : Sticks pageComment ctx s := by
  have hmarks : ∀ c ∈ stopMarks, c ≠ '<' ∧ c ≠ '-' := Lexeme.forall_mem_of_all (by decide)
  exact sticks_pageComment_of_head fun c hc => hmarks c (h.rest c hc)

theorem sticks_identifier_of_stop (h : s.AtStop) {ctx : Context} : Sticks identifier ctx s :=
  sticks_identifier (Or.inl h.name)

/-! ### What follows an operand -/

theorem sticks_arguments_of_end (h : s.EndsOperand) : Sticks (arguments rules) (.plain d n) s :=
  sticks_node (sticks_within (sticks_seq_head
    (sticks_symbol_of_marks (h.within true) (by decide))))

theorem sticks_member_of_end (h : s.EndsOperand) (size : Nat) :
    Sticks (member rules size) (.plain d n) s := by
  refine sticks_first_cons ?_ ?_
  · exact sticks_seq_head (sticks_symbol_of_marks h (by decide))
  · exact sticks_seq_head (sticks_within (sticks_seq_head
      (sticks_symbol_of_marks (h.within true) (by decide))))

theorem sticks_suffix_of_end (h : s.EndsOperand) (size : Nat) :
    Sticks (suffix rules size) (.plain d n) s := by
  refine sticks_first_cons (sticks_member_of_end h size) ?_
  refine sticks_first_cons (sticks_seq_head (sticks_arguments_of_end h)) ?_
  refine sticks_first_cons (sticks_seq_head (sticks_symbol_of_marks h (by decide))) ?_
  refine sticks_first_cons ?_ (sticks_first_cons ?_ (sticks_first_cons ?_ ?_))
  · exact sticks_seq_head (sticks_check (startsWith_of_marks h (by decide)))
  · exact sticks_seq_head (sticks_check fun f => (atSymbol_of_marks h (by decide) f))
  · exact sticks_seq_head (sticks_check (startsWith_of_marks h (by decide)))
  · exact sticks_seq_head (sticks_check (startsWith_of_marks h (by decide)))

theorem sticks_assignment_of_end (h : s.EndsOperand) (size : Nat) :
    Sticks (assignment rules size) (.plain d n) s :=
  sticks_seq_check (sticks_seq_head (sticks_symbols_of_marks h (by decide)))

theorem sticks_update_of_end (h : s.EndsOperand) (size : Nat) : Sticks (first [
      seq [check sameLine, first (Operator.steps.map symbol),
        gather "update_expression" size noFields],
      assignment rules size]) (.plain d n) s := by
  refine sticks_first_cons ?_ ?_
  · exact sticks_seq_check (sticks_seq_head (sticks_symbols_of_marks h (by decide)))
  · exact sticks_assignment_of_end h size

theorem sticks_operation_of_end (h : s.EndsOperand) (least size : Nat) :
    Sticks (operation rules least size) (.plain d n) s := by
  intro f
  have hnone : Operator.at? (s.far f) = none := by
    rw [Operator.at?, State.far_name, State.far_symbol, h.name]
    rcases h.symbol with hnil | ⟨c, hc, hsymbol⟩
    · rw [hnil]
      rfl
    · rw [hsymbol]
      simp only [operandEnds, stopMarks, List.mem_cons, List.not_mem_nil, or_false] at hc
      -- none of the marks starts an operator
      rcases hc with rfl | rfl | rfl | rfl | rfl <;> rfl
  rw [operation, hnone]
  dsimp only
  split
  · exact ⟨_, rfl⟩
  · exact sticks_typed (sticks_seq_check (sticks_seq_head
      (sticks_words_of_marks h (by decide)))) f

theorem sticks_cases_of_end (h : s.EndsOperand) (size : Nat) :
    Sticks (cases rules size) (.plain d n) s := by
  refine sticks_first_cons ?_ ?_
  · exact sticks_seq_head (sticks_symbol_of_marks h (by decide))
  · exact sticks_seq_head (sticks_symbol_of_marks h (by decide))

/-! ### Rules -/

/-- Readers of all rules of which none but those of types starts at a token. -/
def NoneStarts (rules : Rules) (ctx : Context) (s : State) : Prop :=
  ∀ r, r ≠ .type → r ≠ .ascription → Sticks (rules r) ctx s

theorem sticks_stringLiteral_of_stop (h : s.AtStop) {ctx : Context} :
    Sticks stringLiteral ctx s := by
  refine sticks_first_cons ?_ ?_
  · exact sticks_node (sticks_seq_head (sticks_opening_of_stop h (by decide)))
  · exact sticks_node (sticks_seq_head (sticks_opening_of_stop h (by decide)))

theorem sticks_spread_of_stop (h : s.AtStop) {p : Reader} :
    Sticks (node kind (seq [symbol "...", p])) (.plain d n) s :=
  sticks_node (sticks_seq_head (sticks_symbol_of_stop h (by decide)))

theorem sticks_objectPattern_of_stop (h : s.AtStop) (target : Reader) :
    Sticks (objectPattern rules target) (.plain d n) s :=
  sticks_node (sticks_within (sticks_seq_head
    (sticks_symbol_of_stop (h.within true) (by decide))))

theorem sticks_arrayPattern_of_stop (h : s.AtStop) (target : Reader) :
    Sticks (arrayPattern rules target) (.plain d n) s :=
  sticks_node (sticks_within (sticks_seq_head
    (sticks_symbol_of_stop (h.within true) (by decide))))

theorem sticks_pattern_of_stop (h : s.AtStop) (hrules : NoneStarts rules (.plain d n) s) :
    Sticks (pattern rules) (.plain d n) s := by
  refine sticks_first_cons (sticks_seq_head ?_) (sticks_first_cons (sticks_spread_of_stop h) ?_)
  · exact sticks_first_cons (sticks_objectPattern_of_stop h _) (sticks_arrayPattern_of_stop h _)
  · exact sticks_seq_head (hrules .access (by decide) (by decide))

theorem sticks_binding_of_stop (h : s.AtStop) : Sticks (binding rules) (.plain d n) s := by
  refine sticks_first_cons (sticks_objectPattern_of_stop h _) ?_
  refine sticks_first_cons (sticks_arrayPattern_of_stop h _) ?_
  exact sticks_first_cons (sticks_identifier_of_stop h) (sticks_spread_of_stop h)

theorem sticks_parameters_of_stop (h : s.AtStop) : Sticks (parameters rules) (.plain d n) s :=
  sticks_node (sticks_within (sticks_withArrows (sticks_seq_head
    (sticks_symbol_of_stop ((h.within true).withArrows true) (by decide)))))

theorem sticks_signature_of_stop (hrules : NoneStarts rules (.plain d n) s) :
    Sticks (signature rules) (.plain d n) s :=
  sticks_seq_maybe (sticks_typed (hrules .typeParameters (by decide) (by decide)))
    (sticks_seq_head (hrules .parameters (by decide) (by decide)))

theorem sticks_typeParameters_of_stop (h : s.AtStop) :
    Sticks (typeParameters rules) (.plain d n) s :=
  sticks_node (sticks_within (sticks_seq_head
    (sticks_opening_of_stop (h.within true) (by decide))))

theorem sticks_block_of_stop (h : s.AtStop) : Sticks (block rules) (.plain d n) s :=
  sticks_node (sticks_within (sticks_seq_head
    (sticks_symbol_of_stop (h.within false) (by decide))))

theorem sticks_decorator_of_stop (h : s.AtStop) : Sticks (decorator rules) (.plain d n) s :=
  sticks_node (sticks_seq_head (sticks_symbol_of_stop h (by decide)))

theorem sticks_classBody_of_stop (h : s.AtStop) (hrules : NoneStarts rules (.plain d n) s) :
    Sticks (classBody rules) (.plain d n) s := by
  refine sticks_seq_maybe (sticks_typed (hrules .typeParameters (by decide) (by decide)))
    (sticks_seq (show Goes _ _ s s from ?_) (sticks_seq_head ?_))
  · refine goes_seq (goes_maybe_of_sticks ?_) (goes_seq_one (goes_maybe_of_sticks ?_))
    · exact sticks_node (sticks_seq_head (sticks_word_of_stop h (by decide)))
    · exact sticks_typed (sticks_node (sticks_seq_head (sticks_word_of_stop h (by decide))))
  · exact sticks_node (sticks_within (sticks_seq_head
      (sticks_symbol_of_stop (h.within false) (by decide))))

theorem sticks_element_of_stop (h : s.AtStop) : Sticks (element rules) (.plain d n) s := by
  have hopening : Sticks (opening '<') (.plain d n) { s with enclosed := true } :=
    sticks_opening_of_stop (h.within true) (by decide)
  refine sticks_within (sticks_first_cons ?_ ?_)
  · exact sticks_node (sticks_seq_head (sticks_node (sticks_seq_head hopening)))
  · exact sticks_node (sticks_seq_head hopening)

/-! ### Expressions -/

theorem sticks_classExpression_of_stop (h : s.AtStop) (hrules : NoneStarts rules (.plain d n) s) :
    Sticks (classExpression rules) (.plain d n) s :=
  sticks_node (sticks_seq_many (hrules .decorator (by decide) (by decide))
    (sticks_seq_head (sticks_word_of_stop h (by decide))))

theorem sticks_primary_of_stop (h : s.AtStop) (hrules : NoneStarts rules (.plain d n) s) :
    Sticks (primary rules) (.plain d n) s := by
  have hstarts : ∀ condition : Char → Bool, stopMarks.any condition = false →
      ∀ f, startsWith condition (.plain d n) (s.far f) = false :=
    fun condition hcondition => startsWith_of_stop h hcondition
  refine sticks_choose_of_false (fun f => ?_) ?_
  · rw [State.far_name, h.name]
    rfl
  -- the form is chosen by the first character, and no mark is one of those
  refine sticks_choose_of_false (hstarts _ (by decide)) ?_
  refine sticks_choose_of_false (hstarts _ (by decide)) ?_
  refine sticks_choose_of_false (hstarts _ (by decide)) ?_
  refine sticks_choose_of_false (hstarts _ (by decide)) ?_
  refine sticks_choose_of_false (hstarts _ (by decide)) ?_
  refine sticks_choose_of_false (hstarts _ (by decide)) ?_
  refine sticks_choose_of_false (hstarts _ (by decide)) ?_
  refine sticks_first_cons (sticks_number_of_stop h) ?_
  refine sticks_first_cons (sticks_seq_head (sticks_privateName_of_stop h)) ?_
  exact sticks_first_cons (sticks_classExpression_of_stop h hrules) sticks_supply

theorem sticks_signedOperand_of_stop (h : s.AtStop) :
    Sticks (signedOperand rules) (.plain d n) s := by
  refine sticks_first_cons ?_ ?_
  · exact sticks_node (sticks_seq_head (sticks_symbols_of_stop h (by decide)))
  · exact sticks_node (sticks_seq_head (sticks_first_cons (sticks_symbols_of_stop h (by decide))
      (sticks_words_of_stop h (by decide))))

theorem sticks_operand_of_stop (h : s.AtStop) (hrules : NoneStarts rules (.plain d n) s) :
    Sticks (operandReader rules) (.plain d n) s := by
  intro f
  refine sticks_first_cons ?_ (sticks_first_cons (sticks_signedOperand_of_stop h)
    (sticks_first_cons (sticks_seq_head (hrules .access (by decide) (by decide))) ?_)) f
  · exact sticks_node (sticks_seq_head (sticks_check (startsWith_of_stop h (by decide))))
  · cases hmarkup : d.hasMarkup
    · exact sticks_choose_of_false (fun _ => hmarkup) (sticks_node (sticks_seq_head
        (sticks_check (startsWith_of_stop h (by decide)))))
    · exact sticks_choose_of_true (fun _ => hmarkup) sticks_fail

theorem sticks_expression_of_stop (h : s.AtStop) (hrules : NoneStarts rules (.plain d n) s) :
    Sticks (expression rules) (.plain d n) s := by
  refine sticks_operand fun f => sticks_first_cons ?_ ?_ f
  · exact sticks_node (sticks_seq_head (sticks_word_of_stop h (by decide)))
  · exact sticks_seq_head (hrules (.binary 1) (by decide) (by decide))

theorem sticks_statement_of_stop (h : s.AtStop) (hrules : NoneStarts rules (.plain d n) s) :
    Sticks (statement rules) (.plain d n) s := by
  have hsymbol : ∀ text : String, text.toList ∉ stopSymbols →
      ∀ f, atSymbol text (.plain d n) (s.far f) = false :=
    fun text htext => atSymbol_of_stop h htext
  refine sticks_seq_many (sticks_pageComment_of_stop h) (sticks_seq_head ?_)
  refine sticks_choose_of_false (fun f => ?_) ?_
  · rw [State.far_name, h.name]
    rfl
  refine sticks_choose_of_false (hsymbol _ (by decide)) ?_
  refine sticks_choose_of_false (hsymbol _ (by decide)) ?_
  refine sticks_choose_of_false (hsymbol _ (by decide)) ?_
  exact sticks_node (sticks_seq_check
    (sticks_seq_head (hrules .expressions (by decide) (by decide))))

/-- What one rule reads, given the readers of all rules. -/
theorem noneStarts_rule (h : s.AtStop) (hrules : NoneStarts rules (.plain d n) s) :
    NoneStarts (Grammar.rule rules) (.plain d n) s := by
  intro r htype hascription
  cases r with
  | expression => exact sticks_expression_of_stop h hrules
  | expressions =>
    exact sticks_operand (sticks_chain (hrules .expression (by decide) (by decide)))
  | binary least => exact sticks_chain (hrules .operand (by decide) (by decide))
  | operand => exact sticks_operand_of_stop h hrules
  | primary => exact sticks_primary_of_stop h hrules
  | access => exact sticks_chain (hrules .primary (by decide) (by decide))
  | string => exact sticks_stringLiteral_of_stop h
  | object =>
    exact sticks_node (sticks_within (sticks_seq_head
      (sticks_symbol_of_stop (h.within true) (by decide))))
  | pattern => exact sticks_pattern_of_stop h hrules
  | binding => exact sticks_binding_of_stop h
  | parameters => exact sticks_parameters_of_stop h
  | signature => exact sticks_signature_of_stop hrules
  | block => exact sticks_block_of_stop h
  | statement => exact sticks_statement_of_stop h hrules
  | classBody => exact sticks_classBody_of_stop h hrules
  | decorator => exact sticks_decorator_of_stop h
  | element => exact sticks_element_of_stop h
  | type => exact absurd rfl htype
  | typeArguments =>
    exact sticks_node (sticks_within (sticks_seq_head
      (sticks_opening_of_stop (h.within true) (by decide))))
  | typeParameters => exact sticks_typeParameters_of_stop h
  | ascription => exact absurd rfl hascription

/-- **No rule starts at a stop**, whatever the depth. -/
theorem sticks_readers (h : s.AtStop) (depth : Nat) :
    NoneStarts (Grammar.readers depth) (.plain d n) s := by
  induction depth with
  | zero => exact fun _ _ _ => sticks_fail
  | succ depth ih => exact noneStarts_rule h ih

end Reader

end Source

end PullNotes
