import PullNotes.Proofs.Source.Words

/-!
# Statements at a word before a colon

Only a label stands before a colon at the start of a statement, and the words that start statements
are no labels.  So the reader of statements is stuck at such a word, and with it the reader of a
block whose first token it is.

* `Reader.sticks_wordStatements` : the statements that start with words of their own.
* `Reader.sticks_statement` : all statements, at a word that is no label.
* `Reader.sticks_block_of_word` : a block that would start with such a word.
-/

namespace PullNotes

namespace Source

theorem State.AtStop.far {s : State} (h : s.AtStop) (f : Option Stuck) : (s.far f).AtStop :=
  ⟨h.name, h.symbol, h.rest⟩

namespace Reader

variable {d : Dialect} {n : Nat} {s : State} {kind : String} {depth : Nat}

/-! ### What follows the word of a statement -/

theorem sticks_condition_of_stop (h : s.AtStop) {ps : List Reader} :
    Sticks (seq (condition (Grammar.readers depth) :: ps)) (.plain d n) s :=
  sticks_seq_head <|
  sticks_node (sticks_within (sticks_withArrows (sticks_seq_head
    (sticks_symbol_of_stop ((h.within true).withArrows true) (by decide)))))

theorem sticks_parenthesis_of_stop (h : s.AtStop) {ps qs : List Reader} :
    Sticks (seq (within true (seq (symbol "(" :: ps)) :: qs)) (.plain d n) s :=
  sticks_seq_head (sticks_within (sticks_seq_head
    (sticks_symbol_of_stop (h.within true) (by decide))))

theorem sticks_moduleItems_of_stop (h : s.AtStop) :
    Sticks (moduleItems (Grammar.readers depth)) (.plain d n) s :=
  sticks_within (sticks_seq_head
    (sticks_symbol_of_stop (h.within true) (by decide)))

/-! ### Declarations -/

theorem sticks_declarators (h : s.BeforeColon d n) :
    Sticks (declarators (Grammar.readers depth)) (.plain d n) s := by
  refine sticks_seq_of_ensures (Q := State.AtColon) ?_ fun s' hs' =>
    sticks_seq_head (sticks_seq_head (sticks_node (sticks_seq_head ?_)))
  · exact ensures_first_cons (ensures_words h _) (sticks_seq_word h fun s' hs' =>
      sticks_seq_head (sticks_word_of_stop hs'.stop (by decide))).ensures
  · exact sticks_readers hs'.stop depth .binding (by decide) (by decide)

theorem sticks_declaration (h : s.BeforeColon d n) :
    Sticks (declaration (Grammar.readers depth)) (.plain d n) s :=
  sticks_node (sticks_seq_head (sticks_declarators h))

theorem sticks_functionDeclaration (h : s.BeforeColon d n) :
    Sticks (functionDeclaration (Grammar.readers depth)) (.plain d n) s :=
  sticks_node (sticks_seq_of_ensures (ensures_functionHead h) fun s' hs' =>
    sticks_seq_maybe (sticks_symbol_of_stop hs'.stop (by decide))
      (sticks_seq_head (sticks_identifier_of_stop hs'.stop)))

theorem sticks_classDeclaration (h : s.BeforeColon d n) :
    Sticks (classDeclaration (Grammar.readers depth)) (.plain d n) s := by
  have habstract : Ensures (typed (word "abstract")) (.plain d n) s State.AtColon :=
    ensures_choose (ensures_word h "abstract") sticks_fail.ensures
  refine sticks_node (sticks_seq_many (sticks_decorator_of_word h depth)
    (sticks_seq_maybe_of_ensures habstract (fun s' hs' => ?_) ?_))
  · exact sticks_seq_head (sticks_word_of_stop hs'.stop (by decide))
  · exact sticks_seq_word h fun s' hs' => sticks_seq_head (sticks_identifier_of_stop hs'.stop)

theorem sticks_enumDeclaration (h : s.BeforeColon d n) :
    Sticks (enumDeclaration (Grammar.readers depth)) (.plain d n) s := by
  refine sticks_node (sticks_seq_maybe_of_ensures (ensures_word h "const") (fun s' hs' => ?_) ?_)
  · exact sticks_seq_head (sticks_word_of_stop hs'.stop (by decide))
  · exact sticks_seq_word h fun s' hs' => sticks_seq_head (sticks_identifier_of_stop hs'.stop)

theorem sticks_anyName_of_stop (h : s.AtStop) {ps : List Reader} :
    Sticks (seq (anyName kind :: ps)) (.plain d n) s :=
  sticks_seq_head (sticks_anyName h.name)

theorem sticks_typedDeclaration (h : s.BeforeColon d n) :
    Sticks (typedDeclaration (Grammar.readers depth)) (.plain d n) s := by
  have hmodule : Ensures (first [word "module", word "namespace"]) (.plain d n) s State.AtColon :=
    ensures_first_cons (ensures_word h _) (ensures_word h _)
  refine sticks_first_cons
    (sticks_node (sticks_seq_word h fun s' hs' => sticks_anyName_of_stop hs'.stop)) ?_
  refine sticks_first_cons
    (sticks_node (sticks_seq_word h fun s' hs' => sticks_anyName_of_stop hs'.stop)) ?_
  refine sticks_first_cons (sticks_enumDeclaration h) (sticks_first_cons ?_
    (sticks_first_cons ?_ (sticks_classDeclaration h)))
  · refine sticks_node (sticks_seq_of_ensures hmodule fun s' hs' => sticks_seq_head ?_)
    have hname : Sticks (dottedName "identifier") (.plain d n) s' :=
      sticks_chain (sticks_anyName hs'.name)
    exact sticks_first_cons (sticks_readers hs'.stop depth .string (by decide) (by decide)) hname
  · refine sticks_node (sticks_seq_word h fun s' hs' => sticks_seq_check (sticks_seq_head ?_))
    exact sticks_first_cons (sticks_seq_head (sticks_word_of_stop hs'.stop (by decide)))
      (sticks_readers hs'.stop depth .statement (by decide) (by decide))

/-! ### Statements -/

/-- A statement that begins with a word of its own. -/
theorem sticks_node_word (h : s.BeforeColon d n) {text : String} {ps : List Reader}
    (hps : ∀ s', s'.AtColon → Sticks (seq ps) (.plain d n) s') :
    Sticks (node kind (seq (word text :: ps))) (.plain d n) s :=
  sticks_node (sticks_seq_word h hps)

theorem sticks_jump (h : s.BeforeColon d n) {text : String} {target : Reader}
    (htarget : ∀ s', s'.AtColon → Sticks target (.plain d n) s') :
    Sticks (jump kind text target) (.plain d n) s :=
  sticks_node_word h fun s' hs' => sticks_seq_head (sticks_choose_of_false
    (semicolonImplied_colon hs' _)
    (sticks_seq_maybe (htarget s' hs') (sticks_seq_head (sticks_semicolon hs'))))

theorem sticks_loop (h : s.BeforeColon d n) :
    Sticks (first [forEach (Grammar.readers depth), forLoop (Grammar.readers depth)])
      (.plain d n) s := by
  refine sticks_first_cons ?_ ?_
  · exact sticks_node_word h fun s' hs' => sticks_seq_maybe
      (sticks_word_of_stop hs'.stop (by decide)) (sticks_parenthesis_of_stop hs'.stop)
  · exact sticks_node_word h fun s' hs' => sticks_parenthesis_of_stop hs'.stop

theorem sticks_importStatement (h : s.BeforeColon d n) :
    Sticks (importStatement (Grammar.readers depth)) (.plain d n) s := by
  refine sticks_node_word h fun s' hs' => sticks_seq_head (sticks_first_cons ?_
    (sticks_first_cons (sticks_seq_maybe ?_ (sticks_seq_head ?_)) ?_))
  · refine sticks_seq_of_ensures (Q := State.AtStop) ?_ fun s' hs' =>
      sticks_seq_head (sticks_identifier_of_stop hs')
    exact ensures_choose (ensures_maybe (sticks_word_of_stop hs'.stop (by decide)).ensures
      hs'.stop.far) sticks_fail.ensures
  · exact sticks_typed (sticks_seq_head (sticks_first_cons
      (sticks_word_of_stop hs'.stop (by decide)) (sticks_word_of_stop hs'.stop (by decide))))
  · refine sticks_first_cons ?_ (sticks_first_cons (sticks_moduleItems_of_stop hs'.stop) ?_)
    · exact sticks_seq_head (sticks_symbol_of_stop hs'.stop (by decide))
    · exact sticks_seq_head (sticks_identifier_of_stop hs'.stop)
  · exact sticks_seq_head (sticks_readers hs'.stop depth .string (by decide) (by decide))

theorem sticks_exportStatement (h : s.BeforeColon d n) :
    Sticks (exportStatement (Grammar.readers depth)) (.plain d n) s := by
  refine sticks_node (sticks_seq_many (sticks_decorator_of_word h depth)
    (sticks_seq_word h fun s' hs' => sticks_seq_head ?_))
  have hsymbol : ∀ {text : String} {ps : List Reader}, text.toList ∉ stopSymbols →
      Sticks (seq (symbol text :: ps)) (.plain d n) s' :=
    fun htext => sticks_seq_head (sticks_symbol_of_stop hs'.stop htext)
  have hword : ∀ {text : String} {ps : List Reader}, text.toList ≠ [] →
      Sticks (seq (word text :: ps)) (.plain d n) s' :=
    fun htext => sticks_seq_head (sticks_word_of_stop hs'.stop htext)
  refine sticks_first_cons (hsymbol (by decide)) ?_
  refine sticks_first_cons (sticks_seq_maybe (sticks_typed (sticks_word_of_stop hs'.stop (by decide)))
    (sticks_seq_head (sticks_moduleItems_of_stop hs'.stop))) ?_
  refine sticks_first_cons (hword (by decide)) ?_
  refine sticks_first_cons (sticks_typed (hsymbol (by decide))) ?_
  refine sticks_first_cons (sticks_typed (hword (by decide))) ?_
  exact sticks_seq_check (sticks_seq_head
    (sticks_readers hs'.stop depth .statement (by decide) (by decide)))

/-- No statement that starts with a word of its own goes on with a colon. -/
theorem sticks_wordStatements (h : s.BeforeColon d n) :
    ∀ e ∈ wordStatements (Grammar.readers depth), Sticks e.2 (.plain d n) s := by
  have hrules : ∀ s', s'.AtColon → ∀ r, r ≠ .type → r ≠ .ascription → ∀ {ps : List Reader},
      Sticks (seq (Grammar.readers depth r :: ps)) (.plain d n) s' :=
    fun s' hs' r htype hascription =>
      sticks_seq_head (sticks_readers hs'.stop depth r htype hascription)
  have hcondition : ∀ {kind text : String} {ps : List Reader},
      Sticks (node kind (seq (word text :: condition (Grammar.readers depth) :: ps))) (.plain d n) s :=
    sticks_node_word h fun s' hs' => sticks_condition_of_stop hs'.stop
  have hlabel : ∀ {kind text : String}, Sticks (jump kind text identifier) (.plain d n) s :=
    sticks_jump h fun s' hs' => sticks_identifier_of_stop hs'.stop
  simp only [wordStatements, List.forall_mem_cons, List.not_mem_nil, false_implies, implies_true,
    and_true]
  refine ⟨sticks_importStatement h, sticks_exportStatement h, sticks_jump h fun _ _ => sticks_fail,
    hcondition, hcondition, sticks_loop h, hcondition, ?doing, ?trying, hcondition, hlabel, hlabel,
    ?returning, ?throwing, sticks_functionDeclaration h, sticks_functionDeclaration h,
    sticks_classDeclaration h, ?const, sticks_declaration h, sticks_declaration h,
    sticks_declaration h, sticks_declaration h⟩
  case doing =>
    exact sticks_node_word h fun s' hs' => hrules s' hs' .statement (by decide) (by decide)
  case trying =>
    exact sticks_node_word h fun s' hs' => hrules s' hs' .block (by decide) (by decide)
  case returning =>
    exact sticks_jump h fun s' hs' =>
      sticks_readers hs'.stop depth .expressions (by decide) (by decide)
  case throwing =>
    exact sticks_node_word h fun s' hs' => hrules s' hs' .expressions (by decide) (by decide)
  case const =>
    exact sticks_first_cons (sticks_typed (sticks_enumDeclaration h)) (sticks_declaration h)

theorem sticks_expressionStatement (h : s.BeforeColon d n) :
    Sticks (expressionStatement (Grammar.readers depth)) (.plain d n) s :=
  sticks_node (sticks_seq_check (sticks_seq_of_ensures (ensures_expressions h depth) fun _ hs' =>
    sticks_seq_head (sticks_semicolon hs')))

theorem sticks_labeled {w : String} (hname : s.name = w.toList) (hw : w ∈ startingWordsOf d) :
    Sticks (labeled (Grammar.readers depth)) (.plain d n) s := by
  refine sticks_node (sticks_seq_head (sticks_check fun f => ?_))
  rw [State.far_name, hname, Bool.not_eq_false']
  exact List.any_eq_true.2 ⟨w, hw, beq_self_eq_true _⟩

/-- A comment of a page does not start with a name. -/
theorem sticks_pageComment_of_name {ctx : Context}
    (h : ∀ c, s.cursor.rest.head? = some c → Lexeme.isNamePart c = true ∨ c = '\\') :
    Sticks pageComment ctx s := by
  refine sticks_pageComment_of_head fun c hc => ?_
  have hless := ne_of_isNamePart '<' (h c hc) (by decide) (by decide)
  have hminus := ne_of_isNamePart '-' (h c hc) (by decide) (by decide)
  exact ⟨beq_eq_false_iff_ne.1 hless, beq_eq_false_iff_ne.1 hminus⟩

/-- **No statement starts with a starting word before a colon**, which is no label. -/
theorem sticks_statement {w : String} (h : s.BeforeColon d n) (hname : s.name = w.toList)
    (hw : w ∈ startingWordsOf d) (depth : Nat) :
    Sticks (Grammar.readers depth .statement) (.plain d n) s := by
  cases depth with
  | zero => exact sticks_fail
  | succ depth =>
    refine sticks_seq_many (sticks_pageComment_of_name h.rest) (sticks_seq_head
      (sticks_choose_of_true (fun f => ?_) fun f => sticks_first (fun p hp => ?_) f))
    · rw [State.far_name, Bool.not_eq_true', List.isEmpty_eq_false_iff]
      exact h.name
    -- first the statements with words of their own, then those any word may start
    · rcases List.mem_append.1 hp with hp | hp
      · obtain ⟨⟨text, q⟩, he, hsome⟩ := List.mem_filterMap.1 hp
        obtain ⟨-, heq⟩ := Option.ite_none_right_eq_some.1 hsome
        obtain rfl : q = p := Option.some.inj heq
        exact sticks_wordStatements h (text, q) he
      · simp only [List.mem_cons, List.not_mem_nil, or_false] at hp
        rcases hp with rfl | rfl | rfl
        · exact sticks_typed (sticks_typedDeclaration h)
        · exact sticks_labeled hname hw
        · exact sticks_expressionStatement h

end Reader

end Source

end PullNotes
