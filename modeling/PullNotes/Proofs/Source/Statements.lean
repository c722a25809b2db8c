import PullNotes.Proofs.Source.Labels
import PullNotes.Proofs.Source.Operands

/-!
# Statements

The statements that the functions of a script are mostly made of: an operand that stands alone, one
that is returned, and a name that is declared with one as its value.  Each of them ends with a
written semicolon, so nothing after it is looked at, and any of them may follow another in the body
of a function.

* `Reader.reads_semicolon` : no semicolon is implied before a written one.
* `Reader.reads_named`, `NameText.reads_statement` : statements that start with a name.
* `ChainText.toStatement`, `StringText.toStatement`, `OperandText.toReturn`,
  `DeclarationText.toStatement` : statements.
-/

namespace PullNotes

namespace Source

open State (after)
open Grammar (readers)
open Reader

variable {d : Dialect} {n : Nat} {enclosed before operand : Bool} {ws cs more u : List Char}
  {F : List Char → Prop} {depth : Nat} {s s' : State} {ctx : Context} {rules : Rules}

/-! ### The end of a statement -/

/-- The characters of a statement that a semicolon ends. -/
def endedText (text : List Char) (back : Blanks) : List Char := text ++ (back.1 ++ [';'])

namespace Reader

/-- A written semicolon ends a statement, since none is implied before it. -/
theorem reads_semicolon : Reads d semicolon enclosed false (fun _ => True) [';']
    (leafShape ";" false [';']) :=
  (reads_mark ";" (by decide) (by decide)).of_goes fun _ _ _ _ _ _ hws hrest _ _ _ =>
    goes_choose_of_false (semicolonImplied_of_held (.of_mark hws (by decide)) hrest _)

/-- **What a semicolon ends** is read with it. -/
theorem readsAll_ended {p : Reader} {text : List Char} {shape : Node} {shapes : List Node}
    (back : Blanks)
    (hp : ReadsAll d p enclosed before operand (Before [';']) text (shape :: shapes)) :
    ReadsAll d (seq [p, semicolon]) enclosed before false (fun _ => True) (endedText text back)
      (shape :: (shapes ++ [leafShape ";" false [';']])) :=
  hp.seq (reads_semicolon.on back.2) fun u _ => by
    rw [List.append_assoc]
    exact Before.cons back.2 (by decide) u

theorem reads_expressions (e : OperandText d)
    (hdepth : Grammar.depthPerCharacter * byteLength e.text ≤ depth) :
    Reads d (readers (depth + 1) .expressions) enclosed true (Before [';']) e.text e.shape := by
  intro n place parts before ws u hws hrest hplace hu
  obtain ⟨node, hnode, hgoes⟩ := e.reads enclosed depth hdepth n place parts before ws u hws hrest
    hplace (hu.mono (Lexeme.forall_mem_of_all (by decide)))
  exact ⟨node, hnode, goes_expressions hgoes (hu.symbol_ne (Lexeme.forall_mem_of_all (by decide))
    (by decide) (Cursor.rest_past_text hrest) (hplace.past_text hrest) _)⟩

/-- The shape of an operand that stands alone. -/
def aloneShape (e : OperandText d) (back : Blanks) : Node :=
  shapeOver "expression_statement" noFields (endedText e.text back)
    [e.shape, leafShape ";" false [';']]

/-- An operand that stands alone. -/
theorem reads_alone (e : OperandText d) (back : Blanks)
    (hdepth : Grammar.depthPerCharacter * byteLength e.text ≤ depth) :
    Reads d (expressionStatement (readers (depth + 1))) enclosed false (fun _ => True)
      (endedText e.text back) (aloneShape e back) := by
  refine ReadsAll.node _ (fun before => .pass (fun ws hws n place parts u hrest hplace _ => ?_)
    (readsAll_ended back (reads_expressions e hdepth).all)) e.kind_ne
  refine goes_check fun f => ?_
  rw [endedText, List.append_assoc, List.append_assoc, List.append_assoc] at hrest
  have hname : (after d n place parts enclosed before).name ∉ claimedWords :=
    e.starts.name_after hws hrest hplace (Before.cons back.2 (by decide) _)
  rw [State.far_name, Bool.not_eq_true', Bool.and_eq_false_iff]
  refine Or.inr (List.any_eq_false.2 fun w hw heq => hname ?_)
  rw [← beq_iff_eq.1 heq]
  exact List.mem_append_right _ (List.mem_map_of_mem hw)

/-! ### Statements that start with a name -/

/-- The words of the statements that start with a word of their own. -/
def statementWords : List String := [
  "import", "export", "debugger", "if", "switch", "for", "while", "do", "try", "with", "break",
  "continue", "return", "throw", "function", "async", "class", "const", "let", "var", "using", "await"]

theorem map_fst_wordStatements (rules : Rules) :
    (wordStatements rules).map Prod.fst = statementWords := rfl

/-- The statements that start with a word of their own, at a name. -/
def ownStatements (rules : Rules) (name : List Char) : List Reader :=
  (wordStatements rules).filterMap fun e => if name = e.1.toList then some e.2 else none

theorem namedStatement_eq (rules : Rules) (ctx : Context) (s : State) :
    namedStatement rules ctx s = first (ownStatements rules s.name ++ [typed (typedDeclaration rules),
      labeled rules, expressionStatement rules]) ctx s := rfl

/-- The first statement with a word is the only one with it. -/
theorem exists_ownStatements {w : String} {p : Reader} (hp : (w, p) ∈ wordStatements rules) :
    ∃ ps, ownStatements rules w.toList = p :: ps := by
  obtain ⟨front, back, hwords⟩ := List.append_of_mem hp
  have hnodup : ((wordStatements rules).map Prod.fst).Nodup := by
    rw [map_fst_wordStatements]
    decide
  rw [hwords, List.map_append, List.map_cons] at hnodup
  have hfront : ∀ e ∈ front, (if w.toList = e.1.toList then some e.2 else none) = none := by
    refine fun e he => if_neg fun heq => ?_
    exact (List.nodup_append.1 hnodup).2.2 e.1 (List.mem_map_of_mem he) w List.mem_cons_self
      (String.toList_injective heq).symm
  rw [ownStatements, hwords, List.filterMap_append, List.filterMap_eq_nil_iff.2 hfront,
    List.nil_append, List.filterMap_cons]
  dsimp only
  rw [if_pos rfl]
  exact ⟨_, rfl⟩

theorem ownStatements_eq_nil (hname : cs ∉ ownWords) : ownStatements rules cs = [] := by
  have hwords : ∀ w ∈ statementWords, w.toList ∈ ownWords := by decide
  refine List.filterMap_eq_nil_iff.2 fun e he => if_neg fun heq => hname ?_
  rw [heq]
  refine hwords _ ?_
  rw [← map_fst_wordStatements rules]
  exact List.mem_map_of_mem he

/-- A statement is read as the one of the word with which it starts. -/
theorem goes_namedStatement_of_mem {w : String} {p : Reader} (hp : (w, p) ∈ wordStatements rules)
    (hname : s.name = w.toList) (hgoes : Goes p ctx s s') :
    Goes (namedStatement rules) ctx s s' := by
  intro f
  obtain ⟨ps, hown⟩ := exists_ownStatements hp
  rw [namedStatement_eq, State.far_name, hname, hown]
  exact goes_first_head hgoes f

/-- A statement that starts with any other name has no word of its own. -/
theorem goes_namedStatement_of_free (hname : s.name ∉ ownWords)
    (hgoes : Goes (first [typed (typedDeclaration rules), labeled rules, expressionStatement rules])
      ctx s s') : Goes (namedStatement rules) ctx s s' := by
  intro f
  rw [namedStatement_eq, State.far_name, ownStatements_eq_nil hname]
  exact hgoes f

/-- **A text that starts with a name** is read as a statement if it is as one that does. -/
theorem reads_named {shape : Node} (h : Lexeme.IsName cs)
    (hends : ∀ u, F u → Lexeme.EndsName (more ++ u))
    (hreads : Reads d (namedStatement (readers depth)) enclosed operand F (cs ++ more) shape) :
    Reads d (readers (depth + 1) .statement) enclosed operand F (cs ++ more) shape := by
  refine hreads.of_goes fun n place parts before ws u hws hrest hplace hu s' hgoes => ?_
  rw [List.append_assoc] at hrest
  have hname : (after d n place parts enclosed before).AtName cs :=
    atName_after h hws hrest (hends u hu) hplace
  refine goes_seq (goes_many_of_sticks (sticks_pageComment_of_name hname.rest))
    (goes_seq_one (goes_choose_of_true (fun f => ?_) hgoes))
  rw [State.far_name, hname.name, Bool.not_eq_true', List.isEmpty_eq_false_iff]
  exact h.ne_nil

/-- A text that starts with the word of a statement. -/
theorem reads_worded {w : String} {p : Reader} {shape : Node}
    (hp : (w, p) ∈ wordStatements (readers depth)) (h : Lexeme.IsName w.toList)
    (hends : ∀ u, F u → Lexeme.EndsName (more ++ u))
    (hreads : Reads d p enclosed operand F (w.toList ++ more) shape) :
    Reads d (readers (depth + 1) .statement) enclosed operand F (w.toList ++ more) shape := by
  refine reads_named h hends (hreads.of_goes fun _ _ _ _ ws u hws hrest hplace hu _ => ?_)
  rw [List.append_assoc] at hrest
  exact goes_namedStatement_of_mem hp (atName_after h hws hrest (hends u hu) hplace).name

end Reader

/-! ### Operands that stand alone -/

namespace NameText

variable (a : NameText)

/-- No declaration of the typed dialects starts with a name that is none of their words. -/
theorem sticks_typedDeclaration (hs : s.AtName a.text) (depth : Nat) :
    Sticks (typedDeclaration (readers depth)) (.plain d n) s := by
  have hword : ∀ {kind w : String} {ps : List Reader}, w.toList ∈ ownWords →
      Sticks (node kind (seq (word w :: ps))) (.plain d n) s := fun hw =>
    sticks_node (sticks_seq_head (a.sticks_word hw hs))
  refine sticks_first_cons (hword (by decide)) (sticks_first_cons (hword (by decide))
    (sticks_first_cons ?enums (sticks_first_cons ?modules (sticks_first_cons (hword (by decide))
      ?classes))))
  case enums =>
    exact sticks_node (sticks_seq_maybe (a.sticks_word (by decide) hs)
      (sticks_seq_head (a.sticks_word (by decide) hs)))
  case modules =>
    exact sticks_node (sticks_seq_head (sticks_first_cons (a.sticks_word (by decide) hs)
      (a.sticks_word (by decide) hs)))
  case classes =>
    exact sticks_node (sticks_seq_many (sticks_decorator (by rw [hs.symbol]; decide))
      (sticks_seq_maybe (sticks_typed (a.sticks_word (by decide) hs))
        (sticks_seq_head (a.sticks_word (by decide) hs))))

/-- The marks that follow a name at the start of a statement. -/
def statementMarks : List Char := ['.', '(', ';']

/-- Only a name before a colon is a label. -/
theorem sticksAt_labeled (hmore : ∀ u, F u → Before statementMarks (more ++ u)) (hws : Blank ws) :
    SticksAt d (labeled (readers depth)) enclosed before F (ws ++ (a.text ++ more)) := by
  have hends : ∀ u, F u → Lexeme.EndsName (more ++ u) := fun u hu =>
    (hmore u hu).endsName (Lexeme.forall_mem_of_all (by decide))
  have hcolon : SticksAt d (seq [symbol ":", readers depth .statement]) enclosed false F more :=
    fun n place parts u hrest hplace hu => sticks_seq_head (sticks_symbol
      ((hmore u hu).symbol_ne (Lexeme.forall_mem_of_all (by decide)) (by decide) hrest hplace _))
  have hseq : SticksAt d (seq [identifier, symbol ":", readers depth .statement]) enclosed before F
      (ws ++ (a.text ++ more)) := a.reads_identifier.all.sticksAt_seq hcolon hends hws
  exact fun n place parts u hrest hplace hu =>
    sticks_node (sticks_seq_check (hseq n place parts u hrest hplace hu))

/-- **A name starts an expression** where a statement starts, if no colon follows. -/
theorem reads_statement {shape : Node} (hmore : ∀ u, F u → Before statementMarks (more ++ u))
    (h : Reads d (expressionStatement (readers depth)) enclosed operand F (a.text ++ more) shape) :
    Reads d (readers (depth + 1) .statement) enclosed operand F (a.text ++ more) shape := by
  have hends : ∀ u, F u → Lexeme.EndsName (more ++ u) := fun u hu =>
    (hmore u hu).endsName (Lexeme.forall_mem_of_all (by decide))
  have hothers : Reads d (first [typed (typedDeclaration (readers depth)), labeled (readers depth),
      expressionStatement (readers depth)]) enclosed operand F (a.text ++ more) shape :=
    .first (fun before ws hws => (SticksAt.of_name a.isName hends hws fun n s hs =>
        a.sticks_typedDeclaration hs depth).typed)
      (.first (fun before ws hws => a.sticksAt_labeled hmore hws) h)
  refine reads_named a.isName hends (hothers.of_goes fun n place parts before ws u hws hrest hplace hu
    s' => goes_namedStatement_of_free ?_)
  rw [List.append_assoc] at hrest
  rw [(atName_after a.isName hws hrest (hends u hu) hplace).name]
  exact a.isFree

end NameText

theorem ne_nil_ended (text : List Char) (back : Blanks) : endedText text back ≠ [] := by
  simp [endedText]

theorem byteLength_lt_ended (text : List Char) (back : Blanks) :
    byteLength text < byteLength (endedText text back) := by
  have hpos : 0 < byteLength (back.1 ++ [';']) := Cursor.byteLength_pos (by simp)
  rw [endedText, Cursor.byteLength_append]
  omega

theorem hasError_alone (e : OperandText d) (back : Blanks) :
    (aloneShape e back).hasError = false := by
  simp [aloneShape, e.hasError]

/-- A name with members and calls as a statement. -/
def ChainText.toStatement (a : ChainText d) (back : Blanks) : StatementText d where
  text := endedText a.text back
  shape := aloneShape a.toOperand back
  ne_nil := ne_nil_ended _ _
  hasError := hasError_alone _ _
  reads depth hdepth := by
    obtain ⟨k, rfl, hk⟩ := exists_depth (m := 2) (by decide) (ne_nil_ended _ _) hdepth
    have halone : Reads d (expressionStatement (readers (k + 1))) false false (fun _ => True)
        (endedText a.text back) (aloneShape a.toOperand back) :=
      reads_alone a.toOperand back (hk _ (byteLength_lt_ended _ _))
    have htext : endedText a.text back =
        a.name.text ++ (suffixesText a.suffixes ++ (back.1 ++ [';'])) := List.append_assoc _ _ _
    have hmore : ∀ u, True → Before NameText.statementMarks
        (suffixesText a.suffixes ++ (back.1 ++ [';']) ++ u) := fun u _ => by
      rw [List.append_assoc, List.append_assoc]
      exact before_suffixes a.suffixes (Before.cons back.2 (by decide) u)
    rw [htext] at halone ⊢
    exact a.name.reads_statement hmore halone

/-- **A string literal stands alone** as a statement. -/
theorem StringText.reads_statement (t : StringText) {shape : Node}
    (h : Reads d (expressionStatement (readers depth)) enclosed operand F (t.text ++ more) shape) :
    Reads d (readers (depth + 1) .statement) enclosed operand F (t.text ++ more) shape := by
  refine h.of_goes fun n place parts before ws u hws hrest hplace _ s' hgoes => ?_
  rw [List.append_assoc] at hrest
  have hstart : AtString (after d n place parts enclosed before) :=
    t.atString parts enclosed before hws hrest hplace
  have hsymbol : ∀ {text : String}, text.toList ≠ [] → ∀ f,
      atSymbol text (.plain d n) ((after d n place parts enclosed before).far f) = false := by
    intro text htext f
    rw [atSymbol, State.far_symbol, hstart.symbol, beq_eq_false_iff_ne]
    exact htext.symm
  refine goes_seq (goes_many_of_sticks (sticks_pageComment_of_head fun c hc => ?_))
    (goes_seq_one (goes_choose_of_false (fun f => ?_) (goes_choose_of_false (hsymbol (by decide))
      (goes_choose_of_false (hsymbol (by decide)) (goes_choose_of_false (hsymbol (by decide))
        hgoes)))))
  · rcases hstart.rest with hquote | hquote
    · obtain rfl : '"' = c := Option.some.inj (hquote.symm.trans hc)
      decide
    · obtain rfl : '\'' = c := Option.some.inj (hquote.symm.trans hc)
      decide
  · rw [State.far_name, hstart.name]
    rfl

/-- A string literal as a statement. -/
noncomputable def StringText.toStatement (t : StringText) (d : Dialect) (back : Blanks) :
    StatementText d where
  text := endedText t.text back
  shape := aloneShape (t.toOperand d) back
  ne_nil := ne_nil_ended _ _
  hasError := hasError_alone _ _
  reads depth hdepth := by
    obtain ⟨k, rfl, hk⟩ := exists_depth (m := 2) (by decide) (ne_nil_ended _ _) hdepth
    exact t.reads_statement (reads_alone (t.toOperand d) back (hk _ (byteLength_lt_ended _ _)))

/-! ### Operands that are returned -/

/-- Blanks in a line, and at least one. -/
abbrev LineGap := { gap : Gap // ∀ w ∈ gap.1, Semicolon.isBreak w = false }

theorem isName_return : Lexeme.IsName "return".toList := .of_all (by decide) (by decide)

/-- The characters of a return of an operand. -/
def returnText (gap : LineGap) (e : OperandText d) (back : Blanks) : List Char :=
  "return".toList ++ (gap.1.1 ++ endedText e.text back)

theorem returnText_eq (gap : LineGap) (e : OperandText d) (back : Blanks) :
    returnText gap e back = "return".toList ++ (gap.1.1 ++ endedText e.text back) := rfl

/-- The shape of a return of an operand. -/
def returnShape (gap : LineGap) (e : OperandText d) (back : Blanks) : Node :=
  shapeOver "return_statement" noFields (returnText gap e back)
    [leafShape "return" false "return".toList, e.shape, leafShape ";" false [';']]

/-- No semicolon is implied between the word and an operand on its line. -/
theorem StartsOperand.held {text : List Char} (h : StartsOperand text) (gap : LineGap) :
    ∃ c t, text = c :: t ∧ Semicolon.Held gap.1.1 c := by
  have hmarks : '/' ∈ Lexeme.shortSymbols ∧ '\x7d' ∈ Lexeme.shortSymbols := by decide
  obtain ⟨c, t, htext, hspace, hc⟩ := h.head
  refine ⟨c, t, htext, gap.1.2.1, hspace, ?_, ?_, Or.inl gap.2⟩
  · rintro rfl
    exact hc hmarks.1
  · rintro rfl
    exact hc hmarks.2

/-- **An operand on the line of the word is returned.** -/
theorem OperandText.reads_return (e : OperandText d) (gap : LineGap) (back : Blanks)
    (hdepth : Grammar.depthPerCharacter * byteLength e.text ≤ depth) :
    Reads d (jump "return_statement" "return" (readers (depth + 1) .expressions)) enclosed false
      (fun _ => True) (returnText gap e back) (returnShape gap e back) := by
  have hended : ReadsOn d (seq [maybe (readers (depth + 1) .expressions), semicolon]) enclosed false
      false (fun _ => True) (gap.1.1 ++ endedText e.text back) [e.shape, leafShape ";" false [';']] :=
    (readsAll_ended back (reads_expressions e hdepth).maybe.all).on gap.1.2.1
  refine ReadsAll.node _ (fun before => (reads_word "return" isName_return).all.seq
    (ReadsOn.choose_of_false (fun n place parts u hrest _ _ => ?_) hended) fun u _ => ?_)
    (by rw [kind_leafShape]; decide)
  · obtain ⟨c, t, htext, hheld⟩ := e.starts.held gap
    rw [endedText, htext, List.append_assoc] at hrest
    exact semicolonImplied_of_held hheld hrest _
  · rw [List.append_assoc]
    exact gap.1.endsName _

theorem returnText_ne_nil (gap : LineGap) (e : OperandText d) (back : Blanks) :
    returnText gap e back ≠ [] := List.append_ne_nil_of_left_ne_nil isName_return.ne_nil _

/-- A return of an operand as a statement. -/
def OperandText.toReturn (e : OperandText d) (gap : LineGap) (back : Blanks) : StatementText d where
  text := returnText gap e back
  shape := returnShape gap e back
  ne_nil := returnText_ne_nil gap e back
  hasError := by simp [returnShape, e.hasError]
  reads depth hdepth := by
    have hlt : byteLength e.text < byteLength (returnText gap e back) := by
      have hended := byteLength_lt_ended e.text back
      rw [returnText_eq, Cursor.byteLength_append, Cursor.byteLength_append]
      omega
    obtain ⟨k, rfl, hk⟩ := exists_depth (m := 2) (by decide) (returnText_ne_nil gap e back) hdepth
    refine reads_worded (w := "return") (p := jump "return_statement" "return"
      (readers (k + 1) .expressions)) (by simp [wordStatements]) isName_return (fun u _ => ?_)
      (e.reads_return gap back (hk _ hlt))
    rw [List.append_assoc]
    exact gap.1.endsName _

/-! ### Names that are declared -/

/-- A declaration of a name with an operand as its value. -/
structure DeclarationText (d : Dialect) where
  word : String
  isDeclaring : word ∈ declaringWords
  afterWord : Gap
  name : NameText
  beforeSign : Blanks
  afterSign : Blanks
  value : OperandText d
  back : Blanks

theorem isName_declaring {w : String} (hw : w ∈ declaringWords) : Lexeme.IsName w.toList := by
  simp only [declaringWords, List.mem_cons, List.not_mem_nil, or_false] at hw
  rcases hw with rfl | rfl | rfl | rfl <;> exact .of_all (by decide) (by decide)

namespace DeclarationText

variable (c : DeclarationText d)

/-- The characters of the sign and the value of a declared name. -/
def valueText : List Char := c.beforeSign.1 ++ '=' :: (c.afterSign.1 ++ c.value.text)

/-- The characters of a declared name and its value. -/
def declaratorText : List Char := c.name.text ++ c.valueText

/-- The shape of a declared name and its value. -/
def declaratorShape : Node :=
  shapeOver "variable_declarator" noFields c.declaratorText
    [leafShape "identifier" true c.name.text, leafShape "=" false ['='], c.value.shape]

/-- The characters of a declaration. -/
def text : List Char :=
  endedText (c.word.toList ++ (c.afterWord.1 ++ c.declaratorText)) c.back

/-- The shape of a declaration. -/
def shape : Node :=
  shapeOver "lexical_declaration" noFields c.text
    [leafShape c.word false c.word.toList, c.declaratorShape, leafShape ";" false [';']]

theorem before_value (u : List Char) : Before ['='] (c.valueText ++ u) := by
  rw [valueText, List.append_assoc]
  exact Before.cons c.beforeSign.2 (by decide) _

theorem endsName_value (u : List Char) : Lexeme.EndsName (c.valueText ++ u) :=
  (c.before_value u).endsName (Lexeme.forall_mem_of_all (by decide))

/-- A name, the sign and its value. -/
theorem reads_declarator (hdepth : Grammar.depthPerCharacter * byteLength c.value.text ≤ depth + 1) :
    Reads d (declarator (readers (depth + 1))) enclosed true (Before [';']) c.declaratorText
      c.declaratorShape := by
  have hvalue : Reads d (readers (depth + 1) .expression) enclosed true (Before [';']) c.value.text
      c.value.shape := (c.value.reads enclosed _ hdepth).mono fun u hu =>
    hu.mono (Lexeme.forall_mem_of_all (by decide))
  have hends : ∀ u, EndsSymbol (c.afterSign.1 ++ c.value.text ++ u) := fun u => by
    rw [List.append_assoc]
    exact endsSymbol_append c.afterSign.2 (c.value.starts.endsSymbol u)
  have hsign : ReadsOn d (seq [symbol "=", readers (depth + 1) .expression]) enclosed false true
      (Before [';']) c.valueText [leafShape "=" false ['='], c.value.shape] :=
    ((reads_symbol "=" (by decide) (by decide) (by decide)).all.seq (hvalue.on c.afterSign.2)
      fun u _ => hends u).on c.beforeSign.2
  have hsymbol : ∀ {n : Nat} {place : Cursor} {parts : List Part} {u : List Char} {e : Char},
      e ≠ '=' → place.rest = c.valueText ++ u → place.EndsAt n →
      (after d n place parts enclosed false).symbol ≠ [e] := fun he hrest hplace =>
    (c.before_value _).symbol_ne (Lexeme.forall_mem_of_all (by decide)) (by simpa using he) hrest
      hplace []
  refine ReadsAll.node _ (fun before => (c.name.reads_binding depth).all.seq
    (.pass (fun n place parts u hrest hplace _ => ?_)
      (.pass (fun n place parts u hrest hplace _ => ?_) hsign.maybe))
    fun u _ => c.endsName_value u) (by rw [kind_leafShape]; decide)
  · exact goes_maybe_of_sticks (sticks_typed (sticks_symbol (hsymbol (by decide) hrest hplace)))
  · exact goes_maybe_of_sticks (sticks_typed (sticks_ascription (hsymbol (by decide) hrest hplace)))

/-- The word and the one name that is declared. -/
theorem readsAll_declarators
    (hdepth : Grammar.depthPerCharacter * byteLength c.value.text ≤ depth + 1) :
    ReadsAll d (declarators (readers (depth + 1))) enclosed before true (Before [';'])
      (c.word.toList ++ (c.afterWord.1 ++ c.declaratorText))
      [leafShape c.word false c.word.toList, c.declaratorShape] := by
  have hcomma : SticksAt d (seq [symbol ",", declarator (readers (depth + 1))]) enclosed true
      (Before [';']) [] :=
    .of_marks (Lexeme.forall_mem_of_all (by decide)) (fun _ hu => hu) fun n s hs =>
      sticks_seq_head (sticks_symbol_of_marks hs (by decide))
  have hpasses : Passes d (seq [many (seq [symbol ",", declarator (readers (depth + 1))])]) enclosed
      true (Before [';']) [] := hcomma.many
  have hseparated : ReadsOn d (separated (symbol ",") (declarator (readers (depth + 1)))) enclosed
      false true (Before [';']) (c.afterWord.1 ++ c.declaratorText) [c.declaratorShape] :=
    ((c.reads_declarator hdepth).all.seq_passes hpasses fun _ hu => hu).on c.afterWord.2.1
  refine ((reads_words c.isDeclaring (isName_declaring c.isDeclaring)).first_head).all.seq hseparated
    fun u _ => ?_
  rw [List.append_assoc]
  exact c.afterWord.endsName _

theorem reads_declaration
    (hdepth : Grammar.depthPerCharacter * byteLength c.value.text ≤ depth + 1) :
    Reads d (declaration (readers (depth + 1))) enclosed false (fun _ => True) c.text c.shape := by
  have hwords : ∀ w ∈ declaringWords, w ≠ Node.errorKind := by decide
  exact ReadsAll.node _ (fun before => readsAll_ended c.back (c.readsAll_declarators hdepth))
    (hwords _ c.isDeclaring)

/-- A declaration starts with its word and a blank. -/
theorem exists_text : ∃ t, c.text = c.word.toList ++ (c.afterWord.1 ++ (c.name.text ++ t)) ∧
    ∀ u, Lexeme.EndsName (t ++ u) := by
  refine ⟨c.valueText ++ (c.back.1 ++ [';']), ?_, fun u => ?_⟩
  · simp [text, endedText, declaratorText]
  · rw [List.append_assoc]
    exact c.endsName_value _

/-- No enumeration is declared where a name follows the first word. -/
theorem sticksAt_enumDeclaration (hword : c.word = "const") (hws : Blank ws) :
    SticksAt d (enumDeclaration rules) enclosed before (fun _ => True) (ws ++ c.text) := by
  obtain ⟨t, htext, ht⟩ := c.exists_text
  have hends : ∀ u, True → Lexeme.EndsName (c.afterWord.1 ++ (c.name.text ++ t) ++ u) := fun u _ => by
    rw [List.append_assoc]
    exact c.afterWord.endsName _
  rw [htext, hword]
  have hconst : Reads d (Reader.word "const") enclosed false Lexeme.EndsName "const".toList _ :=
    reads_word "const" (isName_declaring (by decide))
  exact .node (hconst.maybe.all.sticksAt_seq (.seq_head (.of_name c.name.isName (fun u _ => ht u)
    c.afterWord.2.1 fun n s hs => c.name.sticks_word (by decide) hs)) hends hws) _

/-- **A declaration is read as a statement.** -/
theorem reads_statement
    (hdepth : Grammar.depthPerCharacter * byteLength c.value.text ≤ depth + 1) :
    Reads d (readers (depth + 2) .statement) enclosed false (fun _ => True) c.text c.shape := by
  have hdeclaration : Reads d (declaration (readers (depth + 1))) enclosed false (fun _ => True) c.text
      c.shape := c.reads_declaration hdepth
  suffices h : ∃ p, (c.word, p) ∈ wordStatements (readers (depth + 1)) ∧
      Reads d p enclosed false (fun _ => True) c.text c.shape by
    obtain ⟨p, hp, hreads⟩ := h
    obtain ⟨t, htext, -⟩ := c.exists_text
    rw [htext] at hreads ⊢
    refine reads_worded hp (isName_declaring c.isDeclaring) (fun u _ => ?_) hreads
    rw [List.append_assoc]
    exact c.afterWord.endsName _
  have hwords := c.isDeclaring
  simp only [declaringWords, List.mem_cons, List.not_mem_nil, or_false] at hwords
  rcases hwords with hword | hword | hword | hword
  · have hconst : Reads d (first [typed (enumDeclaration (readers (depth + 1))),
        declaration (readers (depth + 1))]) enclosed false (fun _ => True) c.text c.shape :=
      .first (fun before ws hws => (c.sticksAt_enumDeclaration hword hws).typed) hdeclaration
    exact ⟨_, by simp [hword, wordStatements], hconst⟩
  all_goals exact ⟨_, by simp [hword, wordStatements], hdeclaration⟩

theorem text_ne_nil : c.text ≠ [] := ne_nil_ended _ _

theorem byteLength_value : byteLength c.value.text < byteLength c.text := by
  have hended := byteLength_lt_ended (c.word.toList ++ (c.afterWord.1 ++ c.declaratorText)) c.back
  have hwithin : c.value.text <:+: c.word.toList ++ (c.afterWord.1 ++ c.declaratorText) :=
    ⟨c.word.toList ++ (c.afterWord.1 ++ (c.name.text ++ (c.beforeSign.1 ++ '=' :: c.afterSign.1))), [],
      by simp [declaratorText, valueText]⟩
  exact Nat.lt_of_le_of_lt (Cursor.byteLength_le_of_within hwithin) hended

/-- A declaration as a statement. -/
def toStatement : StatementText d where
  text := c.text
  shape := c.shape
  ne_nil := c.text_ne_nil
  hasError := by simp [shape, declaratorShape, c.value.hasError]
  reads depth hdepth := by
    obtain ⟨k, rfl, hk⟩ := exists_depth (m := 2) (by decide) c.text_ne_nil hdepth
    exact c.reads_statement (Nat.le_succ_of_le (hk _ c.byteLength_value))

end DeclarationText

end Source

end PullNotes
