import PullNotes.Proofs.Source.Labels
import PullNotes.Proofs.Source.Parentheses

/-!
# Whole sources

A source that is one expression, with blanks around it, has a tree without an error: a statement of
that expression.  A source at whose start no statement starts has an error, whatever is passed over
or supplied for it.

* `Reader.goes_statement` : a parenthesis or a brace that may be that of an object starts an
expression.
* `Reader.sticks_block_of_word` : no block starts with a word that starts statements, and a colon.
* `hasError_tree` : the tree of a source that is not read has an error.
* `unplaced_tree` : the tree of a source that is one expression.
-/

namespace PullNotes

namespace Source

open State (after)
open Grammar (readers)
open Reader

variable {d : Dialect} {n : Nat} {place : Cursor} {parts : List Part} {enclosed operand : Bool}
  {ws ws' cs u : List Char} {depth : Nat} {s s' : State}

/-! ### The end of a source -/

/-- Where only blanks are left, the next token is none. -/
theorem next_of_blank (hrest : Blank place.rest) (hplace : place.EndsAt n) :
    (place.next d n).rest = [] := by
  have happend : place.rest = place.rest ++ [] := (List.append_nil _).symm
  rw [Cursor.next_of_blanks happend hrest .nil hplace, Cursor.rest_past happend]

theorem atStop_of_blank (hrest : Blank place.rest) (hplace : place.EndsAt n) :
    (after d n place parts enclosed operand).AtStop :=
  atStop_after _ _ _ hrest .nil (List.append_nil _).symm hplace

theorem symbol_of_blank (hrest : Blank place.rest) (hplace : place.EndsAt n) :
    (after d n place parts enclosed operand).symbol = [] := by
  rw [State.after_symbol, next_of_blank hrest hplace]
  rfl

/-! ### Statements -/

namespace Reader

/-- An expression at the end of a source is a statement. -/
theorem goes_expressionStatement {start stop : Cursor} {node : Node}
    (hname : (after d n place parts enclosed operand).name = [])
    (hexpression : Goes (readers depth .expression) (.plain d n)
      (after d n place parts enclosed operand) (after d n stop (⟨start, node⟩ :: parts) enclosed true))
    (hrest : Blank stop.rest) (hstop : stop.EndsAt n) (hkind : node.kind ≠ Node.errorKind) :
    Goes (expressionStatement (readers (depth + 1))) (.plain d n)
      (after d n place parts enclosed operand)
      (after d n stop (⟨start, nodeOver "expression_statement" noFields start stop [node]⟩ :: parts)
        enclosed true) := by
  have hcheck : Goes (check fun ctx s =>
      !(ctx.dialect.isTyped && typedStartingWords.any fun w => w.toList == s.name)) (.plain d n)
      (after d n place parts enclosed operand) (after d n place parts enclosed operand) := by
    refine goes_check fun f => ?_
    have hnone : (typedStartingWords.any fun w => w.toList == ([] : List Char)) = false := by decide
    rw [State.far_name, hname, hnone, Bool.and_false]
    rfl
  have hexpressions := goes_expressions hexpression (by rw [symbol_of_blank hrest hstop]; decide)
  have hall := goes_seq hcheck (goes_seq hexpressions (goes_seq_one (goes_semicolon hrest rfl)))
  exact goes_node hall (goes_gathered [⟨start, node⟩] parts rfl hkind)

variable {c : Char}

theorem atSymbol_of_mark (hsymbol : s.symbol = [c]) {ctx : Context} {text : String} {b : Bool}
    (htext : ([c] == text.toList) = b) (f : Option Stuck) : atSymbol text ctx (s.far f) = b := by
  rw [atSymbol, State.far_symbol, hsymbol]
  exact htext

theorem sticks_pageComment (hc : c = '(' ∨ c = '\x7b') (hrest : s.cursor.rest = c :: u)
    {ctx : Context} : Sticks pageComment ctx s := by
  refine sticks_pageComment_of_head fun e he => ?_
  rw [hrest] at he
  obtain rfl : c = e := Option.some.inj he
  rcases hc with rfl | rfl <;> decide

/-- A parenthesis starts an expression, and so does a brace that may be read as that of an
object. -/
theorem goes_statement (hc : c = '(' ∨ c = '\x7b') (hws : Blank ws)
    (hrest : place.rest = ws ++ c :: u) (hplace : place.EndsAt n)
    (hloose : c = '\x7b' → ∀ f,
      atLooseObject (.plain d n) ((after d n place parts enclosed operand).far f) = true)
    (hgoes : Goes (expressionStatement (readers depth)) (.plain d n)
      (after d n place parts enclosed operand) s') :
    Goes (readers (depth + 1) .statement) (.plain d n) (after d n place parts enclosed operand)
      s' := by
  have hmark : c ∈ Lexeme.singleMarks := by rcases hc with rfl | rfl <;> decide
  obtain ⟨hname, hsymbol, hcursor⟩ := atMark (d := d) parts enclosed operand hmark hws hrest hplace
  refine goes_seq (goes_many_of_sticks (sticks_pageComment hc hcursor)) (goes_seq_one
    (goes_choose_of_false (fun f => ?_) ?_))
  · rw [State.far_name, hname]
    rfl
  rcases hc with rfl | rfl
  · refine goes_choose_of_false (atSymbol_of_mark hsymbol (by decide)) ?_
    refine goes_choose_of_false (atSymbol_of_mark hsymbol (by decide)) ?_
    exact goes_choose_of_false (atSymbol_of_mark hsymbol (by decide)) hgoes
  · refine goes_choose_of_true (atSymbol_of_mark hsymbol (by decide)) ?_
    exact goes_first_head (goes_seq (goes_check (hloose rfl)) (goes_seq_one hgoes))

/-- A brace starts no statement if it is neither that of an object nor that of a block. -/
theorem sticks_statement_of_brace (depth : Nat) (hws : Blank ws)
    (hrest : place.rest = ws ++ '\x7b' :: u) (hplace : place.EndsAt n)
    (hloose : ∀ f,
      atLooseObject (.plain d n) ((after d n place parts enclosed operand).far f) = false)
    (hblock : Sticks (readers depth .block) (.plain d n) (after d n place parts enclosed operand)) :
    Sticks (readers (depth + 1) .statement) (.plain d n)
      (after d n place parts enclosed operand) := by
  obtain ⟨hname, hsymbol, hcursor⟩ := atMark (d := d) parts enclosed operand (by decide) hws hrest
    hplace
  refine sticks_seq_many (sticks_pageComment (Or.inr rfl) hcursor) (sticks_seq_head
    (sticks_choose_of_false (fun f => ?_) ?_))
  · rw [State.far_name, hname]
    rfl
  refine sticks_choose_of_true (atSymbol_of_mark hsymbol (by decide)) ?_
  exact sticks_first_cons (sticks_seq_head (sticks_check hloose)) hblock

/-- **No block starts with a starting word before a colon.** -/
theorem sticks_block_of_word {w : String} (hw : w ∈ startingWordsOf d)
    (hname : Lexeme.IsName w.toList) (hws : Blank ws) (hcs : Blank cs) (hws' : Blank ws')
    (hrest : place.rest = ws ++ '\x7b' :: (cs ++ (w.toList ++ (ws' ++ ':' :: u))))
    (hplace : place.EndsAt n) :
    Sticks (readers depth .block) (.plain d n) (after d n place parts enclosed operand) := by
  cases depth with
  | zero => exact sticks_fail
  | succ depth =>
    have hbrace := goes_mark (d := d) "\x7b" parts false operand (by decide) (by decide) hws hrest
      hplace
    obtain ⟨hcolon, hword⟩ := beforeColon_after (d := d)
      (markPart "\x7b" (place.past ws) '\x7b' :: parts) false false hname hcs hws'
      (Cursor.rest_past_mark hrest) (hplace.past_mark hrest)
    refine sticks_node (sticks_within (sticks_seq hbrace
      (sticks_seq_many (sticks_statement hcolon hword hw depth) (sticks_seq_head ?_))))
    refine sticks_symbol ?_
    rw [hcolon.symbol]
    decide

end Reader

/-! ### Sources that are one statement -/

theorem endsAt_ofChars (cs : List Char) : (Cursor.ofChars cs).EndsAt (byteLength cs) := Nat.zero_add _

/-- A source that is one statement has a tree without any patch. -/
theorem attempt_of_goes {stop : Cursor} {p : Part}
    (hline : Lexeme.interpreterLine ((Cursor.ofChars cs).next d (byteLength cs)).rest = 0)
    (hgoes : Goes (readers (Grammar.depthFor (byteLength cs)) .statement) (.plain d (byteLength cs))
      (after d (byteLength cs) (.ofChars cs) [] false false)
      (after d (byteLength cs) stop [p] false operand))
    (hrest : Blank stop.rest) (hstop : stop.EndsAt (byteLength cs)) (hoffset : 0 < stop.offset) :
    attempt d cs [] = .ok (.mk rootKind (Utf8.writeChars (firstPlace cs).rest) [p.node] true false
      p.node.hasError (firstPlace cs).point none none) := by
  have hend : (after d (byteLength cs) stop [p] false operand).AtStop := atStop_of_blank hrest hstop
  have hmany := (Repeats.step hgoes hoffset
    (.stop (sticks_readers hend _ .statement (by decide) (by decide)))).goes_many hstop.offset_le
  have hatEnd : Goes Grammar.atEnd (.plain d (byteLength cs))
      (after d (byteLength cs) stop [p] false operand) _ :=
    goes_check fun f => by rw [State.far_cursor, State.after_cursor, next_of_blank hrest hstop]; rfl
  have hprogram : Goes (Grammar.program (Grammar.depthFor (byteLength cs))) (.plain d (byteLength cs))
      (after d (byteLength cs) (.ofChars cs) [] false false)
      (after d (byteLength cs) stop [p] false operand) :=
    goes_seq (goes_maybe_of_sticks (sticks_token hline)) (goes_seq hmany
      (goes_seq (goes_many_of_sticks (sticks_pageComment_of_stop hend)) (goes_seq_one hatEnd)))
  obtain ⟨f, hf⟩ := hprogram none
  have hgo : Grammar.program (Grammar.depthFor (byteLength cs)) (.plain d (byteLength cs))
      (after d (byteLength cs) (.ofChars cs) [] false false) = _ := hf
  have herror : [p.node].any Node.hasError = p.node.hasError := by simp
  rw [attempt, State.land_start, ← herror]
  simp only [hgo]
  rfl

/-- A source at whose start no statement starts has an error. -/
theorem exists_attempt_of_sticks
    (hline : Lexeme.interpreterLine ((Cursor.ofChars cs).next d (byteLength cs)).rest = 0)
    (hsticks : Sticks (readers (Grammar.depthFor (byteLength cs)) .statement)
      (.plain d (byteLength cs)) (after d (byteLength cs) (.ofChars cs) [] false false))
    (hcomment : Sticks pageComment (.plain d (byteLength cs))
      (after d (byteLength cs) (.ofChars cs) [] false false))
    (hrest : ((Cursor.ofChars cs).next d (byteLength cs)).rest ≠ []) :
    ∃ e, attempt d cs [] = .error e := by
  have hprogram : Sticks (Grammar.program (Grammar.depthFor (byteLength cs)))
      (.plain d (byteLength cs)) (after d (byteLength cs) (.ofChars cs) [] false false) := by
    refine sticks_seq_maybe (sticks_token hline) (sticks_seq_many hsticks
      (sticks_seq_many hcomment (sticks_seq_head (sticks_check fun f => ?_))))
    rw [State.far_cursor, State.after_cursor, List.isEmpty_eq_false_iff]
    exact hrest
  obtain ⟨e, he⟩ := hprogram none
  have hgo : Grammar.program (Grammar.depthFor (byteLength cs)) (.plain d (byteLength cs))
      (after d (byteLength cs) (.ofChars cs) [] false false) = _ := he
  exact ⟨e, by rw [attempt, State.land_start]; simp only [hgo]⟩

theorem tree_of_attempt {root : Node} (h : attempt d cs [] = .ok root) : tree d cs = root := by
  have hlimit : Recovery.errorLimit = 29 + 1 := rfl
  rw [tree, hlimit, Recovery.recovered, h]
  rfl

/-- A source with patches has an error. -/
theorem hasError_of_attempt {patches : List Patch} {root : Node} (hpatches : patches ≠ [])
    (h : attempt d cs patches = .ok root) : root.hasError = true := by
  have hsome : (!patches.isEmpty) = true := by simpa using hpatches
  rw [attempt] at h
  split at h
  · cases h
    rw [rootOf, hsome]
    rfl
  · cases h

theorem hasError_of_recovered {patches : List Patch} {root : Node} {fuel : Nat}
    (hpatches : patches ≠ []) (h : Recovery.recovered d cs fuel patches = some root) :
    root.hasError = true := by
  induction fuel generalizing patches with
  | zero => cases h
  | succ fuel ih =>
    rw [Recovery.recovered] at h
    split at h
    · next hattempt =>
      cases h
      exact hasError_of_attempt hpatches hattempt
    · dsimp only at h
      split at h
      · exact ih (List.cons_ne_nil _ _) h
      · cases h

/-- **A source with an error has it in its tree**, whatever is passed over or supplied for it. -/
theorem hasError_tree {e : Stuck} (h : attempt d cs [] = .error e) : (tree d cs).hasError = true := by
  have hlimit : Recovery.errorLimit = 29 + 1 := rfl
  rw [tree, hlimit, Recovery.recovered, h]
  dsimp only
  split
  · next r _ =>
    cases hrecovered : Recovery.recovered d cs 29 [r.patch] with
    | none => rfl
    | some root => exact hasError_of_recovered (List.cons_ne_nil _ _) hrecovered
  · rfl

/-- **A source that is one expression has the shape of a statement with it**, if it starts with a
parenthesis or with a brace that may be read as that of an object. -/
theorem unplaced_tree {c : Char} {shape : Node} (hc : c = '(' ∨ c = '\x7b') (hws : Blank ws)
    (hws' : Blank ws') (hcs : cs = ws ++ (c :: u ++ ws'))
    (hloose : c = '\x7b' → ∀ f, atLooseObject (.plain d (byteLength cs))
      ((after d (byteLength cs) (.ofChars cs) [] false false).far f) = true)
    (hdepth : depth + 2 = Grammar.depthFor (byteLength cs))
    (hreads : Reads d (readers depth .expression) false true AfterObject (c :: u) shape)
    (hkind : shape.kind ≠ Node.errorKind) :
    (tree d cs).unplaced = shapeOver rootKind noFields (c :: u ++ ws')
      [shapeOver "expression_statement" noFields (c :: u) [shape]] := by
  have hrest : (Cursor.ofChars cs).rest = ws ++ (c :: u ++ ws') := hcs
  have hplace := endsAt_ofChars cs
  have hmark : c ∈ Lexeme.singleMarks := by rcases hc with rfl | rfl <;> decide
  have hstart : StartsToken (c :: u ++ ws') := by
    rcases hc with rfl | rfl
    · exact StartsToken.cons (by decide) (by decide)
    · exact StartsToken.cons (by decide) (by decide)
  obtain ⟨node, hnode, hgoes⟩ := hreads _ (.ofChars cs) [] false ws ws' hws hrest hplace
    ⟨ws', [], hws', .nil, (List.append_nil _).symm⟩
  obtain ⟨hname, -, hcursor⟩ := atMark (d := d) [] false false hmark hws hrest hplace
  have hback : Blank ((Cursor.ofChars cs).past (ws ++ c :: u)).rest := by
    rw [Cursor.rest_past_text hrest]
    exact hws'
  have hstop := hplace.past_text hrest
  have hstatement := goes_statement hc hws hrest hplace hloose (goes_expressionStatement hname hgoes
    hback hstop (by rw [← Node.kind_unplaced, hnode]; exact hkind))
  have hline : Lexeme.interpreterLine ((Cursor.ofChars cs).next d (byteLength cs)).rest = 0 := by
    have hnext : ((Cursor.ofChars cs).next d (byteLength cs)).rest = c :: (u ++ ws') := hcursor
    rw [hnext]
    rcases hc with rfl | rfl <;> rfl
  have hdepth' : depth + 1 + 1 = Grammar.depthFor (byteLength cs) := hdepth
  rw [hdepth'] at hstatement
  have hoffset : 0 < ((Cursor.ofChars cs).past (ws ++ c :: u)).offset :=
    Cursor.offset_lt_past (u := ws') (by rw [hrest, List.append_assoc]) (by simp)
  have hfirst : firstPlace cs = (Cursor.ofChars cs).past ws := by
    rw [firstPlace, hcs, spaces_append hws hstart, Cursor.past]
  have hover : (nodeOver "expression_statement" noFields ((Cursor.ofChars cs).past ws)
      ((Cursor.ofChars cs).past (ws ++ c :: u)) [node]).unplaced =
        shapeOver "expression_statement" noFields (c :: u) [shape] :=
    unplaced_over _ (fun _ => rfl) hrest (by rw [List.map_singleton, hnode])
  have herror : ∀ node : Node, [node].any Node.hasError = node.hasError := by simp
  -- one statement up to the blanks at the end, so nothing is recovered from
  rw [tree_of_attempt (attempt_of_goes hline hstatement hback hstop hoffset), Node.unplaced,
    Node.unplacedAll_eq_map, List.map_singleton, ← Node.hasError_unplaced, hover, ← herror, hfirst,
    Cursor.rest_past hrest]
  rfl

end Source

end PullNotes
