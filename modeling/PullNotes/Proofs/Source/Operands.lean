import PullNotes.Proofs.Source.Functions

/-!
# Operands

Names, string literals and functions are operands, and so is a name with members and calls after it,
whose arguments are operands again.  Each is read as an expression wherever it stands among the
statements of a function or the arguments of a call.

* `OperandText` : the texts of operands.
* `SuffixText.exists_goes`, `ChainText.exists_repeats` : a member or a call, and several of them.
* `StringText.toOperand`, `FunctionParts.toOperand`, `ChainText.toOperand` : operands.
-/

namespace PullNotes

namespace Source

open State (after)
open Grammar (readers)
open Reader

variable {d : Dialect} {n : Nat} {place start : Cursor} {parts : List Part}
  {enclosed before operand : Bool} {ws cs u : List Char} {depth : Nat}

/-! ### Where operands start -/

/-- The words with which no operand starts that may stand alone. -/
def claimedWords : List (List Char) := signingWords ++ typedStartingWords.map String.toList

/-- The start of an operand that is no sign and no bracket: a name that is no such word, or a
quote. -/
structure StartsOperand (text : List Char) : Prop where
  head : ∃ c t, text = c :: t ∧ Lexeme.isSpace c = false ∧ c ∉ Lexeme.shortSymbols
  unclaimed : ∀ u, Before operandEnds u →
    (text ++ u).take (Lexeme.name (text ++ u)) ∉ claimedWords

namespace StartsOperand

variable {text : List Char} (h : StartsOperand text)

include h

theorem startsToken (u : List Char) : StartsToken (text ++ u) := by
  obtain ⟨c, t, rfl, hspace, hc⟩ := h.head
  refine .cons hspace ?_
  rintro rfl
  exact hc (by decide)

theorem endsSymbol (u : List Char) : EndsSymbol (text ++ u) := by
  obtain ⟨c, t, rfl, -, hc⟩ := h.head
  intro e he
  rwa [← Option.some.inj he]

section After

variable (hws : Blank ws) (hrest : place.rest = ws ++ (text ++ u)) (hplace : place.EndsAt n)

include hws hrest hplace

theorem symbol_after : (after d n place parts enclosed operand).symbol = [] := by
  obtain ⟨c, t, htext, -, hc⟩ := h.head
  rw [Source.symbol_after hws hrest (h.startsToken u) hplace, htext]
  exact Lexeme.symbol_cons hc _

theorem name_after (hu : Before operandEnds u) :
    (after d n place parts enclosed operand).name ∉ claimedWords := by
  rw [Source.name_after hws hrest (h.startsToken u) hplace]
  exact h.unclaimed u hu

theorem unsigned_after (hu : Before operandEnds u) :
    (after d n place parts enclosed operand).Unsigned :=
  ⟨fun hname => h.name_after hws hrest hplace hu (List.mem_append_left _ hname),
    Or.inl (h.symbol_after hws hrest hplace)⟩

theorem sticks_patternAssignment {rules : Rules} :
    Sticks (patternAssignment rules) (.plain d n) (after d n place parts enclosed operand) := by
  obtain ⟨c, t, htext, -, hc⟩ := h.head
  refine sticks_node (sticks_seq_head (sticks_check fun f => ?_))
  have hbracket : c ≠ '[' ∧ c ≠ '\x7b' := by
    constructor <;> rintro rfl <;> exact hc (by decide)
  rw [startsWith, State.far_cursor, cursor_after hws hrest (h.startsToken u) hplace, htext]
  simp [hbracket]

end After

/-- **What is read as an operand is read as an expression.** -/
theorem reads_expression {shape : Node} (haccess : Reads d (readers depth .access) enclosed false
      (Before operandEnds) text shape) :
    Reads d (readers (depth + 3) .expression) enclosed true (Before operandEnds) text shape := by
  intro n place parts before ws u hws hrest hplace hu
  obtain ⟨node, hnode, hgoes⟩ := haccess n place parts before ws u hws hrest hplace hu
  exact ⟨node, hnode, goes_expression depth (h.unsigned_after hws hrest hplace hu)
    (h.sticks_patternAssignment hws hrest hplace) hgoes
    (hu.atMarks operandEnds_subset (Cursor.rest_past_text hrest) (hplace.past_text hrest))⟩

end StartsOperand

/-- A name with what cannot go on with it. -/
theorem StartsOperand.of_name {w t : List Char} (hw : Lexeme.IsName w) (hclaimed : w ∉ claimedWords)
    (ht : ∀ u, Before operandEnds u → Lexeme.EndsName (t ++ u)) : StartsOperand (w ++ t) := by
  have hstart := startsToken_name hw t
  have hends := endsSymbol_name hw t
  obtain ⟨c, rest, hcons, -⟩ := hw.exists_head
  refine ⟨⟨c, rest ++ t, by rw [hcons]; rfl, ?_, ?_⟩, fun u hu => ?_⟩
  · rw [hcons] at hstart
    exact (hstart c rfl).1
  · rw [hcons] at hends
    exact hends c rfl
  · rw [List.append_assoc, hw.length_eq (ht u hu), List.take_left]
    exact hclaimed

/-! ### Operands -/

/-- The text of an operand: it is read as an expression wherever it ends one, without an error, to a
depth that the number of its bytes allows for. -/
structure OperandText (d : Dialect) where
  text : List Char
  shape : Node
  kind_ne : shape.kind ≠ Node.errorKind
  hasError : shape.hasError = false
  starts : StartsOperand text
  reads : ∀ enclosed depth, Grammar.depthPerCharacter * byteLength text ≤ depth →
    Reads d (readers depth .expression) enclosed true (Before operandEnds) text shape

theorem StringText.startsOperand (t : StringText) : StartsOperand t.text := by
  have hquote : Lexeme.isSpace t.quote = false ∧ t.quote ∉ Lexeme.shortSymbols ∧
      t.quote ∈ Lexeme.marks ∧ t.quote ≠ '\\' := by
    rcases t.isQuote with h | h <;> rw [h] <;> decide
  obtain ⟨hspace, hsymbol, hmark, hne⟩ := hquote
  refine ⟨⟨t.quote, _, rfl, hspace, hsymbol⟩, fun u _ => ?_⟩
  have hends : Lexeme.EndsName (t.text ++ u) := .cons hmark hne _
  rw [Lexeme.name_of_endsName hends, List.take_zero]
  decide

/-- A string literal as an operand. -/
noncomputable def StringText.toOperand (t : StringText) (d : Dialect) : OperandText d where
  text := t.text
  shape := (t.exists_reads_access d).choose
  kind_ne := by
    rw [(t.exists_reads_access d).choose_spec.1]
    decide
  hasError := (t.exists_reads_access d).choose_spec.2.1
  starts := t.startsOperand
  reads enclosed depth hdepth := by
    obtain ⟨k, rfl, -⟩ := exists_depth (m := 6) (by decide) (List.cons_ne_nil _ _) hdepth
    exact t.startsOperand.reads_expression ((t.exists_reads_access d).choose_spec.2.2 enclosed k)

theorem FunctionParts.startsOperand (f : FunctionParts d) : StartsOperand f.text := by
  rw [text]
  cases f.async with
  | none =>
    rw [headText_none]
    exact .of_name isName_function (by decide) fun u _ => f.endsName_restText u
  | some gap =>
    rw [headText_some, List.append_assoc]
    refine .of_name isName_async (by decide) fun u _ => ?_
    rw [List.append_assoc, List.append_assoc]
    exact gap.endsName _

/-- A function as an operand. -/
def FunctionParts.toOperand (f : FunctionParts d) : OperandText d where
  text := f.text
  shape := f.shape
  kind_ne := by
    have hkind : f.shape.kind = "function_expression" := rfl
    rw [hkind]
    decide
  hasError := f.hasError_shape
  starts := f.startsOperand
  reads enclosed depth hdepth := by
    obtain ⟨k, rfl, hk⟩ := exists_depth (m := 8) (by decide) f.text_ne_nil hdepth
    have hfits : f.FitsIn (k + 2) := fun b hb =>
      Nat.le_add_right_of_le (hk _ (f.byteLength_statement b hb))
    have haccess : Reads d (readers (k + 5) .access) enclosed false (Before operandEnds) f.text
        f.shape := by
      intro n place parts before ws u hws hrest hplace hu
      obtain ⟨node, hnode, hgoes⟩ := f.reads hfits n place parts before ws u hws hrest hplace hu
      exact ⟨node, hnode, goes_access_of_function hgoes (hu.atMarks operandEnds_subset
        (Cursor.rest_past_text hrest) (hplace.past_text hrest))⟩
    exact f.startsOperand.reads_expression haccess

/-! ### Members and calls -/

/-- A member or a call after an operand. -/
inductive SuffixText (d : Dialect) where
  | member (beforeDot afterDot : Blanks) (name : List Char) (isName : Lexeme.IsName name)
  | call (front : Blanks) (arguments : Items (OperandText d)) (back : Blanks)

/-- The characters of arguments in parentheses. -/
def argumentsText (arguments : Items (OperandText d)) (back : Blanks) : List Char :=
  arguments.inParentheses OperandText.text back

/-- The shape of arguments in parentheses. -/
def argumentsShape (arguments : Items (OperandText d)) (back : Blanks) : Node :=
  arguments.shapeInParentheses "arguments" OperandText.text OperandText.shape back

theorem hasError_argumentsShape (arguments : Items (OperandText d)) (back : Blanks) :
    (argumentsShape arguments back).hasError = false :=
  arguments.hasError_shapeInParentheses _ _ back fun a _ => a.hasError

/-- **Operands in parentheses are read as the arguments of a call.** -/
theorem Reader.reads_arguments (items : Items (OperandText d)) (back : Blanks)
    (hdepth : ∀ a ∈ items.toList, Grammar.depthPerCharacter * byteLength a.text ≤ depth) :
    Reads d (arguments (readers depth)) enclosed false (fun _ => True) (argumentsText items back)
      (argumentsShape items back) := by
  have hends : ∀ u, Before itemEnds u → Before operandEnds u := fun u hu =>
    hu.mono (Lexeme.forall_mem_of_all (by decide))
  have hitem : ∀ a ∈ items.toList, Reads d (first [spread (readers depth), readers depth .expression])
      true true (Before itemEnds) a.text a.shape := by
    refine fun a ha => .first (fun before ws hws n place parts u hrest hplace hu => ?_)
      ((a.reads true depth (hdepth a ha)).mono hends)
    rw [List.append_assoc] at hrest
    refine sticks_node (sticks_seq_head (sticks_symbol ?_))
    rw [a.starts.symbol_after hws hrest hplace]
    decide
  exact ReadsAll.node _ (fun before => .within (readsAll_parentheses items back hitem fun n s hs =>
    sticks_first_cons (sticks_spread_of_stop hs)
      (sticks_readers hs depth .expression (by decide) (by decide)))) (by rw [kind_leafShape]; decide)

namespace SuffixText

/-- The characters of a member or a call. -/
def text : SuffixText d → List Char
  | member beforeDot afterDot name _ => beforeDot.1 ++ ('.' :: (afterDot.1 ++ name))
  | call front items back => front.1 ++ argumentsText items back

/-- The shape of a member or a call of an operand. -/
def shapeAfter (sofar : List Char) (shape : Node) : SuffixText d → Node
  | s@(member _ _ name _) => shapeOver "member_expression" noFields (sofar ++ s.text)
    [shape, leafShape "." false ['.'], leafShape "property_identifier" true name]
  | s@(call _ items back) => shapeOver "call_expression" noFields (sofar ++ s.text)
    [shape, argumentsShape items back]

/-- A depth is enough for all arguments. -/
def FitsIn (depth : Nat) : SuffixText d → Prop
  | member .. => True
  | call _ items _ => ∀ a ∈ items.toList, Grammar.depthPerCharacter * byteLength a.text ≤ depth

/-- **A member or a call is read after an operand**, into one node with it. -/
theorem exists_goes (t : SuffixText d) (ht : t.FitsIn depth) (parts : List Part)
    {sofar : List Char} {node : Node} (hrest : start.rest = sofar ++ (t.text ++ u))
    (hstart : start.EndsAt n) (hu : Lexeme.EndsName u) (hnode : node.kind ≠ Node.errorKind) :
    ∃ node' : Node, node'.unplaced = t.shapeAfter sofar node.unplaced ∧
      Goes (suffix (readers depth) parts.length) (.plain d n)
        (after d n (start.past sofar) (⟨start, node⟩ :: parts) enclosed before)
        (after d n (start.past (sofar ++ t.text)) (⟨start, node'⟩ :: parts) enclosed false) := by
  cases t with
  | member beforeDot afterDot name isName =>
    have hname : Reads d memberName enclosed false Lexeme.EndsName name
        (leafShape "property_identifier" true name) :=
      (reads_anyName "property_identifier" enclosed isName).first_head
    have hends : ∀ v, EndsSymbol (afterDot.1 ++ name ++ v) := fun v => by
      rw [List.append_assoc]
      exact endsSymbol_append afterDot.2 (endsSymbol_name isName v)
    have hmember : ReadsOn d (seq [symbol ".", memberName]) enclosed before false Lexeme.EndsName
        (beforeDot.1 ++ ('.' :: (afterDot.1 ++ name))) [leafShape "." false ['.'],
          leafShape "property_identifier" true name] :=
      ((reads_symbol "." (by decide) (by decide) (by decide)).all.seq (hname.on afterDot.2)
        fun v _ => hends v).on beforeDot.2
    obtain ⟨node', hnode', hgoes⟩ := hmember.exists_goes_gather "member_expression" parts hrest hstart
      hu hnode
    exact ⟨node', hnode', goes_first_head (goes_first_head hgoes)⟩
  | call front items back =>
    have hcall : ReadsOn d (seq [arguments (readers depth)]) enclosed before false (fun _ => True)
        (front.1 ++ argumentsText items back) [argumentsShape items back] :=
      (reads_arguments items back ht).on front.2
    obtain ⟨node', hnode', hgoes⟩ := hcall.exists_goes_gather "call_expression" parts hrest hstart
      trivial hnode
    have hopen : (start.past sofar).rest = front.1 ++ '(' :: (items.textOf OperandText.text ++
        (back.1 ++ [')']) ++ u) := by
      rw [Cursor.rest_past hrest, text, argumentsText, Items.inParentheses]
      simp only [List.append_assoc, List.cons_append]
    obtain ⟨-, hsymbol, -⟩ := atMark (d := d) (⟨start, node⟩ :: parts) enclosed before (by decide)
      front.2 hopen (hstart.past hrest)
    refine ⟨node', hnode', goes_first (sticks_first_cons ?_ ?_) (goes_first_head hgoes)⟩
    · exact sticks_seq_head (sticks_symbol (by rw [hsymbol]; decide))
    · exact sticks_seq_head (sticks_within (sticks_seq_head (sticks_symbol (by
        rw [show _ = ['('] from hsymbol]; decide))))

theorem text_ne_nil (t : SuffixText d) : t.text ≠ [] := by
  cases t <;> simp [text, argumentsText, Items.inParentheses]

theorem kind_shapeAfter (t : SuffixText d) (sofar : List Char) (shape : Node) :
    (t.shapeAfter sofar shape).kind ≠ Node.errorKind := by
  cases t with
  | member beforeDot afterDot name isName =>
    have hkind : ((member (d := d) beforeDot afterDot name isName).shapeAfter sofar shape).kind =
      "member_expression" := rfl
    rw [hkind]
    decide
  | call front items back =>
    have hkind : ((call front items back).shapeAfter sofar shape).kind = "call_expression" := rfl
    rw [hkind]
    decide

theorem hasError_shapeAfter (t : SuffixText d) (sofar : List Char) {shape : Node}
    (hshape : shape.hasError = false) : (t.shapeAfter sofar shape).hasError = false := by
  cases t with
  | member beforeDot afterDot name isName =>
    simp [shapeAfter, hshape]
  | call front items back =>
    simp [shapeAfter, hshape, hasError_argumentsShape]

end SuffixText

/-! ### Names with members and calls -/

/-- The marks that follow a name or a member of an operand. -/
def chainMarks : List Char := '.' :: '(' :: operandEnds

theorem chainMarks_subset : ∀ c ∈ chainMarks, (c ∈ Lexeme.marks ∧ c ≠ '\\') ∧
    Lexeme.isSpace c = false ∧ c ≠ '/' := Lexeme.forall_mem_of_all (by decide)

/-- A name with members and calls after it. -/
structure ChainText (d : Dialect) where
  name : NameText
  suffixes : List (SuffixText d)

namespace ChainText

/-- The characters of members and calls. -/
def suffixesText (suffixes : List (SuffixText d)) : List Char := suffixes.flatMap SuffixText.text

/-- The shape of members and calls of an operand. -/
def shapeAfter (sofar : List Char) (shape : Node) : List (SuffixText d) → Node
  | [] => shape
  | t :: suffixes => shapeAfter (sofar ++ t.text) (t.shapeAfter sofar shape) suffixes

theorem before_suffixes {marks : List Char} (suffixes : List (SuffixText d)) (hu : Before marks u) :
    Before ('.' :: '(' :: marks) (suffixesText suffixes ++ u) := by
  cases suffixes with
  | nil => exact hu.mono fun c hc => List.mem_cons_of_mem _ (List.mem_cons_of_mem _ hc)
  | cons t suffixes =>
    rw [suffixesText, List.flatMap_cons, List.append_assoc]
    cases t with
    | member beforeDot afterDot name isName =>
      rw [SuffixText.text, List.append_assoc]
      exact Before.cons beforeDot.2 (by simp) _
    | call front items back =>
      rw [SuffixText.text, List.append_assoc]
      exact Before.cons front.2 (by simp) _

theorem endsName_suffixes (suffixes : List (SuffixText d)) (hu : Before operandEnds u) :
    Lexeme.EndsName (suffixesText suffixes ++ u) :=
  (before_suffixes suffixes hu).endsName fun c hc => (chainMarks_subset c hc).1

/-- **Members and calls are read one after the other.** -/
theorem exists_repeats (suffixes : List (SuffixText d)) (hfits : ∀ t ∈ suffixes, t.FitsIn depth)
    (parts : List Part) {sofar : List Char} {node : Node}
    (hrest : start.rest = sofar ++ (suffixesText suffixes ++ u)) (hstart : start.EndsAt n)
    (hu : Before operandEnds u) (hnode : node.kind ≠ Node.errorKind) :
    ∃ node' : Node, node'.unplaced = shapeAfter sofar node.unplaced suffixes ∧
      Repeats (suffix (readers depth) parts.length) (.plain d n)
        (after d n (start.past sofar) (⟨start, node⟩ :: parts) enclosed false)
        (after d n (start.past (sofar ++ suffixesText suffixes)) (⟨start, node'⟩ :: parts) enclosed
          false) := by
  induction suffixes generalizing sofar node with
  | nil =>
    rw [suffixesText, List.flatMap_nil, List.append_nil]
    exact ⟨node, rfl, .stop (sticks_suffix_of_end (hu.atMarks operandEnds_subset
      (Cursor.rest_past hrest) (hstart.past hrest)) _)⟩
  | cons t suffixes ih =>
    obtain ⟨ht, hsuffixes⟩ := List.forall_mem_cons.1 hfits
    rw [suffixesText, List.flatMap_cons, List.append_assoc] at hrest
    obtain ⟨between, hbetween, hgoes⟩ := t.exists_goes ht parts hrest hstart
      (endsName_suffixes suffixes hu) hnode
    have hkind : between.kind ≠ Node.errorKind := by
      rw [← Node.kind_unplaced, hbetween]
      exact t.kind_shapeAfter _ _
    have hfurther : start.rest = (sofar ++ t.text) ++ (suffixesText suffixes ++ u) := by
      rw [hrest, List.append_assoc]
      rfl
    obtain ⟨node', hnode', hrepeats⟩ := ih hsuffixes hfurther hkind
    refine ⟨node', by rw [hnode', hbetween]; rfl, ?_⟩
    rw [suffixesText, List.flatMap_cons, ← List.append_assoc]
    refine .step hgoes ?_ hrepeats
    have hpast : (start.past sofar).rest = t.text ++ (suffixesText suffixes ++ u) :=
      Cursor.rest_past hrest
    have hlt := Cursor.offset_lt_past hpast t.text_ne_nil
    rwa [Cursor.past_past] at hlt

end ChainText

/-- A name that no arrow follows is neither an arrow function nor a function. -/
theorem NameText.reads_primary (a : NameText) (depth : Nat) :
    Reads d (readers (depth + 1) .primary) enclosed false (Before chainMarks) a.text
      (leafShape "identifier" true a.text) := by
  have hends : ∀ u, Before chainMarks u → Lexeme.EndsName u := fun u hu =>
    hu.endsName fun c hc => (chainMarks_subset c hc).1
  have hname : ∀ {p : Reader} {before : Bool} {ws : List Char}, Blank ws →
      (∀ n s, State.AtName a.text s → Sticks p (.plain d n) s) →
      SticksAt d p enclosed before (Before chainMarks) (ws ++ a.text) := fun hws hp =>
    SticksAt.of_name_alone a.isName hends hws hp
  have harrow : ∀ {before ws}, Blank ws → SticksAt d (seq [identifier, arrow (readers depth)])
      enclosed before (Before chainMarks) (ws ++ a.text) := by
    intro before ws hws
    have hsticks : SticksAt d (seq [arrow (readers depth)]) enclosed false (Before chainMarks) [] :=
      fun n place parts u hrest hplace hu => sticks_seq_head (sticks_seq_head (sticks_symbol
        (hu.symbol_ne (fun c hc => (chainMarks_subset c hc).2) (by decide) hrest hplace _)))
    have hseq : SticksAt d (seq [identifier, arrow (readers depth)]) enclosed before
        (Before chainMarks) (ws ++ (a.text ++ [])) :=
      a.reads_identifier.all.sticksAt_seq hsticks hends hws
    rwa [List.append_nil] at hseq
  refine Reads.of_goes (p := readers (depth + 1) .primary) (q := first [arrowFunction (readers depth),
    functionExpression (readers depth), identifier, valueWord, classExpression (readers depth),
    creation (readers depth), importOperand]) (.first (fun before ws hws => ?_)
      (.first (fun before ws hws => hname hws fun n s hs => ?_)
        (.first_head (a.reads_identifier.mono hends)))) ?_
  · refine (hname hws fun n s hs => ?_).first ((harrow hws).node _ |>.first
      ((hname hws fun n s hs => ?_).first (hname hws fun n s hs => ?_)))
    · exact sticks_node (sticks_seq_head (a.sticks_word (by decide) hs))
    · exact sticks_node (sticks_seq_head (a.sticks_word (by decide) hs))
    · exact sticks_node (sticks_arrowSignature_of_symbol hs.symbol depth)
  · have hhead : Sticks functionHead (.plain d n) s :=
      sticks_seq_maybe (a.sticks_word (by decide) hs) (sticks_seq_head (a.sticks_word (by decide) hs))
    exact sticks_first_cons (sticks_node (sticks_seq_head hhead))
      (sticks_node (sticks_seq_head hhead))
  · intro n place parts before ws u hws hrest hplace hu s' hgoes
    refine goes_choose_of_true (fun f => ?_) hgoes
    rw [State.far_name, (atName_after a.isName hws hrest (hends u hu) hplace).name,
      Bool.not_eq_true', List.isEmpty_eq_false_iff]
    exact a.isName.ne_nil

namespace ChainText

variable (a : ChainText d)

/-- The characters of a name with members and calls. -/
def text : List Char := a.name.text ++ suffixesText a.suffixes

/-- The shape of a name with members and calls. -/
def shape : Node := shapeAfter a.name.text (leafShape "identifier" true a.name.text) a.suffixes

theorem kind_shapeAfter {sofar : List Char} {shape : Node} (suffixes : List (SuffixText d))
    (hshape : shape.kind ≠ Node.errorKind) :
    (shapeAfter sofar shape suffixes).kind ≠ Node.errorKind := by
  induction suffixes generalizing sofar shape with
  | nil => exact hshape
  | cons t suffixes ih => exact ih (t.kind_shapeAfter sofar shape)

theorem hasError_shapeAfter {sofar : List Char} {shape : Node} (suffixes : List (SuffixText d))
    (hshape : shape.hasError = false) : (shapeAfter sofar shape suffixes).hasError = false := by
  induction suffixes generalizing sofar shape with
  | nil => exact hshape
  | cons t suffixes ih => exact ih (t.hasError_shapeAfter sofar hshape)

theorem text_ne_nil : a.text ≠ [] := by
  simp [text, a.name.isName.ne_nil]

/-- A chain is longer than each of its arguments. -/
theorem byteLength_argument {front back : Blanks} {items : Items (OperandText d)}
    (hcall : .call front items back ∈ a.suffixes) {b : OperandText d} (hb : b ∈ items.toList) :
    byteLength b.text < byteLength a.text := by
  have hwithin : b.text <:+: suffixesText a.suffixes := by
    obtain ⟨before, after, hitems⟩ := Items.isInfix_textOf hb OperandText.text
    obtain ⟨fore, rear, hsuffixes⟩ := List.append_of_mem hcall
    refine ⟨suffixesText fore ++ (front.1 ++ '(' :: before),
      after ++ (back.1 ++ [')']) ++ suffixesText rear, ?_⟩
    simp [suffixesText, hsuffixes, SuffixText.text, argumentsText, Items.inParentheses, ← hitems]
  have hpos := Cursor.byteLength_pos a.name.isName.ne_nil
  have hle := Cursor.byteLength_le_of_within hwithin
  rw [text, Cursor.byteLength_append]
  omega

theorem startsOperand : StartsOperand a.text := by
  have hown : ∀ w ∈ claimedWords, w ∈ ownWords := by decide
  exact .of_name a.name.isName (fun hclaimed => a.name.isFree (hown _ hclaimed)) fun u hu =>
    endsName_suffixes a.suffixes hu

/-- **A name with members and calls is read as an operand.** -/
theorem reads_access (hfits : ∀ t ∈ a.suffixes, t.FitsIn (depth + 1)) :
    Reads d (readers (depth + 2) .access) enclosed false (Before operandEnds) a.text a.shape := by
  intro n place parts before ws u hws hrest hplace hu
  rw [text, List.append_assoc] at hrest
  obtain ⟨node, hnode, hprimary⟩ := a.name.reads_primary depth n place parts before ws _ hws hrest
    hplace (before_suffixes a.suffixes hu)
  have hkind : node.kind ≠ Node.errorKind := by
    rw [← Node.kind_unplaced, hnode, kind_leafShape]
    decide
  obtain ⟨node', hnode', hrepeats⟩ := exists_repeats a.suffixes hfits parts (Cursor.rest_past hrest)
    (hplace.past hrest) hu hkind
  rw [Cursor.past_past, Cursor.past_past, ← text] at hrepeats
  refine ⟨node', by rw [hnode', hnode, shape], goes_chain hprimary (hrepeats.goes_many ?_)⟩
  have hall : place.rest = ws ++ (a.text ++ u) := by
    rw [hrest, text, List.append_assoc]
  exact (hplace.past_text hall).offset_le

/-- A name with members and calls as an operand. -/
def toOperand : OperandText d where
  text := a.text
  shape := a.shape
  kind_ne := kind_shapeAfter a.suffixes (by rw [kind_leafShape]; decide)
  hasError := hasError_shapeAfter a.suffixes rfl
  starts := a.startsOperand
  reads enclosed depth hdepth := by
    obtain ⟨k, rfl, hk⟩ := exists_depth (m := 5) (by decide) a.text_ne_nil hdepth
    refine a.startsOperand.reads_expression (a.reads_access fun t ht => ?_)
    cases t with
    | member => trivial
    | call front items back =>
      exact fun b hb => Nat.le_succ_of_le (hk _ (a.byteLength_argument ht hb))

end ChainText

end Source

end PullNotes
