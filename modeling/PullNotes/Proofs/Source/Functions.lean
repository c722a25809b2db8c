import PullNotes.Proofs.Source.Sequences
import PullNotes.Proofs.Source.Values

/-!
# Functions

A function expression with names as parameters is read as such wherever it stands as a value, in all
dialects, if each of the statements in its braces is read as a statement.  Which texts are
statements is left open here.

* `StatementText`, `FunctionParts` : the texts of statements and functions.
* `readsAll_parentheses` : items in parentheses with commas between them.
* `FunctionParts.reads` : a function is read as a function, without an error.
* `FunctionParts.toText` : a function as a value of an object.
-/

namespace PullNotes

namespace Source

open State (after)
open Grammar (readers)
open Reader

variable {d : Dialect} {n : Nat} {place : Cursor} {parts : List Part} {enclosed before operand : Bool}
  {ws u : List Char} {shapes : List Node} {depth : Nat} {s s' : State}

namespace Reader

/-! ### What may be left out -/

/-- Where no such word is, none stands in front of a parameter. -/
theorem goes_parameterWords (hname : ∀ w ∈ parameterWords, s.name ≠ w.toList) :
    Goes (maybe (typed (many (parameter.beforeBinding (first (parameterWords.map word))))))
      (.plain d n) s s := by
  have hwords : Sticks (first (parameterWords.map word)) (.plain d n) s := by
    refine sticks_first fun p hp => ?_
    obtain ⟨w, hw, rfl⟩ := List.mem_map.1 hp
    exact sticks_word (hname w hw)
  have hmany : Goes (many (parameter.beforeBinding (first (parameterWords.map word)))) (.plain d n)
      s s := by
    refine goes_many_of_sticks fun f => ?_
    obtain ⟨e, he⟩ := hwords f
    rw [parameter.beforeBinding, he]
    exact ⟨e, rfl⟩
  cases htyped : d.isTyped
  · exact goes_maybe_of_sticks (sticks_choose_of_false (fun _ => htyped) sticks_fail)
  · exact goes_maybe (goes_choose_of_true (fun _ => htyped) hmany)

theorem sticks_ascription (h : s.symbol ≠ [':']) :
    Sticks (readers depth .ascription) (.plain d n) s := by
  cases depth with
  | zero => exact sticks_fail
  | succ depth => exact sticks_node (sticks_seq_head (sticks_symbol h))

theorem sticks_decorator (h : s.symbol ≠ ['@']) :
    Sticks (readers depth .decorator) (.plain d n) s := by
  cases depth with
  | zero => exact sticks_fail
  | succ depth => exact sticks_node (sticks_seq_head (sticks_symbol h))

theorem sticks_parameter_of_stop (h : s.AtStop) :
    Sticks (parameter (readers depth)) (.plain d n) s := by
  have hne : ∀ w ∈ parameterWords, ([] : List Char) ≠ w.toList := by decide
  refine sticks_node (sticks_seq_many (sticks_readers h depth .decorator (by decide) (by decide))
    (sticks_seq (goes_parameterWords fun w hw => h.name ▸ hne w hw)
      (sticks_seq_head (sticks_first_cons ?_ ?_))))
  · exact sticks_typed (sticks_word_of_stop h (by decide))
  · exact sticks_readers h depth .binding (by decide) (by decide)

end Reader

/-! ### Items in parentheses -/

/-- A further item of a list, with the blanks around the comma before it. -/
structure FurtherItem (α : Type) where
  beforeComma : Blanks
  afterComma : Blanks
  item : α

/-- Items of a list with commas between them, or none. -/
inductive Items (α : Type) where
  | empty
  | listed (front : Blanks) (initial : α) (more : List (FurtherItem α))

namespace Items

variable {α : Type}

/-- The items alone. -/
def toList : Items α → List α
  | empty => []
  | listed _ initial more => initial :: more.map FurtherItem.item

/-- The characters of a further item, with its comma. -/
def furtherText (text : α → List Char) (i : FurtherItem α) : List Char :=
  i.beforeComma.1 ++ (',' :: (i.afterComma.1 ++ text i.item))

/-- The characters of the items and of the commas between them. -/
def textOf (text : α → List Char) : Items α → List Char
  | empty => []
  | listed front initial more => front.1 ++ text initial ++ more.flatMap (furtherText text)

/-- The shapes of the items and of the commas between them. -/
def shapesOf (shape : α → Node) : Items α → List Node
  | empty => []
  | listed _ initial more => shape initial ::
    more.flatMap fun i => [leafShape "," false [','], shape i.item]

theorem hasError_of_mem_shapesOf (items : Items α) {shape : α → Node}
    (h : ∀ a ∈ items.toList, (shape a).hasError = false) :
    ∀ child ∈ items.shapesOf shape, child.hasError = false := by
  cases items with
  | empty => exact fun _ hchild => absurd hchild List.not_mem_nil
  | listed front initial more =>
    obtain ⟨hinitial, hmore⟩ := List.forall_mem_cons.1 h
    refine List.forall_mem_cons.2 ⟨hinitial, fun child hchild => ?_⟩
    obtain ⟨i, hi, hchild⟩ := List.mem_flatMap.1 hchild
    simp only [List.mem_cons, List.not_mem_nil, or_false] at hchild
    rcases hchild with rfl | rfl
    · rfl
    · exact hmore _ (List.mem_map_of_mem hi)

theorem isInfix_textOf {a : α} {items : Items α} (ha : a ∈ items.toList) (text : α → List Char) :
    text a <:+: items.textOf text := by
  cases items with
  | empty => exact absurd ha List.not_mem_nil
  | listed front initial more =>
    rcases List.mem_cons.1 ha with rfl | ha
    · exact ⟨front.1, more.flatMap (furtherText text), rfl⟩
    · obtain ⟨i, hi, rfl⟩ := List.mem_map.1 ha
      obtain ⟨fore, back, rfl⟩ := List.append_of_mem hi
      refine ⟨front.1 ++ text initial ++ (fore.flatMap (furtherText text) ++
        (i.beforeComma.1 ++ ',' :: i.afterComma.1)), back.flatMap (furtherText text), ?_⟩
      simp [textOf, furtherText]

/-- The characters of items in parentheses. -/
def inParentheses (text : α → List Char) (items : Items α) (back : Blanks) : List Char :=
  '(' :: (items.textOf text ++ (back.1 ++ [')']))

/-- The shape of items in parentheses. -/
def shapeInParentheses (kind : String) (text : α → List Char) (shape : α → Node) (items : Items α)
    (back : Blanks) : Node :=
  shapeOver kind noFields (items.inParentheses text back)
    (leafShape "(" false ['('] :: (items.shapesOf shape ++ [leafShape ")" false [')']]))

theorem hasError_shapeInParentheses (kind : String) (text : α → List Char) {shape : α → Node}
    (items : Items α) (back : Blanks) (h : ∀ a ∈ items.toList, (shape a).hasError = false) :
    (items.shapeInParentheses kind text shape back).hasError = false :=
  hasError_shapeOver _ _ _ _ rfl rfl (items.hasError_of_mem_shapesOf h)

end Items

/-- The marks that follow an item in parentheses. -/
def itemEnds : List Char := [',', ')']

theorem itemEnds_subset : ∀ c ∈ itemEnds, c ∈ Lexeme.singleMarks :=
  Lexeme.forall_mem_of_all (by decide)

section Parentheses

variable {α : Type} {item : Reader} {text : α → List Char} {shape : α → Node}

/-- A comma and the item after it. -/
theorem readsOn_further {i : FurtherItem α}
    (hitem : Reads d item true operand (Before itemEnds) (text i.item) (shape i.item)) :
    ReadsOn d (seq [symbol ",", maybe item]) true operand operand (Before itemEnds)
      (Items.furtherText text i) [leafShape "," false [','], shape i.item] :=
  ((reads_mark "," (by decide) (by decide)).all.seq (hitem.maybe.on i.afterComma.2)
    fun _ _ => trivial).on i.beforeComma.2

/-- The items of a list, up to the closing parenthesis. -/
theorem readsOn_listed {front : Blanks} {initial : α} {more : List (FurtherItem α)}
    (hitem : ∀ a ∈ (Items.listed front initial more).toList,
      Reads d item true operand (Before itemEnds) (text a) (shape a)) :
    ReadsOn d (sparse item) true before operand (Before [')'])
      ((Items.listed front initial more).textOf text)
      ((Items.listed front initial more).shapesOf shape) := by
  obtain ⟨hinitial, hmore⟩ := List.forall_mem_cons.1 hitem
  have hclosing : ∀ u, Before [')'] u → Before itemEnds u := fun u hu =>
    hu.mono (by simp [itemEnds])
  have hcomma : ∀ (i : FurtherItem α) u, Before itemEnds (Items.furtherText text i ++ u) := by
    intro i u
    rw [Items.furtherText, List.append_assoc]
    exact Before.cons i.beforeComma.2 (by decide) _
  have hmany : ReadsOn d (many (seq [symbol ",", maybe item])) true operand operand (Before [')'])
      (more.flatMap (Items.furtherText text))
      (more.flatMap fun i => [leafShape "," false [','], shape i.item]) := by
    refine ReadsOn.many (fun i hi => ⟨by simp [Items.furtherText], ?_⟩) (fun i _ => hcomma i)
      hclosing ?_
    · exact readsOn_further (hmore _ (List.mem_map_of_mem hi))
    · refine SticksAt.of_marks (Lexeme.forall_mem_of_all (by decide)) (fun u hu => hu) fun n s hs => ?_
      exact sticks_seq_head (sticks_symbol_of_marks hs (by decide))
  refine ReadsOn.seq (hinitial.maybe.on front.2) hmany fun u hu => ?_
  cases more with
  | nil => exact hclosing u hu
  | cons i more =>
    rw [List.flatMap_cons, List.append_assoc]
    exact hcomma i _

/-- **Items in parentheses are read one after the other**, with the commas between them. -/
theorem readsAll_parentheses (items : Items α) (back : Blanks)
    (hitem : ∀ a ∈ items.toList, Reads d item true operand (Before itemEnds) (text a) (shape a))
    (hstop : ∀ n s, State.AtStop s → Sticks item (.plain d n) s) :
    ReadsAll d (seq [symbol "(", sparse item, symbol ")"]) true before false (fun _ => True)
      (items.inParentheses text back)
      (leafShape "(" false ['('] :: (items.shapesOf shape ++ [leafShape ")" false [')']])) := by
  have hclosing : ∀ before, ReadsOn d (seq [symbol ")"]) true before false (fun _ => True)
      (back.1 ++ [')']) [leafShape ")" false [')']] := fun _ =>
    (reads_mark ")" (by decide) (by decide)).on back.2
  have hback : ∀ u, Before [')'] (back.1 ++ [')'] ++ u) := fun u => by
    rw [List.append_assoc]
    exact Before.cons back.2 (by decide) u
  refine (reads_mark "(" (by decide) (by decide)).all.seq ?_ fun _ _ => trivial
  cases items with
  | empty =>
    refine ReadsOn.pass (fun n place parts u hrest hplace _ => ?_) (hclosing false)
    have hmarks : (after d n place parts true false).AtMarks [')'] :=
      (hback u).atMarks (Lexeme.forall_mem_of_all (by decide)) hrest hplace
    have hatStop := hmarks.atStop (Lexeme.forall_mem_of_all (by decide))
    exact goes_seq (goes_maybe_of_sticks (hstop n _ hatStop)) (goes_seq_one (goes_many_of_sticks
      (sticks_seq_head (sticks_symbol_of_marks hmarks (by decide)))))
  | listed front initial more =>
    exact ReadsOn.seq (readsOn_listed hitem) (hclosing operand) fun u _ => hback u

end Parentheses

/-! ### Names and parameters -/

/-- The words that have a meaning of their own in some place. -/
def ownWords : List (List Char) := reservedWords ++ [
  "abstract", "as", "async", "await", "declare", "interface", "let", "module", "namespace", "private",
  "protected", "public", "override", "readonly", "satisfies", "type", "using", "undefined",
  "yield"].map String.toList

/-- The text of a name that stands for a value and for nothing else. -/
structure NameText where
  text : List Char
  isName : Lexeme.IsName text
  isFree : text ∉ ownWords

/-- The shape of a parameter. -/
def parameterShape (a : NameText) : Node :=
  shapeOver "required_parameter" noFields a.text [leafShape "identifier" true a.text]

namespace NameText

theorem not_mem_reservedWords (a : NameText) : a.text ∉ reservedWords :=
  fun h => a.isFree (List.mem_append_left _ h)

theorem ne_of_mem (a : NameText) {w : List Char} (hw : w ∈ ownWords) : a.text ≠ w :=
  fun h => a.isFree (h ▸ hw)

/-- None of the words stands where the name does. -/
theorem sticks_word (a : NameText) {w : String} (hw : w.toList ∈ ownWords) (hs : s.AtName a.text)
    {ctx : Context} : Sticks (word w) ctx s :=
  Reader.sticks_word (by rw [hs.name]; exact a.ne_of_mem hw)

theorem reads_identifier (a : NameText) :
    Reads d identifier enclosed false Lexeme.EndsName a.text (leafShape "identifier" true a.text) :=
  Reader.reads_identifier a.isName a.not_mem_reservedWords

/-- A name alone is bound. -/
theorem reads_binding (a : NameText) (depth : Nat) :
    Reads d (readers (depth + 1) .binding) enclosed false Lexeme.EndsName a.text
      (leafShape "identifier" true a.text) := by
  have hname : ∀ {p : Reader} {before : Bool} {ws : List Char}, Blank ws →
      (∀ n s, State.AtName a.text s → Sticks p (.plain d n) s) →
      SticksAt d p enclosed before Lexeme.EndsName (ws ++ a.text) := fun hws hp =>
    SticksAt.of_name_alone a.isName (fun _ hu => hu) hws hp
  have hbinding : Reads d (binding (readers depth)) enclosed false Lexeme.EndsName a.text
      (leafShape "identifier" true a.text) := by
    refine .first (fun before ws hws => hname hws fun n s hs => ?_)
      (.first (fun before ws hws => hname hws fun n s hs => ?_) (.first_head a.reads_identifier))
    · exact sticks_node (sticks_within (sticks_seq_head
        (sticks_symbol_of_name (hs.within true) (by decide))))
    · exact sticks_node (sticks_within (sticks_seq_head
        (sticks_symbol_of_name (hs.within true) (by decide))))
  exact hbinding

/-- A name is bound by a parameter. -/
theorem reads_parameter (a : NameText) (depth : Nat) :
    Reads d (parameter (readers (depth + 1))) true false (Before itemEnds) a.text
      (parameterShape a) := by
  have hends : ∀ u, Before itemEnds u → Lexeme.EndsName u := fun u hu =>
    hu.endsName (Lexeme.forall_mem_of_all (by decide))
  have hname : ∀ {p : Reader} {before : Bool} {ws : List Char}, Blank ws →
      (∀ n s, State.AtName a.text s → Sticks p (.plain d n) s) →
      SticksAt d p true before (Before itemEnds) (ws ++ a.text) := fun hws hp =>
    SticksAt.of_name_alone a.isName hends hws hp
  have hmarks : ∀ {p : Reader} {before : Bool},
      (∀ n s, State.AtMarks itemEnds s → Sticks p (.plain d n) s) →
      SticksAt d p true before (Before itemEnds) [] := fun hp =>
    SticksAt.of_marks itemEnds_subset (fun _ hu => hu) hp
  have hbinding : Reads d (first [typed (word "this"), readers (depth + 1) .binding]) true false
      (Before itemEnds) a.text (leafShape "identifier" true a.text) :=
    .first (fun before ws hws => hname hws fun n s hs => sticks_typed (a.sticks_word (by decide) hs))
      ((a.reads_binding depth).mono hends)
  refine ReadsAll.node _ (fun before => .pass (fun ws hws => (hname hws fun n s hs => ?_).many)
    (.pass (fun ws hws n place parts u hrest hplace hu => ?_)
      (.seq_passes hbinding.all (.seq (hmarks fun n s hs => ?_).maybe
        (.seq (hmarks fun n s hs => ?_).maybe (hmarks fun n s hs => ?_).maybe)) fun u hu => hu)))
    (by rw [kind_leafShape]; decide)
  · exact sticks_decorator (by rw [hs.symbol]; decide)
  · rw [List.append_assoc] at hrest
    have hown : ∀ w ∈ parameterWords, w.toList ∈ ownWords := by decide
    refine goes_parameterWords fun w hw => ?_
    rw [(atName_after a.isName hws hrest (hends u hu) hplace).name]
    exact a.ne_of_mem (hown w hw)
  · exact sticks_typed (sticks_symbol_of_marks hs (by decide))
  · exact sticks_typed (sticks_ascription fun hcolon => absurd (hcolon ▸ hs.symbol_mem) (by decide))
  · exact sticks_seq_head (sticks_symbol_of_marks hs (by decide))

end NameText

/-- The characters of parameters in parentheses. -/
def parametersText (parameters : Items NameText) (back : Blanks) : List Char :=
  parameters.inParentheses NameText.text back

/-- The shape of parameters in parentheses. -/
def parametersShape (parameters : Items NameText) (back : Blanks) : Node :=
  parameters.shapeInParentheses "formal_parameters" NameText.text parameterShape back

theorem hasError_parametersShape (parameters : Items NameText) (back : Blanks) :
    (parametersShape parameters back).hasError = false :=
  parameters.hasError_shapeInParentheses _ _ back fun _ _ => rfl

theorem Reader.reads_parameters (parameters : Items NameText) (back : Blanks) (depth : Nat) :
    Reads d (readers (depth + 2) .parameters) enclosed false (fun _ => True)
      (parametersText parameters back) (parametersShape parameters back) :=
  ReadsAll.node _ (fun _ => .within (.withArrows (readsAll_parentheses parameters back
    (fun a _ => a.reads_parameter depth) fun _ _ hs => sticks_parameter_of_stop hs)))
    (by rw [kind_leafShape]; decide)

/-- **Names in parentheses are the signature of a function** where its body follows. -/
theorem Reader.reads_signature (parameters : Items NameText) (back : Blanks) (depth : Nat) :
    Reads d (readers (depth + 3) .signature) enclosed false (Before ['\x7b'])
      (parametersText parameters back) (parametersShape parameters back) := by
  intro n place parts before ws u hws hrest hplace hu
  have hopen : place.rest = ws ++ '(' :: (parameters.textOf NameText.text ++ (back.1 ++ [')']) ++ u) :=
    hrest
  obtain ⟨-, -, hcursor⟩ := atMark (d := d) parts enclosed before (by decide) hws hopen hplace
  have hangle : Sticks (opening '<') (.plain d n)
      { after d n place parts enclosed before with enclosed := true } := by
    refine sticks_opening fun hhead => ?_
    have hcursor' : (after d n place parts enclosed before).cursor.rest.head? = some '(' := by
      rw [hcursor]
      rfl
    exact absurd (hcursor'.symm.trans hhead) (by decide)
  have htypes : Sticks (typed (readers (depth + 2) .typeParameters)) (.plain d n)
      (after d n place parts enclosed before) :=
    sticks_typed (sticks_node (sticks_within (sticks_seq_head hangle)))
  have hparameters : Reads d (readers (depth + 2) .parameters) enclosed false (fun _ => True)
      (parametersText parameters back) (parametersShape parameters back) :=
    reads_parameters parameters back depth
  obtain ⟨node, hnode, hgoes⟩ := hparameters n place parts before ws u hws hrest hplace trivial
  have hbrace : (after d n (place.past (ws ++ parametersText parameters back))
      (⟨place.past ws, node⟩ :: parts) enclosed false).AtMarks ['\x7b'] :=
    hu.atMarks (Lexeme.forall_mem_of_all (by decide)) (Cursor.rest_past_text hrest)
      (hplace.past_text hrest)
  exact ⟨node, hnode, goes_seq (goes_maybe_of_sticks htypes) (goes_seq hgoes (goes_seq_one
    (goes_maybe_of_sticks (sticks_typed (sticks_ascription fun hcolon =>
      absurd (hcolon ▸ hbrace.symbol_mem) (by decide))))))⟩

/-! ### Depth -/

/-- The depth that the bytes of a text allow for is enough for some rules within one another and
then for any shorter text. -/
theorem exists_depth {m : Nat} {cs : List Char} (hm : m ≤ Grammar.depthPerCharacter) (hcs : cs ≠ [])
    (h : Grammar.depthPerCharacter * byteLength cs ≤ depth) : ∃ k, depth = k + m ∧ ∀ inner,
      byteLength inner < byteLength cs → Grammar.depthPerCharacter * byteLength inner ≤ k := by
  have hpos := Cursor.byteLength_pos hcs
  simp only [Grammar.depthPerCharacter] at hm h ⊢
  exact ⟨depth - m, by omega, fun inner hinner => by omega⟩

/-! ### Statements -/

/-- The text of a statement: the reader of statements reads it wherever it stands among statements,
up to its end and without an error, to a depth that the number of its bytes allows for. -/
structure StatementText (d : Dialect) where
  text : List Char
  shape : Node
  ne_nil : text ≠ []
  hasError : shape.hasError = false
  reads : ∀ depth, Grammar.depthPerCharacter * byteLength text ≤ depth →
    Reads d (readers depth .statement) false false (fun _ => True) text shape

/-- A statement with the blanks before it. -/
structure BlankStatement (d : Dialect) where
  front : Blanks
  statement : StatementText d

/-- The characters of a statement with the blanks before it. -/
def BlankStatement.text (b : BlankStatement d) : List Char := b.front.1 ++ b.statement.text

/-- The characters of statements in braces. -/
def bodyText (statements : List (BlankStatement d)) (back : Blanks) : List Char :=
  '\x7b' :: (statements.flatMap BlankStatement.text ++ (back.1 ++ ['\x7d']))

/-- The shape of statements in braces. -/
def bodyShape (statements : List (BlankStatement d)) (back : Blanks) : Node :=
  shapeOver "statement_block" noFields (bodyText statements back)
    (leafShape "\x7b" false ['\x7b'] ::
      (statements.map (·.statement.shape) ++ [leafShape "\x7d" false ['\x7d']]))

/-- **Statements in braces are read as the body of a function.** -/
theorem Reader.reads_body (statements : List (BlankStatement d)) (back : Blanks)
    (hdepth : ∀ b ∈ statements, Grammar.depthPerCharacter * byteLength b.statement.text ≤ depth) :
    Reads d (body (readers (depth + 1))) enclosed false (fun _ => True)
      (bodyText statements back) (bodyShape statements back) := by
  have hmany : ReadsOn d (many (readers depth .statement)) false false false (Before ['\x7d'])
      (statements.flatMap BlankStatement.text) (statements.flatMap fun b => [b.statement.shape]) := by
    refine ReadsOn.many (G := fun _ => True) (fun b hb => ⟨?_, ?_⟩) (fun _ _ _ => trivial)
      (fun _ _ => trivial) ?_
    · simp [BlankStatement.text, b.statement.ne_nil]
    · exact (b.statement.reads depth (hdepth b hb)).on b.front.2
    · refine SticksAt.of_marks (Lexeme.forall_mem_of_all (by decide)) (fun u hu => hu) fun n s hs => ?_
      exact sticks_readers (hs.atStop (Lexeme.forall_mem_of_all (by decide))) depth .statement
        (by decide) (by decide)
  have hbraces : ∀ before, ReadsAll d (seq [symbol "\x7b", many (readers depth .statement),
      symbol "\x7d"]) false before false (fun _ => True) (bodyText statements back)
      (leafShape "\x7b" false ['\x7b'] :: (statements.flatMap (fun b => [b.statement.shape]) ++
        [leafShape "\x7d" false ['\x7d']])) := fun before => by
    refine (reads_mark "\x7b" (by decide) (by decide)).all.seq (ReadsOn.seq hmany
      ((reads_mark "\x7d" (by decide) (by decide)).on back.2) fun u _ => ?_) fun _ _ => trivial
    rw [List.append_assoc]
    exact Before.cons back.2 (by decide) u
  rw [← List.map_eq_flatMap] at hbraces
  exact .within (ReadsAll.node _ (fun before => .within (hbraces before))
    (by rw [kind_leafShape]; decide))

/-! ### Functions -/

/-- Blanks between tokens, and at least one. -/
abbrev Gap := { ws : List Char // Blank ws ∧ ws ≠ [] }

theorem Gap.endsName (gap : Gap) (u : List Char) : Lexeme.EndsName (gap.1 ++ u) := by
  obtain ⟨ws, hws, hne⟩ := gap
  cases ws with
  | nil => exact absurd rfl hne
  | cons w ws => exact endsName_blank (hws w List.mem_cons_self) _

/-- The parts of a function expression, with the blanks between its tokens. -/
structure FunctionParts (d : Dialect) where
  /-- The blanks after the word in front of an asynchronous function. -/
  async : Option Gap
  name : Option (Gap × NameText)
  beforeParameters : Blanks
  parameters : Items NameText
  beforeClosing : Blanks
  beforeBody : Blanks
  statements : List (BlankStatement d)
  beforeEnd : Blanks

theorem isName_function : Lexeme.IsName "function".toList := .of_all (by decide) (by decide)

theorem isName_async : Lexeme.IsName "async".toList := .of_all (by decide) (by decide)

/-- The words with which a function starts. -/
def headText : Option Gap → List Char
  | none => "function".toList
  | some gap => "async".toList ++ (gap.1 ++ "function".toList)

/-- The shapes of the words with which a function starts. -/
def headShapes : Option Gap → List Node
  | none => [leafShape "function" false "function".toList]
  | some _ => [leafShape "async" false "async".toList, leafShape "function" false "function".toList]

@[simp] theorem headText_none : headText none = "function".toList := rfl

@[simp] theorem headText_some (gap : Gap) :
    headText (some gap) = "async".toList ++ (gap.1 ++ "function".toList) := rfl

theorem exists_headText (async : Option Gap) :
    ∃ w t, Lexeme.IsName w ∧ headText async = w ++ t := by
  cases async with
  | none => exact ⟨"function".toList, [], isName_function, (List.append_nil _).symm⟩
  | some gap => exact ⟨"async".toList, _, isName_async, rfl⟩

theorem readsAll_head (async : Option Gap) :
    ReadsAll d functionHead enclosed before false Lexeme.EndsName (headText async)
      (headShapes async) := by
  have hfunction : Reads d (word "function") enclosed false Lexeme.EndsName "function".toList _ :=
    reads_word "function" isName_function
  cases async with
  | none =>
    refine .pass (fun ws hws => SticksAt.maybe ?_) hfunction.all
    refine SticksAt.of_name_alone isName_function (fun _ hu => hu) hws fun n s hs => sticks_word ?_
    rw [hs.name]
    decide
  | some gap =>
    refine (reads_word "async" isName_async).maybe.all.seq (hfunction.on gap.2.1) fun u _ => ?_
    rw [List.append_assoc]
    exact gap.endsName _

theorem startsToken_of_operandEnds {c : Char} (hc : c ∈ operandEnds) (v : List Char) :
    StartsToken (c :: v) := by
  have hends : ∀ c ∈ operandEnds, Lexeme.isSpace c = false ∧ c ≠ '/' :=
    Lexeme.forall_mem_of_all (by decide)
  exact .cons (hends c hc).1 (hends c hc).2

namespace Reader

/-- Before what ends an operand a function goes on to no other place. -/
theorem goes_upToImplied {p : Reader} (hp : Goes p (.plain d n) s s')
    (hafter : Before operandEnds s'.last.rest) : Goes (upToImplied p) (.plain d n) s s' := by
  obtain ⟨ws, c, v, hws, hc, hrest⟩ := hafter
  have hstart := startsToken_of_operandEnds hc v
  -- a mark after blanks starts no comment, and so no other place is implied
  have hcomment : Lexeme.comment (s'.last.advance (Lexeme.spaces s'.last.rest)).rest = 0 := by
    have hpast : (s'.last.past ws).rest = c :: v := Cursor.rest_past hrest
    rw [hrest, spaces_append hws hstart, ← Cursor.past, hpast]
    exact hstart.comment
  intro f
  obtain ⟨f', hp⟩ := hp f
  rw [upToImplied, hp]
  dsimp only
  rw [State.far_last, Semicolon.impliedPlace?]
  split
  · next heq =>
    split at heq
    · cases heq
      exact ⟨f', rfl⟩
    · simp only [hcomment] at heq
      cases heq
  · exact ⟨f', rfl⟩

theorem readsOn_functionRest {rules : Rules} {text : List Char} (h : ReadsOn d (seq
      [maybe identifier, rules .signature, body rules]) enclosed before operand (fun _ => True)
      text shapes) :
    ReadsOn d (functionRest rules) enclosed before operand (Before operandEnds) text shapes := by
  intro n place parts u hrest hplace hu
  obtain ⟨new, hnew, hgoes⟩ := h n place parts u hrest hplace trivial
  have hafter : Before operandEnds (after d n (place.past text) (new.reverse ++ parts) enclosed
      operand).last.rest := by
    rwa [State.after_last, Cursor.rest_past hrest]
  refine ⟨new, hnew, ?_⟩
  cases htyped : d.isTyped
  · exact goes_choose_of_false (fun _ => htyped) hgoes
  · exact goes_choose_of_true (fun _ => htyped) (goes_upToImplied hgoes hafter)

end Reader

namespace FunctionParts

variable (f : FunctionParts d)

/-- The characters of the name of a function, with the blanks before it. -/
def nameText : Option (Gap × NameText) → List Char
  | none => []
  | some (gap, a) => gap.1 ++ a.text

/-- The shape of the name of a function. -/
def nameShapes : Option (Gap × NameText) → List Node
  | none => []
  | some (_, a) => [leafShape "identifier" true a.text]

/-- The characters of a function after the words with which it starts. -/
def restText : List Char :=
  nameText f.name ++ (f.beforeParameters.1 ++ parametersText f.parameters f.beforeClosing ++
    (f.beforeBody.1 ++ bodyText f.statements f.beforeEnd))

/-- The characters of a function. -/
def text : List Char := headText f.async ++ f.restText

/-- The shapes of the parts of a function after the words with which it starts. -/
def restShapes : List Node :=
  nameShapes f.name ++ [parametersShape f.parameters f.beforeClosing,
    bodyShape f.statements f.beforeEnd]

/-- The shape of a function. -/
def shape : Node :=
  shapeOver "function_expression" noFields f.text (headShapes f.async ++ f.restShapes)

/-- A depth is enough for all statements. -/
def FitsIn (depth : Nat) : Prop :=
  ∀ b ∈ f.statements, Grammar.depthPerCharacter * byteLength b.statement.text ≤ depth

/-- What follows the name of a function, or its words. -/
theorem before_parameters (u : List Char) : Before ['('] (f.beforeParameters.1 ++
    parametersText f.parameters f.beforeClosing ++
      (f.beforeBody.1 ++ bodyText f.statements f.beforeEnd) ++ u) := by
  rw [List.append_assoc, List.append_assoc]
  exact Before.cons f.beforeParameters.2 (by decide) _

theorem endsName_restText (u : List Char) : Lexeme.EndsName (f.restText ++ u) := by
  cases hname : f.name with
  | none =>
    rw [restText, hname]
    exact (f.before_parameters u).endsName (Lexeme.forall_mem_of_all (by decide))
  | some name =>
    rw [restText, hname, nameText, List.append_assoc, List.append_assoc]
    exact name.1.endsName _

/-- The name, the parameters and the body of a function are read after its words. -/
theorem readsOn_restText (hdepth : f.FitsIn (depth + 2)) :
    ReadsOn d (functionRest (readers (depth + 3))) enclosed false false (Before operandEnds)
      f.restText f.restShapes := by
  have hbody : Reads d (body (readers (depth + 3))) enclosed false (fun _ => True) _ _ :=
    reads_body f.statements f.beforeEnd hdepth
  have hsignature : ReadsOn d (seq [readers (depth + 3) .signature, body (readers (depth + 3))])
      enclosed false false (fun _ => True) _ _ :=
    ReadsOn.seq ((reads_signature f.parameters f.beforeClosing depth).on f.beforeParameters.2)
      (hbody.on f.beforeBody.2) fun u _ => by
        rw [List.append_assoc]
        exact Before.cons f.beforeBody.2 (by decide) _
  refine readsOn_functionRest ?_
  cases hname : f.name with
  | none =>
    rw [restText, restShapes, hname]
    refine ReadsOn.pass (SticksAt.maybe (SticksAt.of_marks (Lexeme.forall_mem_of_all (by decide))
      (fun u _ => f.before_parameters u) fun n s hs => ?_)) hsignature
    exact sticks_identifier (Or.inl hs.name)
  | some name =>
    rw [restText, restShapes, hname]
    exact ReadsOn.seq (name.2.reads_identifier.maybe.on name.1.2.1) hsignature fun u _ =>
      (f.before_parameters u).endsName (Lexeme.forall_mem_of_all (by decide))

/-- No asterisk follows the words of a function. -/
theorem sticksAt_asterisk {F : List Char → Prop} {ps : List Reader} :
    SticksAt d (seq (symbol "*" :: ps)) enclosed before F f.restText := by
  refine SticksAt.seq_head ?_
  cases hname : f.name with
  | none =>
    rw [restText, hname]
    exact SticksAt.of_marks (Lexeme.forall_mem_of_all (by decide))
      (fun u _ => f.before_parameters u) fun n s hs => sticks_symbol_of_marks hs (by decide)
  | some name =>
    rw [restText, hname, nameText, List.append_assoc]
    exact SticksAt.of_name name.2.isName (fun u _ => (f.before_parameters u).endsName
      (Lexeme.forall_mem_of_all (by decide))) name.1.2.1 fun n s hs =>
        sticks_symbol_of_name hs (by decide)

/-- **A function is read as a function** in all dialects, wherever its end ends an operand. -/
theorem reads (hdepth : f.FitsIn (depth + 2)) :
    Reads d (functionExpression (readers (depth + 3))) enclosed false (Before operandEnds) f.text
      f.shape := by
  have hends : ∀ u, Before operandEnds u → Lexeme.EndsName (f.restText ++ u) := fun u _ =>
    f.endsName_restText u
  refine .first (fun before ws hws => SticksAt.node
    ((readsAll_head f.async).sticksAt_seq f.sticksAt_asterisk hends hws) _) (.first_head ?_)
  rw [shape, text]
  cases hasync : f.async with
  | none =>
    exact ReadsAll.node _ (fun before => (readsAll_head none).seq (f.readsOn_restText hdepth) hends)
      (by rw [kind_leafShape]; decide)
  | some gap =>
    exact ReadsAll.node _ (fun before => (readsAll_head (some gap)).seq (f.readsOn_restText hdepth)
      hends) (by rw [kind_leafShape]; decide)

theorem byteLength_statement (b : BlankStatement d) (hb : b ∈ f.statements) :
    byteLength b.statement.text < byteLength f.text := by
  have hwithin : b.statement.text <:+: f.restText := by
    obtain ⟨front, back, hstatements⟩ := List.append_of_mem hb
    refine ⟨nameText f.name ++ (f.beforeParameters.1 ++ parametersText f.parameters f.beforeClosing ++
      (f.beforeBody.1 ++ '\x7b' :: (front.flatMap BlankStatement.text ++ b.front.1))),
      back.flatMap BlankStatement.text ++ (f.beforeEnd.1 ++ ['\x7d']), ?_⟩
    simp [restText, bodyText, hstatements, BlankStatement.text]
  obtain ⟨w, t, hw, hhead⟩ := exists_headText f.async
  have hpos := Cursor.byteLength_pos hw.ne_nil
  have hle := Cursor.byteLength_le_of_within hwithin
  rw [text, hhead, Cursor.byteLength_append, Cursor.byteLength_append]
  omega

theorem text_ne_nil : f.text ≠ [] := by
  obtain ⟨w, t, hw, hhead⟩ := exists_headText f.async
  simp [text, hhead, hw.ne_nil]

theorem hasError_shape : f.shape.hasError = false := by
  have hhead : ∀ shape ∈ headShapes f.async, shape.hasError = false := by
    cases f.async <;> simp [headShapes]
  have hname : ∀ shape ∈ nameShapes f.name, shape.hasError = false := by
    cases f.name <;> simp [nameShapes]
  have hbody : (bodyShape f.statements f.beforeEnd).hasError = false :=
    hasError_shapeOver _ _ _ _ rfl rfl fun shape hshape => by
      obtain ⟨b, -, rfl⟩ := List.mem_map.1 hshape
      exact b.statement.hasError
  refine List.any_eq_false.2 fun shape hshape => ?_
  simp only [restShapes, List.mem_append, List.mem_cons, List.not_mem_nil, or_false] at hshape
  rcases hshape with hshape | hshape | rfl | rfl
  · simp [hhead shape hshape]
  · simp [hname shape hshape]
  · simp [hasError_parametersShape]
  · simp [hbody]

/-- A function as a value of an object. -/
def toText : FunctionText d where
  text := f.text
  shape := f.shape
  isFunction := by
    have hkind : f.shape.kind = "function_expression" := rfl
    rw [Node.isFunction, hkind]
    decide
  hasError := f.hasError_shape
  reads depth hdepth := by
    obtain ⟨k, rfl, hk⟩ := exists_depth (m := 3) (by decide) f.text_ne_nil hdepth
    exact (f.reads fun b hb => Nat.le_add_right_of_le (hk _ (f.byteLength_statement b hb))).mono
      fun u hu => hu.endsOperand

end FunctionParts

end Source

end PullNotes
