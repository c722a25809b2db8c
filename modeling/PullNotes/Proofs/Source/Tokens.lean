import PullNotes.Proofs.Source.Words

/-!
# Marks, symbols and names

What is read of a text does not depend on the place where it stands, nor on the blanks in front: the
reader goes from the end of the token before to the end of the text, and leaves one node, whose
shape is that of the text.

* `Reads` : a reader reads a text as a node of a shape.
* `Reader.reads_mark`, `Reader.reads_symbol` : marks and other symbols of one character.
* `Reader.reads_anyName`, `Reader.reads_word` : names and words of the language.
-/

namespace PullNotes

namespace Source

open State (after)

variable {d : Dialect} {n : Nat} {place : Cursor} {parts : List Part} {enclosed operand : Bool}
  {ws cs u : List Char} {kind : String}

/-! ### Shapes -/

/-- The shape of a node without children. -/
def leafShape (kind : String) (named : Bool) (cs : List Char) : Node :=
  .mk kind (Utf8.writeChars cs) [] named false false ⟨0, 0⟩ none none

/-- The shape of a node over some others. -/
def shapeOver (kind : String) (fields : List Node → Option Nat × Option Nat) (cs : List Char)
    (children : List Node) : Node :=
  .mk kind (Utf8.writeChars cs) children true false (children.any Node.hasError) ⟨0, 0⟩
    (fields children).1 (fields children).2

theorem kind_leafShape (kind : String) (named : Bool) (cs : List Char) :
    (leafShape kind named cs).kind = kind := rfl

@[simp] theorem hasError_leafShape (kind : String) (named : Bool) (cs : List Char) :
    (leafShape kind named cs).hasError = false := rfl

@[simp] theorem hasError_shapeOver_any (kind : String)
    (fields : List Node → Option Nat × Option Nat) (cs : List Char) (children : List Node) :
    (shapeOver kind fields cs children).hasError = children.any Node.hasError := rfl

@[simp] theorem unplaced_leaf (kind : String) (named : Bool) (k : Cursor) (cs : List Char) :
    (leaf kind named k cs).unplaced = leafShape kind named cs := rfl

@[simp] theorem unplaced_markPart (text : String) (k : Cursor) (c : Char) :
    (markPart text k c).node.unplaced = leafShape text false [c] := rfl

theorem any_hasError_unplaced (ns : List Node) :
    (ns.map Node.unplaced).any Node.hasError = ns.any Node.hasError := by
  induction ns with
  | nil => rfl
  | cons n ns ih => rw [List.map_cons, List.any_cons, List.any_cons, ih, Node.hasError_unplaced]

/-- A node from the end of some blanks to the end of a text has the shape of that text over the
shapes of its children. -/
theorem unplaced_over (kind : String) {fields : List Node → Option Nat × Option Nat}
    (hfields : ∀ ns : List Node, fields (ns.map Node.unplaced) = fields ns) {ns shapes : List Node}
    (hrest : place.rest = ws ++ (cs ++ u)) (hns : ns.map Node.unplaced = shapes) :
    (nodeOver kind fields (place.past ws) (place.past (ws ++ cs)) ns).unplaced =
      shapeOver kind fields cs shapes := by
  rw [nodeOver, Node.unplaced, shapeOver, ← Cursor.past_past,
    Cursor.bytesTo_past (Cursor.rest_past hrest), Node.unplacedAll_eq_map, ← hns, hfields,
    any_hasError_unplaced]

/-- Where none of the children has an error, there is none between an opening and a closing mark. -/
theorem hasError_shapeOver (kind : String) (fields : List Node → Option Nat × Option Nat)
    (cs : List Char) {opening closing : Node} (shapes : List Node)
    (hopening : opening.hasError = false) (hclosing : closing.hasError = false)
    (hshapes : ∀ shape ∈ shapes, shape.hasError = false) :
    (shapeOver kind fields cs (opening :: (shapes ++ [closing]))).hasError = false := by
  refine List.any_eq_false.2 fun shape hshape => ?_
  simp only [List.mem_cons, List.mem_append, List.not_mem_nil, or_false] at hshape
  rcases hshape with rfl | hshape | rfl
  · simp [hopening]
  · simp [hshapes shape hshape]
  · simp [hclosing]

/-! ### States -/

/-- A text at whose start nothing starts. -/
def Stops (u : List Char) : Prop := ∀ c, u.head? = some c → c ∈ stopMarks

theorem Stops.nil : Stops [] := fun _ h => nomatch h

theorem Stops.cons {c : Char} (hc : c ∈ stopMarks) (u : List Char) : Stops (c :: u) := by
  intro e he
  exact Option.some.inj he ▸ hc

theorem Stops.endsName (h : Stops u) : Lexeme.EndsName u := by
  intro c hc
  have hmarks : ∀ c ∈ stopMarks, Lexeme.isNamePart c = false ∧ c ≠ '\\' :=
    Lexeme.forall_mem_of_all (by decide)
  exact hmarks c (h c hc)

theorem endsName_blank {w : Char} (hw : Lexeme.isSpace w = true) (u : List Char) :
    Lexeme.EndsName (w :: u) := by
  intro c hc
  obtain rfl : w = c := Option.some.inj hc
  refine ⟨by simp [Lexeme.isNamePart, hw], ?_⟩
  rintro rfl
  exact absurd hw (by decide)

theorem endsName_append (hws : Blank ws) (h : Lexeme.EndsName u) : Lexeme.EndsName (ws ++ u) := by
  cases ws with
  | nil => exact h
  | cons w ws => exact endsName_blank (hws w List.mem_cons_self) _

theorem endsName_blanks (hws : Blank ws) (h : Stops u) : Lexeme.EndsName (ws ++ u) :=
  endsName_append hws h.endsName

section Next

variable (hws : Blank ws) (hrest : place.rest = ws ++ u) (hu : StartsToken u) (hplace : place.EndsAt n)

include hws hrest hu hplace

theorem cursor_after : (after d n place parts enclosed operand).cursor.rest = u := by
  rw [State.after_cursor, Cursor.next_of_blanks hrest hws hu hplace, Cursor.rest_past hrest]

theorem symbol_after : (after d n place parts enclosed operand).symbol = Lexeme.symbol u := by
  rw [State.after_symbol, Cursor.next_of_blanks hrest hws hu hplace, Cursor.rest_past hrest]

theorem name_after :
    (after d n place parts enclosed operand).name = u.take (Lexeme.name u) := by
  have hgo : (after d n place parts enclosed operand).name =
    (place.next d n).rest.take (Lexeme.name (place.next d n).rest) := rfl
  rw [hgo, Cursor.next_of_blanks hrest hws hu hplace, Cursor.rest_past hrest]

end Next

/-- What follows a token is one of some marks or nothing. -/
theorem atMarks_after {marks : List Char} (hmarks : ∀ c ∈ marks, c ∈ Lexeme.singleMarks)
    (parts : List Part) (enclosed operand : Bool) (hws : Blank ws)
    (h : ∀ c, u.head? = some c → c ∈ marks) (hrest : place.rest = ws ++ u) (hplace : place.EndsAt n) :
    (after d n place parts enclosed operand).AtMarks marks := by
  have hsingle : ∀ c ∈ Lexeme.singleMarks, (Lexeme.isSpace c = false ∧ c ≠ '/') ∧
      Lexeme.isNamePart c = false ∧ c ≠ '\\' := Lexeme.forall_mem_of_all (by decide)
  have hstart : StartsToken u := fun c hc => (hsingle c (hmarks c (h c hc))).1
  have hends : Lexeme.EndsName u := fun c hc => (hsingle c (hmarks c (h c hc))).2
  constructor
  · rw [name_after hws hrest hstart hplace, Lexeme.name_of_endsName hends]
    rfl
  · rw [symbol_after hws hrest hstart hplace]
    cases u with
    | nil => exact Or.inl rfl
    | cons c u => exact Or.inr ⟨c, h c rfl, Lexeme.symbol_mark (hmarks c (h c rfl)) u⟩
  · intro c hc
    rw [cursor_after hws hrest hstart hplace] at hc
    exact h c hc

theorem atStop_after (parts : List Part) (enclosed operand : Bool) (hws : Blank ws) (h : Stops u)
    (hrest : place.rest = ws ++ u) (hplace : place.EndsAt n) :
    (after d n place parts enclosed operand).AtStop := by
  have hmarks := atMarks_after (d := d) (Lexeme.forall_mem_of_all (by decide)) parts enclosed operand
    hws h hrest hplace
  exact ⟨hmarks.name, hmarks.symbol, hmarks.rest⟩

namespace Reader

/-! ### Marks -/

/-- A mark after blanks. -/
theorem goes_mark (text : String) (parts : List Part) (enclosed operand : Bool) {c : Char}
    (htext : text.toList = [c]) (hc : c ∈ Lexeme.singleMarks) (hws : Blank ws)
    (hrest : place.rest = ws ++ c :: u) (hplace : place.EndsAt n) :
    Goes (symbol text) (.plain d n) (after d n place parts enclosed operand)
      (after d n (place.past (ws ++ [c]))
        (markPart text (place.past ws) c :: parts) enclosed false) := by
  have hmarks : ∀ c ∈ Lexeme.singleMarks, Lexeme.isSpace c = false ∧ c ≠ '/' :=
    Lexeme.forall_mem_of_all (by decide)
  have hstart : StartsToken (c :: u) := .cons (hmarks c hc).1 (hmarks c hc).2
  have hnext := Cursor.next_of_blanks (d := d) hrest hws hstart hplace
  have hgoes : Goes (symbol text) (.plain d n) (after d n place parts enclosed operand) _ :=
    goes_symbol (u := u) (by rw [hnext, Cursor.rest_past hrest, htext]; rfl)
      (by rw [htext]; exact List.cons_ne_nil _ _) (by rw [htext]; exact Lexeme.symbol_mark hc u)
  rw [hnext, htext, Cursor.past_past] at hgoes
  exact hgoes

end Reader

/-- A mark after blanks as the next token. -/
theorem atMark (parts : List Part) (enclosed operand : Bool) {c : Char}
    (hc : c ∈ Lexeme.singleMarks) (hws : Blank ws) (hrest : place.rest = ws ++ c :: u)
    (hplace : place.EndsAt n) :
    (after d n place parts enclosed operand).name = [] ∧
      (after d n place parts enclosed operand).symbol = [c] ∧
        (after d n place parts enclosed operand).cursor.rest = c :: u := by
  have hmarks : ∀ c ∈ Lexeme.singleMarks, Lexeme.isSpace c = false ∧ c ≠ '/' ∧ c ∈ Lexeme.marks ∧
      c ≠ '\\' := Lexeme.forall_mem_of_all (by decide)
  obtain ⟨hspace, hslash, hmark, hne⟩ := hmarks c hc
  have hstart : StartsToken (c :: u) := .cons hspace hslash
  refine ⟨?_, ?_, cursor_after hws hrest hstart hplace⟩
  · rw [name_after hws hrest hstart hplace, Lexeme.name_of_endsName (.cons hmark hne u)]
    rfl
  · rw [symbol_after hws hrest hstart hplace]
    exact Lexeme.symbol_mark hc u

/-! ### Reading a text -/

/-- A reader reads a text as one node of a shape, wherever the text stands between tokens, if what
follows is as it should be. -/
def Reads (d : Dialect) (p : Reader) (enclosed operand : Bool) (Follows : List Char → Prop)
    (text : List Char) (shape : Node) : Prop :=
  ∀ (n : Nat) (place : Cursor) (parts : List Part) (before : Bool) (ws u : List Char), Blank ws →
    place.rest = ws ++ (text ++ u) → place.EndsAt n → Follows u → ∃ node : Node,
      node.unplaced = shape ∧ Reader.Goes p (.plain d n) (after d n place parts enclosed before)
        (after d n (place.past (ws ++ text)) (⟨place.past ws, node⟩ :: parts) enclosed operand)

/-! ### Names -/

theorem startsToken_name (h : Lexeme.IsName cs) (u : List Char) : StartsToken (cs ++ u) := by
  obtain ⟨c, rest, rfl, hc⟩ := h.exists_head
  refine .cons ?_ ?_
  · rcases hc with hc | rfl
    · by_contra hspace
      simp [Lexeme.isNamePart, Bool.not_eq_false _ ▸ hspace] at hc
    · decide
  · rintro rfl
    revert hc
    decide

namespace Reader

/-- A token that is a name. -/
theorem reads_name {p : Reader} {named : Bool} (h : Lexeme.IsName cs)
    (hp : ∀ n, ∀ s : State, s.name = cs →
      p (.plain d n) s = shift kind named cs.length (.plain d n) s) :
    Reads d p enclosed false Lexeme.EndsName cs (leafShape kind named cs) := by
  intro n place parts before ws u hws hrest hplace hu
  have hnext := Cursor.next_of_blanks (d := d) hrest hws (startsToken_name h u) hplace
  have hgoes : Goes p (.plain d n) (after d n place parts enclosed before) _ :=
    goes_name (by rw [hnext, Cursor.rest_past hrest]) h.ne_nil (h.length_eq hu) (hp n)
  rw [hnext, Cursor.past_past] at hgoes
  exact ⟨_, rfl, hgoes⟩

theorem reads_anyName (kind : String) (enclosed : Bool) (h : Lexeme.IsName cs) :
    Reads d (anyName kind) enclosed false Lexeme.EndsName cs (leafShape kind true cs) :=
  reads_name h fun n s hs => by rw [anyName, hs]

theorem reads_identifier (h : Lexeme.IsName cs) (hcs : cs ∉ reservedWords) :
    Reads d identifier enclosed false Lexeme.EndsName cs (leafShape "identifier" true cs) :=
  reads_name h fun n s hs => by
    rw [identifier, hs, if_neg]
    simp [h.ne_nil, hcs]

/-- A word of the language. -/
theorem reads_word (text : String) (h : Lexeme.IsName text.toList) :
    Reads d (word text) enclosed false Lexeme.EndsName text.toList
      (leafShape text false text.toList) :=
  reads_name h fun n s hs => by rw [word, if_pos hs, hs]

/-- A mark. -/
theorem reads_mark (text : String) {c : Char} (htext : text.toList = [c])
    (hc : c ∈ Lexeme.singleMarks) :
    Reads d (symbol text) enclosed false (fun _ => True) [c] (leafShape text false [c]) :=
  fun _ _ parts before _ _ hws hrest hplace _ =>
    ⟨_, rfl, goes_mark text parts enclosed before htext hc hws hrest hplace⟩

end Reader

/-- A text at whose start no symbol goes on. -/
def EndsSymbol (u : List Char) : Prop := ∀ c, u.head? = some c → c ∉ Lexeme.shortSymbols

theorem endsSymbol_append (hws : Blank ws) (h : EndsSymbol u) : EndsSymbol (ws ++ u) := by
  have hspace : ∀ c ∈ Lexeme.shortSymbols, Lexeme.isSpace c = false :=
    Lexeme.forall_mem_of_all (by decide)
  cases ws with
  | nil => exact h
  | cons w ws =>
    intro c hc hmem
    obtain rfl : w = c := Option.some.inj hc
    have hw := hws w List.mem_cons_self
    rw [hspace w hmem] at hw
    cases hw

theorem endsSymbol_name (h : Lexeme.IsName cs) (u : List Char) : EndsSymbol (cs ++ u) := by
  have hmarks : ∀ c ∈ Lexeme.shortSymbols, c ∈ Lexeme.marks ∧ c ≠ '\\' :=
    Lexeme.forall_mem_of_all (by decide)
  obtain ⟨c, rest, rfl, hc⟩ := h.exists_head
  intro e he hmem
  obtain rfl : c = e := Option.some.inj he
  obtain ⟨hmark, hne⟩ := hmarks c hmem
  rcases hc with hc | hc
  · rw [Lexeme.isNamePart_eq_false hmark] at hc
    cases hc
  · exact hne hc

/-- A symbol of one character that goes on with no other. -/
theorem Reader.reads_symbol (text : String) {c : Char} (htext : text.toList = [c])
    (hc : c ∈ Lexeme.shortSymbols) (hne : c ≠ '?' ∧ c ≠ '/') :
    Reads d (symbol text) enclosed false EndsSymbol [c] (leafShape text false [c]) := by
  intro n place parts before ws u hws hrest hplace hu
  have hspace : ∀ c ∈ Lexeme.shortSymbols, Lexeme.isSpace c = false :=
    Lexeme.forall_mem_of_all (by decide)
  have hnext := Cursor.next_of_blanks (d := d) hrest hws (.cons (hspace c hc) hne.2) hplace
  -- every longer symbol goes on with a character that is a symbol alone
  have hlong : ∀ s ∈ Lexeme.longSymbols, s.tail.head?.any Lexeme.shortSymbols.contains = true := by
    decide
  have hsymbol : Lexeme.symbol (c :: u) = [c] := Lexeme.symbol_alone hc hne.1 fun s hs _ heq => by
    have hsecond := hlong s hs
    rw [heq, Option.any_eq_true] at hsecond
    obtain ⟨e, he, hmem⟩ := hsecond
    exact hu e he (List.contains_iff_mem.1 hmem)
  have hgoes : Goes (symbol text) (.plain d n) (after d n place parts enclosed before) _ :=
    goes_symbol (u := u) (by rw [hnext, Cursor.rest_past hrest, htext])
      (by rw [htext]; exact List.cons_ne_nil _ _) (by rw [htext]; exact hsymbol)
  rw [hnext, htext, Cursor.past_past] at hgoes
  exact ⟨_, rfl, hgoes⟩

/-- A word in front of a colon. -/
theorem beforeColon_after (parts : List Part) (enclosed operand : Bool) {ws' : List Char}
    (h : Lexeme.IsName cs) (hws : Blank ws) (hws' : Blank ws')
    (hrest : place.rest = ws ++ (cs ++ (ws' ++ ':' :: u))) (hplace : place.EndsAt n) :
    (after d n place parts enclosed operand).BeforeColon d n ∧
      (after d n place parts enclosed operand).name = cs := by
  have hnext := Cursor.next_of_blanks (d := d) hrest hws (startsToken_name h _) hplace
  have hafter : (place.next d n).rest = cs ++ (ws' ++ ':' :: u) := by
    rw [hnext, Cursor.rest_past hrest]
  have hends : Lexeme.EndsName (ws' ++ ':' :: u) := endsName_blanks hws' (.cons (by decide) u)
  have hname : (after d n place parts enclosed operand).name = cs := by
    have hgo : (after d n place parts enclosed operand).name =
      (place.next d n).rest.take (Lexeme.name (place.next d n).rest) := rfl
    rw [hgo, hafter, h.length_eq hends, List.take_left]
  obtain ⟨c, rest, hcs, hc⟩ := h.exists_head
  refine ⟨⟨hname ▸ h.ne_nil, ?_, ?_, ?_⟩, hname⟩
  · rw [State.after_symbol, hafter, hcs]
    exact Lexeme.symbol_of_isNamePart hc _
  · intro e he
    rw [State.after_cursor, hafter, hcs] at he
    exact Option.some.inj he ▸ hc
  · intro kind named
    rw [hname]
    have hgoes : Reader.Goes (Reader.shift kind named cs.length) (.plain d n)
        (after d n place parts enclosed operand) _ := Reader.goes_shift hafter h.ne_nil
    refine hgoes.ensures fun f => State.AtColon.far ?_ f
    -- after the word, the next token is the colon
    have hpast : ((place.next d n).past cs).rest = ws' ++ ':' :: u := Cursor.rest_past hafter
    have hend : ((place.next d n).past cs).EndsAt n := by
      rw [hnext] at hafter ⊢
      exact (hplace.past hrest).past hafter
    have hcolon : (((place.next d n).past cs).next d n).rest = ':' :: u := by
      rw [Cursor.next_of_blanks hpast hws' (.cons (by decide) (by decide)) hend,
        Cursor.rest_past hpast]
    have hstop := atStop_after (d := d)
      (⟨place.next d n, leaf kind named (place.next d n) cs⟩ :: parts) enclosed false hws'
      (.cons (by decide) u) hpast hend
    refine ⟨hstop.name, ?_, ?_, ws', u, hws', hpast⟩
    · rw [State.after_symbol, hcolon]
      exact Lexeme.symbol_mark (by decide) u
    · rw [State.after_cursor, hcolon]
      rfl

end Source

end PullNotes
