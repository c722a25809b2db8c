import PullNotes.Proofs.Source.Tokens

/-!
# Reading string literals

The content of a string literal is read run by run, each run as a leaf, up to the closing quote.

* `StringText` : the texts of string literals.
* `StringText.exists_reads` : such a text is read as a string, without an error.
-/

namespace PullNotes

namespace Source

open State (after)
open Lexeme (StringBody TakenAsEscape TakenAsFragment)

/-- The text of a string literal. -/
structure StringText where
  quote : Char
  isQuote : quote = '"' ∨ quote = '\''
  content : List Char
  isBody : StringBody quote content

namespace StringText

/-- The characters of a string literal, with the quotes. -/
def text (t : StringText) : List Char := t.quote :: (t.content ++ [t.quote])

theorem startsToken (t : StringText) (u : List Char) : StartsToken (t.text ++ u) := by
  have hquote : Lexeme.isSpace t.quote = false ∧ t.quote ≠ '/' := by
    rcases t.isQuote with h | h <;> rw [h] <;> decide
  exact .cons hquote.1 hquote.2

end StringText

namespace Reader

variable {d : Dialect} {n : Nat} {place : Cursor} {parts : List Part}
  {enclosed : Bool} {quote : Char} {cs u : List Char}

/-- A part of a string literal. -/
def stringPart (quote : Char) : Reader :=
  first [adjacent "string_fragment" true (Lexeme.fragment quote), escapeSequence]

/-- A run of the content is read as one leaf. -/
theorem exists_goes_stringPart {run rest : List Char} (hrun : run ≠ [])
    (h : TakenAsFragment quote run rest ∨ TakenAsEscape quote run rest) :
    ∃ kind, ∀ (enclosed : Bool) (n : Nat) (place : Cursor) (parts : List Part) (u : List Char),
      place.rest = run ++ (rest ++ quote :: u) →
      Goes (stringPart quote) (.plain d n) (after d n place parts enclosed false)
        (after d n (place.past run) (⟨place, leaf kind true place run⟩ :: parts) enclosed
          false) := by
  rcases h with h | h
  · refine ⟨"string_fragment", fun enclosed n place parts u hrest => goes_first_head ?_⟩
    refine goes_adjacent hrest hrun ?_
    rw [← List.append_assoc]
    exact h u
  · refine ⟨"escape_sequence", fun enclosed n place parts u hrest => goes_first ?_ ?_⟩
    · refine sticks_adjacent ?_
      rw [State.after_last, hrest, ← List.append_assoc]
      exact (h u).1
    · refine goes_adjacent hrest hrun ?_
      rw [← List.append_assoc]
      exact (h u).2

theorem sticks_stringPart (hquote : quote = '"' ∨ quote = '\'') (hrest : place.rest = quote :: u) :
    Sticks (stringPart quote) (.plain d n) (after d n place parts enclosed false) := by
  refine sticks_first_cons (sticks_adjacent ?_) (sticks_adjacent ?_)
  · rw [State.after_last, hrest, Lexeme.fragment, List.takeWhile_cons_of_neg (by simp)]
    rfl
  · rw [State.after_last, hrest]
    rcases hquote with rfl | rfl <;> rfl

/-- **The content of a string literal is read up to its quote**, the shapes of the leaves being
those of the content wherever it stands. -/
theorem exists_repeats_stringPart (hbody : StringBody quote cs)
    (hquote : quote = '"' ∨ quote = '\'') :
    ∃ leaves : List Node, (∀ leaf ∈ leaves, leaf.hasError = false) ∧
      ∀ (enclosed : Bool) (n : Nat) (place : Cursor) (parts : List Part) (u : List Char),
        place.rest = cs ++ quote :: u → ∃ new : List Part, new.map (·.node.unplaced) = leaves ∧
          Repeats (stringPart quote) (.plain d n) (after d n place parts enclosed false)
            (after d n (place.past cs) (new ++ parts) enclosed false) := by
  induction hlength : cs.length using Nat.strong_induction_on generalizing cs with
  | _ length ih =>
  by_cases hne : cs = []
  · subst hne
    refine ⟨[], fun _ h => absurd h List.not_mem_nil,
      fun enclosed n place parts u hrest => ⟨[], rfl, ?_⟩⟩
    refine .stop ?_
    exact sticks_stringPart hquote hrest
  obtain ⟨run, rest, rfl, hrun, hrest, htaken⟩ := hbody.exists_run hne hquote
  have hpos : 0 < run.length := List.length_pos_iff.2 hrun
  obtain ⟨kind, hgoes⟩ := exists_goes_stringPart (d := d) hrun htaken
  obtain ⟨leaves, herror, hrepeats⟩ := ih rest.length
    (by rw [← hlength, List.length_append]; omega) hrest rfl
  refine ⟨leaves ++ [leafShape kind true run], ?_, fun enclosed n place parts u hplace => ?_⟩
  · intro leaf hleaf
    rcases List.mem_append.1 hleaf with hleaf | hleaf
    · exact herror leaf hleaf
    · rw [List.mem_singleton.1 hleaf]
      rfl
  · rw [List.append_assoc] at hplace
    obtain ⟨new, hnew, hgo⟩ := hrepeats enclosed n (place.past run)
      (⟨place, leaf kind true place run⟩ :: parts) u (Cursor.rest_past hplace)
    refine ⟨new ++ [⟨place, leaf kind true place run⟩], ?_, ?_⟩
    · rw [List.map_append, hnew]
      rfl
    · rw [Cursor.past_past] at hgo
      rw [List.append_assoc]
      refine .step (hgoes enclosed n place parts u hplace) ?_ hgo
      exact Cursor.offset_lt_past hplace hrun

theorem goes_adjacentMark {c : Char} (hrest : place.rest = c :: u) :
    Goes (adjacentMark (String.singleton c)) (.plain d n) (after d n place parts enclosed false)
      (after d n (place.past [c]) (markPart (String.singleton c) place c :: parts) enclosed false) := by
  refine goes_adjacent (show place.rest = [c] ++ u from hrest) (List.cons_ne_nil _ _) ?_
  have hlist : (String.singleton c).toList = [c] := by simp
  have hlength : (String.singleton c).length = 1 := by simp
  simp [hlist, hlength]

end Reader

open Reader

/-- A string literal is read from its quotes on. -/
theorem StringText.exists_reads_quoted (t : StringText) (d : Dialect) :
    ∃ shape : Node, shape.kind = Node.stringKind ∧ shape.hasError = false ∧ ∀ enclosed,
      Reads d (quotedString t.quote) enclosed false (fun _ => True) t.text shape := by
  obtain ⟨leaves, herror, hrepeats⟩ := exists_repeats_stringPart (d := d) t.isBody t.isQuote
  let mark := leafShape (String.singleton t.quote) false [t.quote]
  refine ⟨shapeOver Node.stringKind noFields t.text (mark :: (leaves.reverse ++ [mark])), rfl, ?_, ?_⟩
  · exact hasError_shapeOver _ _ _ _ rfl rfl fun leaf hleaf => herror leaf (List.mem_reverse.1 hleaf)
  · intro enclosed n place parts before ws u hws hrest hplace _
    have htext : t.text ++ u = t.quote :: (t.content ++ t.quote :: u) := by simp [text]
    have hnext := Cursor.next_of_blanks (d := d) hrest hws (t.startsToken u) hplace
    have hstart : (place.past ws).rest = [t.quote] ++ (t.content ++ t.quote :: u) := by
      rw [Cursor.rest_past hrest, htext]
      rfl
    have hinside : ((place.past ws).past [t.quote]).rest = t.content ++ t.quote :: u :=
      Cursor.rest_past hstart
    have hclosing : (((place.past ws).past [t.quote]).past t.content).rest = t.quote :: u :=
      Cursor.rest_past hinside
    have hend := ((hplace.past hrest).past hstart).past hinside
    have hopening : Goes (opening t.quote) (.plain d n) (after d n place parts enclosed before) _ :=
      goes_opening (by rw [hnext]; exact hstart)
    rw [hnext] at hopening
    obtain ⟨new, hnew, hrun⟩ := hrepeats enclosed n _
      (markPart (String.singleton t.quote) (place.past ws) t.quote :: parts) u hinside
    have hall := goes_seq hopening (goes_seq (hrun.goes_many hend.offset_le)
      (goes_seq_one (goes_adjacentMark hclosing)))
    have hparts : ∀ p q : Part, q :: (new ++ p :: parts) =
        (p :: (new.reverse ++ [q])).reverse ++ parts := by simp
    have hstop : (((place.past ws).past [t.quote]).past t.content).past [t.quote] =
        (place.past ws).past t.text := by simp [text]
    rw [hparts, hstop] at hall
    have hkind : String.singleton t.quote ≠ Node.errorKind := by
      rcases t.isQuote with h | h <;> rw [h] <;> decide
    have hnode := goes_node_over Node.stringKind hall hkind
    rw [Cursor.past_past] at hnode
    exact ⟨_, unplaced_over Node.stringKind (fun _ => rfl) hrest (by simp [← hnew, mark]), hnode⟩

/-- **A string literal is read as a string, without an error**, whatever stands after it. -/
theorem StringText.exists_reads (t : StringText) (d : Dialect) :
    ∃ shape : Node, shape.kind = Node.stringKind ∧ shape.hasError = false ∧ ∀ enclosed,
      Reads d stringLiteral enclosed false (fun _ => True) t.text shape := by
  obtain ⟨shape, hkind, herror, hreads⟩ := t.exists_reads_quoted d
  refine ⟨shape, hkind, herror, fun enclosed n place parts before ws u hws hrest hplace hu => ?_⟩
  obtain ⟨node, hnode, hgoes⟩ := hreads enclosed n place parts before ws u hws hrest hplace hu
  refine ⟨node, hnode, ?_⟩
  rcases t.isQuote with h | h
  · exact goes_first_head (h ▸ hgoes)
  · refine goes_first (sticks_node (sticks_seq_head (sticks_opening ?_))) (h ▸ hgoes)
    have hnext := Cursor.next_of_blanks (d := d) hrest hws (t.startsToken u) hplace
    rw [State.after_cursor, hnext, Cursor.rest_past hrest, text, h]
    simp

end Source

end PullNotes
