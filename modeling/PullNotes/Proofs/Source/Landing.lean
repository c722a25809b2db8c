import PullNotes.Proofs.ObjectGrammar
import PullNotes.Proofs.Source.Going
import PullNotes.Source.Recovery

/-!
# Where tokens end

Between two tokens a reader is at the end of the last one, and the next one starts after the blanks
there.  What a reader of a token does is said in these terms: it goes from the end of one token to
the end of the next one, and leaves a leaf with the characters in between.

* `Cursor.past` : the place after some characters, and what is counted up to it.
* `Cursor.next_of_blanks` : the next token starts after the blanks.
* `State.after` : the state after a token, with the nodes so far.
* `Reader.goes_shift`, `Reader.goes_adjacent`, `Reader.goes_gathered` : tokens and nodes.
-/

namespace PullNotes

namespace Source

/-! ### Places -/

namespace Cursor

variable {k : Cursor} {cs ds u : List Char}

/-- The place after some characters. -/
def past (k : Cursor) (cs : List Char) : Cursor := k.advance cs.length

@[simp] theorem past_nil (k : Cursor) : k.past [] = k := rfl

theorem advance_add (m n : Nat) (k : Cursor) : k.advance (m + n) = (k.advance m).advance n := by
  induction m generalizing k with
  | zero => rw [Nat.zero_add, advance]
  | succ m ih =>
    rw [Nat.add_right_comm]
    cases hrest : k.rest with
    | nil =>
      have hstay : ∀ n, k.advance n = k := by
        intro n
        cases n with
        | zero => rfl
        | succ n => rw [advance, hrest]
      rw [hstay, hstay, hstay]
    | cons c rest =>
      rw [advance, advance, hrest]
      exact ih _

@[simp] theorem past_past (k : Cursor) (cs ds : List Char) :
    (k.past cs).past ds = k.past (cs ++ ds) := by
  rw [past, past, past, List.length_append, advance_add]

theorem rest_past (h : k.rest = cs ++ u) : (k.past cs).rest = u := by
  induction cs generalizing k with
  | nil => exact h
  | cons c cs ih =>
    rw [past, List.length_cons, advance, h]
    exact ih rfl

theorem offset_past (h : k.rest = cs ++ u) : (k.past cs).offset = k.offset + byteLength cs := by
  induction cs generalizing k with
  | nil => rfl
  | cons c cs ih =>
    rw [past, List.length_cons, advance, h]
    refine (ih rfl).trans ?_
    exact Nat.add_assoc _ _ _

theorem byteLength_append (cs ds : List Char) :
    byteLength (cs ++ ds) = byteLength cs + byteLength ds := by
  induction cs with
  | nil => exact (Nat.zero_add _).symm
  | cons c cs ih =>
    have hcons : ∀ cs, byteLength (c :: cs) = c.utf8Size + byteLength cs := fun _ => rfl
    rw [List.cons_append, hcons, hcons, ih, Nat.add_assoc]

theorem byteLength_pos (h : cs ≠ []) : 0 < byteLength cs := by
  cases cs with
  | nil => exact absurd rfl h
  | cons c cs => exact Nat.add_pos_left c.utf8Size_pos _

theorem offset_lt_past (h : k.rest = cs ++ u) (hcs : cs ≠ []) : k.offset < (k.past cs).offset := by
  rw [offset_past h]
  exact Nat.lt_add_of_pos_right (byteLength_pos hcs)

theorem byteLength_le_of_within (h : cs <:+: ds) : byteLength cs ≤ byteLength ds := by
  obtain ⟨front, back, rfl⟩ := h
  rw [byteLength_append, byteLength_append]
  omega

theorem charsWithin_byteLength (cs u : List Char) : charsWithin (byteLength cs) (cs ++ u) = cs := by
  induction cs with
  | nil =>
    cases u with
    | nil => rfl
    | cons c u => rfl
  | cons c cs ih =>
    have hcons : byteLength (c :: cs) = c.utf8Size + byteLength cs := rfl
    have hpos := c.utf8Size_pos
    have hwithin : ∀ n, 0 < n →
        charsWithin n (c :: (cs ++ u)) = c :: charsWithin (n - c.utf8Size) (cs ++ u) := by
      intro n hn
      cases n with
      | zero => exact absurd hn (Nat.lt_irrefl 0)
      | succ n => rfl
    rw [hcons, List.cons_append, hwithin _ (by omega), Nat.add_sub_cancel_left, ih]

theorem bytesTo_past (h : k.rest = cs ++ u) : k.bytesTo (k.past cs) = Utf8.writeChars cs := by
  rw [bytesTo, offset_past h, Nat.add_sub_cancel_left, h, charsWithin_byteLength]

/-- The source ends at a number of bytes. -/
def EndsAt (k : Cursor) (n : Nat) : Prop := k.offset + byteLength k.rest = n

theorem EndsAt.past {n : Nat} (hk : k.EndsAt n) (h : k.rest = cs ++ u) : (k.past cs).EndsAt n := by
  rw [EndsAt, rest_past h, offset_past h, Nat.add_assoc, ← byteLength_append, ← h]
  exact hk

theorem rest_past_text {ws : List Char} (h : k.rest = ws ++ (cs ++ u)) :
    (k.past (ws ++ cs)).rest = u :=
  rest_past (by rw [h, List.append_assoc])

theorem rest_past_mark {ws : List Char} {c : Char} (h : k.rest = ws ++ c :: u) :
    (k.past (ws ++ [c])).rest = u := rest_past_text (show k.rest = ws ++ ([c] ++ u) from h)

theorem EndsAt.past_text {n : Nat} {ws : List Char} (hk : k.EndsAt n) (h : k.rest = ws ++ (cs ++ u)) :
    (k.past (ws ++ cs)).EndsAt n := hk.past (by rw [h, List.append_assoc])

theorem EndsAt.past_mark {n : Nat} {ws : List Char} {c : Char} (hk : k.EndsAt n)
    (h : k.rest = ws ++ c :: u) : (k.past (ws ++ [c])).EndsAt n :=
  hk.past_text (show k.rest = ws ++ ([c] ++ u) from h)

theorem EndsAt.offset_le {n : Nat} (hk : k.EndsAt n) : k.offset ≤ n := hk ▸ Nat.le_add_right _ _

end Cursor

/-! ### Blanks -/

/-- What follows the blanks after a token: nothing, or neither a blank nor a slash, which could
start a comment. -/
def StartsToken (cs : List Char) : Prop :=
  ∀ c, cs.head? = some c → Lexeme.isSpace c = false ∧ c ≠ '/'

theorem StartsToken.cons {c : Char} {cs : List Char} (hc : Lexeme.isSpace c = false)
    (hslash : c ≠ '/') :
    StartsToken (c :: cs) := by
  intro d hd
  obtain rfl : c = d := Option.some.inj hd
  exact ⟨hc, hslash⟩

theorem StartsToken.nil : StartsToken [] := fun _ h => nomatch h

theorem StartsToken.spaces {cs : List Char} (h : StartsToken cs) : Lexeme.spaces cs = 0 := by
  cases cs with
  | nil => rfl
  | cons c cs =>
    rw [Lexeme.spaces, List.takeWhile_cons_of_neg (by simp [(h c rfl).1])]
    rfl

theorem StartsToken.comment {cs : List Char} (h : StartsToken cs) : Lexeme.comment cs = 0 := by
  unfold Lexeme.comment
  split
  · exact absurd rfl (h _ rfl).2
  · exact absurd rfl (h _ rfl).2
  · rfl

theorem spaces_append {ws cs : List Char} (hws : Blank ws) (h : StartsToken cs) :
    Lexeme.spaces (ws ++ cs) = ws.length := by
  rw [Lexeme.spaces, List.takeWhile_append_of_pos hws, List.length_append]
  exact congrArg (ws.length + ·) h.spaces

/-- The context of a source as it stands, without patches. -/
abbrev Context.plain (d : Dialect) (n : Nat) : Context := { dialect := d, length := n }

variable {d : Dialect} {n : Nat}

theorem passBlanks_plain (d : Dialect) (n fuel : Nat) (k : Cursor) :
    (passBlanks (.plain d n) fuel k []).2 = [] := by
  induction fuel generalizing k with
  | zero => rfl
  | succ fuel ih =>
    have hhole : (Context.plain d n).holeAt? k.offset = none := rfl
    rw [passBlanks, hhole]
    dsimp only
    split
    · rfl
    · exact ih _
    · exact ih _

/-- The start of the next token after a place. -/
def Cursor.next (d : Dialect) (n : Nat) (place : Cursor) : Cursor :=
  (passBlanks (.plain d n) (n + 1 - place.offset) place []).1

theorem passBlanks_of_startsToken {fuel : Nat} {k : Cursor} (h : StartsToken k.rest) :
    (passBlanks (.plain d n) fuel k []).1 = k := by
  cases fuel with
  | zero => rfl
  | succ fuel =>
    have hhole : (Context.plain d n).holeAt? k.offset = none := rfl
    rw [passBlanks, hhole, h.spaces, h.comment]
    rfl

theorem Cursor.next_of_offset_le {place : Cursor} {ws t : List Char} (hrest : place.rest = ws ++ t)
    (hws : Blank ws) (ht : StartsToken t) (hoffset : place.offset ≤ n) :
    place.next d n = place.past ws := by
  obtain ⟨fuel, hfuel⟩ : ∃ fuel, n + 1 - place.offset = fuel + 1 := ⟨n - place.offset, by omega⟩
  have hafter : StartsToken (place.past ws).rest := by
    rw [rest_past hrest]
    exact ht
  cases ws with
  | nil =>
    rw [next, past_nil]
    exact passBlanks_of_startsToken hafter
  | cons w ws =>
    have hhole : (Context.plain d n).holeAt? place.offset = none := rfl
    rw [next, hfuel, passBlanks, hhole, hrest, spaces_append hws ht]
    exact passBlanks_of_startsToken hafter

/-- **The next token starts after the blanks.** -/
theorem Cursor.next_of_blanks {place : Cursor} {ws t : List Char} (hrest : place.rest = ws ++ t)
    (hws : Blank ws) (ht : StartsToken t) (hplace : place.EndsAt n) :
    place.next d n = place.past ws := next_of_offset_le hrest hws ht hplace.offset_le

/-! ### States -/

/-- The state after a token that ends at a place, with the nodes so far. -/
def State.after (d : Dialect) (n : Nat) (place : Cursor) (parts : List Part)
    (enclosed operand : Bool) : State where
  cursor := place.next d n
  last := place
  afterLine := (place.next d n).row != place.row ||
    ((place.next d n).offset != place.offset &&
      (place.textTo (place.next d n)).any Lexeme.endsLine)
  name := (place.next d n).rest.take (Lexeme.name (place.next d n).rest)
  symbol := Lexeme.symbol (place.next d n).rest
  parts := parts
  size := parts.length
  enclosed := enclosed
  afterOperand := operand

namespace State

variable {place k : Cursor} {parts : List Part} {enclosed operand : Bool} {f : Option Stuck}

@[simp] theorem far_name (s : State) (f : Option Stuck) : (s.far f).name = s.name := rfl

@[simp] theorem far_symbol (s : State) (f : Option Stuck) : (s.far f).symbol = s.symbol := rfl

@[simp] theorem far_cursor (s : State) (f : Option Stuck) : (s.far f).cursor = s.cursor := rfl

@[simp] theorem after_last : (after d n place parts enclosed operand).last = place := rfl

@[simp] theorem after_cursor :
    (after d n place parts enclosed operand).cursor = place.next d n := rfl

@[simp] theorem after_symbol :
    (after d n place parts enclosed operand).symbol = Lexeme.symbol (place.next d n).rest := rfl

@[simp] theorem after_size : (after d n place parts enclosed operand).size = parts.length := rfl

/-- The state at the start of a source. -/
theorem land_start (k : Cursor) :
    land (.plain d n) { cursor := k, last := k } k = after d n k [] false false := by
  have hpassed := passBlanks_plain d n (n + 1 - k.offset) k
  simp only [land, after, Cursor.next, hpassed]
  rfl

end State

/-- A node without children, for a token. -/
def leaf (kind : String) (named : Bool) (k : Cursor) (cs : List Char) : Node :=
  .mk kind (Utf8.writeChars cs) [] named false false k.point none none

/-- A mark as a token of its own. -/
def markPart (text : String) (k : Cursor) (c : Char) : Part := ⟨k, leaf text false k [c]⟩

/-- The node over some parts, which ends at a place. -/
def nodeOver (kind : String) (fields : List Node → Option Nat × Option Nat) (start stop : Cursor)
    (children : List Node) : Node :=
  .mk kind (start.bytesTo stop) children true false (children.any Node.hasError) start.point
    (fields children).1 (fields children).2

namespace Reader

open State (after)

variable {s : State} {place : Cursor} {parts : List Part} {enclosed operand : Bool} {cs u : List Char}
  {kind : String} {named : Bool}

/-! ### Tokens -/

theorem shift_at (kind : String) (named : Bool) (place : Cursor) (parts : List Part)
    (enclosed operand : Bool) (k : Cursor) {length : Nat} (hlength : length ≠ 0)
    (f : Option Stuck) :
    shift kind named length (.plain d n)
        { after d n place parts enclosed operand with cursor := k, passed := [], farthest := f } =
      .ok ((after d n (k.advance length) (⟨k, .mk kind (k.bytesTo (k.advance length)) [] named false
        false k.point none none⟩ :: parts) enclosed false).far f) := by
  have hpassed := passBlanks_plain d n (n + 1 - (k.advance length).offset) (k.advance length)
  rw [shift, if_neg hlength]
  simp only [State.push, State.land, hpassed]
  rfl

/-! Without patches the context within brackets is the one around them. -/

theorem goes_within {p : Reader} {s' : State} {inside : Bool}
    (hp : Goes p (.plain d n) { s with enclosed := inside } s') :
    Goes (within inside p) (.plain d n) s { s' with enclosed := s.enclosed } := by
  intro f
  obtain ⟨f', hp⟩ := hp f
  have hgo : p { Context.plain d n with inBinds := true } { s.far f with enclosed := inside } =
      .ok (s'.far f') := hp
  rw [within, hgo]
  exact ⟨f', rfl⟩

theorem sticks_within {p : Reader} {inside : Bool}
    (hp : Sticks p (.plain d n) { s with enclosed := inside }) :
    Sticks (within inside p) (.plain d n) s := by
  intro f
  obtain ⟨e, hp⟩ := hp f
  have hgo : p { Context.plain d n with inBinds := true } { s.far f with enclosed := inside } =
      .error e := hp
  rw [within, hgo]
  exact ⟨e, rfl⟩

/-- A token of some characters. -/
theorem goes_shift (hrest : (place.next d n).rest = cs ++ u) (hcs : cs ≠ []) :
    Goes (shift kind named cs.length) (.plain d n) (after d n place parts enclosed operand)
      (after d n ((place.next d n).past cs)
        (⟨place.next d n, leaf kind named (place.next d n) cs⟩ :: parts) enclosed false) := by
  intro f
  have hlength : cs.length ≠ 0 := fun h => hcs (List.length_eq_zero_iff.1 h)
  rw [leaf, ← Cursor.bytesTo_past hrest]
  exact ⟨f, shift_at kind named place parts enclosed operand (place.next d n) hlength f⟩

/-- A token right after the last one. -/
theorem goes_adjacent {length : List Char → Nat} (hrest : place.rest = cs ++ u) (hcs : cs ≠ [])
    (hlength : length (cs ++ u) = cs.length) :
    Goes (adjacent kind named length) (.plain d n) (after d n place parts enclosed operand)
      (after d n (place.past cs) (⟨place, leaf kind named place cs⟩ :: parts) enclosed false) := by
  intro f
  have hne : cs.length ≠ 0 := fun h => hcs (List.length_eq_zero_iff.1 h)
  have hlast : length ((after d n place parts enclosed operand).far f).last.rest = cs.length := by
    rw [State.far_last, State.after_last, hrest, hlength]
  rw [leaf, ← Cursor.bytesTo_past hrest, adjacent, hlast]
  exact ⟨f, shift_at kind named place parts enclosed operand place hne f⟩

theorem sticks_shift {length : Nat} {ctx : Context} (h : length = 0) :
    Sticks (shift kind named length) ctx s := by
  intro f
  rw [shift, if_pos h]
  exact ⟨_, rfl⟩

theorem sticks_adjacent {length : List Char → Nat} {ctx : Context} (h : length s.last.rest = 0) :
    Sticks (adjacent kind named length) ctx s := by
  intro f
  rw [adjacent, shift, if_pos (by simpa using h)]
  exact ⟨_, rfl⟩

theorem sticks_token {length : List Char → Nat} {ctx : Context} (h : length s.cursor.rest = 0) :
    Sticks (token kind length) ctx s := by
  intro f
  rw [token, shift, if_pos (by simpa using h)]
  exact ⟨_, rfl⟩

theorem sticks_supply : Sticks (supply kind) (.plain d n) s := by
  intro f
  have hnone : (Context.plain d n).supplies (s.far f).cursor.offset kind = false := rfl
  rw [supply, hnone, Bool.false_and, if_neg Bool.false_ne_true]
  exact ⟨_, rfl⟩

variable {text : String}

theorem sticks_symbol (h : s.symbol ≠ text.toList) : Sticks (symbol text) (.plain d n) s := by
  intro f
  rw [symbol, if_neg (by simpa using h)]
  exact sticks_supply f

theorem sticks_word {ctx : Context} (h : s.name ≠ text.toList) : Sticks (word text) ctx s := by
  intro f
  rw [word, if_neg (by simpa using h)]
  exact ⟨_, rfl⟩

theorem sticks_opening {c : Char} {ctx : Context} (h : s.cursor.rest.head? ≠ some c) :
    Sticks (opening c) ctx s := by
  intro f
  rw [opening, if_neg (by simpa using h)]
  exact ⟨_, rfl⟩

theorem sticks_anyName {ctx : Context} (h : s.name = []) : Sticks (anyName kind) ctx s :=
  fun f => sticks_shift (by rw [State.far_name, h]; rfl) f

theorem sticks_identifier {ctx : Context} (h : s.name = [] ∨ s.name ∈ reservedWords) :
    Sticks identifier ctx s := by
  intro f
  have htest : ((s.far f).name.isEmpty || reservedWords.contains (s.far f).name) = true := by
    rw [State.far_name]
    rcases h with h | h
    · rw [h]
      rfl
    · rw [List.contains_iff_mem.2 h, Bool.or_true]
  rw [identifier, if_pos htest]
  exact ⟨_, rfl⟩

/-- A name as the next token. -/
theorem goes_name {p : Reader} (hrest : (place.next d n).rest = cs ++ u) (hcs : cs ≠ [])
    (hname : Lexeme.name (cs ++ u) = cs.length)
    (hp : ∀ s : State, s.name = cs → p (.plain d n) s = shift kind named cs.length (.plain d n) s) :
    Goes p (.plain d n) (after d n place parts enclosed operand)
      (after d n ((place.next d n).past cs)
        (⟨place.next d n, leaf kind named (place.next d n) cs⟩ :: parts) enclosed false) := by
  intro f
  have hnext : ((after d n place parts enclosed operand).far f).name = cs := by
    have hgo : ((after d n place parts enclosed operand).far f).name =
        (place.next d n).rest.take (Lexeme.name (place.next d n).rest) := rfl
    rw [hgo, hrest, hname, List.take_left]
  rw [hp _ hnext]
  exact goes_shift hrest hcs f

/-- A symbol as the next token. -/
theorem goes_symbol (hrest : (place.next d n).rest = text.toList ++ u) (htext : text.toList ≠ [])
    (hsymbol : Lexeme.symbol (text.toList ++ u) = text.toList) :
    Goes (symbol text) (.plain d n) (after d n place parts enclosed operand)
      (after d n ((place.next d n).past text.toList)
        (⟨place.next d n, leaf text false (place.next d n) text.toList⟩ :: parts) enclosed
          false) := by
  intro f
  have hnext : ((after d n place parts enclosed operand).far f).symbol = text.toList := by
    rw [State.far_symbol, State.after_symbol, hrest, hsymbol]
  rw [symbol, if_pos hnext, hnext]
  exact goes_shift hrest htext f

theorem goes_opening {c : Char} (hrest : (place.next d n).rest = c :: u) :
    Goes (opening c) (.plain d n) (after d n place parts enclosed operand)
      (after d n ((place.next d n).past [c])
        (markPart (String.singleton c) (place.next d n) c :: parts) enclosed false) := by
  intro f
  have hnext : ((after d n place parts enclosed operand).far f).cursor.rest.head? = some c := by
    rw [State.far_cursor, State.after_cursor, hrest]
    rfl
  rw [opening, if_pos hnext]
  exact goes_shift (show (place.next d n).rest = [c] ++ u from hrest) (List.cons_ne_nil c []) f

/-! ### Nodes -/

/-- The parts since there was a number of them are gathered into one. -/
theorem goes_gathered (new parts : List Part) {fields : List Node → Option Nat × Option Nat}
    {more : List Part} {p : Part} (hnew : new.reverse = p :: more)
    (hp : p.node.kind ≠ Node.errorKind) :
    Goes (gather kind parts.length fields) (.plain d n)
      (after d n place (new ++ parts) enclosed operand)
      (after d n place
        (⟨p.start, nodeOver kind fields p.start place ((p :: more).map (·.node))⟩ :: parts)
        enclosed operand) := by
  refine goes_gather fun f => ?_
  have hsize : ((after d n place (new ++ parts) enclosed operand).far f).size - parts.length =
      new.length := by
    have hgo : ((after d n place (new ++ parts) enclosed operand).far f).size =
      (new ++ parts).length := rfl
    rw [hgo, List.length_append, Nat.add_sub_cancel]
  have hparts : ((after d n place (new ++ parts) enclosed operand).far f).parts = new ++ parts := rfl
  -- the first of the new parts is no error, so the node starts with it
  have hpass : isPassed p = false := by simpa [isPassed] using hp
  rw [gather, hsize, hparts, List.take_left, List.drop_left, hnew,
    List.takeWhile_cons_of_neg (by simp [hpass]), List.dropWhile_cons_of_neg (by simp [hpass])]
  rfl

/-- What a reader leaves, in the order of the source, is gathered into one node. -/
theorem goes_node_over (kind : String) {p : Reader} {stop : Cursor} {first : Part} {more : List Part}
    {enclosed' operand' : Bool} (hp : Goes p (.plain d n) (after d n place parts enclosed operand)
      (after d n stop ((first :: more).reverse ++ parts) enclosed' operand'))
    (hfirst : first.node.kind ≠ Node.errorKind) :
    Goes (node kind p) (.plain d n) (after d n place parts enclosed operand)
      (after d n stop (⟨first.start, nodeOver kind noFields first.start stop
        ((first :: more).map (·.node))⟩ :: parts) enclosed' operand') :=
  goes_node hp (goes_gathered _ parts (List.reverse_reverse _) hfirst)

end Reader

end Source

end PullNotes
