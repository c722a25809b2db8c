import PullNotes.Proofs.Source.Tokens

/-!
# Texts one after another

What a reader that is put together reads follows from what its parts read, without a word about
places: a text read by the first part and a text read by the others are, one after the other, read
by all of them, and their nodes come one after the other.  There is one rule for each way of putting
readers together, so that what a rule of the grammar reads is shown along the rule itself.

* `ReadsAll` : a reader reads a text as some nodes, the first of which starts with the text.
* `ReadsOn` : a reader reads what may be nothing, with the blanks in front.
* `ReadsAll.node` : what is gathered into one node.
* `ReadsOn.many` : texts that one reader reads again and again.
-/

namespace PullNotes

namespace Source

open State (after)
open Reader

variable {d : Dialect} {n : Nat} {p : Reader} {ps : List Reader}
  {enclosed before middle operand : Bool} {F G : List Char → Prop} {ws text more u : List Char}
  {shape : Node} {shapes others : List Node}

/-- A reader reads a text as some nodes, the first of which starts with the text, wherever the text
stands between tokens, if what follows is as it should be. -/
def ReadsAll (d : Dialect) (p : Reader) (enclosed before operand : Bool) (F : List Char → Prop)
    (text : List Char) (shapes : List Node) : Prop :=
  ∀ (n : Nat) (place : Cursor) (parts : List Part) (ws u : List Char), Blank ws →
    place.rest = ws ++ (text ++ u) → place.EndsAt n → F u →
    ∃ new : List Part, new.map (·.node.unplaced) = shapes ∧
      (∀ part, new.head? = some part → part.start = place.past ws) ∧
      Goes p (.plain d n) (after d n place parts enclosed before)
        (after d n (place.past (ws ++ text)) (new.reverse ++ parts) enclosed operand)

/-- A reader reads a text from the end of a token on, with the blanks in front, as some nodes. -/
def ReadsOn (d : Dialect) (p : Reader) (enclosed before operand : Bool) (F : List Char → Prop)
    (text : List Char) (shapes : List Node) : Prop :=
  ∀ (n : Nat) (place : Cursor) (parts : List Part) (u : List Char),
    place.rest = text ++ u → place.EndsAt n → F u →
    ∃ new : List Part, new.map (·.node.unplaced) = shapes ∧
      Goes p (.plain d n) (after d n place parts enclosed before)
        (after d n (place.past text) (new.reverse ++ parts) enclosed operand)

/-- A reader goes nowhere from the end of a token before a text. -/
def Passes (d : Dialect) (p : Reader) (enclosed before : Bool) (F : List Char → Prop)
    (text : List Char) : Prop :=
  ∀ (n : Nat) (place : Cursor) (parts : List Part) (u : List Char),
    place.rest = text ++ u → place.EndsAt n → F u →
    Goes p (.plain d n) (after d n place parts enclosed before)
      (after d n place parts enclosed before)

/-- A reader is stuck at the end of a token before a text. -/
def SticksAt (d : Dialect) (p : Reader) (enclosed before : Bool) (F : List Char → Prop)
    (text : List Char) : Prop :=
  ∀ (n : Nat) (place : Cursor) (parts : List Part) (u : List Char),
    place.rest = text ++ u → place.EndsAt n → F u →
    Sticks p (.plain d n) (after d n place parts enclosed before)

theorem Passes.seq (hp : Passes d p enclosed before F text)
    (hps : Passes d (seq ps) enclosed before F text) :
    Passes d (Reader.seq (p :: ps)) enclosed before F text :=
  fun n place parts u hrest hplace hu =>
    goes_seq (hp n place parts u hrest hplace hu) (hps n place parts u hrest hplace hu)

theorem SticksAt.seq_head (h : SticksAt d p enclosed before F text) :
    SticksAt d (seq (p :: ps)) enclosed before F text :=
  fun n place parts u hrest hplace hu => sticks_seq_head (h n place parts u hrest hplace hu)

theorem SticksAt.node (h : SticksAt d p enclosed before F text) (kind : String) :
    SticksAt d (node kind p) enclosed before F text :=
  fun n place parts u hrest hplace hu => sticks_node (h n place parts u hrest hplace hu)

theorem SticksAt.typed (h : SticksAt d p enclosed before F text) :
    SticksAt d (typed p) enclosed before F text :=
  fun n place parts u hrest hplace hu => sticks_typed (h n place parts u hrest hplace hu)

theorem SticksAt.first (hp : SticksAt d p enclosed before F text)
    (hps : SticksAt d (Reader.first ps) enclosed before F text) :
    SticksAt d (Reader.first (p :: ps)) enclosed before F text :=
  fun n place parts u hrest hplace hu =>
    sticks_first_cons (hp n place parts u hrest hplace hu) (hps n place parts u hrest hplace hu)

theorem SticksAt.maybe (h : SticksAt d p enclosed before F text) :
    Passes d (maybe p) enclosed before F text :=
  fun n place parts u hrest hplace hu => goes_maybe_of_sticks (h n place parts u hrest hplace hu)

theorem SticksAt.many (h : SticksAt d p enclosed before F text) :
    Passes d (many p) enclosed before F text :=
  fun n place parts u hrest hplace hu => goes_many_of_sticks (h n place parts u hrest hplace hu)

/-! ### One text -/

namespace Reads

theorem mono (h : Reads d p enclosed operand G text shape) (hF : ∀ u, F u → G u) :
    Reads d p enclosed operand F text shape :=
  fun n place parts before ws u hws hrest hplace hu =>
    h n place parts before ws u hws hrest hplace (hF u hu)

/-- A reader that is no other in effect where the text stands. -/
theorem of_goes {q : Reader} (h : Reads d q enclosed operand F text shape)
    (hq : ∀ n place parts before ws u, Blank ws → place.rest = ws ++ (text ++ u) →
      place.EndsAt n → F u → ∀ s', Goes q (.plain d n) (after d n place parts enclosed before) s' →
        Goes p (.plain d n) (after d n place parts enclosed before) s') :
    Reads d p enclosed operand F text shape := by
  intro n place parts before ws u hws hrest hplace hu
  obtain ⟨node, hnode, hgoes⟩ := h n place parts before ws u hws hrest hplace hu
  exact ⟨node, hnode, hq n place parts before ws u hws hrest hplace hu _ hgoes⟩

theorem on (h : Reads d p enclosed operand F text shape) (hws : Blank ws) :
    ReadsOn d p enclosed before operand F (ws ++ text) [shape] := by
  intro n place parts u hrest hplace hu
  rw [List.append_assoc] at hrest
  obtain ⟨node, hnode, hgoes⟩ := h n place parts before ws u hws hrest hplace hu
  exact ⟨[⟨place.past ws, node⟩], by rw [List.map_singleton, hnode], hgoes⟩

theorem all (h : Reads d p enclosed operand F text shape) :
    ReadsAll d p enclosed before operand F text [shape] := by
  intro n place parts ws u hws hrest hplace hu
  obtain ⟨node, hnode, hgoes⟩ := h n place parts before ws u hws hrest hplace hu
  refine ⟨[⟨place.past ws, node⟩], by rw [List.map_singleton, hnode], fun part hpart => ?_, hgoes⟩
  rw [← Option.some.inj hpart]

theorem maybe (h : Reads d p enclosed operand F text shape) :
    Reads d (maybe p) enclosed operand F text shape :=
  h.of_goes fun _ _ _ _ _ _ _ _ _ _ _ => goes_maybe

theorem first_head (h : Reads d p enclosed operand F text shape) :
    Reads d (first (p :: ps)) enclosed operand F text shape :=
  h.of_goes fun _ _ _ _ _ _ _ _ _ _ _ => goes_first_head

theorem first (hp : ∀ before ws, Blank ws → SticksAt d p enclosed before F (ws ++ text))
    (hps : Reads d (first ps) enclosed operand F text shape) :
    Reads d (Reader.first (p :: ps)) enclosed operand F text shape :=
  hps.of_goes fun n place parts before ws u hws hrest hplace hu _ =>
    goes_first (hp before ws hws n place parts u (by rw [hrest, List.append_assoc]) hplace hu)

theorem within {inside : Bool} (h : Reads d p inside operand F text shape) :
    Reads d (within inside p) enclosed operand F text shape := by
  intro n place parts before ws u hws hrest hplace hu
  obtain ⟨node, hnode, hgoes⟩ := h n place parts before ws u hws hrest hplace hu
  exact ⟨node, hnode, goes_within (s := after d n place parts enclosed before) hgoes⟩

end Reads

/-! ### Several texts -/

namespace ReadsOn

/-- A text, which may be nothing, and what is read after it. -/
theorem seq (hp : ReadsOn d p enclosed before middle G text shapes)
    (hps : ReadsOn d (Reader.seq ps) enclosed middle operand F more others)
    (hF : ∀ u, F u → G (more ++ u)) :
    ReadsOn d (Reader.seq (p :: ps)) enclosed before operand F (text ++ more)
      (shapes ++ others) := by
  intro n place parts u hrest hplace hu
  rw [List.append_assoc] at hrest
  obtain ⟨front, hfront, hgoFront⟩ := hp n place parts _ hrest hplace (hF u hu)
  obtain ⟨back, hback, hgoBack⟩ := hps n _ (front.reverse ++ parts) u (Cursor.rest_past hrest)
    (hplace.past hrest) hu
  rw [Cursor.past_past] at hgoBack
  refine ⟨front ++ back, by rw [List.map_append, hfront, hback], ?_⟩
  rw [List.reverse_append, List.append_assoc]
  exact goes_seq hgoFront hgoBack

theorem pass (hp : Passes d p enclosed before F text)
    (hps : ReadsOn d (Reader.seq ps) enclosed before operand F text shapes) :
    ReadsOn d (Reader.seq (p :: ps)) enclosed before operand F text shapes := by
  intro n place parts u hrest hplace hu
  obtain ⟨new, hnew, hgoes⟩ := hps n place parts u hrest hplace hu
  exact ⟨new, hnew, goes_seq (hp n place parts u hrest hplace hu) hgoes⟩

theorem choose_of_false {condition : Context → State → Bool} {q : Reader}
    (hcondition : ∀ n place parts u, place.rest = text ++ u → place.EndsAt n → F u →
      ∀ f, condition (.plain d n) ((after d n place parts enclosed before).far f) = false)
    (hq : ReadsOn d q enclosed before operand F text shapes) :
    ReadsOn d (choose condition p q) enclosed before operand F text shapes := by
  intro n place parts u hrest hplace hu
  obtain ⟨new, hnew, hgoes⟩ := hq n place parts u hrest hplace hu
  exact ⟨new, hnew, goes_choose_of_false (hcondition n place parts u hrest hplace hu) hgoes⟩

theorem maybe (h : ReadsOn d p enclosed before operand F text shapes) :
    ReadsOn d (maybe p) enclosed before operand F text shapes := by
  intro n place parts u hrest hplace hu
  obtain ⟨new, hnew, hgoes⟩ := h n place parts u hrest hplace hu
  exact ⟨new, hnew, goes_maybe hgoes⟩

/-- Texts that one reader reads again and again, up to one where it is stuck. -/
theorem many {α : Type} {items : List α} {text : α → List Char} {shapes : α → List Node}
    (hitems : ∀ i ∈ items, text i ≠ [] ∧ ReadsOn d p enclosed operand operand G (text i) (shapes i))
    (hnext : ∀ i ∈ items, ∀ u, G (text i ++ u)) (hF : ∀ u, F u → G u)
    (hend : SticksAt d p enclosed operand F []) :
    ReadsOn d (Reader.many p) enclosed operand operand F (items.flatMap text)
      (items.flatMap shapes) := by
  intro n place parts u hrest hplace hu
  suffices h : ∃ new : List Part, new.map (·.node.unplaced) = items.flatMap shapes ∧
      Repeats p (.plain d n) (after d n place parts enclosed operand)
        (after d n (place.past (items.flatMap text)) (new.reverse ++ parts) enclosed operand) by
    obtain ⟨new, hnew, hrepeats⟩ := h
    exact ⟨new, hnew, hrepeats.goes_many (hplace.past hrest).offset_le⟩
  induction items generalizing place parts with
  | nil => exact ⟨[], rfl, .stop (hend n place parts u hrest hplace hu)⟩
  | cons i items ih =>
    obtain ⟨⟨hne, hitem⟩, hitems⟩ := List.forall_mem_cons.1 hitems
    obtain ⟨-, hnext⟩ := List.forall_mem_cons.1 hnext
    rw [List.flatMap_cons, List.append_assoc] at hrest
    have hG : G (items.flatMap text ++ u) := by
      cases items with
      | nil => exact hF u hu
      | cons j items =>
        rw [List.flatMap_cons, List.append_assoc]
        exact hnext j List.mem_cons_self _
    obtain ⟨front, hfront, hgoFront⟩ := hitem n place parts _ hrest hplace hG
    obtain ⟨back, hback, hrepeats⟩ := ih hitems hnext (place.past (text i)) (front.reverse ++ parts)
      (Cursor.rest_past hrest) (hplace.past hrest)
    rw [Cursor.past_past, ← List.flatMap_cons] at hrepeats
    refine ⟨front ++ back, by rw [List.map_append, hfront, hback, List.flatMap_cons], ?_⟩
    rw [List.reverse_append, List.append_assoc]
    exact .step hgoFront (Cursor.offset_lt_past hrest hne) hrepeats

end ReadsOn

namespace ReadsAll

/-- A text and what is read after it. -/
theorem seq (hp : ReadsAll d p enclosed before middle G text (shape :: shapes))
    (hps : ReadsOn d (Reader.seq ps) enclosed middle operand F more others)
    (hF : ∀ u, F u → G (more ++ u)) :
    ReadsAll d (Reader.seq (p :: ps)) enclosed before operand F (text ++ more)
      (shape :: (shapes ++ others)) := by
  intro n place parts ws u hws hrest hplace hu
  rw [List.append_assoc] at hrest
  obtain ⟨front, hfront, hstart, hgoFront⟩ := hp n place parts ws _ hws hrest hplace (hF u hu)
  obtain ⟨back, hback, hgoBack⟩ := hps n _ (front.reverse ++ parts) u
    (Cursor.rest_past_text hrest) (hplace.past_text hrest) hu
  rw [Cursor.past_past, List.append_assoc] at hgoBack
  refine ⟨front ++ back, by rw [List.map_append, hfront, hback]; rfl, fun part hpart => ?_, ?_⟩
  · cases front with
    | nil => cases hfront
    | cons first front => exact hstart part hpart
  · rw [List.reverse_append, List.append_assoc]
    exact goes_seq hgoFront hgoBack

/-- A text after which the other readers go nowhere. -/
theorem seq_passes (hp : ReadsAll d p enclosed before operand G text shapes)
    (hps : Passes d (Reader.seq ps) enclosed operand F []) (hF : ∀ u, F u → G u) :
    ReadsAll d (Reader.seq (p :: ps)) enclosed before operand F text shapes := by
  intro n place parts ws u hws hrest hplace hu
  obtain ⟨new, hnew, hstart, hgoes⟩ := hp n place parts ws u hws hrest hplace (hF u hu)
  exact ⟨new, hnew, hstart, goes_seq hgoes
    (hps n _ _ u (Cursor.rest_past_text hrest) (hplace.past_text hrest) hu)⟩

/-- A text after which the other readers are stuck. -/
theorem sticksAt_seq (hp : ReadsAll d p enclosed before middle G text shapes)
    (hps : SticksAt d (Reader.seq ps) enclosed middle F more) (hF : ∀ u, F u → G (more ++ u))
    (hws : Blank ws) : SticksAt d (Reader.seq (p :: ps)) enclosed before F (ws ++ (text ++ more)) := by
  intro n place parts u hrest hplace hu
  rw [List.append_assoc, List.append_assoc] at hrest
  obtain ⟨new, -, -, hgoes⟩ := hp n place parts ws _ hws hrest hplace (hF u hu)
  exact sticks_seq hgoes (hps n _ (new.reverse ++ parts) u (Cursor.rest_past_text hrest)
    (hplace.past_text hrest) hu)

theorem on (h : ReadsAll d p enclosed before operand F text shapes) (hws : Blank ws) :
    ReadsOn d p enclosed before operand F (ws ++ text) shapes := by
  intro n place parts u hrest hplace hu
  rw [List.append_assoc] at hrest
  obtain ⟨new, hnew, -, hgoes⟩ := h n place parts ws u hws hrest hplace hu
  exact ⟨new, hnew, hgoes⟩

theorem pass (hp : ∀ ws, Blank ws → Passes d p enclosed before F (ws ++ text))
    (hps : ReadsAll d (Reader.seq ps) enclosed before operand F text shapes) :
    ReadsAll d (Reader.seq (p :: ps)) enclosed before operand F text shapes := by
  intro n place parts ws u hws hrest hplace hu
  obtain ⟨new, hnew, hstart, hgoes⟩ := hps n place parts ws u hws hrest hplace hu
  have hpass := hp ws hws n place parts u (by rw [hrest, List.append_assoc]) hplace hu
  exact ⟨new, hnew, hstart, goes_seq hpass hgoes⟩

theorem within {inside : Bool} (h : ReadsAll d p inside before operand F text shapes) :
    ReadsAll d (within inside p) enclosed before operand F text shapes := by
  intro n place parts ws u hws hrest hplace hu
  obtain ⟨new, hnew, hstart, hgoes⟩ := h n place parts ws u hws hrest hplace hu
  exact ⟨new, hnew, hstart, goes_within (s := after d n place parts enclosed before) hgoes⟩

theorem withArrows (h : ReadsAll d p enclosed before operand F text shapes) :
    ReadsAll d (withArrows true p) enclosed before operand F text shapes := by
  intro n place parts ws u hws hrest hplace hu
  obtain ⟨new, hnew, hstart, hgoes⟩ := h n place parts ws u hws hrest hplace hu
  exact ⟨new, hnew, hstart, goes_withArrows (s := after d n place parts enclosed before) hgoes⟩

/-- **The nodes of a text are gathered into one over all of it.** -/
theorem node (kind : String)
    (h : ∀ before, ReadsAll d p enclosed before operand F text (shape :: shapes))
    (hkind : shape.kind ≠ Node.errorKind) :
    Reads d (node kind p) enclosed operand F text
      (shapeOver kind noFields text (shape :: shapes)) := by
  intro n place parts before ws u hws hrest hplace hu
  obtain ⟨new, hnew, hstart, hgoes⟩ := h before n place parts ws u hws hrest hplace hu
  cases new with
  | nil => cases hnew
  | cons part new =>
    have hpart : part.node.unplaced = shape := (List.cons.inj hnew).1
    have hgathered := goes_node_over kind hgoes (by rw [← Node.kind_unplaced, hpart]; exact hkind)
    rw [hstart part rfl] at hgathered
    exact ⟨_, unplaced_over kind (fun _ => rfl) hrest (by rw [List.map_map]; exact hnew), hgathered⟩

end ReadsAll

/-! ### Nodes over what was read before -/

theorem Reader.seq_append (ps qs : List Reader) (ctx : Context) (s : State) :
    seq (ps ++ qs) ctx s = match seq ps ctx s with
      | .ok s => seq qs ctx s
      | .error e => .error e := by
  induction ps generalizing s with
  | nil => rfl
  | cons p ps ih =>
    rw [List.cons_append, seq_cons, seq_cons]
    cases p ctx s with
    | ok s => exact ih s
    | error e => rfl

/-- **A node and what is read after it are gathered into one** over the text of both. -/
theorem ReadsOn.exists_goes_gather
    (h : ReadsOn d (Reader.seq ps) enclosed before operand F text shapes) (kind : String)
    {start : Cursor} {sofar : List Char} {node : Node} (parts : List Part)
    (hrest : start.rest = sofar ++ (text ++ u)) (hstart : start.EndsAt n) (hu : F u)
    (hnode : node.kind ≠ Node.errorKind) :
    ∃ node' : Node, node'.unplaced = shapeOver kind noFields (sofar ++ text)
        (node.unplaced :: shapes) ∧
      Goes (Reader.seq (ps ++ [gather kind parts.length noFields])) (.plain d n)
        (after d n (start.past sofar) (⟨start, node⟩ :: parts) enclosed before)
        (after d n (start.past (sofar ++ text)) (⟨start, node'⟩ :: parts) enclosed operand) := by
  obtain ⟨new, hnew, hgoes⟩ := h n (start.past sofar) (⟨start, node⟩ :: parts) u
    (Cursor.rest_past hrest) (hstart.past hrest) hu
  rw [Cursor.past_past] at hgoes
  have hnew' : (new.reverse ++ [(⟨start, node⟩ : Part)]).reverse = ⟨start, node⟩ :: new := by simp
  have hgathered : Goes (gather kind parts.length noFields) (.plain d n)
      (after d n (start.past (sofar ++ text)) (new.reverse ++ [⟨start, node⟩] ++ parts) enclosed
        operand) _ := goes_gathered _ parts hnew' hnode
  rw [List.append_assoc] at hgathered
  have hall : start.rest = [] ++ ((sofar ++ text) ++ u) := by
    rw [hrest]
    simp
  have hnodes : (node :: new.map (·.node)).map Node.unplaced = node.unplaced :: shapes := by
    rw [List.map_cons, List.map_map]
    exact congrArg _ hnew
  have hover : (nodeOver kind noFields start (start.past (sofar ++ text))
      (node :: new.map (·.node))).unplaced = _ := unplaced_over kind (fun _ => rfl) hall hnodes
  refine ⟨_, hover, fun f => ?_⟩
  obtain ⟨f', hf'⟩ := hgoes f
  rw [Reader.seq_append, hf']
  exact hgathered f'

/-! ### Next tokens -/

/-- Blanks, and then one of some marks. -/
def Before (marks u : List Char) : Prop := ∃ ws c v, Blank ws ∧ c ∈ marks ∧ u = ws ++ c :: v

namespace Before

variable {marks : List Char}

theorem cons {c : Char} (hws : Blank ws) (hc : c ∈ marks) (v : List Char) :
    Before marks (ws ++ c :: v) := ⟨ws, c, v, hws, hc, rfl⟩

theorem mono {others : List Char} (h : Before marks u) (hmarks : ∀ c ∈ marks, c ∈ others) :
    Before others u := by
  obtain ⟨ws, c, v, hws, hc, rfl⟩ := h
  exact cons hws (hmarks c hc) v

theorem atMarks {place : Cursor} {parts : List Part} (h : Before marks u)
    (hmarks : ∀ c ∈ marks, c ∈ Lexeme.singleMarks) (hrest : place.rest = u)
    (hplace : place.EndsAt n) : (after d n place parts enclosed operand).AtMarks marks := by
  obtain ⟨ws, c, v, hws, hc, rfl⟩ := h
  refine atMarks_after hmarks _ _ _ hws (fun e he => ?_) hrest hplace
  rwa [← Option.some.inj he]

theorem endsName (h : Before marks u) (hmarks : ∀ c ∈ marks, c ∈ Lexeme.marks ∧ c ≠ '\\') :
    Lexeme.EndsName u := by
  obtain ⟨ws, c, v, hws, hc, rfl⟩ := h
  exact endsName_append hws (.cons (hmarks c hc).1 (hmarks c hc).2 v)

/-- No symbol with another start is where one of some marks does. -/
theorem symbol_ne {place : Cursor} {parts : List Part} {e : Char} (h : Before marks u)
    (hmarks : ∀ c ∈ marks, Lexeme.isSpace c = false ∧ c ≠ '/') (he : e ∉ marks)
    (hrest : place.rest = u) (hplace : place.EndsAt n) (t : List Char) :
    (after d n place parts enclosed operand).symbol ≠ e :: t := by
  obtain ⟨ws, c, v, hws, hc, rfl⟩ := h
  rw [symbol_after hws hrest (.cons (hmarks c hc).1 (hmarks c hc).2) hplace]
  intro heq
  obtain ⟨rest, hrest⟩ := Lexeme.symbol_prefix (c :: v)
  rw [heq] at hrest
  exact he ((List.cons.inj hrest).1 ▸ hc)

end Before

/-- Where one of some marks follows. -/
theorem SticksAt.of_marks {marks : List Char} (hmarks : ∀ c ∈ marks, c ∈ Lexeme.singleMarks)
    (htext : ∀ u, F u → Before marks (text ++ u))
    (hp : ∀ n s, State.AtMarks marks s → Sticks p (.plain d n) s) :
    SticksAt d p enclosed before F text :=
  fun n _ _ u hrest hplace hu => hp n _ ((htext u hu).atMarks hmarks hrest hplace)

/-- The next token is a name. -/
structure State.AtName (cs : List Char) (s : State) : Prop where
  name : s.name = cs
  symbol : s.symbol = []
  rest : ∀ c, s.cursor.rest.head? = some c → Lexeme.isNamePart c = true ∨ c = '\\'

theorem State.AtName.within {cs : List Char} {s : State} (h : s.AtName cs) (enclosed : Bool) :
    { s with enclosed := enclosed }.AtName cs := ⟨h.name, h.symbol, h.rest⟩

theorem sticks_symbol_of_name {cs : List Char} {s : State} (h : s.AtName cs) {text : String}
    (htext : text.toList ≠ []) : Sticks (symbol text) (.plain d n) s :=
  sticks_symbol (by rw [h.symbol]; exact htext.symm)

section Name

variable {cs : List Char} (h : Lexeme.IsName cs)

include h

theorem atName_after {place : Cursor} {parts : List Part} (hws : Blank ws)
    (hrest : place.rest = ws ++ (cs ++ u)) (hu : Lexeme.EndsName u) (hplace : place.EndsAt n) :
    (after d n place parts enclosed operand).AtName cs := by
  have hstart := startsToken_name h u
  obtain ⟨c, rest, hcs, hc⟩ := h.exists_head
  constructor
  · rw [name_after hws hrest hstart hplace, h.length_eq hu, List.take_left]
  · rw [symbol_after hws hrest hstart hplace, hcs]
    exact Lexeme.symbol_of_isNamePart hc _
  · intro e he
    rw [cursor_after hws hrest hstart hplace, hcs] at he
    exact Option.some.inj he ▸ hc

/-- Where a name follows. -/
theorem SticksAt.of_name (hends : ∀ u, F u → Lexeme.EndsName (more ++ u)) (hws : Blank ws)
    (hp : ∀ n s, State.AtName cs s → Sticks p (.plain d n) s) :
    SticksAt d p enclosed before F (ws ++ (cs ++ more)) := by
  intro n place parts u hrest hplace hu
  refine hp n _ (atName_after h hws ?_ (hends u hu) hplace)
  rw [hrest]
  simp only [List.append_assoc]

/-- Where a name stands alone. -/
theorem SticksAt.of_name_alone (hends : ∀ u, F u → Lexeme.EndsName u) (hws : Blank ws)
    (hp : ∀ n s, State.AtName cs s → Sticks p (.plain d n) s) :
    SticksAt d p enclosed before F (ws ++ cs) := by
  have hname : SticksAt d p enclosed before F (ws ++ (cs ++ [])) := .of_name h hends hws hp
  rwa [List.append_nil] at hname

end Name

/-- One of some words of the language. -/
theorem Reader.reads_words {texts : List String} {w : String} (hw : w ∈ texts)
    (h : Lexeme.IsName w.toList) : Reads d (first (texts.map word)) enclosed false Lexeme.EndsName
      w.toList (leafShape w false w.toList) := by
  induction texts with
  | nil => cases hw
  | cons text texts ih =>
    by_cases htext : w = text
    · subst htext
      cases texts with
      | nil => exact reads_word w h
      | cons => exact (reads_word w h).first_head
    · have hrest := ih ((List.mem_cons.1 hw).resolve_left htext)
      refine .first (fun before ws hws => SticksAt.of_name_alone h (fun _ hu => hu) hws
        fun n s hs => sticks_word fun heq => htext ?_) hrest
      exact String.toList_injective (hs.name.symm.trans heq)

end Source

end PullNotes
