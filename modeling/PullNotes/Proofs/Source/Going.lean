import PullNotes.Source.Reader

/-!
# Where readers go and where they are stuck

A reader goes from one state to another, or it is stuck.  Which of the two is the case, and where it
goes, does not depend on the farthest token at which another reader was stuck before: that memory
only says where a stuck reader reports to be stuck.  So both are stated for every such memory, and
what readers put together do follows from what their parts do.

* `Reader.Goes`, `Reader.Sticks` : a reader goes to a state, or is stuck, whatever is remembered.
* `Reader.Repeats`, `Reader.Repeats.goes_many` : a reader that goes on step by step, and is stuck in
  the end.
* `Reader.Ensures` : where a reader goes on at all, something holds of the state after it.
-/

namespace PullNotes

namespace Source

namespace State

/-- A state with another memory of the farthest token. -/
def far (s : State) (f : Option Stuck) : State := { s with farthest := f }

@[simp] theorem far_last (s : State) (f : Option Stuck) : (s.far f).last = s.last := rfl

theorem exists_remember (s : State) (f : Option Stuck) (e : Stuck) :
    ∃ f', (s.far f).remember e = s.far f' := by
  unfold remember
  split
  · split
    · exact ⟨some e, rfl⟩
    · exact ⟨f, rfl⟩
  · exact ⟨some e, rfl⟩

end State

namespace Reader

variable {ctx : Context} {s s' s'' : State} {p q : Reader} {ps : List Reader}

/-- A reader goes from one state to another. -/
def Goes (p : Reader) (ctx : Context) (s s' : State) : Prop :=
  ∀ f, ∃ f', p ctx (s.far f) = .ok (s'.far f')

/-- A reader is stuck at a state. -/
def Sticks (p : Reader) (ctx : Context) (s : State) : Prop :=
  ∀ f, ∃ e, p ctx (s.far f) = .error e

theorem Goes.not_sticks (hp : Goes p ctx s s') : ¬ Sticks p ctx s := by
  intro hsticks
  obtain ⟨f', hgoes⟩ := hp none
  obtain ⟨e, herror⟩ := hsticks none
  rw [hgoes] at herror
  cases herror

/-! ### One reader after another -/

theorem goes_done : Goes done ctx s s := fun f => ⟨f, rfl⟩

theorem sticks_fail : Sticks fail ctx s := fun _ => ⟨_, rfl⟩

theorem seq_cons (p : Reader) (ps : List Reader) (ctx : Context) (s : State) :
    seq (p :: ps) ctx s = match p ctx s with
      | .ok s => seq ps ctx s
      | .error e => .error e := by
  cases ps with
  | nil =>
    have hgo : seq [p] ctx s = p ctx s := rfl
    rw [hgo]
    cases p ctx s <;> rfl
  | cons q ps => rfl

theorem goes_seq (hp : Goes p ctx s s') (hps : Goes (seq ps) ctx s' s'') :
    Goes (seq (p :: ps)) ctx s s'' := by
  intro f
  obtain ⟨f', hp⟩ := hp f
  rw [seq_cons, hp]
  exact hps f'

theorem goes_seq_one (hp : Goes p ctx s s') : Goes (seq [p]) ctx s s' := goes_seq hp goes_done

theorem sticks_seq_head (hp : Sticks p ctx s) : Sticks (seq (p :: ps)) ctx s := by
  intro f
  obtain ⟨e, hp⟩ := hp f
  rw [seq_cons, hp]
  exact ⟨e, rfl⟩

theorem sticks_seq (hp : Goes p ctx s s') (hps : Sticks (seq ps) ctx s') :
    Sticks (seq (p :: ps)) ctx s := by
  intro f
  obtain ⟨f', hp⟩ := hp f
  rw [seq_cons, hp]
  exact hps f'

/-! ### The first of several readers -/

theorem first_cons (p q : Reader) (ps : List Reader) (ctx : Context) (s : State) :
    first (p :: q :: ps) ctx s = match p ctx s with
      | .ok s => .ok s
      | .error e => first (q :: ps) ctx (s.remember e) := rfl

theorem goes_first_head (hp : Goes p ctx s s') : Goes (first (p :: ps)) ctx s s' := by
  cases ps with
  | nil => exact hp
  | cons q ps =>
    intro f
    obtain ⟨f', hp⟩ := hp f
    rw [first_cons, hp]
    exact ⟨f', rfl⟩

theorem goes_first (hp : Sticks p ctx s) (hps : Goes (first ps) ctx s s') :
    Goes (first (p :: ps)) ctx s s' := by
  cases ps with
  | nil =>
    obtain ⟨f', hfail⟩ := hps none
    cases hfail
  | cons q ps =>
    intro f
    obtain ⟨e, hp⟩ := hp f
    obtain ⟨f', hf'⟩ := s.exists_remember f e
    rw [first_cons, hp]
    dsimp only
    rw [hf']
    exact hps f'

theorem sticks_first_cons (hp : Sticks p ctx s) (hps : Sticks (first ps) ctx s) :
    Sticks (first (p :: ps)) ctx s := by
  cases ps with
  | nil => exact hp
  | cons q ps =>
    intro f
    obtain ⟨e, hp⟩ := hp f
    obtain ⟨f', hf'⟩ := s.exists_remember f e
    rw [first_cons, hp]
    dsimp only
    rw [hf']
    exact hps f'

theorem sticks_first (h : ∀ p ∈ ps, Sticks p ctx s) : Sticks (first ps) ctx s := by
  induction ps with
  | nil => exact sticks_fail
  | cons p ps ih =>
    obtain ⟨hp, hps⟩ := List.forall_mem_cons.1 h
    exact sticks_first_cons hp (ih hps)

theorem goes_maybe (hp : Goes p ctx s s') : Goes (maybe p) ctx s s' := goes_first_head hp

theorem goes_maybe_of_sticks (hp : Sticks p ctx s) : Goes (maybe p) ctx s s :=
  goes_first hp goes_done

/-- What may be left out does not matter where it is stuck. -/
theorem sticks_seq_maybe (hp : Sticks p ctx s) (hps : Sticks (seq ps) ctx s) :
    Sticks (seq (maybe p :: ps)) ctx s :=
  sticks_seq (goes_maybe_of_sticks hp) hps

/-! ### A reader again and again -/

/-- A reader goes on step by step, each of which comes further, up to a state at which it is
stuck. -/
inductive Repeats (p : Reader) (ctx : Context) : State → State → Prop where
  | stop {s : State} : Sticks p ctx s → Repeats p ctx s s
  | step {s s' s'' : State} : Goes p ctx s s' → s.last.offset < s'.last.offset →
      Repeats p ctx s' s'' → Repeats p ctx s s''

theorem Repeats.offset_le (h : Repeats p ctx s s') : s.last.offset ≤ s'.last.offset := by
  induction h with
  | stop _ => exact Nat.le_refl _
  | step _ hlt _ ih => exact Nat.le_trans (Nat.le_of_lt hlt) ih

theorem repeated_succ (p : Reader) (n : Nat) (ctx : Context) (s : State) :
    repeated p (n + 1) ctx s = match p ctx s with
      | .error e => .ok (s.remember e)
      | .ok after =>
        if after.last.offset = s.last.offset then .ok after else repeated p n ctx after := rfl

/-- The steps are not more than the characters, so the limit of repetitions is not met. -/
theorem Repeats.goes_repeated (h : Repeats p ctx s s') (hend : s'.last.offset ≤ ctx.length) (n : Nat)
    (hn : ctx.length + 1 - s.last.offset ≤ n) : Goes (repeated p n) ctx s s' := by
  induction h generalizing n with
  | stop hsticks =>
    cases n with
    | zero => exact goes_done
    | succ n =>
      intro f
      obtain ⟨e, hsticks⟩ := hsticks f
      rw [repeated_succ, hsticks]
      obtain ⟨f', hf'⟩ := State.exists_remember _ f e
      exact ⟨f', congrArg Except.ok hf'⟩
  | step hgoes hlt hrest ih =>
    -- a step takes one repetition and comes further, so those left are enough for what is left
    have hle := Nat.le_trans hrest.offset_le hend
    cases n with
    | zero => omega
    | succ n =>
      intro f
      obtain ⟨f', hgoes⟩ := hgoes f
      rw [repeated_succ, hgoes]
      dsimp only
      rw [State.far_last, State.far_last, if_neg (Nat.ne_of_gt hlt)]
      exact ih hend n (by omega) f'

theorem Repeats.goes_many (h : Repeats p ctx s s') (hend : s'.last.offset ≤ ctx.length) :
    Goes (many p) ctx s s' := h.goes_repeated hend _ (Nat.le_refl _)

theorem goes_many_of_sticks (hp : Sticks p ctx s) : Goes (many p) ctx s s := by
  intro f
  unfold many
  generalize ctx.length + 1 - (s.far f).last.offset = n
  cases n with
  | zero => exact ⟨f, rfl⟩
  | succ n =>
    obtain ⟨e, hp⟩ := hp f
    rw [repeated_succ, hp]
    obtain ⟨f', hf'⟩ := s.exists_remember f e
    exact ⟨f', congrArg Except.ok hf'⟩

theorem sticks_seq_many (hp : Sticks p ctx s) (hps : Sticks (seq ps) ctx s) :
    Sticks (seq (many p :: ps)) ctx s :=
  sticks_seq (goes_many_of_sticks hp) hps

theorem goes_chain {step : Nat → Reader} (hp : Goes p ctx s s')
    (hmany : Goes (many (step s.size)) ctx s' s'') : Goes (chain p step) ctx s s'' :=
  fun f => goes_seq hp (goes_seq_one hmany) f

theorem sticks_chain {step : Nat → Reader} (hp : Sticks p ctx s) : Sticks (chain p step) ctx s :=
  fun f => sticks_seq_head hp f

/-! ### Conditions and modes -/

variable {condition : Context → State → Bool}

theorem goes_check (h : ∀ f, condition ctx (s.far f) = true) : Goes (check condition) ctx s s := by
  intro f
  rw [check, if_pos (h f)]
  exact ⟨f, rfl⟩

theorem sticks_check (h : ∀ f, condition ctx (s.far f) = false) : Sticks (check condition) ctx s := by
  intro f
  rw [check, h f]
  exact ⟨_, rfl⟩

theorem choose_of_true (h : ∀ f, condition ctx (s.far f) = true) (f : Option Stuck) :
    choose condition p q ctx (s.far f) = p ctx (s.far f) := by
  rw [choose, if_pos (h f)]

theorem choose_of_false (h : ∀ f, condition ctx (s.far f) = false) (f : Option Stuck) :
    choose condition p q ctx (s.far f) = q ctx (s.far f) := by
  rw [choose, h f]
  rfl

theorem goes_choose_of_true (h : ∀ f, condition ctx (s.far f) = true) (hp : Goes p ctx s s') :
    Goes (choose condition p q) ctx s s' := fun f => by
  rw [choose_of_true h]
  exact hp f

theorem goes_choose_of_false (h : ∀ f, condition ctx (s.far f) = false) (hq : Goes q ctx s s') :
    Goes (choose condition p q) ctx s s' := fun f => by
  rw [choose_of_false h]
  exact hq f

theorem sticks_choose_of_true (h : ∀ f, condition ctx (s.far f) = true) (hp : Sticks p ctx s) :
    Sticks (choose condition p q) ctx s := fun f => by
  rw [choose_of_true h]
  exact hp f

theorem sticks_choose_of_false (h : ∀ f, condition ctx (s.far f) = false) (hq : Sticks q ctx s) :
    Sticks (choose condition p q) ctx s := fun f => by
  rw [choose_of_false h]
  exact hq f

theorem sticks_typed (hp : Sticks p ctx s) : Sticks (typed p) ctx s := by
  cases h : ctx.dialect.isTyped
  · exact sticks_choose_of_false (fun _ => h) sticks_fail
  · exact sticks_choose_of_true (fun _ => h) hp

theorem goes_operand (hp : Goes p ctx s s') :
    Goes (operand p) ctx s { s' with afterOperand := true } := by
  intro f
  obtain ⟨f', hp⟩ := hp f
  rw [operand, hp]
  exact ⟨f', rfl⟩

theorem sticks_operand (hp : Sticks p ctx s) : Sticks (operand p) ctx s := by
  intro f
  obtain ⟨e, hp⟩ := hp f
  rw [operand, hp]
  exact ⟨e, rfl⟩

theorem goes_withArrows {arrows : Bool} (hp : Goes p ctx { s with typedArrows := arrows } s') :
    Goes (withArrows arrows p) ctx s { s' with typedArrows := s.typedArrows } := by
  intro f
  obtain ⟨f', hp⟩ := hp f
  have hgo : p ctx { s.far f with typedArrows := arrows } = .ok (s'.far f') := hp
  rw [withArrows, hgo]
  exact ⟨f', rfl⟩

theorem sticks_withArrows {arrows : Bool} (hp : Sticks p ctx { s with typedArrows := arrows }) :
    Sticks (withArrows arrows p) ctx s := by
  intro f
  obtain ⟨e, hp⟩ := hp f
  have hgo : p ctx { s.far f with typedArrows := arrows } = .error e := hp
  rw [withArrows, hgo]
  exact ⟨e, rfl⟩

/-! ### Nodes -/

theorem goes_gather {kind : String} {size : Nat} {fields : List Node → Option Nat × Option Nat}
    (h : ∀ f, gather kind size fields ctx (s.far f) = .ok (s'.far f)) :
    Goes (gather kind size fields) ctx s s' := fun f => ⟨f, h f⟩

theorem goes_node {kind : String} (hp : Goes p ctx s s')
    (hgather : Goes (gather kind s.size noFields) ctx s' s'') : Goes (node kind p) ctx s s'' := by
  intro f
  obtain ⟨f', hp⟩ := hp f
  rw [node, hp]
  exact hgather f'

theorem sticks_node {kind : String} (hp : Sticks p ctx s) : Sticks (node kind p) ctx s := by
  intro f
  obtain ⟨e, hp⟩ := hp f
  rw [node, hp]
  exact ⟨e, rfl⟩

/-! ### What holds if a reader goes on -/

variable {Q R : State → Prop}

/-- If a reader goes on from a state, something holds of the state after it. -/
def Ensures (p : Reader) (ctx : Context) (s : State) (Q : State → Prop) : Prop :=
  ∀ f after, p ctx (s.far f) = .ok after → Q after

theorem Sticks.ensures (hp : Sticks p ctx s) : Ensures p ctx s Q := by
  intro f after hafter
  obtain ⟨e, hp⟩ := hp f
  rw [hp] at hafter
  cases hafter

theorem Goes.ensures (hp : Goes p ctx s s') (hQ : ∀ f, Q (s'.far f)) : Ensures p ctx s Q := by
  intro f after hafter
  obtain ⟨f', hp⟩ := hp f
  rw [hp] at hafter
  cases hafter
  exact hQ f'

theorem sticks_of_ensures (hp : Ensures p ctx s fun _ => False) : Sticks p ctx s := by
  intro f
  cases hafter : p ctx (s.far f) with
  | ok after => exact (hp f after hafter).elim
  | error e => exact ⟨e, rfl⟩

theorem Ensures.mono (hp : Ensures p ctx s Q) (h : ∀ s', Q s' → R s') : Ensures p ctx s R :=
  fun f after hafter => h after (hp f after hafter)

theorem ensures_seq (hp : Ensures p ctx s Q) (hps : ∀ s', Q s' → Ensures (seq ps) ctx s' R) :
    Ensures (seq (p :: ps)) ctx s R := by
  intro f after hafter
  rw [seq_cons] at hafter
  cases hbefore : p ctx (s.far f) with
  | ok s' =>
    rw [hbefore] at hafter
    exact hps s' (hp f s' hbefore) s'.farthest after hafter
  | error e =>
    rw [hbefore] at hafter
    cases hafter

theorem ensures_seq_of_goes (hp : Goes p ctx s s') (hps : Ensures (seq ps) ctx s' R) :
    Ensures (seq (p :: ps)) ctx s R := by
  refine ensures_seq (Q := fun s'' => ∃ f, s'' = s'.far f) (hp.ensures fun f => ⟨f, rfl⟩) ?_
  rintro s'' ⟨f, rfl⟩ g
  exact hps g

theorem ensures_seq_one (hp : Ensures p ctx s Q) : Ensures (seq [p]) ctx s Q := hp

/-- After a reader that ensures something, another one is stuck. -/
theorem sticks_seq_of_ensures (hp : Ensures p ctx s Q) (hps : ∀ s', Q s' → Sticks (seq ps) ctx s') :
    Sticks (seq (p :: ps)) ctx s :=
  sticks_of_ensures (ensures_seq hp fun s' hs' => (hps s' hs').ensures)

theorem ensures_check (h : ∀ f, Q (s.far f)) : Ensures (check condition) ctx s Q := by
  intro f after hafter
  rw [check] at hafter
  split at hafter
  · cases hafter
    exact h f
  · cases hafter

/-- A condition leaves it to what follows to be stuck. -/
theorem sticks_seq_check (hps : Sticks (seq ps) ctx s) :
    Sticks (seq (check condition :: ps)) ctx s := by
  refine sticks_seq_of_ensures (Q := fun s' => ∃ f, s' = s.far f)
    (ensures_check fun f => ⟨f, rfl⟩) ?_
  rintro s' ⟨f, rfl⟩ g
  exact hps g

theorem ensures_first_cons (hp : Ensures p ctx s Q) (hps : Ensures (first ps) ctx s Q) :
    Ensures (first (p :: ps)) ctx s Q := by
  cases ps with
  | nil => exact hp
  | cons q ps =>
    intro f after hafter
    rw [first_cons] at hafter
    cases hbefore : p ctx (s.far f) with
    | ok s' =>
      rw [hbefore] at hafter
      cases hafter
      exact hp f _ hbefore
    | error e =>
      obtain ⟨f', hf'⟩ := s.exists_remember f e
      rw [hbefore] at hafter
      dsimp only at hafter
      rw [hf'] at hafter
      exact hps f' after hafter

theorem ensures_first (h : ∀ p ∈ ps, Ensures p ctx s Q) : Ensures (first ps) ctx s Q := by
  induction ps with
  | nil => exact sticks_fail.ensures
  | cons p ps ih =>
    obtain ⟨hp, hps⟩ := List.forall_mem_cons.1 h
    exact ensures_first_cons hp (ih hps)

theorem ensures_maybe (hp : Ensures p ctx s Q) (hs : ∀ f, Q (s.far f)) :
    Ensures (maybe p) ctx s Q :=
  ensures_first_cons hp (goes_done.ensures hs)

/-- What may be left out leaves it to what follows to be stuck, with it and without it. -/
theorem sticks_seq_maybe_of_ensures (hp : Ensures p ctx s Q)
    (hQ : ∀ s', Q s' → Sticks (seq ps) ctx s') (hs : Sticks (seq ps) ctx s) :
    Sticks (seq (maybe p :: ps)) ctx s := by
  refine sticks_seq_of_ensures (Q := fun s' => Q s' ∨ ∃ f, s' = s.far f)
    (ensures_maybe (hp.mono fun s' hs' => Or.inl hs') fun f => Or.inr ⟨f, rfl⟩) ?_
  rintro s' (hs' | ⟨f, rfl⟩)
  · exact hQ s' hs'
  · exact fun g => hs g

theorem ensures_chain {step : Nat → Reader} (hp : Ensures p ctx s Q)
    (hstep : ∀ s', Q s' → ∀ size, Sticks (step size) ctx s') (hfar : ∀ s' f, Q s' → Q (s'.far f)) :
    Ensures (chain p step) ctx s Q := by
  intro f
  refine ensures_seq hp (fun s' hs' => ensures_seq_one ?_) f
  exact (goes_many_of_sticks (hstep s' hs' _)).ensures fun f => hfar s' f hs'

theorem ensures_choose (hp : Ensures p ctx s Q) (hq : Ensures q ctx s Q) :
    Ensures (choose condition p q) ctx s Q := by
  intro f after hafter
  rw [choose] at hafter
  split at hafter
  · exact hp f after hafter
  · exact hq f after hafter

theorem ensures_choose_of_true (h : ∀ f, condition ctx (s.far f) = true) (hp : Ensures p ctx s Q) :
    Ensures (choose condition p q) ctx s Q := fun f => by
  rw [choose_of_true h]
  exact hp f

theorem ensures_choose_of_false (h : ∀ f, condition ctx (s.far f) = false)
    (hq : Ensures q ctx s Q) : Ensures (choose condition p q) ctx s Q := fun f => by
  rw [choose_of_false h]
  exact hq f

theorem ensures_operand (hp : Ensures p ctx s fun s' => Q { s' with afterOperand := true }) :
    Ensures (operand p) ctx s Q := by
  intro f after hafter
  rw [operand] at hafter
  cases hbefore : p ctx (s.far f) with
  | ok s' =>
    rw [hbefore] at hafter
    cases hafter
    exact hp f s' hbefore
  | error e =>
    rw [hbefore] at hafter
    cases hafter

theorem ensures_node {kind : String} (hp : Ensures p ctx s fun s' =>
      ∀ parts size, Q { s' with parts := parts, size := size }) : Ensures (node kind p) ctx s Q := by
  intro f after hafter
  rw [node] at hafter
  cases hbefore : p ctx (s.far f) with
  | ok s' =>
    rw [hbefore] at hafter
    cases hafter
    exact hp f s' hbefore _ _
  | error e =>
    rw [hbefore] at hafter
    cases hafter

end Reader

end Source

end PullNotes
