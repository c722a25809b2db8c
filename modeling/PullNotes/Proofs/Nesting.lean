import PullNotes.Proofs.Traversal

/-!
# Brackets that match

The tokens of a source are the leaves of its tree.  Read from the left, an opening bracket among
them awaits its closing one, and a closing bracket has to be the one that was awaited last.
Brackets match if nothing is awaited in the end.

* `Nesting.follow_append`, `Nesting.follow_outer` : tokens one after another, and within more
brackets.
* `Nesting.Nested`, `Nesting.Enclosed`, `Nesting.Braced` : tokens whose brackets match, such tokens
  in two brackets that match each other, and in braces within parentheses.
* `Nesting.Enclosed.eq_nil_of_append` : brackets around all tokens match no sooner than at the end.
-/

namespace PullNotes

/-- The kinds of the leaves of a tree, in the order of the source. -/
def Node.tokens (n : Node) : List String := (n.preorder.filter (·.children.isEmpty)).map kind

namespace Nesting

/-! ### Tokens one after another -/

/-- The bracket that closes the one that a token opens.  The dialects with types have a second pair
of braces, of which one may go with one of the first pair. -/
def closer? (token : String) : Option String :=
  if token = "(" then some ")"
  else if token = "[" then some "]"
  else if token ∈ ["\x7b", "$\x7b", "\x7b|"] then some "\x7d"
  else none

/-- The closing bracket that a token stands for. -/
def closing? (token : String) : Option String :=
  if token ∈ [")", "]", "\x7d"] then some token
  else if token = "|\x7d" then some "\x7d"
  else none

/-- The closing brackets that are awaited after a token, the next one first; none if the token is a
closing bracket and another one is awaited. -/
def step (awaited : List String) (token : String) : Option (List String) :=
  match closer? token, closing? token with
  | some c, _ => some (c :: awaited)
  | none, none => some awaited
  | none, some c =>
    match awaited with
    | next :: outer => if next = c then some outer else none
    | [] => none

/-- The closing brackets that are awaited after some tokens. -/
def follow (awaited tokens : List String) : Option (List String) := tokens.foldlM step awaited

/-- The brackets among some tokens match. -/
def Nested (tokens : List String) : Prop := follow [] tokens = some []

instance (tokens : List String) : Decidable (Nested tokens) :=
  inferInstanceAs (Decidable (follow [] tokens = some []))

/-- Some tokens are two brackets with tokens in between whose brackets match. -/
def Enclosed (opening closing : String) (tokens : List String) : Prop :=
  ∃ inside, tokens = opening :: inside ++ [closing] ∧ Nested inside

variable {a b c u v outer : List String} {t opening closing : String}

theorem follow_append (a u v : List String) : follow a (u ++ v) = (follow a u).bind (follow · v) :=
  List.foldlM_append

theorem follow_cons (a : List String) (t : String) (u : List String) :
    follow a (t :: u) = (step a t).bind (follow · u) := List.foldlM_cons

theorem follow_trans (hu : follow a u = some b) (hv : follow b v = some c) :
    follow a (u ++ v) = some c := by
  rw [follow_append, hu]
  exact hv

/-- A token that is no bracket. -/
def Plain (t : String) : Prop := closer? t = none ∧ closing? t = none

instance (t : String) : Decidable (Plain t) :=
  inferInstanceAs (Decidable (closer? t = none ∧ closing? t = none))

theorem step_opening (h : closer? opening = some closing) (a : List String) :
    step a opening = some (closing :: a) := by
  simp only [step, h]

/-- The bracket that closes another one stands for itself. -/
theorem closing?_of_closer? (h : closer? opening = some closing) :
    closer? closing = none ∧ closing? closing = some closing := by
  unfold closer? at h
  split at h
  · cases h
    decide
  · split at h
    · cases h
      decide
    · split at h
      · cases h
        decide
      · cases h

theorem step_closing (h : closer? opening = some closing) (a : List String) :
    step (closing :: a) closing = some a := by
  obtain ⟨hcloser, hclosing⟩ := closing?_of_closer? h
  simp only [step, hcloser, hclosing, if_true]

/-! ### More brackets around -/

theorem step_outer (h : step a t = some b) (outer : List String) :
    step (a ++ outer) t = some (b ++ outer) := by
  unfold step at h ⊢
  cases hcloser : closer? t with
  | some c =>
    simp only [hcloser, Option.some.injEq] at h ⊢
    rw [← h, List.cons_append]
  | none =>
    cases hclosing : closing? t with
    | none =>
      simp only [hcloser, hclosing, Option.some.injEq] at h ⊢
      rw [h]
    | some c =>
      cases a with
      | nil => simp only [hcloser, hclosing, reduceCtorEq] at h
      | cons next a =>
        -- the bracket that is awaited next is the same with more of them awaited after it
        simp only [hcloser, hclosing, List.cons_append] at h ⊢
        by_cases heq : next = c
        · simp only [if_pos heq, Option.some.injEq] at h ⊢
          rw [h]
        · simp only [if_neg heq, reduceCtorEq] at h

theorem follow_outer (h : follow a u = some b) (outer : List String) :
    follow (a ++ outer) u = some (b ++ outer) := by
  induction u generalizing a with
  | nil =>
    cases h
    rfl
  | cons t u ih =>
    rw [follow_cons] at h ⊢
    obtain ⟨a', hstep, hrest⟩ := Option.bind_eq_some_iff.1 h
    rw [step_outer hstep outer]
    exact ih hrest

namespace Nested

theorem nil : Nested [] := rfl

theorem append (hu : Nested u) (hv : Nested v) : Nested (u ++ v) := follow_trans hu hv

/-- Matching brackets change nothing about those that are awaited around them. -/
theorem follow_eq (h : Nested u) (a : List String) : follow a u = some a := follow_outer h a

end Nested

namespace Enclosed

theorem nested (hclosing : closer? opening = some closing) (h : Enclosed opening closing u) :
    Nested u := by
  obtain ⟨inside, rfl, hinside⟩ := h
  rw [Nested, List.cons_append, follow_cons, step_opening hclosing, Option.bind_some,
    follow_append, hinside.follow_eq, Option.bind_some, follow_cons,
    step_closing hclosing]
  rfl

theorem head?_eq (h : Enclosed opening closing u) : u.head? = some opening := by
  obtain ⟨inside, rfl, -⟩ := h
  rfl

/-- **Two brackets around all tokens match no sooner than at the end**: where the brackets match
before that, it is at the start. -/
theorem eq_nil_of_append (hclosing : closer? opening = some closing)
    (h : Enclosed opening closing (u ++ v)) (hnested : Nested u) (hne : u ≠ []) : v = [] := by
  obtain ⟨inside, heq, hinside⟩ := h
  cases u with
  | nil => exact absurd rfl hne
  | cons t u =>
    rw [List.cons_append, List.cons_append, List.cons.injEq] at heq
    obtain ⟨rfl, heq⟩ := heq
    rcases List.eq_nil_or_concat v with hnil | ⟨front, last, rfl⟩
    · exact hnil
    · -- otherwise the tokens up to there end within the brackets, and the closing one is awaited
      rw [List.concat_eq_append, ← List.append_assoc] at heq
      obtain ⟨rfl, -⟩ := List.append_inj' heq rfl
      rw [Nested, follow_cons, step_opening hclosing, Option.bind_some] at hnested
      rw [Nested, follow_append] at hinside
      obtain ⟨a, hu, -⟩ := Option.bind_eq_some_iff.1 hinside
      have hawaited := follow_outer hu [closing]
      rw [List.nil_append, hnested, Option.some.injEq] at hawaited
      exact absurd hawaited.symm (by simp)

end Enclosed

/-- Some tokens are braces in parentheses, with tokens within the braces whose brackets match. -/
def Braced (tokens : List String) : Prop :=
  ∃ inside, tokens = "(" :: inside ++ [")"] ∧ Enclosed "\x7b" "\x7d" inside

theorem Braced.enclosed (h : Braced u) : Enclosed "(" ")" u := by
  obtain ⟨inside, rfl, hinside⟩ := h
  exact ⟨inside, rfl, hinside.nested rfl⟩

end Nesting

/-! ### The tokens of a tree -/

namespace Node

theorem tokens_eq (n : Node) :
    n.tokens = if n.children.isEmpty then [n.kind] else n.children.flatMap tokens := by
  have hbelow : ((preorderAll n.children).filter (·.children.isEmpty)).map kind =
      n.children.flatMap tokens := by
    rw [preorderAll_eq_flatMap, List.filter_flatMap, List.map_flatMap]
    rfl
  rw [tokens, n.preorder_eq, List.filter_cons, apply_ite (List.map kind), List.map_cons, hbelow]
  split
  · next hempty =>
    rw [List.isEmpty_iff.1 hempty]
    rfl
  · rfl

theorem tokens_of_leaf {n : Node} (h : n.children = []) : n.tokens = [n.kind] := by
  rw [tokens_eq, h]
  rfl

theorem tokens_of_children {n : Node} (h : n.children ≠ []) :
    n.tokens = n.children.flatMap tokens := by
  rw [tokens_eq, if_neg (by simpa using h)]

end Node

end PullNotes
