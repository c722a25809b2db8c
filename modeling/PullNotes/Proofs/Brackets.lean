import PullNotes.Proofs.FirstError
import PullNotes.Proofs.Nesting
import PullNotes.Source.Document

/-!
# Brackets in the rules of a grammar

What is proved of strict readings holds for every parser whose trees keep a few rules.  They say
where the brackets of the language stand: each node closes what it opens, a statement that starts
with a parenthesis is an expression, and an expression that starts with a bracket either ends with
the one that closes it, or is an operand in these brackets with something behind it.  If brackets
are around all tokens then there is nothing behind, and so the tree is known from the outside in.

* `Node.withoutComments` : a tree without its comments, which may stand anywhere.
* `Node.KeepsRules`, `Parser.KeepsRules` : the rules, as a decidable property of a tree, and of a
parser.
* `Node.KeepsRules.isParenthesizedObject_iff` : a program is an object in parentheses exactly if its
  tokens are braces in parentheses.
-/

namespace PullNotes

open Nesting (Braced Enclosed Nested Plain closer?)

namespace Node

variable {n root : Node} {ns : List Node} {opening closing kind : String}

/-! ### Comments -/

/-- The kinds of comments. -/
def commentKinds : List String := ["comment", "html_comment"]

mutual

/-- A tree without the comments in it, and without marks on the children. -/
def withoutComments : Node → Node
  | mk k b cs n m f p _ _ => mk k b (withoutCommentsAll cs) n m f p none none

/-- Several trees without the comments among and in them. -/
def withoutCommentsAll : List Node → List Node
  | [] => []
  | n :: ns =>
    if commentKinds.contains n.kind then withoutCommentsAll ns
    else withoutComments n :: withoutCommentsAll ns

end

/-! ### Rules -/

/-- If an expression starts with an opening bracket, it is of the kind that these brackets make, or
its first part is an operand and something follows. -/
def Opens (opening kind : String) (n : Node) : Prop :=
  n.tokens.head? = some opening →
    n.kind = kind ∨ 2 ≤ n.children.length ∧ ∀ c ∈ n.children.head?, Plain c.kind

instance (opening kind : String) (n : Node) : Decidable (n.Opens opening kind) :=
  inferInstanceAs (Decidable (_ → _))

/-- A node is two brackets, and nodes between them that are no brackets. -/
def IsInBrackets (opening closing : String) (n : Node) : Prop :=
  ∃ left middle right, n.children = left :: middle ++ [right] ∧ left.kind = opening ∧
    right.kind = closing ∧ ∀ c ∈ middle, Plain c.kind

theorem isInBrackets_iff : n.IsInBrackets opening closing ↔
    2 ≤ n.children.length ∧ (∀ c ∈ n.children.head?, c.kind = opening) ∧
      (∀ c ∈ n.children.getLast?, c.kind = closing) ∧
      ∀ c ∈ n.children.tail.dropLast, Plain c.kind := by
  constructor
  · rintro ⟨left, middle, right, hchildren, hleft, hright, hmiddle⟩
    rw [hchildren]
    refine ⟨by simp, by simp [hleft], ?_, by simpa using hmiddle⟩
    rw [List.getLast?_concat]
    simp [hright]
  · rintro ⟨hlength, hleft, hright, hmiddle⟩
    rcases hchildren : n.children with _ | ⟨left, more⟩
    · simp [hchildren] at hlength
    · obtain rfl | ⟨middle, right, rfl⟩ := List.eq_nil_or_concat more
      · simp [hchildren] at hlength
      · rw [List.concat_eq_append, ← List.cons_append] at hchildren
        refine ⟨left, middle, right, hchildren, hleft left (by simp [hchildren]),
          hright right (by rw [hchildren, List.getLast?_concat]; rfl), ?_⟩
        simpa [hchildren] using hmiddle

instance (opening closing : String) (n : Node) : Decidable (n.IsInBrackets opening closing) :=
  decidable_of_iff _ isInBrackets_iff.symm

/-- The rules of the grammar that say where brackets stand, for a tree without errors and
comments. -/
structure KeepsRules (root : Node) : Prop where
  /-- Brackets are tokens. -/
  leaf : ∀ n ∈ root.preorder, ¬ Plain n.kind → n.children = []
  /-- Every other node closes the brackets that it opens, in order. -/
  nested : ∀ n ∈ root.preorder, Plain n.kind → Nested n.tokens
  /-- The tree is that of a program. -/
  program : root.kind = "program"
  /-- A statement that starts with a parenthesis is an expression. -/
  statement : ∀ n ∈ root.children, n.tokens.head? = some "(" → n.kind = "expression_statement"
  /-- The statement of an expression starts with that expression. -/
  expressionStatement : ∀ n ∈ root.preorder, n.kind = "expression_statement" →
    ∀ c ∈ n.children.head?, c.Opens "(" "parenthesized_expression"
  /-- An expression is the first that stands in its parentheses. -/
  parenthesized : ∀ n ∈ root.preorder, n.kind = "parenthesized_expression" →
    n.IsInBrackets "(" ")" ∧ ∀ c ∈ n.children[1]?, c.Opens "\x7b" "object"
  /-- An object is two braces and what is between them. -/
  object : ∀ n ∈ root.preorder, n.kind = "object" → n.IsInBrackets "\x7b" "\x7d"

instance : DecidablePred KeepsRules := fun root =>
  decidable_of_iff
    ((∀ n ∈ root.preorder, ¬ Plain n.kind → n.children.isEmpty = true) ∧
      (∀ n ∈ root.preorder, Plain n.kind → Nested n.tokens) ∧ root.kind = "program" ∧
      (∀ n ∈ root.children, n.tokens.head? = some "(" → n.kind = "expression_statement") ∧
      (∀ n ∈ root.preorder, n.kind = "expression_statement" →
        ∀ c ∈ n.children.head?, c.Opens "(" "parenthesized_expression") ∧
      (∀ n ∈ root.preorder, n.kind = "parenthesized_expression" →
        n.IsInBrackets "(" ")" ∧ ∀ c ∈ n.children[1]?, c.Opens "\x7b" "object") ∧
      ∀ n ∈ root.preorder, n.kind = "object" → n.IsInBrackets "\x7b" "\x7d")
    ⟨fun ⟨h₁, h₂, h₃, h₄, h₅, h₆, h₇⟩ =>
      ⟨fun n hn hplain => List.isEmpty_iff.1 (h₁ n hn hplain), h₂, h₃, h₄, h₅, h₆, h₇⟩,
    fun ⟨h₁, h₂, h₃, h₄, h₅, h₆, h₇⟩ =>
      ⟨fun n hn hplain => List.isEmpty_iff.2 (h₁ n hn hplain), h₂, h₃, h₄, h₅, h₆, h₇⟩⟩

/-! ### Brackets around all tokens -/

theorem mem_preorderAll {n : Node} (h : n ∈ ns) : n ∈ preorderAll ns := by
  rw [preorderAll_eq_flatMap]
  exact List.mem_flatMap.2 ⟨n, h, n.self_mem_preorder⟩

mutual

/-- With a node its children are in the pre-order of a tree. -/
theorem child_mem_preorder {n c : Node} (hc : c ∈ n.children) :
    ∀ root : Node, n ∈ root.preorder → c ∈ root.preorder
  | mk k b cs nd m f p kc vc => fun hn => by
    rw [preorder, List.mem_cons] at hn ⊢
    rcases hn with rfl | hn
    · exact Or.inr (mem_preorderAll hc)
    · exact Or.inr (child_mem_preorderAll hc cs hn)

/-- So it is with several trees. -/
theorem child_mem_preorderAll {n c : Node} (hc : c ∈ n.children) :
    ∀ ns : List Node, n ∈ preorderAll ns → c ∈ preorderAll ns
  | [] => fun hn => absurd hn List.not_mem_nil
  | r :: rs => fun hn => by
    rw [preorderAll, List.mem_append] at hn ⊢
    exact hn.imp (child_mem_preorder hc r) (child_mem_preorderAll hc rs)

end

theorem tokens_ne_nil (n : Node) : n.tokens ≠ [] := by
  cases hchildren : n.children with
  | nil =>
    rw [tokens_of_leaf hchildren]
    exact List.cons_ne_nil _ _
  | cons c cs =>
    have hlt : c.size < n.size := by
      rw [n.size_eq, hchildren, sizeAll]
      omega
    have hchild := c.tokens_ne_nil
    rw [tokens_of_children (by rw [hchildren]; exact List.cons_ne_nil _ _), hchildren,
      List.flatMap_cons]
    exact fun h => hchild (List.append_eq_nil_iff.1 h).1
termination_by n.size

/-- Brackets around the tokens of some nodes open the first of them. -/
theorem head?_of_enclosed (henclosed : Enclosed opening closing ((n :: ns).flatMap tokens)) :
    n.tokens.head? = some opening := by
  have hall := henclosed.head?_eq
  rw [List.flatMap_cons] at hall
  cases htokens : n.tokens with
  | nil => exact absurd htokens n.tokens_ne_nil
  | cons token tokens => rwa [htokens] at hall

namespace KeepsRules

variable (h : root.KeepsRules)
include h

theorem tokens_of_bracket (hn : n ∈ root.preorder) (hkind : ¬ Plain n.kind) :
    n.tokens = [n.kind] := tokens_of_leaf (h.leaf n hn hkind)

/-- If brackets are around the tokens of some nodes, the first of them being no bracket, then it is
the only one. -/
theorem eq_nil_of_enclosed (hclosing : closer? opening = some closing) (hn : n ∈ root.preorder)
    (hplain : Plain n.kind) (henclosed : Enclosed opening closing ((n :: ns).flatMap tokens)) :
    ns = [] := by
  rw [List.flatMap_cons] at henclosed
  have hrest := henclosed.eq_nil_of_append hclosing (h.nested n hn hplain) n.tokens_ne_nil
  cases ns with
  | nil => rfl
  | cons m ns => exact absurd (List.flatMap_eq_nil_iff.1 hrest m (by simp)) m.tokens_ne_nil

/-- An expression with brackets around all its tokens, and around those of what follows it, is of
the kind that these brackets make, and nothing follows. -/
theorem of_opens (hopens : n.Opens opening kind) (hclosing : closer? opening = some closing)
    (hn : n ∈ root.preorder) (hkind : Plain kind)
    (henclosed : Enclosed opening closing ((n :: ns).flatMap tokens)) : n.kind = kind ∧ ns = [] := by
  rcases hopens (head?_of_enclosed henclosed) with rfl | ⟨hlength, hplain⟩
  · exact ⟨rfl, h.eq_nil_of_enclosed hclosing hn hkind henclosed⟩
  · -- the brackets would match behind the operand, and more follows it
    rcases hchildren : n.children with _ | ⟨operand, _ | ⟨next, more⟩⟩
    · simp [hchildren] at hlength
    · simp [hchildren] at hlength
    · rw [List.flatMap_cons, tokens_of_children (by simp [hchildren]), hchildren,
        ← List.flatMap_append, List.cons_append] at henclosed
      have hoperand : operand ∈ root.preorder :=
        child_mem_preorder (by simp [hchildren]) root hn
      cases h.eq_nil_of_enclosed hclosing hoperand (hplain operand (by simp [hchildren])) henclosed

end KeepsRules

/-! ### Objects in parentheses -/

/-- A tree is the parentheses around an object. -/
def ParenthesizedObject (n : Node) : Prop :=
  n.kind = "parenthesized_expression" ∧ ∃ left object right, n.children = [left, object, right] ∧
    left.kind = "(" ∧ object.kind = "object" ∧ right.kind = ")"

/-- A program is one statement, the parentheses around an object. -/
def IsParenthesizedObject (root : Node) : Prop :=
  ∃ statement parentheses, root.children = [statement] ∧ statement.kind = "expression_statement" ∧
    statement.children = [parentheses] ∧ ParenthesizedObject parentheses

/-- The tokens of a node whose only child is another one. -/
theorem tokens_of_child {n c : Node} (h : n.children = [c]) : n.tokens = c.tokens := by
  rw [tokens_of_children (by simp [h]), h, List.flatMap_singleton]

namespace KeepsRules

variable (h : root.KeepsRules)
include h

theorem tokens_of_inBrackets (hn : n ∈ root.preorder) (hin : n.IsInBrackets opening closing)
    (hopening : ¬ Plain opening) (hclosing : ¬ Plain closing) :
    ∃ left middle right, n.children = left :: middle ++ [right] ∧ left.kind = opening ∧
      right.kind = closing ∧ n.tokens = opening :: middle.flatMap tokens ++ [closing] ∧
        Nested (middle.flatMap tokens) := by
  obtain ⟨left, middle, right, hchildren, rfl, rfl, hmiddle⟩ := hin
  have hmem : ∀ c ∈ left :: middle ++ [right], c ∈ root.preorder := fun c hc =>
    child_mem_preorder (hchildren ▸ hc) root hn
  refine ⟨left, middle, right, hchildren, rfl, rfl, ?_, ?_⟩
  · rw [tokens_of_children (by simp [hchildren]), hchildren, List.flatMap_append,
      List.flatMap_cons, List.flatMap_singleton,
      h.tokens_of_bracket (hmem left (by simp)) hopening,
      h.tokens_of_bracket (hmem right (by simp)) hclosing]
    rfl
  · replace hmem : ∀ c ∈ middle, c ∈ root.preorder := fun c hc => hmem c (by simp [hc])
    clear hchildren
    induction middle with
    | nil => exact .nil
    | cons c middle ih =>
      rw [List.forall_mem_cons] at hmiddle hmem
      rw [List.flatMap_cons]
      exact (h.nested c hmem.1 hmiddle.1).append (ih hmiddle.2 hmem.2)

theorem braced (hobject : IsParenthesizedObject root) : Braced root.tokens := by
  obtain ⟨statement, parentheses, hroot, -, hstatement, hkind, left, object, right, hchildren, hleft,
    hobject, hright⟩ := hobject
  have hparentheses : parentheses ∈ root.preorder :=
    child_mem_preorder (n := statement) (by simp [hstatement]) root
      (child_mem_preorder (by simp [hroot]) root root.self_mem_preorder)
  have hmem : ∀ c ∈ [left, object, right], c ∈ root.preorder := fun c hc =>
    child_mem_preorder (hchildren ▸ hc) root hparentheses
  obtain ⟨-, middle, -, -, -, -, htokens, hnested⟩ := h.tokens_of_inBrackets (hmem object (by simp))
    (h.object object (hmem object (by simp)) hobject) (by decide) (by decide)
  refine ⟨object.tokens, ?_, _, htokens, hnested⟩
  rw [tokens_of_child hroot, tokens_of_child hstatement,
    tokens_of_children (by simp [hchildren]), hchildren]
  simp only [List.flatMap_cons, List.flatMap_nil,
    h.tokens_of_bracket (hmem left (by simp)) (by rw [hleft]; decide),
    h.tokens_of_bracket (hmem right (by simp)) (by rw [hright]; decide), hleft, hright]
  rfl

/-- Braces in parentheses around all tokens are known from the outside in: the parentheses are
around the only statement and its only expression, and the braces around all that is in them. -/
theorem isParenthesizedObject_of_braced (hbraced : Braced root.tokens) :
    IsParenthesizedObject root := by
  have henclosed := hbraced.enclosed
  -- the statement
  rcases hroot : root.children with _ | ⟨statement, more⟩
  · rw [tokens_of_leaf hroot, h.program] at henclosed
    exact absurd henclosed.head?_eq (by decide)
  rw [tokens_of_children (by simp [hroot]), hroot] at henclosed
  have hstatement : statement ∈ root.preorder :=
    child_mem_preorder (by simp [hroot]) root root.self_mem_preorder
  have hkind : statement.kind = "expression_statement" :=
    h.statement statement (by simp [hroot]) (head?_of_enclosed henclosed)
  obtain rfl := h.eq_nil_of_enclosed rfl hstatement (by rw [hkind]; decide) henclosed
  rw [List.flatMap_singleton] at henclosed
  -- its expression
  rcases hinner : statement.children with _ | ⟨parentheses, more⟩
  · rw [tokens_of_leaf hinner, hkind] at henclosed
    exact absurd henclosed.head?_eq (by decide)
  rw [tokens_of_children (by simp [hinner]), hinner] at henclosed
  have hparentheses : parentheses ∈ root.preorder :=
    child_mem_preorder (by simp [hinner]) root hstatement
  obtain ⟨hexpression, rfl⟩ := h.of_opens (h.expressionStatement statement hstatement hkind
    parentheses (by simp [hinner])) rfl hparentheses (by decide) henclosed
  -- and what is in its parentheses
  obtain ⟨hin, hopens⟩ := h.parenthesized parentheses hparentheses hexpression
  obtain ⟨left, middle, right, hchildren, hleft, hright, htokens, -⟩ :=
    h.tokens_of_inBrackets hparentheses hin (by decide) (by decide)
  obtain ⟨inside, hall, hinside⟩ := hbraced
  rw [tokens_of_child hroot, tokens_of_child hinner, htokens, List.cons_append, List.cons_append,
    List.cons.injEq, List.append_left_inj] at hall
  obtain ⟨-, rfl⟩ := hall
  rcases middle with _ | ⟨object, more⟩
  · cases hinside.head?_eq
  obtain ⟨hobject, rfl⟩ := h.of_opens (hopens object (by simp [hchildren])) rfl
    (child_mem_preorder (by simp [hchildren]) root hparentheses) (by decide) hinside
  exact ⟨statement, parentheses, hroot, hkind, hinner, hexpression, left, object, right, hchildren,
    hleft, hobject, hright⟩

/-- **A program is an object in parentheses exactly if its tokens are braces in parentheses**: the
parentheses match each other, and the braces right within them do. -/
theorem isParenthesizedObject_iff : IsParenthesizedObject root ↔ Braced root.tokens :=
  ⟨h.braced, h.isParenthesizedObject_of_braced⟩

end KeepsRules

end Node

instance : DecidablePred Node.Flagged := fun root =>
  inferInstanceAs (Decidable (∀ n ∈ root.preorder, ∀ e ∈ Node.preorderAll n.children, _ → _))

/-! ### Parsers -/

namespace Parser

variable {parse : Parser} {d : Dialect} {cs : List Char}

/-- What has to be known of a parser: errors are marked on all nodes above them, and a tree without
an error keeps the rules, comments aside. -/
structure KeepsRules (parse : Parser) : Prop where
  flagged : ∀ d cs, (parse d cs).Flagged
  rules : ∀ {d cs}, (parse d cs).hasError = false → (parse d cs).withoutComments.KeepsRules

/-- What has to be known of one tree of a parser. -/
def AllowsTree (root : Node) : Prop :=
  root.Flagged ∧ (root.hasError = false → root.withoutComments.KeepsRules)

instance (root : Node) : Decidable (AllowsTree root) := inferInstanceAs (Decidable (_ ∧ (_ → _)))

/-- A parser that reads as another one does, except that it refuses what would break the rules. -/
def refusing (parse : Parser) : Parser := fun d cs =>
  if AllowsTree (parse d cs) then parse d cs
  else .mk Node.errorKind [] [] true false true ⟨0, 0⟩ none none

theorem keepsRules_refusing (parse : Parser) : parse.refusing.KeepsRules where
  flagged d cs := by
    rw [refusing]
    split
    · next h => exact h.1
    · intro n hn e he
      rw [Node.preorder_eq] at hn
      obtain rfl := List.mem_singleton.1 hn
      exact absurd he List.not_mem_nil
  rules {d cs} herror := by
    rw [refusing] at herror ⊢
    split at herror
    · next h =>
      rw [if_pos h]
      exact h.2 herror
    · cases herror

theorem hasError_refusing (h : (parse d cs).hasError = true) :
    (parse.refusing d cs).hasError = true := by
  rw [refusing]
  split
  · exact h
  · rfl

end Parser

end PullNotes
