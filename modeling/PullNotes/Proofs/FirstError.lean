import PullNotes.Proofs.Traversal

/-!
# The search for the first error

The search leaves out what is below a node without an error mark.  Where every node above an error
has the mark, nothing is left out that counts: below a node without it there is no error, so the
first error of what is left in the pre-order is the first one of all.  The search is a walk that
leaves out subtrees, whatever the marks are, so it comes to each place of the tree at most once and
ends.

* `Placed`, `Node.placed` : the nodes of a tree with their places.
* `Walk.Searches` : a whole search, with the nodes that it comes to.
* `Walk.search_eq_find?` : a search finds the first error of the stacked trees.
* `Node.firstErrorPoint_eq_find?` : the place of the first error of a tree.
-/

namespace PullNotes

/-! ### Places in a tree -/

/-- A node and its place in a tree: which child to take at each node on the way from the root. -/
structure Placed where
  address : List Nat
  node : Node

namespace Node

/-- The node at a place of a tree. -/
def at? : List Nat → Node → Option Node
  | [], n => some n
  | i :: address, n => n.children[i]?.bind (at? address)

mutual

/-- The pre-order of a tree that has a place itself, each node with its place. -/
def placed (address : List Nat) : Node → List Placed
  | mk k b cs n m f p kc vc => ⟨address, mk k b cs n m f p kc vc⟩ :: placedAll address 0 cs

/-- The pre-orders of some trees below a place, which are numbered from a number on. -/
def placedAll (address : List Nat) (i : Nat) : List Node → List Placed
  | [] => []
  | n :: ns => placed (address ++ [i]) n ++ placedAll address (i + 1) ns

end

/-- The errors of a tree are marked: each node above one has the mark. -/
def Flagged (root : Node) : Prop :=
  ∀ n ∈ root.preorder, ∀ e ∈ preorderAll n.children, e.isError = true → n.hasError = true

end Node

namespace Placed

/-- The children of a node with their places. -/
def children (p : Placed) : List Placed :=
  p.node.children.zipIdx.map fun (n, i) => ⟨p.address ++ [i], n⟩

/-- The pre-order below a place. -/
def preorder (p : Placed) : List Placed := p.node.placed p.address

@[simp] theorem map_node_children (p : Placed) : p.children.map node = p.node.children := by
  simp [children, Function.comp_def]

end Placed

namespace Node

theorem placedAll_eq_flatMap (address : List Nat) (i : Nat) (ns : List Node) :
    placedAll address i ns =
      ((ns.zipIdx i).map fun (n, j) => (⟨address ++ [j], n⟩ : Placed)).flatMap Placed.preorder := by
  induction ns generalizing i with
  | nil => rfl
  | cons n ns ih =>
    rw [placedAll, ih, List.zipIdx_cons, List.map_cons, List.flatMap_cons]
    rfl

mutual

/-- Every node of a tree is at its place. -/
theorem at?_of_mem_placed {address : List Nat} {p : Placed} : ∀ n : Node, p ∈ placed address n →
    ∃ way, p.address = address ++ way ∧ at? way n = some p.node
  | mk k b cs nd m f s kc vc => by
    intro hp
    rw [placed, List.mem_cons] at hp
    rcases hp with rfl | hp
    · exact ⟨[], by simp, rfl⟩
    · obtain ⟨i, way, -, hway, hat⟩ := at?_of_mem_placedAll cs hp
      refine ⟨i :: way, by simpa using hway, ?_⟩
      rw [at?, children]
      simpa using hat

/-- Every node of some trees is at its place in one of them. -/
theorem at?_of_mem_placedAll {address : List Nat} {i : Nat} {p : Placed} : ∀ ns : List Node,
    p ∈ placedAll address i ns → ∃ j way, i ≤ j ∧ p.address = address ++ j :: way ∧
      ns[j - i]?.bind (at? way) = some p.node
  | [], hp => absurd hp List.not_mem_nil
  | n :: ns, hp => by
    rw [placedAll, List.mem_append] at hp
    rcases hp with hp | hp
    · obtain ⟨way, hway, hat⟩ := at?_of_mem_placed n hp
      exact ⟨i, way, Nat.le_refl i, by simpa using hway, by simpa using hat⟩
    · obtain ⟨j, way, hj, hway, hat⟩ := at?_of_mem_placedAll ns hp
      have hsucc : j - i = j - (i + 1) + 1 := by omega
      refine ⟨j, way, by omega, hway, ?_⟩
      rw [hsucc, List.getElem?_cons_succ]
      exact hat

end

mutual

/-- No two nodes of a tree have the same place. -/
theorem nodup_placed (address : List Nat) :
    ∀ n : Node, ((placed address n).map Placed.address).Nodup
  | mk k b cs nd m f s kc vc => by
    rw [placed, List.map_cons, List.nodup_cons]
    refine ⟨fun hmem => ?_, nodup_placedAll address 0 cs⟩
    obtain ⟨p, hp, heq⟩ := List.mem_map.1 hmem
    obtain ⟨j, way, -, hway, -⟩ := at?_of_mem_placedAll cs hp
    rw [hway] at heq
    simp at heq

/-- Nor have two nodes of several trees. -/
theorem nodup_placedAll (address : List Nat) (i : Nat) :
    ∀ ns : List Node, ((placedAll address i ns).map Placed.address).Nodup
  | [] => List.nodup_nil
  | n :: ns => by
    rw [placedAll, List.map_append, List.nodup_append]
    refine ⟨nodup_placed _ n, nodup_placedAll address (i + 1) ns, ?_⟩
    intro a ha b hb
    obtain ⟨p, hp, rfl⟩ := List.mem_map.1 ha
    obtain ⟨q, hq, rfl⟩ := List.mem_map.1 hb
    obtain ⟨way, hway, -⟩ := at?_of_mem_placed n hp
    obtain ⟨j, way', hj, hway', -⟩ := at?_of_mem_placedAll ns hq
    -- the two places part at the number of the tree
    rw [hway, hway', List.append_assoc, List.singleton_append]
    intro heq
    obtain ⟨hnumber, -⟩ := List.cons.inj (List.append_cancel_left heq)
    omega

end

end Node

/-! ### Searches -/

namespace Walk

/-- A step of the search for an error, with the places of the nodes. -/
def placedStep (p : Placed) (stack : List Placed) : List Placed :=
  if p.node.hasError then p.children ++ stack else stack

/-- A whole search from a stack, with the nodes that it comes to, one after another, and the error
that it ends at, if there is one. -/
inductive Searches : List Placed → List Placed → Option Placed → Prop
  | exhausted : Searches [] [] none
  | found {p : Placed} {stack : List Placed} (h : p.node.isError = true) :
      Searches (p :: stack) [p] (some p)
  | step {p : Placed} {stack visited : List Placed} {error : Option Placed}
      (h : p.node.isError = false) (rest : Searches (placedStep p stack) visited error) :
      Searches (p :: stack) (p :: visited) error

theorem map_node_placedStep (p : Placed) (stack : List Placed) :
    (placedStep p stack).map Placed.node = searchStep p.node (stack.map Placed.node) := by
  unfold placedStep searchStep
  split <;> simp

theorem sizeAll_searchStep_le (n : Node) (stack : List Node) :
    Node.sizeAll (searchStep n stack) < Node.sizeAll (n :: stack) := by
  have hsize := n.size_eq
  rw [Node.sizeAll]
  unfold searchStep
  split
  · rw [Node.sizeAll_append]
    omega
  · omega

theorem Placed.preorder_eq (p : Placed) : p.preorder = p :: p.children.flatMap Placed.preorder := by
  obtain ⟨address, node⟩ := p
  cases node
  rw [Placed.preorder, Node.placed, Node.placedAll_eq_flatMap]
  rfl

/-- What is left to be visited after a step is part of what was left before. -/
theorem sublist_placedStep (p : Placed) (stack : List Placed) :
    ((placedStep p stack).flatMap Placed.preorder).Sublist
      (p.children.flatMap Placed.preorder ++ stack.flatMap Placed.preorder) := by
  unfold placedStep
  split
  · simp
  · exact List.sublist_append_right _ _

/-- **The search ends**, with at most a step for each node, and it comes to nodes of the stacked
trees in the order of their pre-orders, to each at most once. -/
theorem exists_searches (fuel : Nat) (stack : List Placed)
    (h : Node.sizeAll (stack.map Placed.node) ≤ fuel) : ∃ visited error,
      Searches stack visited error ∧
      search fuel (stack.map Placed.node) = error.map Placed.node ∧
      visited.length ≤ Node.sizeAll (stack.map Placed.node) ∧
      visited.Sublist (stack.flatMap Placed.preorder) := by
  induction fuel generalizing stack with
  | zero =>
    cases stack with
    | nil => exact ⟨[], none, .exhausted, rfl, Nat.zero_le _, List.Sublist.refl _⟩
    | cons p stack =>
      rw [List.map_cons, Node.sizeAll, p.node.size_eq] at h
      omega
  | succ fuel ih =>
    cases stack with
    | nil => exact ⟨[], none, .exhausted, rfl, Nat.zero_le _, List.Sublist.refl _⟩
    | cons p stack =>
      have hsmaller := sizeAll_searchStep_le p.node (stack.map Placed.node)
      rw [List.map_cons] at h ⊢
      by_cases herror : p.node.isError = true
      · refine ⟨[p], some p, .found herror, ?_, ?_, ?_⟩
        · rw [search, if_pos herror]
          rfl
        · rw [List.length_singleton]
          omega
        · rw [List.flatMap_cons, Placed.preorder_eq]
          exact (List.singleton_sublist.2 List.mem_cons_self).trans (List.sublist_append_left _ _)
      · rw [← map_node_placedStep] at hsmaller
        obtain ⟨visited, error, hsearches, hsearch, hlength, hsublist⟩ :=
          ih (placedStep p stack) (by omega)
        refine ⟨p :: visited, error, .step (by simpa using herror) hsearches, ?_, ?_, ?_⟩
        · rw [search, if_neg herror, ← map_node_placedStep, hsearch]
        · rw [List.length_cons]
          omega
        · rw [List.flatMap_cons, Placed.preorder_eq]
          exact (hsublist.trans (sublist_placedStep p stack)).cons_cons p

end Walk

namespace Node

theorem Flagged.child {n c : Node} (h : n.Flagged) (hc : c ∈ n.children) : c.Flagged :=
  fun m hm => h m (mem_preorder_of_child hc hm)

/-- Below a node without an error mark there is no error. -/
theorem Flagged.find?_children {n : Node} (h : n.Flagged) (hmark : n.hasError = false) :
    (preorderAll n.children).find? isError = none := by
  refine List.find?_eq_none.2 fun e he herror => ?_
  rw [h n n.self_mem_preorder e he herror] at hmark
  cases hmark

end Node

namespace Walk

/-- **A search finds the first error** in the pre-orders of the stacked trees, if their errors are
marked. -/
theorem search_eq_find? {fuel : Nat} {stack : List Node} (hfuel : Node.sizeAll stack ≤ fuel)
    (h : ∀ n ∈ stack, n.Flagged) :
    search fuel stack = (Node.preorderAll stack).find? Node.isError := by
  induction fuel generalizing stack with
  | zero =>
    cases stack with
    | nil => rfl
    | cons n stack =>
      rw [Node.sizeAll, n.size_eq] at hfuel
      omega
  | succ fuel ih =>
    cases stack with
    | nil => rfl
    | cons n stack =>
      obtain ⟨hn, hstack⟩ := List.forall_mem_cons.1 h
      have hsmaller := sizeAll_searchStep_le n stack
      rw [search, Node.preorderAll, n.preorder_eq, List.cons_append]
      by_cases herror : n.isError = true
      · rw [if_pos herror, List.find?_cons_of_pos herror]
      · rw [if_neg herror, List.find?_cons_of_neg herror, List.find?_append]
        cases hmark : n.hasError with
        | true =>
          -- the children are stacked, and what is left is what their pre-orders and the rest hold
          have hstep : searchStep n stack = n.children ++ stack := if_pos hmark
          rw [hstep] at hsmaller ⊢
          rw [ih (by omega), Node.preorderAll_append, List.find?_append]
          intro m hm
          rcases List.mem_append.1 hm with hm | hm
          · exact hn.child hm
          · exact hstack m hm
        | false =>
          have hstep : searchStep n stack = stack := by simp [searchStep, hmark]
          rw [hstep] at hsmaller ⊢
          rw [ih (by omega) hstack, hn.find?_children hmark, Option.none_or]

end Walk

namespace Node

open Walk (Searches search)

/-- **The place of the first error of a tree.**  The search for it ends; it comes to nodes of the
tree, each at its place, no place twice and so not more often than there are nodes.  If each node
above an error has the mark, it finds the first error of the pre-order, the root included, and the
place of the root is given only if there is none. -/
theorem firstErrorPoint_eq_find? (root : Node) :
    (∃ visited error, Searches [⟨[], root⟩] visited error ∧
      search root.size [root] = error.map Placed.node ∧
      (∀ p ∈ visited, root.at? p.address = some p.node) ∧
      (visited.map Placed.address).Nodup ∧ visited.length ≤ root.size) ∧
    (root.Flagged →
      search root.size [root] = root.preorder.find? isError ∧
      root.firstErrorPoint = ((root.preorder.find? isError).getD root).start) := by
  have hsize : sizeAll [root] = root.size := by simp [sizeAll]
  constructor
  · obtain ⟨visited, error, hsearches, hsearch, hlength, hsublist⟩ :=
      Walk.exists_searches root.size [⟨[], root⟩] (Nat.le_of_eq hsize)
    simp only [List.flatMap_cons, List.flatMap_nil, List.append_nil, List.map_cons, List.map_nil,
      hsize] at hsublist hlength hsearch
    refine ⟨visited, error, hsearches, hsearch, fun p hp => ?_, ?_, hlength⟩
    · obtain ⟨way, hway, hat⟩ := at?_of_mem_placed root (hsublist.subset hp)
      rw [hway]
      exact hat
    · exact (nodup_placed [] root).sublist (hsublist.map Placed.address)
  · intro hflagged
    have hsearch : search root.size [root] = root.preorder.find? isError := by
      rw [Walk.search_eq_find? (Nat.le_of_eq hsize) (List.forall_mem_singleton.2 hflagged)]
      simp [preorderAll]
    refine ⟨hsearch, ?_⟩
    rw [firstErrorPoint, hsearch]
    cases root.preorder.find? isError <;> rfl

/-- A program with a name that is marked for nothing, and an error after it. -/
def markedProgram : Node :=
  mk "program" [] [mk "identifier" [] [] true false true ⟨0, 0⟩ none none,
    mk errorKind [] [] true false true ⟨0, 2⟩ none none] true false true ⟨0, 0⟩ none none

theorem firstErrorPoint_markedProgram :
    markedProgram.Flagged ∧ markedProgram.firstErrorPoint = ⟨0, 2⟩ := by
  have hflagged : markedProgram.Flagged := by
    unfold Flagged
    decide
  obtain ⟨-, hpoint⟩ := (firstErrorPoint_eq_find? markedProgram).2 hflagged
  exact ⟨hflagged, hpoint.trans (by decide)⟩

end Node

end PullNotes
