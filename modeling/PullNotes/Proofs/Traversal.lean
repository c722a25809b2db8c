import PullNotes.SyntaxTree.Walk

/-!
# What a walk yields

The nodes that a walk has still to yield are those of the stacked trees, each tree in its pre-order
and the top of the stack first.  A step keeps this: it yields the root of the top tree and leaves
the children of that root, whose pre-orders make up the rest of the top tree's.  So a walk takes one
step for each node of the stacked trees and no more, and a number of steps that it is given beyond
that makes no difference.

* `Node.preorderAll_append`, `Node.sizeAll_append` : several trees one after another.
* `Walk.preorderAll_of_step` : what a step keeps.
* `Walk.run_eq_take` : a number of steps yields that many nodes of the pre-orders.
* `Node.walk_eq_preorder` : the walk from a root is the pre-order of its tree.
* `Walk.Comes` : the moments of a walk.
* `Node.walk_at_every_moment` : what is yielded, and what is still to be, at every moment of a walk.
-/

namespace PullNotes

namespace Node

theorem preorder_eq (n : Node) : n.preorder = n :: preorderAll n.children := by
  cases n
  rw [preorder, children]

theorem size_eq (n : Node) : n.size = sizeAll n.children + 1 := by
  cases n
  rw [size, children]

@[simp] theorem preorderAll_append (ns ms : List Node) :
    preorderAll (ns ++ ms) = preorderAll ns ++ preorderAll ms := by
  induction ns with
  | nil => simp [preorderAll]
  | cons n ns ih => simp [preorderAll, ih]

theorem preorderAll_eq_flatMap (ns : List Node) : preorderAll ns = ns.flatMap preorder := by
  induction ns with
  | nil => rfl
  | cons n ns ih => rw [preorderAll, ih, List.flatMap_cons]

theorem mem_preorder_iff {n m : Node} :
    m ∈ n.preorder ↔ m = n ∨ ∃ c ∈ n.children, m ∈ c.preorder := by
  rw [preorder_eq, preorderAll_eq_flatMap, List.mem_cons, List.mem_flatMap]

theorem self_mem_preorder (n : Node) : n ∈ n.preorder := mem_preorder_iff.2 (Or.inl rfl)

theorem mem_preorder_of_child {n c m : Node} (hc : c ∈ n.children) (hm : m ∈ c.preorder) :
    m ∈ n.preorder := mem_preorder_iff.2 (Or.inr ⟨c, hc, hm⟩)

@[simp] theorem sizeAll_append (ns ms : List Node) :
    sizeAll (ns ++ ms) = sizeAll ns + sizeAll ms := by
  induction ns with
  | nil => simp [sizeAll]
  | cons n ns ih => simp only [List.cons_append, sizeAll, ih]; omega

mutual

/-- The size of a tree is the number of its nodes. -/
theorem length_preorder : ∀ n : Node, n.preorder.length = n.size
  | mk k b cs nd m f p kc vc => by rw [preorder, size, List.length_cons, length_preorderAll cs]

/-- So it is with several trees. -/
theorem length_preorderAll : ∀ ns : List Node, (preorderAll ns).length = sizeAll ns
  | [] => rfl
  | n :: ns => by
    rw [preorderAll, sizeAll, List.length_append, length_preorder n, length_preorderAll ns]

end

end Node

namespace Walk

variable {start stack rest yielded : List Node} {n : Node}

/-! ### Steps -/

theorem step_eq_none_iff : step stack = none ↔ stack = [] := by
  cases stack <;> simp [step]

/-- A stack that is written with its top last loses it, and the children are put on it from the last
to the first. -/
theorem step_reverse (below : List Node) (n : Node) :
    step (below ++ [n]).reverse = some (n, (below ++ n.children.reverse).reverse) := by
  simp [step]

/-- **A step keeps what there is to yield**: the node that it yields, and then what is left. -/
theorem preorderAll_of_step (h : step stack = some (n, rest)) :
    Node.preorderAll stack = n :: Node.preorderAll rest := by
  cases stack with
  | nil => cases h
  | cons top below =>
    obtain ⟨rfl, rfl⟩ : top = n ∧ top.children ++ below = rest := by
      simpa [step] using h
    rw [Node.preorderAll, top.preorder_eq, Node.preorderAll_append, List.cons_append]

/-! ### Runs -/

/-- **A number of steps** yields that many nodes of the pre-orders, or all if there are fewer. -/
theorem run_eq_take (k : Nat) (stack : List Node) :
    run k stack = (Node.preorderAll stack).take k := by
  induction k generalizing stack with
  | zero => rfl
  | succ k ih =>
    rw [run]
    cases hstep : step stack with
    | none =>
      obtain rfl := step_eq_none_iff.1 hstep
      rfl
    | some next =>
      obtain ⟨n, rest⟩ := next
      rw [preorderAll_of_step hstep, List.take_succ_cons, ← ih]

/-- With a step for each node, a walk yields the pre-orders of the stacked trees. -/
theorem run_eq_preorderAll {fuel : Nat} (h : Node.sizeAll stack ≤ fuel) :
    run fuel stack = Node.preorderAll stack := by
  rw [run_eq_take, List.take_of_length_le]
  rwa [Node.length_preorderAll]

/-! ### Moments -/

/-- A walk that starts with a stack comes to another one, after it has yielded some nodes. -/
inductive Comes (start : List Node) : List Node → List Node → Prop
  | start : Comes start [] start
  | step {yielded stack rest : List Node} {n : Node} (before : Comes start yielded stack)
      (h : Walk.step stack = some (n, rest)) : Comes start (yielded ++ [n]) rest

/-- At every moment the nodes yielded and those of the stacked trees make up what there was to
yield. -/
theorem Comes.preorderAll_eq (h : Comes start yielded stack) :
    Node.preorderAll start = yielded ++ Node.preorderAll stack := by
  induction h with
  | start => rfl
  | step before hstep ih =>
    rw [ih, preorderAll_of_step hstep, List.append_assoc, List.singleton_append]

theorem Comes.length_add (h : Comes start yielded stack) :
    yielded.length + Node.sizeAll stack = Node.sizeAll start := by
  rw [← Node.length_preorderAll start, h.preorderAll_eq, List.length_append,
    Node.length_preorderAll]

/-- A walk goes on until nothing is stacked, which is after a step for each node. -/
theorem Comes.step_eq_none_iff (h : Comes start yielded stack) :
    Walk.step stack = none ↔ yielded.length = Node.sizeAll start := by
  rw [Walk.step_eq_none_iff, ← h.length_add, ← Node.length_preorderAll, Nat.left_eq_add,
    List.length_eq_zero_iff]
  cases stack with
  | nil => simp [Node.preorderAll]
  | cons top below => simp [Node.preorderAll, top.preorder_eq]

/-- There is a moment for every number of steps up to that. -/
theorem exists_comes {k : Nat} (h : k ≤ Node.sizeAll start) :
    ∃ yielded stack, Comes start yielded stack ∧ yielded.length = k := by
  induction k with
  | zero => exact ⟨[], start, .start, rfl⟩
  | succ k ih =>
    obtain ⟨yielded, stack, hcomes, rfl⟩ := ih (by omega)
    cases hstep : Walk.step stack with
    | none =>
      rw [hcomes.step_eq_none_iff] at hstep
      omega
    | some next => exact ⟨yielded ++ [next.1], next.2, hcomes.step hstep, by simp⟩

/-- The moment before a node is visited: those before it in the pre-orders are yielded, and it is on
top of the stack. -/
theorem exists_comes_of_eq {front back : List Node}
    (h : Node.preorderAll start = front ++ n :: back) :
    ∃ stack rest, Comes start front stack ∧ Walk.step stack = some (n, rest) := by
  have hle : front.length ≤ Node.sizeAll start := by
    rw [← Node.length_preorderAll, h, List.length_append]
    omega
  obtain ⟨yielded, stack, hcomes, hlength⟩ := exists_comes hle
  have heq := hcomes.preorderAll_eq
  rw [h] at heq
  obtain ⟨rfl, hstack⟩ := List.append_inj heq hlength.symm
  cases stack with
  | nil => cases hstack
  | cons top below =>
    rw [Node.preorderAll, top.preorder_eq] at hstack
    obtain ⟨rfl, -⟩ := List.cons.inj hstack
    exact ⟨n :: below, n.children ++ below, hcomes, rfl⟩

/-- The moment at the end. -/
theorem comes_preorderAll (start : List Node) : Comes start (Node.preorderAll start) [] := by
  obtain ⟨yielded, stack, hcomes, hlength⟩ := exists_comes (Nat.le_refl (Node.sizeAll start))
  obtain rfl := Walk.step_eq_none_iff.1 (hcomes.step_eq_none_iff.2 hlength)
  have heq := hcomes.preorderAll_eq
  rw [Node.preorderAll, List.append_nil] at heq
  rwa [heq]

end Walk

namespace Node

open Walk (Comes)

theorem walk_eq_preorder (root : Node) : root.walk = root.preorder := by
  have h : sizeAll [root] ≤ root.size := by simp [sizeAll]
  rw [walk, Walk.run_eq_preorderAll h]
  simp [preorderAll]

theorem preorderAll_eq_flatMap_walk (ns : List Node) : preorderAll ns = ns.flatMap walk := by
  rw [preorderAll_eq_flatMap, funext walk_eq_preorder]

/-- What there is to yield when only the root is stacked. -/
theorem preorderAll_singleton (root : Node) : preorderAll [root] = root.walk := by
  rw [preorderAll_eq_flatMap_walk, List.flatMap_singleton]

/-- **The walk with a stack is the pre-order by recursion.**  It yields the root and then what the
walks of its children yield, one after another.  At every moment what it has still to yield are the
walks of the stacked nodes, from the top of the stack to its bottom.  It takes as many steps as
there are nodes, is at its end after these and not before, and more of them would make no
difference; the children that a step puts on the stack are put there from the last to the first. -/
theorem walk_at_every_moment (root : Node) :
    root.walk = root :: root.children.flatMap walk ∧
    (∀ yielded stack, Comes [root] yielded stack →
      root.walk = yielded ++ stack.flatMap walk ∧
      (Walk.step stack = none ↔ yielded.length = root.size)) ∧
    (∀ k, (∃ yielded stack, Comes [root] yielded stack ∧ yielded.length = k) ↔ k ≤ root.size) ∧
    (∀ k, Walk.run k [root] = root.walk.take k) ∧ root.walk.length = root.size ∧
    ∀ below n, Walk.step (below ++ [n]).reverse =
      some (n, (below ++ n.children.reverse).reverse) := by
  have hall : preorderAll [root] = root.walk := by
    rw [preorderAll_eq_flatMap_walk, List.flatMap_singleton]
  have hsize : sizeAll [root] = root.size := by simp [sizeAll]
  refine ⟨?_, fun yielded stack hcomes => ⟨?_, ?_⟩, fun k => ⟨?_, fun hk => ?_⟩, fun k => ?_, ?_,
    Walk.step_reverse⟩
  · rw [walk_eq_preorder, preorder_eq, preorderAll_eq_flatMap_walk]
  · rw [← hall, hcomes.preorderAll_eq, preorderAll_eq_flatMap_walk]
  · rw [hcomes.step_eq_none_iff, hsize]
  · rintro ⟨yielded, stack, hcomes, rfl⟩
    have hlength := hcomes.length_add
    omega
  · exact Walk.exists_comes (by omega)
  · rw [Walk.run_eq_take, hall]
  · rw [walk_eq_preorder, length_preorder]

/-- A program of two statements, the first of which has a part. -/
def twoStatements : Node :=
  mk "program" [] [mk "first" [] [mk "part" [] [] true false false ⟨0, 1⟩ none none] true false false
      ⟨0, 0⟩ none none,
    mk "second" [] [] true false false ⟨1, 0⟩ none none] true false false ⟨0, 0⟩ none none

/-- After the first step of its walk the two statements are stacked, the first one on top. -/
theorem walk_at_every_moment_twoStatements :
    Comes [twoStatements] [twoStatements] twoStatements.children ∧
      twoStatements.walk = [twoStatements] ++ twoStatements.children.flatMap walk ∧
      Walk.step twoStatements.children ≠ none ∧
      twoStatements.walk.map kind = ["program", "first", "part", "second"] := by
  have hcomes : Comes [twoStatements] [twoStatements] twoStatements.children :=
    Comes.step .start rfl
  obtain ⟨-, hmoment, -⟩ := walk_at_every_moment twoStatements
  obtain ⟨hwalk, hend⟩ := hmoment _ _ hcomes
  refine ⟨hcomes, hwalk, ?_, by decide⟩
  rw [ne_eq, hend]
  decide

end Node

end PullNotes
