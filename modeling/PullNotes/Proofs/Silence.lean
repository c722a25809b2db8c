import PullNotes.Proofs.Markdown.LineFeeds

/-!
# What a digest does not see

A tree without a property that a digest may list is silent.  Put in anywhere in another tree, or
taken out of it, it leaves the digest as it is: the findings of a tree are those of its nodes in
pre-order, a silent tree adds none of them, and no other node means anything else than before.  Only
two kinds of nodes look at their children, the pair, which finds its key and its value among them,
and the string literal, so the place must not be among the children of one of those.

* `Node.Loud`, `Node.Silent` : the properties that a digest may list, and trees without any.
* `Node.Inserts` : a tree with another one put in somewhere.
* `Finding.ofNode_of_inserts` : what a node means does not depend on what is put in below it.
* `Digest.ofTree_of_inserts` : the digest does not either.
-/

namespace PullNotes

namespace Node

/-! ### Silent trees -/

/-- A node is a property that a digest may list: its value is a function, or a string literal under
the key of scripts. -/
def Loud (n : Node) : Prop :=
  n.kind = pairKind ∧ ∃ key value, n.keyChild? = some key ∧ n.valueChild? = some value ∧
    (value.isFunction = true ∨ key.keyName = .ok Finding.scriptKey ∧ value.kind = stringKind)

/-- A tree has no property that a digest may list. -/
def Silent (n : Node) : Prop := ∀ m ∈ n.preorder, ¬ m.Loud

theorem loud_of_met {n : Node} {f : Finding} (h : Finding.Met n f) : n.Loud := by
  cases h with
  | script kind hkey hvalue name literal meaning =>
    exact ⟨kind, _, _, hkey, hvalue, Or.inr ⟨name, literal⟩⟩
  | handler kind hkey hvalue hname function =>
    exact ⟨kind, _, _, hkey, hvalue, Or.inl function⟩

/-! ### Trees put into trees -/

/-- A tree is another one with a tree put in among the children of a node that is neither a pair nor
a string literal.  The marks for errors above it may change, and so may the fields of that node. -/
inductive Inserts (extra : Node) : Node → Node → Prop
  | here {kind : String} {bytes : Bytes} (front back : List Node) {named missing : Bool}
      {start : Point} (faulty faulty' : Bool) (key key' value value' : Option Nat)
      (hpair : kind ≠ pairKind) (hstring : kind ≠ stringKind) :
      Inserts extra (mk kind bytes (front ++ back) named missing faulty start key value)
        (mk kind bytes (front ++ extra :: back) named missing faulty' start key' value')
  | deeper {kind : String} {bytes : Bytes} (front back : List Node) {child child' : Node}
      {named missing : Bool} {start : Point} {key value : Option Nat} (faulty faulty' : Bool)
      (h : Inserts extra child child') :
      Inserts extra (mk kind bytes (front ++ child :: back) named missing faulty start key value)
        (mk kind bytes (front ++ child' :: back) named missing faulty' start key value)

variable {extra n n' : Node}

/-- Two nodes are read alike, each as a key, as a value or as a part of a string literal. -/
structure ReadAlike (n n' : Node) : Prop where
  kind_eq : n'.kind = n.kind
  text_eq : n'.text = n.text
  isNamed_eq : n'.isNamed = n.isNamed
  literalValue_eq : n.kind = stringKind → n'.literalValue = n.literalValue

namespace ReadAlike

theorem refl (n : Node) : ReadAlike n n := ⟨rfl, rfl, rfl, fun _ => rfl⟩

theorem isFunction_eq (h : ReadAlike n n') : n'.isFunction = n.isFunction := by
  rw [isFunction, isFunction, h.kind_eq]

theorem literalPart_eq (h : ReadAlike n n') : n'.literalPart = n.literalPart := by
  rw [literalPart, literalPart, h.kind_eq, h.text_eq]

theorem keyName_eq (h : ReadAlike n n') : n'.keyName = n.keyName := by
  rw [keyName, keyName, h.kind_eq, h.text_eq]
  split
  · next hkind => exact h.literalValue_eq (by simpa using hkind)
  · rfl

end ReadAlike

/-- A node is read as before, whatever is put in below it: the value of a string literal depends on
its parts, and these are read as before. -/
theorem Inserts.readAlike (h : Inserts extra n n') : ReadAlike n n' := by
  induction h with
  | here front back faulty faulty' key key' value value' hpair hstring =>
    exact ⟨rfl, rfl, rfl, fun hkind => absurd hkind hstring⟩
  | deeper front back faulty faulty' hchild ih =>
    refine ⟨rfl, rfl, rfl, fun _ => ?_⟩
    simp only [literalValue, children, text, bytes, List.any_append, List.any_cons, ih.isNamed_eq,
      List.mapM_append, List.mapM_cons, ih.literalPart_eq]

/-- The children of a node at one number, with something put in below one of them. -/
theorem Inserts.rel_getElem? {child child' : Node} (h : Inserts extra child child')
    (front back : List Node) (i : Nat) :
    Option.Rel ReadAlike (front ++ child :: back)[i]? (front ++ child' :: back)[i]? := by
  have hsame : ∀ c : Option Node, Option.Rel ReadAlike c c := by
    rintro (_ | c)
    · exact .none
    · exact .some (.refl c)
  rcases Nat.lt_trichotomy i front.length with hi | rfl | hi
  · rw [List.getElem?_append_left hi, List.getElem?_append_left hi]
    exact hsame _
  · simpa using Option.Rel.some h.readAlike
  · obtain ⟨j, rfl⟩ : ∃ j, i = front.length + (j + 1) := ⟨i - front.length - 1, by omega⟩
    simp only [List.getElem?_append_right (Nat.le_add_right _ _), Nat.add_sub_cancel_left,
      List.getElem?_cons_succ]
    exact hsame _

end Node

namespace Finding

open Node (Inserts ReadAlike Silent)

variable {extra n n' : Node}

/-- What a node means depends on its kind and on what its key and its value are read as. -/
theorem ofNode_congr (hkind : n'.kind = n.kind)
    (hkey : Option.Rel ReadAlike n.keyChild? n'.keyChild?)
    (hvalue : Option.Rel ReadAlike n.valueChild? n'.valueChild?) : ofNode n' = ofNode n := by
  unfold ofNode
  rw [hkind]
  generalize n.keyChild? = key, n'.keyChild? = key', n.valueChild? = value,
    n'.valueChild? = value' at hkey hvalue ⊢
  cases hkey with
  | none => rfl
  | some hkey =>
    cases hvalue with
    | none => rfl
    | @some value value' hvalue =>
      simp only [hkey.keyName_eq, hvalue.kind_eq, hvalue.isFunction_eq, hvalue.text_eq]
      by_cases hliteral : value.kind = Node.stringKind
      · rw [hvalue.literalValue_eq hliteral]
      · simp only [hliteral, and_false, if_false]

/-- **What a node means** does not depend on what is put in below it. -/
theorem ofNode_of_inserts (h : Inserts extra n n') : ofNode n' = ofNode n := by
  cases h with
  | here front back faulty faulty' key key' value value' hpair hstring =>
    simp [ofNode, Node.kind, hpair]
  | @deeper _ _ front back _ _ _ _ _ key value faulty faulty' hchild =>
    refine ofNode_congr rfl ?_ ?_
    · cases key with
      | none => exact .none
      | some i => exact hchild.rel_getElem? front back i
    · cases value with
      | none => exact .none
      | some i => exact hchild.rel_getElem? front back i

/-! ### Findings -/

theorem ofNodes_append_eq_ok_iff {ns ms : List Node} {found : List Finding} :
    ofNodes (ns ++ ms) = .ok found ↔
      ∃ first second, ofNodes ns = .ok first ∧ ofNodes ms = .ok second ∧
        found = first ++ second := by
  simp only [ofNodes, List.mapM_append, Except.bind_eq_ok_iff]
  constructor
  · rintro ⟨_, ⟨front, hfront, back, hback, hmeant⟩, hfound⟩
    cases hmeant
    cases hfound
    exact ⟨_, _, ⟨front, hfront, rfl⟩, ⟨back, hback, rfl⟩, List.reduceOption_append front back⟩
  · rintro ⟨_, _, ⟨front, hfront, hfirst⟩, ⟨back, hback, hsecond⟩, rfl⟩
    cases hfirst
    cases hsecond
    exact ⟨front ++ back, ⟨front, hfront, back, hback, rfl⟩,
      congrArg Except.ok (List.reduceOption_append front back)⟩

theorem ofNodes_singleton_congr (h : ofNode n' = ofNode n) : ofNodes [n'] = ofNodes [n] := by
  simp only [ofNodes, List.mapM_cons, List.mapM_nil, h]

/-- A silent tree has no findings. -/
theorem eq_nil_of_silent {found : List Finding} (h : extra.Silent)
    (hfound : ofTree extra = .ok found) : found = [] := by
  rw [List.eq_nil_iff_forall_not_mem]
  intro f hf
  obtain ⟨m, hmem, hmet⟩ := (mem_ofTree_iff hfound).1 hf
  exact h m hmem (Node.loud_of_met hmet)

theorem exists_found_below_iff {found : List Finding} :
    ofTree n = .ok found ↔
      ∃ own below, ofNodes [n] = .ok own ∧ ofNodes (Node.preorderAll n.children) = .ok below ∧
        found = own ++ below := by
  rw [ofTree, n.preorder_eq, ← List.singleton_append, ofNodes_append_eq_ok_iff]

/-- Findings with others put in between them that are none. -/
theorem ofNodes_insert_iff {front middle back : List Node} {found : List Finding}
    (hmiddle : ∀ more, ofNodes middle = .ok more → more = []) :
    ofNodes (front ++ (middle ++ back)) = .ok found ↔
      ofNodes (front ++ back) = .ok found ∧ ∃ more, ofNodes middle = .ok more := by
  simp only [ofNodes_append_eq_ok_iff]
  constructor
  · rintro ⟨first, _, hfirst, ⟨more, second, hmore, hsecond, rfl⟩, rfl⟩
    obtain rfl := hmiddle more hmore
    exact ⟨⟨first, second, hfirst, hsecond, rfl⟩, [], hmore⟩
  · rintro ⟨⟨first, second, hfirst, hsecond, rfl⟩, more, hmore⟩
    obtain rfl := hmiddle more hmore
    exact ⟨first, second, hfirst, ⟨[], second, hmore, hsecond, rfl⟩, rfl⟩

/-- What holds below the root of a tree that means what it meant holds of the whole tree. -/
theorem ofTree_iff_of_below {P : Prop} (hroot : ofNode n' = ofNode n)
    (hbelow : ∀ below, ofNodes (Node.preorderAll n'.children) = .ok below ↔
      ofNodes (Node.preorderAll n.children) = .ok below ∧ P) (found : List Finding) :
    ofTree n' = .ok found ↔ ofTree n = .ok found ∧ P := by
  rw [exists_found_below_iff, exists_found_below_iff, ofNodes_singleton_congr hroot]
  simp only [hbelow]
  constructor
  · rintro ⟨own, below, hown, ⟨hbelow, hP⟩, rfl⟩
    exact ⟨⟨own, below, hown, hbelow, rfl⟩, hP⟩
  · rintro ⟨⟨own, below, hown, hbelow, rfl⟩, hP⟩
    exact ⟨own, below, hown, ⟨hbelow, hP⟩, rfl⟩

/-- **The findings of a tree with a silent tree put in** are those of the tree, and they can be read
if those of both can. -/
theorem found_of_inserts (h : Inserts extra n n') (hsilent : extra.Silent) (found : List Finding) :
    ofTree n' = .ok found ↔ ofTree n = .ok found ∧ ∃ more, ofTree extra = .ok more := by
  induction h generalizing found with
  | here front back faulty faulty' key key' value value' hpair hstring =>
    refine ofTree_iff_of_below (ofNode_of_inserts (show Inserts extra _ _ from
      .here front back faulty faulty' key key' value value' hpair hstring)) (fun below => ?_) found
    simp only [Node.children, Node.preorderAll_append, Node.preorderAll]
    exact ofNodes_insert_iff fun more => eq_nil_of_silent hsilent
  | deeper front back faulty faulty' hchild ih =>
    refine ofTree_iff_of_below (ofNode_of_inserts (.deeper front back faulty faulty' hchild))
      (fun below => ?_) found
    simp only [Node.children, Node.preorderAll_append, Node.preorderAll, ofNodes_append_eq_ok_iff]
    -- the tree below that has it is one of three lists of findings
    constructor
    · rintro ⟨first, _, hfirst, ⟨own, second, hchild', hsecond, rfl⟩, rfl⟩
      obtain ⟨hown, hextra⟩ := (ih own).1 hchild'
      exact ⟨⟨first, _, hfirst, ⟨own, second, hown, hsecond, rfl⟩, rfl⟩, hextra⟩
    · rintro ⟨⟨first, _, hfirst, ⟨own, second, hown, hsecond, rfl⟩, rfl⟩, hextra⟩
      exact ⟨first, _, hfirst, ⟨own, second, (ih own).2 ⟨hown, hextra⟩, hsecond, rfl⟩, rfl⟩

end Finding

namespace Digest

open Node (Inserts Silent)

/-- **Silent trees do not show**: with one put into a tree, or taken out of it, the digest of the
tree stays the same if both trees have one.  The tree with more in it has one if the tree has one
and what is put in can be read. -/
theorem ofTree_of_inserts {extra n n' : Node} (h : Inserts extra n n') (hsilent : extra.Silent)
    (filePath language : Text) :
    (∀ d d', ofTree n filePath language = .ok d → ofTree n' filePath language = .ok d' → d' = d) ∧
      ((∃ d, ofTree n' filePath language = .ok d) ↔
        (∃ d, ofTree n filePath language = .ok d) ∧
          ∃ d, ofTree extra filePath language = .ok d) := by
  have hfound := Finding.found_of_inserts h hsilent
  simp only [ofTree_eq_map, Except.map_eq_ok_iff]
  constructor
  · rintro _ _ ⟨found, hn, rfl⟩ ⟨found', hn', rfl⟩
    obtain ⟨hn', -⟩ := (hfound found').1 hn'
    obtain rfl := Except.ok.inj (hn.symm.trans hn')
    rfl
  · constructor
    · rintro ⟨_, found, hn', rfl⟩
      obtain ⟨hn, more, hmore⟩ := (hfound found).1 hn'
      exact ⟨⟨_, found, hn, rfl⟩, _, more, hmore, rfl⟩
    · rintro ⟨⟨_, found, hn, rfl⟩, _, more, hmore, rfl⟩
      exact ⟨_, found, (hfound found).2 ⟨hn, more, hmore⟩, rfl⟩

/-! ### A sample -/

/-- The property `ready: () => 1`, which is nearly a handler: an arrow function is none. -/
def arrowProperty : Node :=
  .sampleProperty (.sampleLeaf "property_identifier" "ready")
    (.sampleLeaf "arrow_function" "() => 1")

/-- The property `script: "a"`. -/
def scriptProperty : Node :=
  .sampleProperty (.sampleLeaf "property_identifier" "script")
    (.sampleString [("string_fragment", "a")])

/-- The property `click: function () {}`. -/
def clickProperty : Node :=
  .sampleProperty (.sampleLeaf "property_identifier" "click")
    (.sampleLeaf "function_expression" "function () {}")

/-- A program with an object that has some properties. -/
def sampleProgram (properties : List Node) : Node :=
  .sample "program" true "" [.sample "object" true "" properties none none] none none

/-- An arrow function that comes between a script and the function that claims it. -/
theorem ofTree_of_inserts_arrow :
    Inserts arrowProperty (sampleProgram [scriptProperty, clickProperty])
        (sampleProgram [scriptProperty, arrowProperty, clickProperty]) ∧
      arrowProperty.Silent ∧
      ofTree (sampleProgram [scriptProperty, clickProperty]) "a.js" "javascript" =
        .ok ⟨"a.js", "javascript", [], [], [⟨"a", ⟨"click", "function () {}"⟩⟩]⟩ ∧
      ofTree (sampleProgram [scriptProperty, arrowProperty, clickProperty]) "a.js" "javascript" =
        .ok ⟨"a.js", "javascript", [], [], [⟨"a", ⟨"click", "function () {}"⟩⟩]⟩ := by
  have hinserts : Inserts arrowProperty (sampleProgram [scriptProperty, clickProperty])
      (sampleProgram [scriptProperty, arrowProperty, clickProperty]) :=
    .deeper [] [] false false (.here [scriptProperty] [clickProperty] false false none none none none
      (by decide) (by decide))
  have hsilent : arrowProperty.Silent := by
    rintro m hmem ⟨hkind, key, value, hkey, hvalue, hloud⟩
    -- of the four nodes only the root is a property, and its value is no function
    have hroot : m = arrowProperty := by
      rcases List.mem_cons.1 hmem with hroot | hbelow
      · exact hroot
      · have hkinds : ∀ c ∈ Node.preorderAll arrowProperty.children, c.kind ≠ Node.pairKind := by
          decide
        exact absurd hkind (hkinds m hbelow)
    subst hroot
    cases hvalue
    revert hloud
    simp [Node.isFunction, Node.functionKinds, Node.kind, Node.sampleLeaf, Node.sample,
      Node.stringKind]
  have hdigest : ofTree (sampleProgram [scriptProperty, clickProperty]) "a.js" "javascript" =
      .ok ⟨"a.js", "javascript", [], [], [⟨"a", ⟨"click", "function () {}"⟩⟩]⟩ := by decide
  refine ⟨hinserts, hsilent, hdigest, ?_⟩
  -- the tree with the arrow function has a digest, and so it is the one of the tree without it
  obtain ⟨hsame, hexists⟩ := ofTree_of_inserts hinserts hsilent "a.js" "javascript"
  have harrow : ∃ d, ofTree arrowProperty "a.js" "javascript" = .ok d :=
    ⟨⟨"a.js", "javascript", [], [], []⟩, by decide⟩
  obtain ⟨d, hd⟩ := hexists.2 ⟨⟨_, hdigest⟩, harrow⟩
  rw [hd, hsame _ d hdigest hd]

end Digest

end PullNotes
