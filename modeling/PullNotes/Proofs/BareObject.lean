import PullNotes.Digest.OfSource
import PullNotes.Proofs.Adjacency
import PullNotes.Proofs.Source.BareObjects
import PullNotes.Proofs.Source.Statements

/-!
# Bare objects

A document that is an object alone is read as that object, in all dialects and by every parser that
follows a grammar of objects.  If the parser finds no error in it, it may have taken it for a block
with a labelled statement, but not where it can also be taken for an object: labels count against a
reading. With an error it is read once more in parentheses, and there it has none.  What its digest
lists are the findings of the object: neither the parentheses nor the statement around it mean
anything.

* `Finding.ofTree_unplaced` : the findings of a tree do not depend on the places of its nodes.
* `Document.IsObject` : a document is read as an object.
* `Parser.Follows.exists_holds` : the trees of a bare object, alone and in parentheses.
* `Digest.ofSource_bareObject` : a bare object has the digest that it has in parentheses.
-/

namespace PullNotes

/-! ### Findings without places -/

namespace Node

@[simp] theorem bytes_unplaced (n : Node) : n.unplaced.bytes = n.bytes := by
  cases n
  rfl

@[simp] theorem text_unplaced (n : Node) : n.unplaced.text = n.text := by
  rw [text, bytes_unplaced, text]

@[simp] theorem isNamed_unplaced (n : Node) : n.unplaced.isNamed = n.isNamed := by
  cases n
  rfl

@[simp] theorem children_unplaced (n : Node) : n.unplaced.children = n.children.map unplaced := by
  cases n
  exact unplacedAll_eq_map _

@[simp] theorem isFunction_unplaced (n : Node) : n.unplaced.isFunction = n.isFunction := by
  rw [isFunction, kind_unplaced, isFunction]

@[simp] theorem keyChild?_unplaced (n : Node) : n.unplaced.keyChild? = n.keyChild?.map unplaced := by
  obtain ⟨_, _, children, _, _, _, _, key, _⟩ := n
  cases key with
  | none => rfl
  | some i => simp [unplaced, keyChild?, unplacedAll_eq_map]

@[simp] theorem valueChild?_unplaced (n : Node) :
    n.unplaced.valueChild? = n.valueChild?.map unplaced := by
  obtain ⟨_, _, children, _, _, _, _, _, value⟩ := n
  cases value with
  | none => rfl
  | some i => simp [unplaced, valueChild?, unplacedAll_eq_map]

@[simp] theorem literalPart_unplaced (n : Node) : n.unplaced.literalPart = n.literalPart := by
  simp only [literalPart, kind_unplaced, text_unplaced]

@[simp] theorem literalValue_unplaced (n : Node) : n.unplaced.literalValue = n.literalValue := by
  have hnamed : (isNamed ∘ unplaced) = isNamed := funext isNamed_unplaced
  have hpart : (literalPart ∘ unplaced) = literalPart := funext literalPart_unplaced
  simp only [literalValue, children_unplaced, List.any_map, hnamed, text_unplaced, List.mapM_map,
    hpart]

@[simp] theorem keyName_unplaced (n : Node) : n.unplaced.keyName = n.keyName := by
  simp only [keyName, kind_unplaced, literalValue_unplaced, text_unplaced]

mutual

theorem preorder_unplaced : ∀ n : Node, n.unplaced.preorder = n.preorder.map unplaced
  | mk _ _ cs _ _ _ _ _ _ => by
    rw [unplaced, preorder, preorder, preorderAll_unplacedAll cs, List.map_cons, unplaced]

theorem preorderAll_unplacedAll :
    ∀ ns : List Node, preorderAll (unplacedAll ns) = (preorderAll ns).map unplaced
  | [] => rfl
  | n :: ns => by
    rw [unplacedAll, preorderAll, preorderAll, preorder_unplaced n, preorderAll_unplacedAll ns,
      List.map_append]

end

end Node

namespace Finding

@[simp] theorem ofNode_unplaced (n : Node) : ofNode n.unplaced = ofNode n := by
  unfold ofNode
  rw [Node.kind_unplaced, Node.keyChild?_unplaced, Node.valueChild?_unplaced]
  cases n.keyChild? <;> cases n.valueChild? <;> simp

/-- **The findings of a tree do not depend on the places of its nodes.** -/
theorem ofTree_unplaced (root : Node) : ofTree root.unplaced = ofTree root := by
  have hnode : (ofNode ∘ Node.unplaced) = ofNode := funext ofNode_unplaced
  rw [ofTree, ofTree, Node.preorder_unplaced, ofNodes, ofNodes, List.mapM_map, hnode]

theorem ofNodes_cons (n : Node) (ns : List Node) :
    ofNodes (n :: ns) = (do
      let found ← ofNode n
      let rest ← ofNodes ns
      return found.toList ++ rest) := by
  simp only [ofNodes, List.mapM_cons]
  cases ofNode n with
  | error e => rfl
  | ok found =>
    cases ns.mapM ofNode with
    | error e => rfl
    | ok rest => cases found <;> rfl

/-- Only pairs mean anything. -/
theorem ofNodes_filter (ns : List Node) :
    ofNodes (ns.filter fun n => n.kind == Node.pairKind) = ofNodes ns := by
  induction ns with
  | nil => rfl
  | cons n ns ih =>
    by_cases hpair : n.kind = Node.pairKind
    · rw [List.filter_cons_of_pos (by simp [hpair]), ofNodes_cons, ofNodes_cons, ih]
    · have hnone : ofNode n = .ok none := by
        rw [ofNode, if_pos (by simpa using hpair)]
      rw [List.filter_cons_of_neg (by simp [hpair]), ih, ofNodes_cons, hnone]
      cases ofNodes ns <;> rfl

end Finding

/-! ### Pairs -/

namespace Node

/-- The pairs of a tree, in its pre-order. -/
def pairs (n : Node) : List Node := n.preorder.filter fun n => n.kind == pairKind

theorem filter_preorderAll (ns : List Node) :
    ((preorderAll ns).filter fun n => n.kind == pairKind) = ns.flatMap pairs := by
  induction ns with
  | nil => rfl
  | cons n ns ih => rw [preorderAll, List.filter_append, ih, List.flatMap_cons, pairs]

theorem pairs_eq_flatMap {n : Node} (h : n.kind ≠ pairKind) : n.pairs = n.children.flatMap pairs := by
  rw [pairs, preorder_eq, List.filter_cons_of_neg (by simpa using h), filter_preorderAll]

end Node

/-- Trees with the same pairs, places aside, have the same findings. -/
theorem Finding.ofTree_congr {m n : Node} (h : m.unplaced.pairs = n.unplaced.pairs) :
    ofTree m = ofTree n := by
  have hpairs : ∀ n : Node, ofTree n = ofNodes n.unplaced.pairs := fun n => by
    rw [← ofTree_unplaced, ofTree, ← ofNodes_filter, Node.pairs]
  rw [hpairs, hpairs, h]

/-! ### Documents -/

namespace Document

variable {parse : Parser} {d : Dialect} {cs : List Char}

/-- A document is read as an object: its tree is without errors and holds a node that is that
object, with its properties as pairs, and all findings of the document are those of that node. -/
structure IsObject {g : ObjectGrammar} (doc : Document) (o : g.ObjectText d) : Prop where
  hasError : doc.tree.hasError = false
  exists_object : ∃ object ∈ doc.tree.preorder, o.IsTree object.unplaced ∧
    Finding.ofTree doc.tree = Finding.ofTree object

/-- A document without errors is the one that its source is read as, be that strict or not. -/
theorem ofSourceBy_ofCharsBy {name : Text} (hname : Dialect.named? name = some d) (strict : Bool)
    (h : (ofCharsBy parse d cs).tree.hasError = false) :
    ofSourceBy parse name strict (Text.ofChars cs) = .ok (ofCharsBy parse d cs) := by
  have hread : readBy parse d (Text.ofChars cs) = .ok (ofCharsBy parse d cs) := by
    rw [readBy, Text.toCharsOrError, Text.toChars?_ofChars]
    rfl
  have hpoint : (ofCharsBy parse d cs).errorPoint? = none := by
    rw [errorPoint?, h]
    rfl
  simp only [ofSourceBy, hname, hread, insist, hpoint]

/-- A source without errors is not read in parentheses. -/
theorem ofCharsBy_of_not_hasError (h : (parse d cs).hasError = false) :
    ofCharsBy parse d cs = ⟨parse d cs, false⟩ := by
  rw [ofCharsBy, h]
  rfl

/-- One with errors that starts with a brace is, if it has none there. -/
theorem ofCharsBy_of_startsWithBrace (h : (parse d cs).hasError = true)
    (hbrace : startsWithBrace (Text.ofChars cs) = true)
    (hinside : (parse d (inParentheses cs)).hasError = false) :
    ofCharsBy parse d cs = ⟨parse d (inParentheses cs), true⟩ := by
  simp only [ofCharsBy, h, hbrace, hinside]
  rfl

end Document

/-! ### Objects within other nodes -/

namespace Node

variable {m n shape : Node} {kind : String}

/-- A tree holds another one, and what is around that is neither faulty nor a pair. -/
structure Holds (n shape : Node) : Prop where
  hasError_eq : n.hasError = shape.hasError
  mem_preorder : shape ∈ n.preorder
  pairs_eq : n.pairs = shape.pairs

theorem Holds.refl (shape : Node) : shape.Holds shape where
  hasError_eq := rfl
  mem_preorder := shape.self_mem_preorder
  pairs_eq := rfl

theorem IsToken.pairs_eq (h : n.IsToken kind) (hkind : kind ≠ pairKind) : n.pairs = [] := by
  rw [pairs_eq_flatMap (h.kind_eq ▸ hkind), h.children_eq]
  rfl

/-- A node over one that holds a tree, and over others that are neither faulty nor have pairs. -/
theorem IsOver.holds (before behind : List Node) (h : n.IsOver kind (before ++ m :: behind))
    (hkind : kind ≠ pairKind) (hm : m.Holds shape)
    (hothers : ∀ c ∈ before ++ behind, c.hasError = false ∧ c.pairs = []) : n.Holds shape where
  hasError_eq := by
    have hnone : ∀ ns : List Node, (∀ c ∈ ns, c ∈ before ++ behind) → ns.any hasError = false :=
      fun ns hns => List.any_eq_false.2 fun c hc => by rw [(hothers c (hns c hc)).1]; decide
    rw [h.hasError_eq, List.any_append, List.any_cons, hnone before fun c => List.mem_append_left _,
      hnone behind fun c => List.mem_append_right _, Bool.false_or, Bool.or_false, hm.hasError_eq]
  mem_preorder := by
    rw [preorder_eq, h.children_eq, preorderAll_append, preorderAll]
    exact List.mem_cons_of_mem _ (List.mem_append_right _ (List.mem_append_left _ hm.mem_preorder))
  pairs_eq := by
    have hnone : ∀ ns : List Node, (∀ c ∈ ns, c ∈ before ++ behind) → ns.flatMap pairs = [] :=
      fun ns hns => List.flatMap_eq_nil_iff.2 fun c hc => (hothers c (hns c hc)).2
    rw [pairs_eq_flatMap (h.kind_eq ▸ hkind), h.children_eq, List.flatMap_append, List.flatMap_cons,
      hnone before fun c => List.mem_append_left _, hnone behind fun c => List.mem_append_right _,
      List.nil_append, List.append_nil, hm.pairs_eq]

/-- A node over one other, which holds a tree. -/
theorem IsOver.holds_one (h : n.IsOver kind [m]) (hkind : kind ≠ pairKind) (hm : m.Holds shape) :
    n.Holds shape := holds [] [] h hkind hm (List.forall_mem_nil _)

end Node

/-! ### Bare objects -/

namespace ObjectGrammar.BareObject

variable {g : ObjectGrammar} {d : Dialect} (b : g.BareObject d)

/-- As a text a bare object starts with a brace. -/
theorem startsWithBrace : Document.startsWithBrace (Text.ofChars b.text) = true := by
  have hbrace : (CodePoint.ofChar '\x7b').isBlank = false := by decide
  have htrim : Text.trimStart (Text.ofChars b.text) =
      Text.ofChars (b.object.text ++ b.back.1) := by
    have hfront : ∀ c ∈ b.front.1.map CodePoint.ofChar, c.isBlank = true :=
      List.forall_mem_map.2 b.isTrimmed
    rw [Text.trimStart, text, Text.ofChars, List.map_append, List.dropWhile_append_of_pos hfront]
    exact List.dropWhile_cons_of_neg (by simp [hbrace])
  rw [Document.startsWithBrace, htrim]
  rfl

/-- The line end before the closing parenthesis is a blank like those behind the object. -/
theorem inParentheses_text : ∃ back : Source.Blanks, Document.inParentheses b.text =
    '(' :: (b.front.1 ++ (b.object.text ++ back.1)) ++ [')'] :=
  ⟨⟨b.back.1 ++ ['\n'], List.forall_mem_append.2 ⟨b.back.2, by simp [Source.Lexeme.isSpace]⟩⟩,
    by simp [Document.inParentheses, text]⟩

/-- A bare object can be taken for an expression. -/
theorem exists_reading {n : Node} (h : g.expression d b.object.text n) :
    ∃ root, b.Reading 0 root :=
  let statement : Node := .mk "expression_statement" [] [n] true false ([n].any Node.hasError) ⟨0, 0⟩
    none none
  ⟨.mk "program" [] [statement] true false ([statement].any Node.hasError) ⟨0, 0⟩ none none,
    .object ⟨rfl, rfl, rfl⟩ ⟨rfl, rfl, rfl⟩ h⟩

end ObjectGrammar.BareObject

namespace Parser.Follows

open Document (inParentheses)

variable {parse : Parser} {g : ObjectGrammar} {d : Dialect} {cs : List Char} {m n : Node}

/-- In parentheses the tree of a source holds the expression. -/
theorem holds_parenthesized (h : parse.Follows g) (front back : Source.Blanks)
    (hn : g.expression d cs n) :
    (parse d ('(' :: (front.1 ++ (cs ++ back.1)) ++ [')'])).unplaced.Holds n := by
  obtain ⟨statement, parentheses, opening, closing, hroot, hstatement, hparentheses, hopening,
    hclosing⟩ := h.parenthesized front back hn
  have hmarks : ∀ c ∈ [opening] ++ [closing], c.hasError = false ∧ c.pairs = [] :=
    List.forall_mem_cons.2 ⟨⟨hopening.hasError_eq, hopening.pairs_eq (by decide)⟩,
      List.forall_mem_singleton.2 ⟨hclosing.hasError_eq, hclosing.pairs_eq (by decide)⟩⟩
  have hinside := Node.IsOver.holds [opening] [closing] hparentheses (by decide)
    (.refl n) hmarks
  exact hroot.holds_one (by decide) (hstatement.holds_one (by decide) hinside)

/-- An expression has one tree. -/
theorem expression_unique (h : parse.Follows g) (hm : g.expression d cs m) (hn : g.expression d cs n) :
    m = n := by
  have hnone : ∀ c ∈ ([] : List Char), Source.Lexeme.isSpace c = true := List.forall_mem_nil _
  obtain ⟨s, p, _, _, hroot, hs, hp, -⟩ := h.parenthesized ⟨[], hnone⟩ ⟨[], hnone⟩ hm
  obtain ⟨s', p', _, _, hroot', hs', hp', -⟩ := h.parenthesized ⟨[], hnone⟩ ⟨[], hnone⟩ hn
  obtain rfl := List.singleton_inj.1 (hroot.children_eq.symm.trans hroot'.children_eq)
  obtain rfl := List.singleton_inj.1 (hs.children_eq.symm.trans hs'.children_eq)
  exact (List.cons.inj (List.cons.inj (hp.children_eq.symm.trans hp'.children_eq)).2).1

/-- Read without an error, a bare object is taken for the object, since no label is around it. -/
theorem holds_alone (h : parse.Follows g) (b : g.BareObject d) (hn : g.expression d b.object.text n)
    (herror : (parse d b.text).hasError = false) : (parse d b.text).unplaced.Holds n := by
  obtain ⟨labels, hlabels⟩ := h.alone b herror
  obtain ⟨root, hobject⟩ := b.exists_reading hn
  have hzero := h.preferred b herror hlabels hobject
  generalize (parse d b.text).unplaced = tree at hlabels
  cases hlabels with
  | object hroot hstatement hother =>
    obtain rfl := h.expression_unique hn hother
    exact hroot.holds_one (by decide) (hstatement.holds_one (by decide) (.refl n))
  | block => exact absurd hzero (by decide)

/-- **The trees of a bare object**: in parentheses it holds the object, and so it does alone unless
there is an error. -/
theorem exists_holds (h : parse.Follows g) (b : g.BareObject d) : ∃ n, b.object.IsTree n ∧
    (parse d (inParentheses b.text)).unplaced.Holds n ∧
      ((parse d b.text).hasError = false → (parse d b.text).unplaced.Holds n) := by
  obtain ⟨n, hn, htree⟩ := h.object b.object
  obtain ⟨back, hback⟩ := b.inParentheses_text
  refine ⟨n, htree, ?_, h.holds_alone b hn⟩
  rw [hback]
  exact h.holds_parenthesized b.front back hn

/-- **A bare object is read as the object**, in parentheses if alone it has an error. -/
theorem exists_holds_ofCharsBy (h : parse.Follows g) (b : g.BareObject d) : ∃ n, b.object.IsTree n ∧
    (Document.ofCharsBy parse d b.text).tree.unplaced.Holds n ∧
    (Document.ofCharsBy parse d (inParentheses b.text)).tree.unplaced.Holds n := by
  obtain ⟨n, htree, hinside, halone⟩ := h.exists_holds b
  have hinsideError : (parse d (inParentheses b.text)).hasError = false := by
    rw [← Node.hasError_unplaced, hinside.hasError_eq, htree.hasError_eq]
  refine ⟨n, htree, ?_, ?_⟩
  · cases herror : (parse d b.text).hasError with
    | true =>
      rw [Document.ofCharsBy_of_startsWithBrace herror b.startsWithBrace hinsideError]
      exact hinside
    | false =>
      rw [Document.ofCharsBy_of_not_hasError herror]
      exact halone herror
  · rw [Document.ofCharsBy_of_not_hasError hinsideError]
    exact hinside

end Parser.Follows

/-! ### The digest of a bare object -/

namespace Document

variable {doc : Document} {n : Node} {g : ObjectGrammar} {d : Dialect} {o : g.ObjectText d}

theorem isObject_of_holds (h : doc.tree.unplaced.Holds n) (htree : o.IsTree n) : doc.IsObject o := by
  have hmem := h.mem_preorder
  rw [Node.preorder_unplaced, List.mem_map] at hmem
  obtain ⟨object, hobject, rfl⟩ := hmem
  refine ⟨?_, object, hobject, htree, Finding.ofTree_congr h.pairs_eq⟩
  rw [← Node.hasError_unplaced, h.hasError_eq, htree.hasError_eq]

end Document

namespace Digest

open Document (inParentheses)

/-- **A bare object has the digest that it has in parentheses**, in every dialect and by every
parser that follows a grammar of objects.  The document that it is read as is that object, with all
its properties, be the reading strict or not. -/
theorem ofSource_bareObject {parse : Parser} {g : ObjectGrammar} (hparse : parse.Follows g)
    {d : Dialect} (b : g.BareObject d) (filePath : Text) (language : Option Text)
    (hname : Dialect.named? (languageFor language filePath) = some d) (strict : Bool) :
    (∃ doc, Document.ofSourceBy parse (languageFor language filePath) strict (Text.ofChars b.text) =
        .ok doc ∧ doc.IsObject b.object) ∧
    ofSourceBy parse (Text.ofChars b.text) filePath language strict =
      ofSourceBy parse (Text.ofChars (inParentheses b.text)) filePath language strict := by
  obtain ⟨n, htree, halone, hinside⟩ := hparse.exists_holds_ofCharsBy b
  have hread : ∀ cs, (Document.ofCharsBy parse d cs).tree.unplaced.Holds n →
      Document.ofSourceBy parse (languageFor language filePath) strict (Text.ofChars cs) =
        .ok (Document.ofCharsBy parse d cs) := fun cs h => by
    refine Document.ofSourceBy_ofCharsBy hname strict ?_
    rw [← Node.hasError_unplaced, h.hasError_eq, htree.hasError_eq]
  have hdigest : ∀ cs, (Document.ofCharsBy parse d cs).tree.unplaced.Holds n →
      ofSourceBy parse (Text.ofChars cs) filePath language strict =
        ofDocument (Document.ofCharsBy parse d cs) filePath (languageFor language filePath) :=
      fun cs h => by
    rw [ofSourceBy, hread cs h]
    rfl
  refine ⟨⟨_, hread _ halone, Document.isObject_of_holds halone htree⟩, ?_⟩
  -- the trees differ in what is around the object, but not in the pairs they hold
  have hfindings : Finding.ofTree (Document.ofCharsBy parse d b.text).tree =
      Finding.ofTree (Document.ofCharsBy parse d (inParentheses b.text)).tree :=
    Finding.ofTree_congr (halone.pairs_eq.trans hinside.pairs_eq.symm)
  rw [hdigest _ halone, hdigest _ hinside, ofDocument, ofDocument, ofTree_eq_map, ofTree_eq_map,
    hfindings]

end Digest

/-! ### An object with two properties -/

namespace Source

/-- No blanks. -/
def noBlanks : Blanks := ⟨[], List.forall_mem_nil _⟩

/-- One space. -/
def oneSpace : Blanks := ⟨[' '], by decide⟩

/-- A string between double quotes. -/
def sampleString (body : String)
    (h : (body.toList.all fun c => decide (Lexeme.IsPlain '"' c)) = true) : StringText :=
  ⟨'"', Or.inl rfl, body.toList, .of_all h⟩

/-- A function that declares a name, gives a call a function of its own, and returns the name. -/
noncomputable def sampleFunction (d : Dialect) : FunctionText d :=
  let space : Gap := ⟨[' '], by decide, by decide⟩
  let file : NameText := ⟨"file".toList, .of_all (by decide) (by decide), by decide⟩
  let name : NameText := ⟨"name".toList, .of_all (by decide) (by decide), by decide⟩
  let log : NameText := ⟨"log".toList, .of_all (by decide) (by decide), by decide⟩
  let trim : SuffixText d :=
    .member noBlanks noBlanks "trim".toList (.of_all (by decide) (by decide))
  let value := (ChainText.mk file [trim, .call noBlanks .empty noBlanks]).toOperand
  let declared : DeclarationText d :=
    ⟨"const", by decide, space, name, oneSpace, oneSpace, value, noBlanks⟩
  let callback : FunctionParts d :=
    ⟨none, none, noBlanks, .empty, noBlanks, oneSpace, [], noBlanks⟩
  let logged : ChainText d := ⟨log, [.call noBlanks
    (.listed noBlanks ((sampleString "done" (by decide)).toOperand d)
      [⟨noBlanks, oneSpace, callback.toOperand⟩]) noBlanks]⟩
  let returned := (ChainText.mk (d := d) name []).toOperand.toReturn
    ⟨space, Lexeme.forall_mem_of_all (by decide)⟩ noBlanks
  (FunctionParts.mk none none noBlanks (.listed noBlanks file []) noBlanks oneSpace
    [⟨oneSpace, (sampleString "use strict" (by decide)).toStatement d noBlanks⟩,
      ⟨oneSpace, declared.toStatement⟩, ⟨oneSpace, logged.toStatement noBlanks⟩,
      ⟨oneSpace, returned⟩] oneSpace).toText

/-- A script and the function that belongs to it, the key of the second in quotes. -/
noncomputable def sampleObject (d : Dialect) : BareObject d where
  front := noBlanks
  isTrimmed := List.forall_mem_nil _
  object := {
    front := noBlanks
    initial := {
      key := (KeyText.name "script".toList (.of_all (by decide) (by decide))).toKey d
      beforeColon := noBlanks
      afterColon := oneSpace
      value := (ValueText.string (sampleString "hi" (by decide))).toValue }
    more := [{
      beforeComma := noBlanks
      afterComma := oneSpace
      property := {
        key := (KeyText.quoted (sampleString "f" (by decide))).toKey d
        beforeColon := noBlanks
        afterColon := oneSpace
        value := (ValueText.function (sampleFunction d)).toValue } }]
    trailing := some noBlanks
    back := noBlanks }
  back := noBlanks

end Source

/-- By the parser that the program comes with, an object of a script and a function with a body. -/
theorem Digest.ofSource_bareObject_sample :
    (Source.sampleObject .tsx).text = ("\x7bscript: \"hi\", \"f\": function(file) \x7b " ++
      "\"use strict\"; const name = file.trim(); log(\"done\", function() \x7b\x7d); " ++
      "return name; \x7d,\x7d").toList ∧
    Dialect.named? (languageFor none "dev/a.tsx") = some .tsx ∧
    (∃ doc, Document.ofSourceBy Source.tree (languageFor none "dev/a.tsx") true
        (Text.ofChars (Source.sampleObject .tsx).text) = .ok doc ∧
      doc.IsObject (Source.sampleObject .tsx).object) ∧
    Digest.ofSourceBy Source.tree (Text.ofChars (Source.sampleObject .tsx).text) "dev/a.tsx" none
        true =
      Digest.ofSourceBy Source.tree
        (Text.ofChars (Document.inParentheses (Source.sampleObject .tsx).text)) "dev/a.tsx" none
        true := by
  refine ⟨by decide +kernel, by decide, ?_⟩
  exact Digest.ofSource_bareObject Source.follows_tree (Source.sampleObject .tsx) "dev/a.tsx" none
    (by decide) true

end PullNotes
