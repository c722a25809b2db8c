import PullNotes.Proofs.BareObject
import PullNotes.Proofs.Brackets

/-!
# What a strict reading accepts

A strict reading accepts a source that has no error alone, or starts with a brace and has none in
parentheses.  The second is meant for objects, but the parentheses are put around the text and not
around an expression: brackets in the text may match them.  So what is accepted is well formed
exactly if the text has no error alone, or the brackets in it match as they do in an object.  This
holds for every parser whose trees keep the rules of brackets.

* `Document.IsWellFormed` : a source is accepted as it is meant to be.
* `Document.isWellFormed_iff_of_accepted` : which of the accepted sources are.
* `Document.accepted_not_isWellFormed` : one that is not.
-/

namespace PullNotes

open Nesting (Braced)

namespace Document

variable {parse : Parser} {d : Dialect} {cs : List Char} {name source : Text} {doc : Document}

/-- A source is well formed: it has no error alone, or in parentheses it has none and is, comments
aside, nothing but an object in these. -/
def IsWellFormed (parse : Parser) (d : Dialect) (cs : List Char) : Prop :=
  (parse d cs).hasError = false ∨ (parse d (inParentheses cs)).hasError = false ∧
    (parse d (inParentheses cs)).withoutComments.IsParenthesizedObject

/-- A document that is read strictly is without an error. -/
theorem exists_ofCharsBy_of_accepted (h : ofSourceBy parse name true source = .ok doc) : ∃ d cs,
    Dialect.named? name = some d ∧ source.toCharsOrError = .ok cs ∧ ofCharsBy parse d cs = doc ∧
      doc.tree.hasError = false := by
  rw [ofSourceBy] at h
  split at h
  · cases h
  · next d hname =>
    cases hchars : source.toCharsOrError with
    | error e =>
      rw [readBy, hchars] at h
      cases h
    | ok cs =>
      have hread : readBy parse d source = .ok (ofCharsBy parse d cs) := by
        rw [readBy, hchars]
        rfl
      rw [hread] at h
      cases herror : (ofCharsBy parse d cs).tree.hasError with
      | false =>
        have hpoint : (ofCharsBy parse d cs).errorPoint? = none := by
          rw [errorPoint?, herror]
          rfl
        simp only [insist, hpoint] at h
        obtain rfl := Except.ok.inj h
        exact ⟨d, cs, hname, rfl, rfl, herror⟩
      | true =>
        have hpoint : (ofCharsBy parse d cs).errorPoint? =
            some (ofCharsBy parse d cs).tree.firstErrorPoint := by
          rw [errorPoint?, herror]
          rfl
        simp only [insist, hpoint] at h
        cases h

/-- A document without an error is read from the text alone, or from the text in parentheses if it
has an error alone. -/
theorem ofCharsBy_cases (h : (ofCharsBy parse d cs).tree.hasError = false) :
    (parse d cs).hasError = false ∧ ofCharsBy parse d cs = ⟨parse d cs, false⟩ ∨
      (parse d cs).hasError = true ∧ (parse d (inParentheses cs)).hasError = false ∧
        ofCharsBy parse d cs = ⟨parse d (inParentheses cs), true⟩ := by
  cases herror : (parse d cs).hasError with
  | false => exact Or.inl ⟨rfl, ofCharsBy_of_not_hasError herror⟩
  | true =>
    have hne : ofCharsBy parse d cs ≠ ⟨parse d cs, false⟩ := by
      intro heq
      rw [heq] at h
      cases h.symm.trans herror
    cases hinside : (parse d (inParentheses cs)).hasError with
    | true =>
      refine absurd ?_ hne
      simp [ofCharsBy, hinside]
    | false =>
      cases hbrace : startsWithBrace (Text.ofChars cs) with
      | false =>
        refine absurd ?_ hne
        simp [ofCharsBy, hbrace]
      | true => exact Or.inr ⟨rfl, rfl, ofCharsBy_of_startsWithBrace herror hbrace hinside⟩

/-- **Which of the sources that are accepted are well formed**: those that have no error alone, and
those in which the brackets match as they do in an object.  No accepted tree has an error anywhere
in it. -/
theorem isWellFormed_iff_of_accepted (hparse : parse.KeepsRules)
    (h : ofSourceBy parse name true source = .ok doc) : ∃ d cs,
    Dialect.named? name = some d ∧ source.toCharsOrError = .ok cs ∧ doc.tree.hasError = false ∧
      (∀ n ∈ Node.preorderAll doc.tree.children, n.isError = false) ∧
        ((parse d cs).hasError = false ∧ doc = ⟨parse d cs, false⟩ ∨
          (parse d cs).hasError = true ∧ doc = ⟨parse d (inParentheses cs), true⟩) ∧
        (IsWellFormed parse d cs ↔
          (parse d cs).hasError = false ∨ Braced doc.tree.withoutComments.tokens) := by
  obtain ⟨d, cs, hname, hchars, rfl, herror⟩ := exists_ofCharsBy_of_accepted h
  have hcases := ofCharsBy_cases herror
  have hflagged : (ofCharsBy parse d cs).tree.Flagged := by
    rcases hcases with ⟨-, hdoc⟩ | ⟨-, -, hdoc⟩ <;> rw [hdoc] <;> exact hparse.flagged _ _
  have hnone : ∀ n ∈ Node.preorderAll (ofCharsBy parse d cs).tree.children, n.isError = false := by
    intro n hn
    by_contra hn'
    have hmark := hflagged _ (Node.self_mem_preorder _) n hn (by simpa using hn')
    cases herror.symm.trans hmark
  refine ⟨d, cs, hname, hchars, herror, hnone, ?_⟩
  rcases hcases with ⟨halone, hdoc⟩ | ⟨halone, hinside, hdoc⟩
  · exact ⟨Or.inl ⟨halone, hdoc⟩, iff_of_true (Or.inl halone) (Or.inl halone)⟩
  · have hnot : ¬ (parse d cs).hasError = false := by simp [halone]
    refine ⟨Or.inr ⟨halone, hdoc⟩, ?_⟩
    rw [hdoc, IsWellFormed, or_iff_right hnot, or_iff_right hnot, and_iff_right hinside]
    exact (hparse.rules hinside).isParenthesizedObject_iff

/-! ### Two sources that are accepted -/

/-- Whether a source is read without patches, as a tree that a test accepts. -/
def reads (d : Dialect) (cs : List Char) (test : Node → Bool) : Bool :=
  match Source.attempt d cs [] with
  | .ok root => !root.hasError && test root
  | .error _ => false

theorem tree_of_reads {test : Node → Bool} (h : reads d cs test = true) :
    (Source.tree d cs).hasError = false ∧ test (Source.tree d cs) = true := by
  rw [reads] at h
  split at h
  · next root hattempt =>
    rw [Source.tree_of_attempt hattempt]
    simpa using h
  · cases h

theorem hasError_of_not_reads (h : reads d cs (fun _ => true) = false) :
    (Source.tree d cs).hasError = true := by
  cases hattempt : Source.attempt d cs [] with
  | error e => exact Source.hasError_tree hattempt
  | ok root =>
    rw [reads, hattempt] at h
    rw [Source.tree_of_attempt hattempt]
    simpa using h

/-- A source that starts with a brace and has an error alone, but none in parentheses, is
accepted. -/
theorem ofSourceBy_of_inParentheses (hname : Dialect.named? name = some d)
    (halone : (parse d cs).hasError = true)
    (hbrace : startsWithBrace (Text.ofChars cs) = true)
    (hinside : (parse d (inParentheses cs)).hasError = false) :
    ofSourceBy parse name true (Text.ofChars cs) =
      .ok ⟨parse d (inParentheses cs), true⟩ := by
  have hdoc := ofCharsBy_of_startsWithBrace halone hbrace hinside
  rw [← hdoc]
  exact ofSourceBy_ofCharsBy hname true (by rw [hdoc]; exact hinside)

/-- The tree of an object with a key that is a word that starts statements, in parentheses. -/
def IsIfObject (root : Node) : Prop :=
  Parser.AllowsTree root ∧ root.withoutComments.tokens =
    ["(", "\x7b", "property_identifier", ":", "number", "\x7d", ")"]

instance : DecidablePred IsIfObject := fun _ => inferInstanceAs (Decidable (_ ∧ _))

theorem IsIfObject.braced {root : Node} (h : IsIfObject root) :
    Braced root.withoutComments.tokens :=
  ⟨["\x7b", "property_identifier", ":", "number", "\x7d"], h.2,
    ["property_identifier", ":", "number"], rfl, by decide⟩

theorem refusing_of_isIfObject (h : IsIfObject (parse d cs)) :
    parse.refusing d cs = parse d cs := if_pos h.1

theorem braced_refusing (h : IsIfObject (parse d cs)) :
    Braced (parse.refusing d cs).withoutComments.tokens := by
  rw [refusing_of_isIfObject h]
  exact h.braced

/-- An object is accepted, and it is well formed, although its first key is a word that starts
statements. -/
theorem isWellFormed_ifKey : ∃ doc,
    ofSourceBy (Parser.refusing Source.tree) (Text.ofString "javascript") true
        (Text.ofChars "\x7bif: 1\x7d".toList) = .ok doc ∧
      IsWellFormed (Parser.refusing Source.tree) .javascript "\x7bif: 1\x7d".toList := by
  have hname : Dialect.named? (Text.ofString "javascript") = some .javascript := rfl
  have halone : reads .javascript "\x7bif: 1\x7d".toList (fun _ => true) = false := by
    decide +kernel
  have hreads : reads .javascript (inParentheses "\x7bif: 1\x7d".toList)
      (fun root => decide (IsIfObject root)) = true := by decide +kernel
  obtain ⟨hinside, htest⟩ := tree_of_reads hreads
  have hobject := of_decide_eq_true htest
  have hrefusing := refusing_of_isIfObject hobject
  have haccepted := ofSourceBy_of_inParentheses hname
    (Parser.hasError_refusing (hasError_of_not_reads halone)) (by decide)
    (by rw [hrefusing]; exact hinside)
  refine ⟨_, haccepted, ?_⟩
  obtain ⟨d, cs, hd, hchars, -, -, -, hiff⟩ :=
    isWellFormed_iff_of_accepted (Parser.keepsRules_refusing Source.tree) haccepted
  obtain rfl := Option.some.inj (hname.symm.trans hd)
  rw [Text.toCharsOrError, Text.toChars?_ofChars] at hchars
  obtain rfl := Except.ok.inj hchars
  -- the document is opened by name here, since unification would evaluate its tree
  dsimp only at hiff
  exact hiff.2 (Or.inr (braced_refusing hobject))

/-- **A source is accepted that is not well formed**: its closing parenthesis matches the one that
is added in front, and its opening parenthesis the one that is added at the end. -/
theorem accepted_not_isWellFormed : ∃ doc,
    ofSource (Text.ofString "javascript") true (Text.ofChars "\x7b\x7d)(\x7b\x7d".toList) =
        .ok doc ∧
      ¬ IsWellFormed Source.tree .javascript "\x7b\x7d)(\x7b\x7d".toList := by
  have hname : Dialect.named? (Text.ofString "javascript") = some .javascript := rfl
  have halone : reads .javascript "\x7b\x7d)(\x7b\x7d".toList (fun _ => true) = false := by
    decide +kernel
  have hreads : reads .javascript (inParentheses "\x7b\x7d)(\x7b\x7d".toList) (fun root =>
      (root.withoutComments.children.flatMap Node.children).map Node.kind == ["call_expression"]) =
        true := by decide +kernel
  obtain ⟨hinside, hkinds⟩ := tree_of_reads hreads
  refine ⟨_, ofSourceBy_of_inParentheses hname (hasError_of_not_reads halone) (by decide) hinside,
    ?_⟩
  rintro (hnone | ⟨-, statement, parentheses, hstatement, -, hinner, hkind, -⟩)
  · cases hnone.symm.trans (hasError_of_not_reads halone)
  · have hcall := eq_of_beq hkinds
    rw [hstatement, List.flatMap_singleton, hinner, List.map_singleton, hkind] at hcall
    exact absurd hcall (by decide)

end Document

end PullNotes
