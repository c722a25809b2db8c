import PullNotes.Proofs.Escapes
import PullNotes.Proofs.WaitingScript

/-!
# Trees that have a digest

Nothing in a walk can fail but the reading of an escape sequence, and only some of a tree's escape
sequences are read: those of the keys of its properties, and those of its scripts.  So a tree has a
digest unless one of these gives a number beyond the machine's range.  The removal of a claimed
script cannot fail: a script that waits is the last one listed.

* `Node.exists_literalValue_iff`, `Finding.exists_ofNode_iff` : which literals and which nodes can
  be read.
* `Collecting.getLast?_scripts_of_claim` : a script that is claimed is the last one listed.
* `Digest.exists_ofTree_iff` : which trees have a digest.
-/

namespace PullNotes

open Escape (Beyond)

namespace Node

/-! ### Literals -/

/-- The escape sequences that are read for the value of a string literal: none if it has no named
part. -/
def escapes (n : Node) : List Text :=
  if n.children.any isNamed then
    (n.children.filter fun part => part.kind == "escape_sequence").map text
  else []

theorem exists_literalPart_iff (part : Node) :
    (∃ t, part.literalPart = .ok t) ↔ (part.kind = "escape_sequence" → ¬ Beyond part.text) := by
  unfold literalPart
  by_cases hfragment : part.kind = "string_fragment"
  · simp [hfragment]
  · by_cases hescape : part.kind = "escape_sequence"
    · simp [hescape, Escape.exists_decode_iff]
    · simp [hfragment, hescape]

/-- **A string literal can be read** if each of its escape sequences can. -/
theorem exists_literalValue_iff (n : Node) :
    (∃ t, n.literalValue = .ok t) ↔ ∀ e ∈ n.escapes, ¬ Beyond e := by
  unfold literalValue escapes
  by_cases hnamed : n.children.any isNamed = true
  · simp only [if_pos hnamed, Except.bind_eq_ok_iff]
    constructor
    · rintro ⟨t, parts, hparts, -⟩ e he
      obtain ⟨part, hpart, rfl⟩ := List.mem_map.1 he
      obtain ⟨hpart, hkind⟩ := List.mem_filter.1 hpart
      have hread := Except.exists_mapM_eq_ok_iff.1 ⟨parts, hparts⟩ part hpart
      exact (exists_literalPart_iff part).1 hread (by simpa using hkind)
    · intro h
      obtain ⟨parts, hparts⟩ := Except.exists_mapM_eq_ok_iff.2 fun part hpart =>
        (exists_literalPart_iff part).2 fun hkind =>
          h part.text (List.mem_map_of_mem (List.mem_filter.2 ⟨hpart, by simp [hkind]⟩))
      exact ⟨_, parts, hparts, rfl⟩
  · simp [hnamed]

theorem exists_keyName_iff (n : Node) :
    (∃ t, n.keyName = .ok t) ↔ (n.kind = stringKind → ∀ e ∈ n.escapes, ¬ Beyond e) := by
  unfold keyName
  by_cases hkind : n.kind = stringKind
  · simp [hkind, exists_literalValue_iff]
  · simp [hkind]

end Node

namespace Finding

/-! ### Findings -/

/-- The escape sequences that are read to find what a node means: those of the key of a property, if
it is a string literal, and those of the value, if the property is a script. -/
inductive Reads (n : Node) : Text → Prop
  | key {key value : Node} {e : Text} (kind : n.kind = Node.pairKind)
      (hkey : n.keyChild? = some key) (hvalue : n.valueChild? = some value)
      (literal : key.kind = Node.stringKind) (mem : e ∈ key.escapes) : Reads n e
  | script {key value : Node} {e : Text} (kind : n.kind = Node.pairKind)
      (hkey : n.keyChild? = some key) (hvalue : n.valueChild? = some value)
      (name : key.keyName = .ok scriptKey) (literal : value.kind = Node.stringKind)
      (mem : e ∈ value.escapes) : Reads n e

/-- **What a node means can be read** if each escape sequence that it takes can. -/
theorem exists_ofNode_iff (n : Node) :
    (∃ found, ofNode n = .ok found) ↔ ∀ e, Reads n e → ¬ Beyond e := by
  unfold ofNode
  by_cases kind : n.kind = Node.pairKind
  · cases hkey : n.keyChild? with
    | none =>
      refine iff_of_true (by simp [kind]) ?_
      rintro e (⟨-, hkey', -⟩ | ⟨-, hkey', -⟩) <;> cases hkey.symm.trans hkey'
    | some key =>
      cases hvalue : n.valueChild? with
      | none =>
        refine iff_of_true (by simp [kind]) ?_
        rintro e (⟨-, -, hvalue', -⟩ | ⟨-, -, hvalue', -⟩) <;> cases hvalue.symm.trans hvalue'
      | some value =>
        simp only [kind, bne_self_eq_false, Bool.false_eq_true, if_false]
        constructor
        · -- the key is read first, and the value only if the key is that of scripts
          rintro ⟨found, hfound⟩ e hreads
          obtain ⟨name, hname, hfound⟩ := Except.bind_eq_ok_iff.1 hfound
          cases hreads with
          | key _ hkey' _ literal mem =>
            obtain rfl := Option.some.inj (hkey.symm.trans hkey')
            exact (key.exists_keyName_iff.1 ⟨name, hname⟩) literal e mem
          | script _ hkey' hvalue' hscript literal mem =>
            obtain rfl := Option.some.inj (hkey.symm.trans hkey')
            obtain rfl := Option.some.inj (hvalue.symm.trans hvalue')
            obtain rfl := Except.ok.inj (hname.symm.trans hscript)
            rw [if_pos ⟨rfl, literal⟩] at hfound
            obtain ⟨text, htext, -⟩ := Except.bind_eq_ok_iff.1 hfound
            exact (value.exists_literalValue_iff.1 ⟨text, htext⟩) e mem
        · intro h
          obtain ⟨name, hname⟩ := key.exists_keyName_iff.2 fun literal e mem =>
            h e (.key kind hkey hvalue literal mem)
          simp only [Except.bind_eq_ok_iff]
          by_cases hscript : name = scriptKey ∧ value.kind = Node.stringKind
          · obtain ⟨rfl, literal⟩ := hscript
            obtain ⟨text, htext⟩ := value.exists_literalValue_iff.2 fun e mem =>
              h e (.script kind hkey hvalue hname literal mem)
            exact ⟨_, _, hname, by rw [if_pos ⟨rfl, literal⟩, htext]; rfl⟩
          · by_cases function : value.isFunction = true
            · exact ⟨_, name, hname, by rw [if_neg hscript, if_pos function]⟩
            · exact ⟨_, name, hname, by rw [if_neg hscript, if_neg function]⟩
  · -- only properties mean anything
    refine iff_of_true (by simp [kind]) ?_
    rintro e (⟨kind', -⟩ | ⟨kind', -⟩) <;> exact absurd kind' kind

end Finding

namespace Collecting

open Finding

/-- **A script that is claimed is the last one listed**, whatever nodes were visited before. -/
theorem getLast?_scripts_of_claim {filePath language : Text} {nodes : List Node} {s : Collecting}
    (h : nodes.foldlM visit { digest := { filePath := filePath, language := language } } = .ok s)
    {script : Text} (hclaim : s.pending.claim.1 = some script) :
    s.digest.scripts.getLast? = some script := by
  have hpending := Pending.claim_fst_eq_some_iff.1 hclaim
  have haccounts := (accounts_nil filePath language).foldlM h
  obtain ⟨script', hnoted, hlast⟩ := haccounts.waitsLast (by rw [hpending])
  rw [hpending] at hnoted
  obtain rfl := Option.some.inj hnoted
  exact hlast

end Collecting

/-! ### Digests -/

theorem Finding.exists_found_iff (root : Node) : (∃ found, ofTree root = .ok found) ↔
    ∀ n ∈ root.preorder, ∀ e, Reads n e → ¬ Beyond e := by
  unfold ofTree ofNodes
  simp only [← Finding.exists_ofNode_iff, ← Except.exists_mapM_eq_ok_iff, Except.bind_eq_ok_iff]
  constructor
  · rintro ⟨-, found, hfound, -⟩
    exact ⟨found, hfound⟩
  · rintro ⟨found, hfound⟩
    exact ⟨_, found, hfound, rfl⟩

namespace Digest

open Escape (Numbered IsPoint InRange decode)

/-- **A tree has a digest** unless one of the escape sequences that are read in it gives a number
beyond the machine's range, and these are the sequences that cannot be read.  A sequence whose
digits are malformed comes back as it was written; one that gives a number without a code point does
so exactly if the number is within the machine's range.  Whatever nodes were visited, a script that
is claimed is the last one listed, so its removal cannot fail. -/
theorem exists_ofTree_iff (root : Node) (filePath language : Text) :
    ((∃ d, ofTree root filePath language = .ok d) ↔
      ∀ n ∈ root.preorder, ∀ e, Finding.Reads n e → ¬ Beyond e) ∧
    (∀ sequence, (∃ t, decode sequence = .ok t) ↔ ¬ Beyond sequence) ∧
    (∀ sequence digits, Numbered sequence digits →
      (∀ e, Numeral.read 16 digits = .error e → decode sequence = .ok sequence) ∧
      ∀ n, Numeral.read 16 digits = .ok n → ¬ IsPoint n →
        (decode sequence = .ok sequence ↔ InRange n)) ∧
    ∀ nodes s script,
      List.foldlM Collecting.visit { digest := { filePath := filePath, language := language } } nodes
        = .ok s → s.pending.claim.1 = some script → s.digest.scripts.getLast? = some script := by
  refine ⟨?_, fun _ => Escape.exists_decode_iff, fun sequence digits hnumbered => ⟨?_, ?_⟩, ?_⟩
  · rw [← Finding.exists_found_iff, ofTree_eq_map]
    simp [Except.map_eq_ok_iff]
  · intro e hread
    exact Escape.decode_of_malformed hnumbered hread
  · intro n hread hpoint
    exact Escape.decode_eq_self_iff hnumbered hread hpoint
  · intro nodes s script hwalk hclaim
    exact Collecting.getLast?_scripts_of_claim hwalk hclaim

end Digest

/-! ### A sample -/

/-- The property `script: "\u\x7b80000000\x7d"`, whose number is just beyond the machine's range. -/
def hugeScript : Node :=
  .sampleProperty (.sampleLeaf "property_identifier" "script")
    (.sampleString [("escape_sequence", "\\u\x7b80000000\x7d")])

/-- The script cannot be read, and so there is no digest of a tree that holds it. -/
theorem Digest.not_exists_ofTree_hugeScript :
    ¬ ∃ d, Digest.ofTree hugeScript "a.js" "javascript" = .ok d := by
  have hfails : Digest.ofTree hugeScript "a.js" "javascript" = .error .numberTooLarge := by decide
  rintro ⟨d, hd⟩
  rw [hfails] at hd
  cases hd

end PullNotes
