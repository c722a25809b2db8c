import PullNotes.Proofs.Adjacency
import PullNotes.Proofs.Runs

/-!
# The script that waits

A digest in the making keeps two things that nothing in its form ties together: the lists, and the
script that waits for a handler.  A handler that claims the script takes the last one off the list
without a look at it.  This is the right one, since a script that waits is always the last one
listed: a script waits as soon as it is listed, a handler ends the wait, and no other node touches
the list or the script.  A script that was claimed is still noted after that, but what is noted and
does not wait makes no difference.

* `Collecting.Visits` : the four things that a visit can do.
* `Collecting.visit_eq_ok_iff` : a visit does one of them, if a script that waits is the last one.
* `Collecting.Accounts` : a script that waits is the last one, and the lists account for every
  script and every handler that was met.
* `Collecting.Accounts.visits`, `Collecting.Accounts.foldlM` : one visit keeps this, and so do many.
* `Digest.accounts_at_every_moment` : it holds at every moment of the walk over a tree.
-/

namespace PullNotes

/-! ### What is met -/

namespace Finding

/-- Whether a finding is a script. -/
def isScript : Finding → Bool
  | .script _ => true
  | .handler _ => false

/-- Whether a finding is a handler. -/
def isHandler : Finding → Bool
  | .script _ => false
  | .handler _ => true

end Finding

namespace Node

/-- Whether a node means a finding of some form. -/
def means (form : Finding → Bool) (n : Node) : Bool :=
  match Finding.ofNode n with
  | .ok (some f) => form f
  | _ => false

variable {form : Finding → Bool} {n : Node} {f : Finding}

theorem means_of_met (met : Finding.Met n f) : n.means form = form f := by
  rw [means, Finding.ofNode_eq_some_iff.2 met]

theorem means_of_nothing (h : Finding.ofNode n = .ok none) : n.means form = false := by
  rw [means, h]

theorem countP_means_concat (form : Finding → Bool) (visited : List Node) (met : Finding.Met n f) :
    (visited ++ [n]).countP (means form) =
      visited.countP (means form) + if form f then 1 else 0 := by
  rw [List.countP_append, List.countP_singleton, means_of_met met]

theorem countP_means_concat_of_nothing (visited : List Node) (h : Finding.ofNode n = .ok none) :
    (visited ++ [n]).countP (means form) = visited.countP (means form) := by
  rw [List.countP_append, List.countP_singleton, means_of_nothing h]
  rfl

theorem means_iff : n.means form = true ↔ ∃ f, Finding.Met n f ∧ form f = true := by
  constructor
  · intro h
    unfold means at h
    split at h
    · next f hf => exact ⟨f, Finding.ofNode_eq_some_iff.1 hf, h⟩
    · cases h
  · rintro ⟨f, met, hf⟩
    rwa [means_of_met met]

end Node

/-! ### What can be claimed -/

namespace Pending

theorem claim_fst_eq_some_iff {p : Pending} {script : Text} :
    p.claim.1 = some script ↔ p = ⟨true, some script⟩ := by
  obtain ⟨_ | _, noted⟩ := p <;> simp [claim]

/-- If no script waits, none can be claimed, whichever is still noted. -/
theorem claim_fst_of_rests {p : Pending} (rests : p.waiting = false) (noted : Option Text) :
    (⟨p.waiting, noted⟩ : Pending).claim.1 = none := by
  rw [rests]
  rfl

/-- After a claim there is nothing to claim. -/
theorem claim_claim (p : Pending) : p.claim.2.claim.1 = none := by
  obtain ⟨_ | _, noted⟩ := p <;> rfl

end Pending

namespace Collecting

variable {s s' : Collecting} {n : Node} {visited nodes : List Node}

/-- A script that waits is there, and it is the last one listed. -/
def WaitsLast (s : Collecting) : Prop :=
  s.pending.waiting = true →
    ∃ script, s.pending.script = some script ∧ s.digest.scripts.getLast? = some script

/-! ### Visits -/

/-- What a visit of a node does.  A node that means nothing changes nothing; a script is listed, and
waits from then on; a handler takes a script that waits off the end of the list and is listed with
this very script, or alone if none waits. -/
inductive Visits (s : Collecting) (n : Node) : Collecting → Prop
  | nothing (h : Finding.ofNode n = .ok none) : Visits s n s
  | script {text : Text} (met : Finding.Met n (.script text)) :
      Visits s n ⟨{ s.digest with scripts := s.digest.scripts ++ [text] }, ⟨true, some text⟩⟩
  | pair {h : Handler} {earlier : List Text} {script : Text} (met : Finding.Met n (.handler h))
      (waits : s.pending = ⟨true, some script⟩) (last : s.digest.scripts = earlier ++ [script]) :
      Visits s n ⟨{ s.digest with scripts := earlier, pairs := s.digest.pairs ++ [⟨script, h⟩] },
        ⟨false, some script⟩⟩
  | handler {h : Handler} (met : Finding.Met n (.handler h)) (rests : s.pending.waiting = false) :
      Visits s n ⟨{ s.digest with handlers := s.digest.handlers ++ [h] }, s.pending⟩

theorem WaitsLast.visits_add (hs : s.WaitsLast) :
    ∀ {f : Finding}, Finding.Met n f → s.Visits n (s.add f)
  | .script text, met => .script met
  | .handler h, met => by
    cases hw : s.pending.waiting with
    | false =>
      rw [add_handler_of_rests h hw]
      exact .handler met hw
    | true =>
      obtain ⟨script, hnoted, hlast⟩ := hs hw
      obtain ⟨earlier, last⟩ := List.getLast?_eq_some_iff.1 hlast
      have waits : s.pending = ⟨true, some script⟩ := by rw [← hw, ← hnoted]
      rw [add_handler_of_waits h waits last]
      exact .pair met waits last

theorem visit_of_met {f : Finding} (met : Finding.Met n f) : s.visit n = .ok (s.add f) := by
  rw [visit, Finding.ofNode_eq_some_iff.2 met, Except.ok_bind]

theorem visit_of_nothing (h : Finding.ofNode n = .ok none) : s.visit n = .ok s := by
  rw [visit, h, Except.ok_bind]

/-- **A visit does one of four things**, if a script that waits is the last one listed. -/
theorem visit_eq_ok_iff (hs : s.WaitsLast) : s.visit n = .ok s' ↔ s.Visits n s' := by
  constructor
  · intro h
    obtain ⟨found, hfound, h⟩ := Except.bind_eq_ok_iff.1 h
    cases found with
    | none =>
      cases h
      exact .nothing hfound
    | some f =>
      cases h
      exact hs.visits_add (Finding.ofNode_eq_some_iff.1 hfound)
  · intro h
    cases h with
    | nothing h => exact visit_of_nothing h
    | script met => exact visit_of_met met
    | pair met waits last => rw [visit_of_met met, add_handler_of_waits _ waits last]
    | handler met rests => rw [visit_of_met met, add_handler_of_rests _ rests]

/-- A visit fails only if the node cannot be read, whatever is listed and whatever waits. -/
theorem visit_eq_error_iff {e : EscapeError} :
    s.visit n = .error e ↔ Finding.ofNode n = .error e := by
  rw [visit]
  cases Finding.ofNode n with
  | error e' => simp only [Except.error_bind]
  | ok found => cases found <;> simp only [Except.ok_bind, reduceCtorEq]

/-- A script that is listed in a new pair is the one that leaves the end of the scripts. -/
theorem Visits.scripts_eq_concat (h : s.Visits n s') {p : Pair}
    (hp : s'.digest.pairs = s.digest.pairs ++ [p]) :
    s.digest.scripts = s'.digest.scripts ++ [p.script] := by
  cases h with
  | pair met waits last =>
    obtain rfl := List.singleton_inj.1 (List.append_cancel_left hp)
    exact last
  | nothing | script | handler => simp at hp

/-! ### Accounts -/

/-- What is kept while nodes are visited: a script that waits is the last one listed, each script
met is listed alone or in a pair, and so is each handler. -/
structure Accounts (visited : List Node) (s : Collecting) : Prop where
  waitsLast : s.WaitsLast
  scripts_met : visited.countP (Node.means Finding.isScript) =
    s.digest.scripts.length + s.digest.pairs.length
  handlers_met : visited.countP (Node.means Finding.isHandler) =
    s.digest.handlers.length + s.digest.pairs.length

theorem accounts_nil (filePath language : Text) :
    Accounts [] { digest := { filePath := filePath, language := language } } where
  waitsLast h := nomatch h
  scripts_met := rfl
  handlers_met := rfl

/-- **One visit** keeps the accounts. -/
theorem Accounts.visits (hs : s.Accounts visited) (h : s.Visits n s') :
    s'.Accounts (visited ++ [n]) := by
  obtain ⟨hlast, hscripts, hhandlers⟩ := hs
  cases h with
  | nothing h =>
    refine ⟨hlast, ?_, ?_⟩
    · rw [Node.countP_means_concat_of_nothing visited h, hscripts]
    · rw [Node.countP_means_concat_of_nothing visited h, hhandlers]
  | script met =>
    refine ⟨fun _ => ⟨_, rfl, List.getLast?_concat⟩, ?_, ?_⟩
    · rw [Node.countP_means_concat _ visited met, hscripts, List.length_append]
      exact Nat.add_right_comm _ _ 1
    · rw [Node.countP_means_concat _ visited met, hhandlers]
      rfl
  | pair met waits last =>
    -- the script only leaves its list for the pair, and the handler is in the pair as well
    refine ⟨fun hw => (nomatch hw), ?_, ?_⟩
    · rw [Node.countP_means_concat _ visited met, hscripts, last, List.length_append,
        List.length_append]
      exact Nat.add_right_comm _ 1 _
    · rw [Node.countP_means_concat _ visited met, hhandlers, List.length_append]
      exact Nat.add_assoc _ _ 1
  | handler met rests =>
    refine ⟨hlast, ?_, ?_⟩
    · rw [Node.countP_means_concat _ visited met, hscripts]
      rfl
    · rw [Node.countP_means_concat _ visited met, hhandlers, List.length_append]
      exact Nat.add_right_comm _ _ 1

/-- **Many visits** keep the accounts, one by one. -/
theorem Accounts.foldlM (hs : s.Accounts visited) (h : nodes.foldlM visit s = .ok s') :
    s'.Accounts (visited ++ nodes) := by
  induction nodes generalizing s visited with
  | nil =>
    cases h
    rwa [List.append_nil]
  | cons n nodes ih =>
    rw [List.foldlM_cons] at h
    obtain ⟨next, hnext, h⟩ := Except.bind_eq_ok_iff.1 h
    have haccounts := ih (hs.visits ((visit_eq_ok_iff hs.waitsLast).1 hnext)) h
    rwa [List.append_assoc, List.singleton_append] at haccounts

/-! ### What is still noted -/

/-- What a finding does to the lists depends on what is listed and on what can be claimed. -/
theorem add_congr {t : Collecting} (hdigest : s.digest = t.digest)
    (hclaim : s.pending.claim.1 = t.pending.claim.1) (f : Finding) :
    (s.add f).digest = (t.add f).digest ∧
      (s.add f).pending.claim.1 = (t.add f).pending.claim.1 := by
  cases f with
  | script text => exact ⟨by simp only [add, hdigest], rfl⟩
  | handler h =>
    -- both claim the same, and after that there is nothing left to claim on either side
    have hs := s.pending.claim_claim
    have ht := t.pending.claim_claim
    unfold add
    generalize s.pending.claim = left, t.pending.claim = right at hclaim hs ht
    obtain ⟨claimed, left⟩ := left
    obtain ⟨_, right⟩ := right
    cases hclaim
    cases claimed <;> exact ⟨by simp only [hdigest], hs.trans ht.symm⟩

theorem digest_foldl_add_congr {t : Collecting} (hdigest : s.digest = t.digest)
    (hclaim : s.pending.claim.1 = t.pending.claim.1) (found : List Finding) :
    (found.foldl add s).digest = (found.foldl add t).digest := by
  induction found generalizing s t with
  | nil => exact hdigest
  | cons f found ih =>
    obtain ⟨hdigest, hclaim⟩ := add_congr hdigest hclaim f
    exact ih hdigest hclaim

/-- **What is noted and does not wait makes no difference** to the lists, whatever nodes come
next. -/
theorem map_digest_foldlM_visit (rests : s.pending.waiting = false) (noted : Option Text)
    (nodes : List Node) :
    (nodes.foldlM visit ⟨s.digest, ⟨s.pending.waiting, noted⟩⟩).map digest =
      (nodes.foldlM visit s).map digest := by
  have hclaim : (⟨s.pending.waiting, noted⟩ : Pending).claim.1 = s.pending.claim.1 :=
    (Pending.claim_fst_of_rests rests noted).trans
      (Pending.claim_fst_of_rests rests s.pending.script).symm
  rw [foldlM_visit, foldlM_visit]
  cases Finding.ofNodes nodes with
  | error e => rfl
  | ok found =>
    have hsame := digest_foldl_add_congr (s := ⟨s.digest, ⟨s.pending.waiting, noted⟩⟩) (t := s) rfl
      hclaim found
    exact congrArg Except.ok hsame

/-! ### Moments -/

/-- A moment in the making of the digest of a tree: the nodes that the walk has yielded, those that
it has stacked, and what the visits of the former have made. -/
structure Moment (root : Node) (filePath language : Text) (visited stack : List Node)
    (s : Collecting) : Prop where
  comes : Walk.Comes [root] visited stack
  made : visited.foldlM visit { digest := { filePath := filePath, language := language } } = .ok s

variable {root : Node} {filePath language : Text} {stack rest : List Node}

theorem Moment.accounts (h : Moment root filePath language visited stack s) : s.Accounts visited :=
  (accounts_nil filePath language).foldlM h.made

/-- The moment after the visit of the next node. -/
theorem Moment.next (h : Moment root filePath language visited stack s)
    (hstep : Walk.step stack = some (n, rest)) (hvisit : s.visit n = .ok s') :
    Moment root filePath language (visited ++ [n]) rest s' where
  comes := h.comes.step hstep
  made := by
    rw [List.foldlM_append, h.made, Except.ok_bind, List.foldlM_cons, hvisit]
    rfl

end Collecting

namespace Digest

open Collecting

variable {root : Node} {filePath language : Text}

theorem ofTree_eq_map_foldlM :
    ofTree root filePath language = (root.walk.foldlM Collecting.visit
      { digest := { filePath := filePath, language := language } }).map Collecting.digest := by
  rw [ofTree]
  cases root.walk.foldlM Collecting.visit
    { digest := { filePath := filePath, language := language } } <;> rfl

/-- The digest is what is made when the walk is at its end. -/
theorem ofTree_eq_ok_iff_moment {d : Digest} :
    ofTree root filePath language = .ok d ↔
      ∃ s, Moment root filePath language root.walk [] s ∧ s.digest = d := by
  have comes := Walk.comes_preorderAll [root]
  rw [root.preorderAll_singleton] at comes
  rw [ofTree_eq_map_foldlM, Except.map_eq_ok_iff]
  constructor
  · rintro ⟨s, made, hd⟩
    exact ⟨s, ⟨comes, made⟩, hd⟩
  · rintro ⟨s, ⟨-, made⟩, hd⟩
    exact ⟨s, made, hd⟩

/-- There is no digest if the walk comes to a node that cannot be read, and only then. -/
theorem ofTree_eq_error_iff_moment {e : EscapeError} :
    ofTree root filePath language = .error e ↔
      ∃ visited stack s n rest, Moment root filePath language visited stack s ∧
        Walk.step stack = some (n, rest) ∧ Finding.ofNode n = .error e := by
  rw [ofTree_eq_map_foldlM, Except.map_eq_error_iff, Except.foldlM_eq_error_iff]
  constructor
  · rintro ⟨visited, n, back, s, heq, made, hvisit⟩
    obtain ⟨stack, rest, comes, hstep⟩ :=
      Walk.exists_comes_of_eq (root.preorderAll_singleton.trans heq)
    exact ⟨visited, stack, s, n, rest, ⟨comes, made⟩, hstep, visit_eq_error_iff.1 hvisit⟩
  · rintro ⟨visited, stack, s, n, rest, ⟨comes, made⟩, hstep, hn⟩
    refine ⟨visited, n, Node.preorderAll rest, s, ?_, made, visit_eq_error_iff.2 hn⟩
    rw [← root.preorderAll_singleton, comes.preorderAll_eq, Walk.preorderAll_of_step hstep]

/-- **At every moment of the walk over a tree the lists and the script that waits agree.**  A script
that waits is there and is the last one listed; if none waits, none can be claimed, and which is
still noted makes no difference to what comes of any nodes.  Every script met so far is listed alone
or in a pair, and so is every handler.  The visit of the next node does one of four things and comes
to the next moment; whenever it lists a pair, the script of this very pair leaves the end of the
scripts; and it fails only if the node cannot be read.  The digest is what is made at the last
moment, unless the walk comes to such a node before. -/
theorem accounts_at_every_moment (root : Node) (filePath language : Text) :
    Moment root filePath language [] [root]
      { digest := { filePath := filePath, language := language } } ∧
    (∀ visited stack s, Moment root filePath language visited stack s →
      s.Accounts visited ∧
      (s.pending.waiting = false → ∀ noted,
        (⟨s.pending.waiting, noted⟩ : Pending).claim.1 = none ∧
        ∀ ns : List Node, (ns.foldlM visit ⟨s.digest, ⟨s.pending.waiting, noted⟩⟩).map digest =
          (ns.foldlM visit s).map digest) ∧
      ∀ n rest, Walk.step stack = some (n, rest) →
        (∀ s', s.visit n = .ok s' ↔ s.Visits n s') ∧
        (∀ s', s.visit n = .ok s' → Moment root filePath language (visited ++ [n]) rest s' ∧
          ∀ p, s'.digest.pairs = s.digest.pairs ++ [p] →
            s.digest.scripts = s'.digest.scripts ++ [p.script]) ∧
        ∀ e, s.visit n = .error e ↔ Finding.ofNode n = .error e) ∧
    (∀ d, ofTree root filePath language = .ok d ↔
      ∃ s, Moment root filePath language root.walk [] s ∧ s.digest = d) ∧
    (∀ e, ofTree root filePath language = .error e ↔
      ∃ visited stack s n rest, Moment root filePath language visited stack s ∧
        Walk.step stack = some (n, rest) ∧ Finding.ofNode n = .error e) ∧
    ∀ form n, n.means form = true ↔ ∃ f, Finding.Met n f ∧ form f = true := by
  refine ⟨⟨.start, rfl⟩, fun visited stack s h => ?_, fun d => ofTree_eq_ok_iff_moment,
    fun e => ofTree_eq_error_iff_moment, fun form n => Node.means_iff⟩
  refine ⟨h.accounts, fun rests noted => ⟨Pending.claim_fst_of_rests rests noted,
    map_digest_foldlM_visit rests noted⟩, fun n rest hstep => ?_⟩
  have hvisits : ∀ s', s.visit n = .ok s' ↔ s.Visits n s' := fun s' =>
    visit_eq_ok_iff h.accounts.waitsLast
  refine ⟨hvisits, fun s' hvisit => ⟨h.next hstep hvisit, fun p hp => ?_⟩,
    fun e => visit_eq_error_iff⟩
  exact ((hvisits s').1 hvisit).scripts_eq_concat hp

end Digest

/-! ### A sample -/

namespace Node

/-- A node of a sample tree, without errors. -/
def sample (kind : String) (named : Bool) (source : Text) (children : List Node)
    (keyIndex valueIndex : Option Nat) : Node :=
  .mk kind (Utf8.write source) children named false false ⟨0, 0⟩ keyIndex valueIndex

/-- A named node of a sample tree, with nothing below it. -/
def sampleLeaf (kind : String) (source : Text) : Node := sample kind true source [] none none

/-- A property of a sample tree. -/
def sampleProperty (key value : Node) : Node :=
  sample pairKind true (key.text ++ ": " ++ value.text)
    [key, sample ":" false ":" [] none none, value] (some 0) (some 2)

/-- A string literal of a sample tree, with the kinds and the sources of its parts. -/
def sampleString (parts : List (String × Text)) : Node :=
  let quote := sample "\"" false "\"" [] none none
  sample stringKind true ("\"" ++ Text.concat (parts.map Prod.snd) ++ "\"")
    ([quote] ++ parts.map (fun part => sampleLeaf part.1 part.2) ++ [quote]) none none

end Node

namespace Digest

open Collecting

/-- The property `script: ""`. -/
def emptyScript : Node :=
  .sampleProperty (.sampleLeaf "property_identifier" "script") (.sampleString [])

/-- The property `open: function () {}`. -/
def openProperty : Node :=
  .sampleProperty (.sampleLeaf "property_identifier" "open")
    (.sampleLeaf "function_expression" "function () {}")

/-- An object with the same empty script twice, and a handler after them. -/
def emptyScripts : Node :=
  .sample "object" true "" [emptyScript, emptyScript, openProperty] none none

/-- What is made of it before the handler is visited: both scripts are listed, and the second one
waits. -/
def bothListed : Collecting := ⟨⟨"a.js", "javascript", ["", ""], [], []⟩, ⟨true, some ""⟩⟩

/-- What is made of it after that: one of the scripts is in a pair, and none waits. -/
def oneClaimed : Collecting :=
  ⟨⟨"a.js", "javascript", [""], [], [⟨"", ⟨"open", "function () {}"⟩⟩]⟩, ⟨false, some ""⟩⟩

/-- The handler takes the second script off the list, and what is still noted cannot be claimed. -/
theorem accounts_at_every_moment_emptyScripts :
    ∃ stack rest,
      Moment emptyScripts "a.js" "javascript" (emptyScripts.walk.take 13) stack bothListed ∧
      Walk.step stack = some (openProperty, rest) ∧ bothListed.visit openProperty = .ok oneClaimed ∧
      bothListed.digest.scripts = oneClaimed.digest.scripts ++ [("" : Text)] ∧
      oneClaimed.Accounts (emptyScripts.walk.take 13 ++ [openProperty]) ∧
      oneClaimed.pending.claim.1 = none := by
  have hwalk : Node.preorderAll [emptyScripts] =
      emptyScripts.walk.take 13 ++ openProperty :: emptyScripts.walk.drop 14 := rfl
  obtain ⟨stack, rest, comes, hstep⟩ := Walk.exists_comes_of_eq hwalk
  have made : (emptyScripts.walk.take 13).foldlM visit
      { digest := { filePath := "a.js", language := "javascript" } } = .ok bothListed := by decide
  have hvisit : bothListed.visit openProperty = .ok oneClaimed := by decide
  obtain ⟨-, hmoments, -⟩ := accounts_at_every_moment emptyScripts "a.js" "javascript"
  obtain ⟨-, -, hnext⟩ := hmoments _ _ _ ⟨comes, made⟩
  obtain ⟨-, hafter, -⟩ := hnext _ _ hstep
  obtain ⟨hmoment, hscripts⟩ := hafter _ hvisit
  obtain ⟨haccounts, hrests, -⟩ := hmoments _ _ _ hmoment
  obtain ⟨hclaim, -⟩ := hrests rfl (some "")
  exact ⟨stack, rest, ⟨comes, made⟩, hstep, hvisit, hscripts _ rfl, haccounts, hclaim⟩

end Digest

end PullNotes
