import Mathlib.Data.List.Induction
import Mathlib.Data.List.ReduceOption
import PullNotes.Digest.OfTree
import PullNotes.Proofs.Traversal

/-!
# Digests by adjacency

The findings of a tree are what its nodes mean, in pre-order.  Which of them a digest lists as a
pair, as a handler or as a script depends on their neighbours in this order alone, whatever stands
between them in the tree:

* a handler right after a script makes a pair with it;
* any other handler is listed by itself;
* a script right before a handler is not listed, any other is.

The digest in the making carries this along (`Collecting.Reflects`): the lists are those of the
findings so far, and a script waits exactly if it is the last finding.  So taking the last script
off the list removes the one that a handler claims.

* `Digest.ofTree_eq_ok_iff` : the digest of a tree lists its findings by adjacency, and each finding
  in one place.
-/

namespace PullNotes

namespace Finding

/-- What a node may mean, by the marks of the node: a script or a handler. -/
inductive Met (n : Node) : Finding → Prop
  | script {key value : Node} {text : Text} (kind : n.kind = Node.pairKind)
      (hkey : n.keyChild? = some key) (hvalue : n.valueChild? = some value)
      (name : key.keyName = .ok scriptKey) (literal : value.kind = Node.stringKind)
      (meaning : value.literalValue = .ok text) : Met n (.script text)
  | handler {key value : Node} {name : Text} (kind : n.kind = Node.pairKind)
      (hkey : n.keyChild? = some key) (hvalue : n.valueChild? = some value)
      (hname : key.keyName = .ok name) (function : value.isFunction = true) :
      Met n (.handler ⟨name, value.text⟩)

/-- A function expression is no string literal. -/
theorem kind_ne_of_isFunction {n : Node} (h : n.isFunction = true) : n.kind ≠ Node.stringKind := by
  intro hk
  rw [Node.isFunction, hk] at h
  exact absurd h (by decide)

theorem ofNode_eq_some_iff {n : Node} {f : Finding} : ofNode n = .ok (some f) ↔ Met n f := by
  constructor
  · intro h
    unfold ofNode at h
    by_cases kind : n.kind = Node.pairKind
    · simp only [kind, bne_self_eq_false, Bool.false_eq_true, if_false] at h
      split at h
      · rename_i key value hkey hvalue
        cases hname : key.keyName with
        | error e => simp [hname, bind, Except.bind] at h
        | ok name =>
          simp only [hname, bind, Except.bind] at h
          split at h
          · rename_i hs
            obtain ⟨rfl, literal⟩ := hs
            cases hm : value.literalValue with
            | error e => simp [hm] at h
            | ok text =>
              simp only [hm, Except.ok.injEq, Option.some.injEq] at h
              subst h
              exact .script kind hkey hvalue hname literal hm
          · split at h
            · rename_i function
              simp only [Except.ok.injEq, Option.some.injEq] at h
              subst h
              exact .handler kind hkey hvalue hname function
            · simp at h
      · simp at h
    · simp [kind] at h
  · rintro (⟨kind, hkey, hvalue, name, literal, meaning⟩ | ⟨kind, hkey, hvalue, hname, function⟩)
    · simp [ofNode, kind, hkey, hvalue, name, literal, meaning, bind, Except.bind]
    · have literal := kind_ne_of_isFunction function
      simp [ofNode, kind, hkey, hvalue, hname, literal, function, bind, Except.bind]

/-- What the nodes of a list mean, in order, unless a text among them cannot be read. -/
def ofNodes (nodes : List Node) : Except EscapeError (List Finding) := do
  let found ← nodes.mapM ofNode
  return found.reduceOption

/-- The findings of a tree, in its pre-order. -/
def ofTree (root : Node) : Except EscapeError (List Finding) := ofNodes root.preorder

/-! ### Neighbours -/

/-- Each finding, and before it the one that comes immediately before. -/
def withPrevious (found : List Finding) : List (Option Finding × Finding) :=
  (none :: found.map some).zip found

/-- Each finding, and behind it the one that comes immediately after. -/
def withNext (found : List Finding) : List (Finding × Option Finding) :=
  found.zip (found.tail.map some ++ [none])

/-- Each handler right after a script, with that script. -/
def pairs (found : List Finding) : List Pair :=
  (withPrevious found).filterMap fun
    | (some (.script text), .handler h) => some ⟨text, h⟩
    | _ => none

/-- The handlers that do not come right after a script. -/
def handlers (found : List Finding) : List Handler :=
  (withPrevious found).filterMap fun
    | (some (.script _), _) => none
    | (_, .handler h) => some h
    | _ => none

/-- The scripts that do not come right before a handler. -/
def scripts (found : List Finding) : List Text :=
  (withNext found).filterMap fun
    | (.script _, some (.handler _)) => none
    | (.script text, _) => some text
    | _ => none

/-- The digest that lists findings by adjacency. -/
def digest (filePath language : Text) (found : List Finding) : Digest where
  filePath := filePath
  language := language
  scripts := scripts found
  handlers := handlers found
  pairs := pairs found

/-- The findings that the lists of a digest stand for. -/
def listed (d : Digest) : List Finding :=
  d.scripts.map .script ++ d.handlers.map .handler
    ++ d.pairs.flatMap fun p => [.script p.script, .handler p.handler]

/-! ### One finding more -/

theorem zip_previous_concat (previous : Option Finding) (found : List Finding) (f : Finding) :
    (previous :: (found ++ [f]).map some).zip (found ++ [f]) =
      (previous :: found.map some).zip found ++ [(found.getLast?.or previous, f)] := by
  induction found generalizing previous with
  | nil => simp
  | cons g found ih =>
    have h := ih (some g)
    simp only [List.map_append, List.map_cons, List.map_nil, List.cons_append, List.zip_cons_cons,
      List.getLast?_cons] at h ⊢
    rw [h]
    cases found.getLast? <;> simp

theorem withPrevious_concat (found : List Finding) (f : Finding) :
    withPrevious (found ++ [f]) = withPrevious found ++ [(found.getLast?, f)] := by
  rw [withPrevious, zip_previous_concat, Option.or_none, withPrevious]

theorem withNext_concat (found : List Finding) (f : Finding) :
    withNext (found ++ [f]) = found.zip ((found ++ [f]).tail.map some) ++ [(f, none)] := by
  rw [withNext, List.zip_append (by simp)]
  rfl

theorem zip_next_concat (found : List Finding) (f g : Finding) :
    (found ++ [f]).zip ((found ++ [f] ++ [g]).tail.map some) =
      found.zip ((found ++ [f]).tail.map some) ++ [(f, some g)] := by
  have h : (found ++ [f] ++ [g]).tail.map some = (found ++ [f]).tail.map some ++ [some g] := by
    cases found <;> simp
  rw [h, List.zip_append (by simp)]
  rfl

@[simp] theorem pairs_concat_script (found : List Finding) (text : Text) :
    pairs (found ++ [.script text]) = pairs found := by
  simp [pairs, withPrevious_concat]

@[simp] theorem handlers_concat_script (found : List Finding) (text : Text) :
    handlers (found ++ [.script text]) = handlers found := by
  rw [handlers, withPrevious_concat, List.filterMap_append]
  rcases found.getLast? with _ | _ | _ <;> simp [handlers]

@[simp] theorem scripts_concat_script (found : List Finding) (text : Text) :
    scripts (found ++ [.script text]) = scripts found ++ [text] := by
  rcases found.eq_nil_or_concat with rfl | ⟨found, f, rfl⟩
  · rfl
  · rw [List.concat_eq_append, scripts, withNext_concat, zip_next_concat, scripts, withNext_concat]
    cases f <;> simp

theorem pairs_concat_handler {found : List Finding} {text : Text} (h : Handler)
    (hlast : found.getLast? = some (.script text)) :
    pairs (found ++ [.handler h]) = pairs found ++ [⟨text, h⟩] := by
  simp [pairs, withPrevious_concat, hlast]

theorem handlers_concat_handler {found : List Finding} {text : Text} (h : Handler)
    (hlast : found.getLast? = some (.script text)) :
    handlers (found ++ [.handler h]) = handlers found := by
  simp [handlers, withPrevious_concat, hlast]

/-- The script that a handler claims is the last one listed before. -/
theorem scripts_eq_concat {found : List Finding} {text : Text} (h : Handler)
    (hlast : found.getLast? = some (.script text)) :
    scripts found = scripts (found ++ [.handler h]) ++ [text] := by
  rcases found.eq_nil_or_concat with rfl | ⟨found, f, rfl⟩
  · simp at hlast
  · rw [List.concat_eq_append] at hlast ⊢
    simp only [List.getLast?_concat, Option.some.injEq] at hlast
    subst hlast
    rw [scripts, withNext_concat, scripts, withNext_concat, zip_next_concat]
    simp

section
variable {found : List Finding} (h : Handler) (hlast : ∀ text, found.getLast? ≠ some (.script text))
include hlast

theorem pairs_concat_lone : pairs (found ++ [.handler h]) = pairs found := by
  rw [pairs, withPrevious_concat, List.filterMap_append]
  rcases hf : found.getLast? with _ | text | _
  · simp [pairs]
  · exact absurd hf (hlast text)
  · simp [pairs]

theorem handlers_concat_lone : handlers (found ++ [.handler h]) = handlers found ++ [h] := by
  rw [handlers, withPrevious_concat, List.filterMap_append]
  rcases hf : found.getLast? with _ | text | _
  · simp [handlers]
  · exact absurd hf (hlast text)
  · simp [handlers]

theorem scripts_concat_lone : scripts (found ++ [.handler h]) = scripts found := by
  rcases found.eq_nil_or_concat with rfl | ⟨found, f, rfl⟩
  · rfl
  · rw [List.concat_eq_append] at hlast ⊢
    rw [scripts, withNext_concat, zip_next_concat, scripts, withNext_concat]
    cases f with
    | script text => exact absurd List.getLast?_concat (hlast text)
    | handler g => simp

end

end Finding

namespace Collecting

open Finding

section

variable {s : Collecting} {earlier : List Text} {script : Text} (h : Handler)

theorem add_handler_of_waits (waits : s.pending = ⟨true, some script⟩)
    (last : s.digest.scripts = earlier ++ [script]) :
    s.add (.handler h) =
      ⟨{ s.digest with scripts := earlier, pairs := s.digest.pairs ++ [⟨script, h⟩] },
        ⟨false, some script⟩⟩ := by
  have hclaim : s.pending.claim = (some script, ⟨false, some script⟩) := by
    rw [waits]
    rfl
  simp only [add, hclaim, last, List.dropLast_concat]

theorem add_handler_of_rests (rests : s.pending.waiting = false) :
    s.add (.handler h) =
      ⟨{ s.digest with handlers := s.digest.handlers ++ [h] }, s.pending⟩ := by
  simp only [add, Pending.claim_of_not_waiting rests]

end

/-- A digest in the making that lists the findings so far by adjacency, and in which a script waits
exactly if it is the last of them. -/
structure Reflects (filePath language : Text) (s : Collecting) (found : List Finding) : Prop where
  digest_eq : s.digest = Finding.digest filePath language found
  waits : ∀ text, found.getLast? = some (.script text) → s.pending = ⟨true, some text⟩
  rests : (∀ text, found.getLast? ≠ some (.script text)) → s.pending.waiting = false

variable {filePath language : Text}

theorem reflects_nil :
    Reflects filePath language { digest := { filePath := filePath, language := language } } [] where
  digest_eq := rfl
  waits := by simp
  rests := fun _ => rfl

theorem Reflects.add_script {s : Collecting} {found : List Finding}
    (hs : s.Reflects filePath language found) (text : Text) :
    (s.add (.script text)).Reflects filePath language (found ++ [.script text]) where
  digest_eq := by simp [Collecting.add, Finding.digest, hs.digest_eq]
  waits text' h := by
    simp only [List.getLast?_concat, Option.some.injEq, Finding.script.injEq] at h
    subst h
    rfl
  rests h := absurd List.getLast?_concat (h text)

theorem Reflects.add_handler {s : Collecting} {found : List Finding}
    (hs : s.Reflects filePath language found) (h : Handler) :
    (s.add (.handler h)).Reflects filePath language (found ++ [.handler h]) := by
  have hend : ∀ text, (found ++ [Finding.handler h]).getLast? ≠ some (.script text) := by simp
  by_cases hlast : ∃ text, found.getLast? = some (.script text)
  · -- the script that waits is the last one listed, so dropping the last takes the right one
    obtain ⟨text, hlast⟩ := hlast
    have last : s.digest.scripts = scripts (found ++ [.handler h]) ++ [text] := by
      rw [hs.digest_eq]
      exact scripts_eq_concat h hlast
    rw [add_handler_of_waits h (hs.waits text hlast) last]
    refine ⟨?_, fun text' h' => absurd h' (hend text'), fun _ => rfl⟩
    simp only [hs.digest_eq, Finding.digest, pairs_concat_handler h hlast,
      handlers_concat_handler h hlast]
  · have hlast : ∀ text, found.getLast? ≠ some (.script text) := fun text h' => hlast ⟨text, h'⟩
    have rests := hs.rests hlast
    rw [add_handler_of_rests h rests]
    refine ⟨?_, fun text' h' => absurd h' (hend text'), fun _ => rests⟩
    simp only [hs.digest_eq, Finding.digest, pairs_concat_lone h hlast, handlers_concat_lone h hlast,
      scripts_concat_lone h hlast]

/-- Listing a finding keeps the lists those of adjacency. -/
theorem Reflects.add {s : Collecting} {found : List Finding}
    (hs : s.Reflects filePath language found) :
    ∀ f, (s.add f).Reflects filePath language (found ++ [f])
  | .script text => hs.add_script text
  | .handler h => hs.add_handler h

/-- Listing findings one after another. -/
theorem Reflects.foldl {s : Collecting} {found : List Finding}
    (hs : s.Reflects filePath language found) (more : List Finding) :
    (more.foldl Collecting.add s).Reflects filePath language (found ++ more) := by
  induction more generalizing s found with
  | nil => simpa using hs
  | cons f more ih => simpa using ih (hs.add f)

/-- Visiting nodes lists their findings, and fails on the first of them that cannot be read. -/
theorem foldlM_visit (s : Collecting) (nodes : List Node) :
    nodes.foldlM visit s = (ofNodes nodes).map fun found => found.foldl Collecting.add s := by
  induction nodes generalizing s with
  | nil => rfl
  | cons n nodes ih =>
    simp only [List.foldlM_cons, visit, ofNodes, List.mapM_cons] at ih ⊢
    cases hn : Finding.ofNode n with
    | error e => rfl
    | ok found =>
      cases found <;> simp only [bind, Except.bind, ih] <;> cases nodes.mapM Finding.ofNode <;>
        simp [Except.map, pure, Except.pure, List.reduceOption_cons_of_none,
          List.reduceOption_cons_of_some]

end Collecting

namespace Finding

/-- Every finding is listed in exactly one place. -/
theorem perm_listed (filePath language : Text) (found : List Finding) :
    found.Perm (listed (digest filePath language found)) := by
  induction found using List.reverseRecOn with
  | nil => rfl
  | append_singleton found f ih =>
    rw [List.perm_iff_count] at ih ⊢
    intro g
    have hg := ih g
    cases f with
    | script text =>
      simp only [listed, digest, List.count_append, scripts_concat_script, handlers_concat_script,
        pairs_concat_script, List.map_append, List.map_cons, List.map_nil] at hg ⊢
      omega
    | handler h =>
      by_cases hlast : ∃ text, found.getLast? = some (.script text)
      · -- the script that is claimed leaves the scripts and comes back in the pair
        obtain ⟨text, hlast⟩ := hlast
        simp only [listed, digest, List.count_append, scripts_eq_concat h hlast,
          handlers_concat_handler h hlast, pairs_concat_handler h hlast, List.map_append,
          List.map_cons, List.map_nil, List.flatMap_append, List.flatMap_cons, List.flatMap_nil,
          List.append_nil, List.count_cons, List.count_nil] at hg ⊢
        omega
      · have hlast : ∀ text, found.getLast? ≠ some (.script text) := fun text h' => hlast ⟨text, h'⟩
        simp only [listed, digest, List.count_append, scripts_concat_lone h hlast,
          handlers_concat_lone h hlast, pairs_concat_lone h hlast, List.map_append, List.map_cons,
          List.map_nil] at hg ⊢
        omega

end Finding

/-- The digest of a tree is that of its findings, and it fails if one of them cannot be read. -/
theorem Digest.ofTree_eq_map (root : Node) (filePath language : Text) :
    ofTree root filePath language = (Finding.ofTree root).map
      (Finding.digest filePath language) := by
  rw [ofTree, root.walk_eq_preorder, Collecting.foldlM_visit, Finding.ofTree]
  cases Finding.ofNodes root.preorder with
  | error e => rfl
  | ok found =>
    have hnil : Collecting.Reflects filePath language
        { digest := { filePath := filePath, language := language } } [] := Collecting.reflects_nil
    exact congrArg Except.ok (hnil.foldl found).digest_eq

/-- **The digest of a tree lists its findings by adjacency.**  It is there if the findings of the
tree, in pre-order, can all be read; its pairs are the handlers right after a script, its handlers
those that are not, its scripts those not right before a handler, each list in the order of the
findings; and each finding is listed in exactly one place. -/
theorem Digest.ofTree_eq_ok_iff (root : Node) (filePath language : Text) (d : Digest) :
    (Digest.ofTree root filePath language = .ok d ↔
      ∃ found, Finding.ofTree root = .ok found ∧ d.filePath = filePath ∧ d.language = language ∧
        d.pairs = Finding.pairs found ∧ d.handlers = Finding.handlers found ∧
        d.scripts = Finding.scripts found) ∧
    (∀ n f, Finding.ofNode n = .ok (some f) ↔ Finding.Met n f) ∧
    ∀ found, Digest.ofTree root filePath language = .ok d → Finding.ofTree root = .ok found →
      found.Perm (Finding.listed d) := by
  have hmap := Digest.ofTree_eq_map root filePath language
  refine ⟨⟨fun h => ?_, ?_⟩, fun n f => Finding.ofNode_eq_some_iff, fun found h hfound => ?_⟩
  · cases hfound : Finding.ofTree root with
    | error e => rw [hmap, hfound] at h; cases h
    | ok found =>
      rw [hmap, hfound, Except.map, Except.ok.injEq] at h
      subst h
      exact ⟨found, rfl, rfl, rfl, rfl, rfl, rfl⟩
  · rintro ⟨found, hfound, hpath, hlanguage, hpairs, hhandlers, hscripts⟩
    rw [hmap, hfound, Except.map, Except.ok.injEq, Finding.digest, ← hpath, ← hlanguage, ← hpairs,
      ← hhandlers, ← hscripts]
  · rw [hmap, hfound, Except.map, Except.ok.injEq] at h
    subst h
    exact Finding.perm_listed filePath language found

end PullNotes
