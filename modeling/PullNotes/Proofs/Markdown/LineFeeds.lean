import Mathlib.Algebra.BigOperators.Group.List.Basic
import Mathlib.Algebra.GroupWithZero.Nat
import PullNotes.Proofs.Markdown.Blocks
import PullNotes.Proofs.Readability

/-!
# The line feeds of a section

A section is rendered line by line, and each line adds a line feed beside those of its own text.
The scripts stand in code spans, which are made one line, and the sources of handlers keep their
lines.  The name of a handler stands as it is in a line of its own, so its line feeds are those of
the section as well: a key with a line feed, which a string literal may have, adds a line that is
not one of the report.

* `Markdown.lineFeeds_asLines` : the line feeds of texts that are lines.
* `Markdown.lineFeeds_digestSection` : the line feeds of a section.
* `Finding.mem_ofTree_iff` : what a tree has findings of.
* `Markdown.lineFeeds_section_iff` : when the names of handlers add none.
-/

namespace PullNotes

namespace Markdown

/-! ### Counting -/

/-- The number of line feeds in a text. -/
def lineFeeds (t : Text) : Nat := t.count lineEnd

/-- The number of line feeds of texts that are lines, each with one at its end. -/
def linesFeeds (ls : List Text) : Nat := (ls.map fun l => lineFeeds l + 1).sum

@[simp] theorem lineFeeds_append (s t : Text) : lineFeeds (s ++ t) = lineFeeds s + lineFeeds t :=
  List.count_append

theorem lineFeeds_eq_zero_iff {t : Text} : lineFeeds t = 0 ↔ lineEnd ∉ t := by
  unfold lineFeeds
  exact List.count_eq_zero

@[simp] theorem lineFeeds_codeSpan (t : Text) : lineFeeds (codeSpan t) = 0 :=
  lineFeeds_eq_zero_iff.2 (Reading.lineEnd_not_mem_codeSpan t)

@[simp] theorem lineFeeds_ticks (n : Nat) : lineFeeds (ticks n) = 0 :=
  lineFeeds_eq_zero_iff.2 (Reading.lineEnd_not_mem_ticks n)

@[simp] theorem linesFeeds_nil : linesFeeds [] = 0 := rfl

@[simp] theorem linesFeeds_cons (l : Text) (ls : List Text) :
    linesFeeds (l :: ls) = lineFeeds l + 1 + linesFeeds ls := by
  unfold linesFeeds
  rw [List.map_cons, List.sum_cons]

@[simp] theorem linesFeeds_append (ls ls' : List Text) :
    linesFeeds (ls ++ ls') = linesFeeds ls + linesFeeds ls' := by
  unfold linesFeeds
  rw [List.map_append, List.sum_append]

theorem linesFeeds_flatMap {α : Type} (lines : α → List Text) (as : List α) :
    linesFeeds (as.flatMap lines) = (as.map fun a => linesFeeds (lines a)).sum := by
  induction as with
  | nil => rfl
  | cons a as ih => rw [List.flatMap_cons, linesFeeds_append, ih, List.map_cons, List.sum_cons]

/-- **Texts that are lines** have a line feed each beside their own. -/
theorem lineFeeds_asLines {ls : List Text} (h : ls ≠ []) :
    lineFeeds (asLines ls) = linesFeeds ls := by
  have hend : lineFeeds [lineEnd] = 1 := by decide
  unfold asLines
  rw [lineFeeds_append, hend]
  -- the line feed at the end is that of the last line, those between are those of the others
  induction ls with
  | nil => exact absurd rfl h
  | cons l ls ih =>
    cases ls with
    | nil => simp [Text.join]
    | cons l' ls =>
      have hrest := ih (List.cons_ne_nil l' ls)
      rw [Text.join] at hrest ⊢
      rw [List.intercalate_cons_cons, lineFeeds_append, lineFeeds_append, hend, linesFeeds_cons]
      omega

/-! ### The lines of a section -/

section

variable {language : Text} (hlanguage : lineEnd ∉ language)
include hlanguage

theorem linesFeeds_codeBlock (source : Text) :
    linesFeeds (codeBlock source language) = 3 + lineFeeds source := by
  unfold codeBlock fenceFor
  simp only [linesFeeds_cons, linesFeeds_nil, lineFeeds_append, lineFeeds_ticks,
    lineFeeds_eq_zero_iff.2 hlanguage]
  omega

theorem linesFeeds_pairLines (p : Pair) : linesFeeds (pairLines language p) =
    6 + lineFeeds p.handler.source + lineFeeds p.handler.name := by
  have hscript : lineFeeds (Text.concat ["**Script:** ", codeSpan p.script]) = 0 := by
    simp [Text.concat, show lineFeeds "**Script:** " = 0 by decide]
  have hname : lineFeeds (Text.concat ["**", p.handler.name, "(function):**"]) =
      lineFeeds p.handler.name := by
    simp [Text.concat, show lineFeeds "**" = 0 by decide,
      show lineFeeds "(function):**" = 0 by decide]
  unfold pairLines
  simp only [linesFeeds_append, linesFeeds_cons, linesFeeds_nil, hscript, hname,
    linesFeeds_codeBlock hlanguage, show lineFeeds [] = 0 from rfl]
  omega

theorem linesFeeds_handlerLines (h : Handler) :
    linesFeeds (handlerLines language h) = 5 + lineFeeds h.source + lineFeeds h.name := by
  have hname : lineFeeds (Text.concat ["**", h.name, ":**"]) = lineFeeds h.name := by
    simp [Text.concat, show lineFeeds "**" = 0 by decide, show lineFeeds ":**" = 0 by decide]
  unfold handlerLines
  simp only [linesFeeds_append, linesFeeds_cons, linesFeeds_nil, hname,
    linesFeeds_codeBlock hlanguage, show lineFeeds [] = 0 from rfl]
  omega

end

/-- The lines of scripts, whatever the scripts are. -/
theorem linesFeeds_scriptsLines (scripts : List Text) :
    linesFeeds (scriptsLines scripts) = if scripts = [] then 0 else 2 + scripts.length := by
  have hline : ∀ script, lineFeeds (scriptLine script) = 0 := by
    intro script
    simp [scriptLine, Text.concat, show lineFeeds "- " = 0 by decide]
  have hlines : linesFeeds (scripts.map scriptLine) = scripts.length := by
    induction scripts with
    | nil => rfl
    | cons script scripts ih =>
      rw [List.map_cons, linesFeeds_cons, hline, ih, List.length_cons]
      omega
  unfold scriptsLines
  by_cases hscripts : scripts = []
  · simp [hscripts]
  · rw [if_neg (by simpa using hscripts), if_neg hscripts]
    simp only [linesFeeds_append, linesFeeds_cons, linesFeeds_nil, hlines,
      show lineFeeds (Text.ofString "### Single Scripts:") = 0 by decide,
      show lineFeeds [] = 0 from rfl]
    omega

/-! ### Sections -/

/-- The line feeds that a section has if nothing but the sources of handlers adds any: two of the
headings, six of each pair, one of each script and five of each handler, with those of the sources,
and, where there are any, those of the headings of the scripts and of the handlers and of the empty
line after the scripts. -/
def expectedFeeds (d : Digest) : Nat :=
  2 + (d.pairs.map fun p => 6 + lineFeeds p.handler.source).sum +
    (if d.scripts = [] then 0 else 2 + d.scripts.length) +
    if d.handlers = [] then 0 else 1 + (d.handlers.map fun h => 5 + lineFeeds h.source).sum

/-- The names of the handlers of a digest, those in pairs first. -/
def handlerNames (d : Digest) : List Text :=
  d.pairs.map (fun p => p.handler.name) ++ d.handlers.map Handler.name

theorem linesFeeds_handlersLines {language : Text} (hlanguage : lineEnd ∉ language)
    (handlers : List Handler) : linesFeeds (handlersLines language handlers) =
      (if handlers = [] then 0 else 1 + (handlers.map fun h => 5 + lineFeeds h.source).sum) +
        (handlers.map fun h => lineFeeds h.name).sum := by
  unfold handlersLines
  by_cases hhandlers : handlers = []
  · simp [hhandlers]
  · rw [if_neg (by simpa using hhandlers), if_neg hhandlers, linesFeeds_append, linesFeeds_flatMap]
    simp only [linesFeeds_handlerLines hlanguage, List.sum_map_add, linesFeeds_cons, linesFeeds_nil,
      show lineFeeds (Text.ofString "### Single Functions:") = 0 by decide]
    omega

/-- **The line feeds of a section** are those that are expected and those in the names of
handlers. -/
theorem lineFeeds_digestSection {language : Text} {d : Digest} (hpath : lineEnd ∉ d.filePath)
    (hlanguage : lineEnd ∉ language) : lineFeeds (digestSection language d) =
      expectedFeeds d + ((handlerNames d).map lineFeeds).sum := by
  have hheading : lineFeeds (Text.concat ["## ", d.filePath, ":"]) = 0 := by
    simp [Text.concat, lineFeeds_eq_zero_iff.2 hpath, show lineFeeds "## " = 0 by decide,
      show lineFeeds ":" = 0 by decide]
  have hpairs : linesFeeds (d.pairs.flatMap (pairLines language)) =
      (d.pairs.map fun p => 6 + lineFeeds p.handler.source).sum +
        (d.pairs.map fun p => lineFeeds p.handler.name).sum := by
    simp only [linesFeeds_flatMap, linesFeeds_pairLines hlanguage, List.sum_map_add]
  have hnames : ((handlerNames d).map lineFeeds).sum =
      (d.pairs.map fun p => lineFeeds p.handler.name).sum +
        (d.handlers.map fun h => lineFeeds h.name).sum := by
    simp only [handlerNames, List.map_append, List.map_map, List.sum_append]
    rfl
  unfold digestSection sectionLines
  rw [lineFeeds_asLines (by simp)]
  simp only [linesFeeds_append, linesFeeds_cons, linesFeeds_nil, hheading, hpairs, hnames,
    linesFeeds_scriptsLines, linesFeeds_handlersLines hlanguage, expectedFeeds,
    show lineFeeds "### Info:" = 0 by decide]
  omega

end Markdown

/-! ### Names that are found -/

namespace Finding

theorem mem_ofNodes_iff {nodes : List Node} {found : List Finding} (h : ofNodes nodes = .ok found)
    {f : Finding} : f ∈ found ↔ ∃ n ∈ nodes, Met n f := by
  unfold ofNodes at h
  obtain ⟨meant, hmeant, hfound⟩ := Except.bind_eq_ok_iff.1 h
  obtain rfl := Except.ok.inj hfound
  clear h hfound
  rw [List.reduceOption_mem_iff]
  have hall := Except.mapM_eq_ok_iff.1 hmeant
  clear hmeant
  -- the nodes and what they mean are two lists of one length, gone through together
  induction hall with
  | nil => simp
  | @cons n m nodes meant hn _ ih =>
    simp only [List.mem_cons, exists_eq_or_imp, ih, ← ofNode_eq_some_iff, hn, Except.ok.injEq,
      eq_comm (a := m)]

/-- **The findings of a tree** are what its nodes mean. -/
theorem mem_ofTree_iff {root : Node} {found : List Finding} (h : ofTree root = .ok found)
    {f : Finding} : f ∈ found ↔ ∃ n ∈ root.preorder, Met n f :=
  mem_ofNodes_iff h

theorem mem_listed_handler {d : Digest} {name : Text} :
    (∃ source, handler ⟨name, source⟩ ∈ listed d) ↔ name ∈ Markdown.handlerNames d := by
  simp only [listed, Markdown.handlerNames, List.mem_append, List.mem_map, List.mem_flatMap]
  constructor
  · rintro ⟨source, (⟨_, _, hscript⟩ | ⟨h, hmem, heq⟩) | ⟨p, hmem, hp⟩⟩
    · cases hscript
    · cases heq
      exact Or.inr ⟨_, hmem, rfl⟩
    · have heq : handler ⟨name, source⟩ = handler p.handler := by simpa using hp
      exact Or.inl ⟨p, hmem, (congrArg Handler.name (Finding.handler.inj heq)).symm⟩
  · rintro (⟨p, hmem, rfl⟩ | ⟨h, hmem, rfl⟩)
    · exact ⟨p.handler.source, Or.inr ⟨p, hmem, by simp⟩⟩
    · exact ⟨h.source, Or.inl (Or.inr ⟨h, hmem, rfl⟩)⟩

end Finding

namespace Markdown

/-- The names of the handlers of a tree's digest are those that its nodes have. -/
theorem mem_handlerNames_iff {root : Node} {path dialect : Text} {d : Digest}
    (h : Digest.ofTree root path dialect = .ok d) {name : Text} : name ∈ handlerNames d ↔
      ∃ n ∈ root.preorder, ∃ source, Finding.Met n (.handler ⟨name, source⟩) := by
  rw [Digest.ofTree_eq_map] at h
  obtain ⟨found, hfound, rfl⟩ := Except.map_eq_ok_iff.1 h
  rw [← Finding.mem_listed_handler]
  simp only [← (Finding.perm_listed path dialect found).mem_iff, Finding.mem_ofTree_iff hfound]
  constructor
  · rintro ⟨source, n, hn, hmet⟩
    exact ⟨n, hn, source, hmet⟩
  · rintro ⟨n, hn, source, hmet⟩
    exact ⟨source, n, hn, hmet⟩

/-- **The line feeds of the section of a tree**, whose path and language have none, are those that
are expected and those in the names of handlers.  They are those that are expected exactly if no
handler in the tree has a name with a line feed.  No script adds any, whatever it is. -/
theorem lineFeeds_section_iff {root : Node} {path dialect language : Text} {d : Digest}
    (h : Digest.ofTree root path dialect = .ok d) (hpath : lineEnd ∉ path)
    (hlanguage : lineEnd ∉ language) :
    lineFeeds (digestSection language d) =
      expectedFeeds d + ((handlerNames d).map lineFeeds).sum ∧
    (lineFeeds (digestSection language d) = expectedFeeds d ↔
      ∀ n ∈ root.preorder, ∀ name source, Finding.Met n (.handler ⟨name, source⟩) →
        lineEnd ∉ name) := by
  have hfilePath : d.filePath = path := by
    rw [Digest.ofTree_eq_map] at h
    obtain ⟨found, -, rfl⟩ := Except.map_eq_ok_iff.1 h
    rfl
  have hcount := lineFeeds_digestSection (d := d) (hfilePath ▸ hpath) hlanguage
  refine ⟨hcount, ?_⟩
  -- a sum of numbers is zero only if each of them is
  rw [hcount, Nat.add_eq_left, List.sum_eq_zero_iff_forall_eq_nat]
  simp only [List.forall_mem_map, lineFeeds_eq_zero_iff, mem_handlerNames_iff h]
  constructor
  · intro hnone n hn name source hmet
    exact hnone name ⟨n, hn, source, hmet⟩
  · rintro hnone name ⟨n, hn, source, hmet⟩
    exact hnone n hn name source hmet

/-- A function of a sample tree. -/
def sampleFunction : Node := .sampleLeaf "function_expression" "function()\x7b\x7d"

/-- The object `\x7bscript: "a\\nb", run: function()\x7b\x7d\x7d`. -/
def sampleObject : Node :=
  let script := Node.sampleProperty (.sampleLeaf "property_identifier" "script") (.sampleString
    [("string_fragment", "a"), ("escape_sequence", "\\n"), ("string_fragment", "b")])
  let run := Node.sampleProperty (.sampleLeaf "property_identifier" "run") sampleFunction
  .sample "object" true ("\x7b" ++ script.text ++ ", " ++ run.text ++ "\x7d") [script, run]
    none none

/-- The digest of the sample object. -/
def sampleObjectDigest : Digest where
  filePath := "a.js"
  language := "javascript"
  pairs := [⟨"a\nb", "run", "function()\x7b\x7d"⟩]

/-- The line feed in the script is not one of the section. -/
theorem lineFeeds_section_script :
    Digest.ofTree sampleObject "a.js" "javascript" = .ok sampleObjectDigest ∧
      lineEnd ∉ Text.ofString "a.js" ∧ lineEnd ∉ Text.ofString "typescript" ∧
      lineFeeds (digestSection "typescript" sampleObjectDigest) =
        expectedFeeds sampleObjectDigest := by
  have hdigest : Digest.ofTree sampleObject "a.js" "javascript" = .ok sampleObjectDigest := by
    decide
  have hpath : lineEnd ∉ Text.ofString "a.js" := by decide
  have hlanguage : lineEnd ∉ Text.ofString "typescript" := by decide
  refine ⟨hdigest, hpath, hlanguage, ?_⟩
  rw [(lineFeeds_section_iff hdigest hpath hlanguage).1]
  decide

/-- The property `"a\\nb": function()\x7b\x7d`, whose key has a line feed. -/
def brokenKey : Node :=
  .sampleProperty (.sampleString [("string_fragment", "a"), ("escape_sequence", "\\n"),
    ("string_fragment", "b")]) sampleFunction

/-- The line feed in the key is one of the section, which has one more than is expected. -/
theorem lineFeeds_section_brokenKey :
    ∃ d, Digest.ofTree brokenKey "a.js" "javascript" = .ok d ∧
      lineFeeds (digestSection "typescript" d) = expectedFeeds d + 1 := by
  refine ⟨⟨"a.js", "javascript", [], [⟨"a\nb", "function()\x7b\x7d"⟩], []⟩, ?_, ?_⟩
  · decide
  · decide

end Markdown

end PullNotes
