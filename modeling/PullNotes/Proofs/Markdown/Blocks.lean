import PullNotes.Markdown.Report
import PullNotes.Proofs.Pieces

/-!
# The code blocks of a comment

A text is read line by line.  Outside of a block, a line of at least three backticks and no further
backtick opens one; inside, a line of at least as many backticks, with at most three spaces before
and any after them, closes it, and every other line belongs to it.  The fence of a source is longer
than every run of backticks in the source, so no line of the source closes its block; and no line
that the comment has outside of its blocks starts with a backtick.  So the blocks that are read are
the sources that were rendered.

* `Markdown.Reading`, `Markdown.read` : reading a text.
* `Markdown.le_longestRun` : every run of backticks is within the longest.
* `Markdown.Reading.text_codeBlock` : a code block is read as its source.
* `Markdown.Reading.foldl_sectionLines` : a section is read as the sources of its handlers.
* `Markdown.read_comment` : a comment is read as the sources of all its sections.
-/

namespace PullNotes

namespace Markdown

/-! ### Runs of backticks -/

theorem runs_cons (c : CodePoint) (t : Text) : runs (c :: t) =
    if c = tick then ((runs t).1 + 1, max (runs t).2 ((runs t).1 + 1)) else (0, (runs t).2) := rfl

/-- A run at the start is counted. -/
theorem le_runs_fst {n : Nat} {t : Text} (h : ticks n <+: t) : n ≤ (runs t).1 := by
  induction t generalizing n with
  | nil => simp_all [ticks]
  | cons c t ih =>
    cases n with
    | zero => simp
    | succ n =>
      rw [ticks, List.replicate_succ, List.cons_prefix_cons] at h
      obtain ⟨rfl, h⟩ := h
      have := ih h
      simp [runs_cons]
      omega

/-- **Every run of backticks is within the longest.** -/
theorem le_longestRun {n : Nat} {t : Text} (h : ticks n <:+: t) : n ≤ longestRun t := by
  induction t with
  | nil => simp_all [ticks]
  | cons c t ih =>
    rcases List.infix_cons_iff.1 h with hstart | hrest
    · have hleading := le_runs_fst hstart
      rw [runs_cons] at hleading
      rw [longestRun, runs_cons]
      by_cases hc : c = tick
      · simp only [hc, if_true] at hleading ⊢
        omega
      · simp only [hc, if_false] at hleading ⊢
        omega
    · have := ih hrest
      rw [longestRun] at this ⊢
      rw [runs_cons]
      by_cases hc : c = tick <;> simp only [hc, if_true, if_false] <;> omega

/-! ### Reading -/

/-- A code block as it is read: what follows the fence that opens it, and its lines as one text. -/
structure Block where
  language : Text
  source : Text
deriving DecidableEq, Repr

/-- Where a reader is: outside of any block, or inside of one, of which it knows the length of the
fence, the language, and the lines so far. -/
inductive Place where
  | outside
  | inside (fence : Nat) (language : Text) (lines : List Text)
deriving DecidableEq, Repr

/-- The length of the fence that a line opens a block with, and the language. -/
def opened? (line : Text) : Option (Nat × Text) :=
  let fence := line.takeWhile (· = tick)
  let language := line.dropWhile (· = tick)
  if leastFence ≤ fence.length ∧ tick ∉ language then some (fence.length, language) else none

/-- The greatest number of spaces before a fence that closes a block. -/
def greatestIndent : Nat := 3

/-- Whether a line closes a block with a fence of a length. -/
def closes (fence : Nat) (line : Text) : Bool :=
  let indent := line.takeWhile (· = space)
  let rest := line.dropWhile (· = space)
  indent.length ≤ greatestIndent && fence ≤ (rest.takeWhile (· = tick)).length &&
    (rest.dropWhile (· = tick)).all (· = space)

/-- What has been read: the blocks that are closed, and the place. -/
structure Reading where
  blocks : List Block := []
  place : Place := .outside
deriving DecidableEq, Repr

namespace Reading

/-- Reads one line. -/
def line (r : Reading) (l : Text) : Reading :=
  match r.place with
  | .outside =>
    match opened? l with
    | some (fence, language) => { r with place := .inside fence language [] }
    | none => r
  | .inside fence language lines =>
    if closes fence l then ⟨r.blocks ++ [⟨language, Text.join [lineEnd] lines⟩], .outside⟩
    else { r with place := .inside fence language (lines ++ [l]) }

/-- Reads the lines of a text. -/
def text (r : Reading) (t : Text) : Reading := (t.splitOn lineEnd).foldl line r

end Reading

/-- Reads a text from its start. -/
def read (t : Text) : Reading := Reading.text {} t

namespace Reading

theorem text_append (r : Reading) (s t : Text) :
    r.text (s ++ lineEnd :: t) = (r.text s).text t := by
  simp only [text, Text.splitOn_append_cons, List.foldl_append]

/-- Texts that stand on lines of their own are read one after another. -/
theorem text_asLines {ls : List Text} (hls : ls ≠ []) (r : Reading) (t : Text) :
    r.text (asLines ls ++ t) = (ls.foldl text r).text t := by
  rw [asLines, List.append_assoc, List.singleton_append, text_append]
  congr 1
  induction ls generalizing r with
  | nil => exact absurd rfl hls
  | cons l ls ih =>
    cases ls with
    | nil => simp [Text.join]
    | cons l' ls =>
      rw [Text.join, List.intercalate_cons_cons, List.append_assoc, List.singleton_append,
        text_append, List.foldl_cons]
      exact ih (List.cons_ne_nil _ _) (r.text l)

/-! ### Lines outside of blocks -/

theorem text_of_not_mem {l : Text} (h : lineEnd ∉ l) (r : Reading) : r.text l = r.line l := by
  simp [text, Text.splitOn_of_not_mem lineEnd h]

/-- A line that does not start with a backtick opens no block. -/
theorem opened?_of_head?_ne {l : Text} (h : l.head? ≠ some tick) : opened? l = none := by
  have hnone : l.takeWhile (· = tick) = [] := by
    cases l with
    | nil => rfl
    | cons c l =>
      have hc : c ≠ tick := by simpa using h
      simp [hc]
  simp [opened?, hnone, leastFence]

/-- Such a line is passed over outside of blocks. -/
theorem text_plain {l : Text} (hline : lineEnd ∉ l) (hhead : l.head? ≠ some tick)
    (blocks : List Block) : text ⟨blocks, .outside⟩ l = ⟨blocks, .outside⟩ := by
  rw [text_of_not_mem hline, line]
  simp only [opened?_of_head?_ne hhead]

theorem text_nil (blocks : List Block) : text ⟨blocks, .outside⟩ [] = ⟨blocks, .outside⟩ :=
  text_plain (by decide) (by decide) blocks

/-! ### Blocks -/

/-- No part of a source closes a block whose fence is longer than the runs of the source. -/
theorem closes_eq_false {fence : Nat} {l source : Text} (hl : l <:+: source)
    (h : longestRun source < fence) : closes fence l = false := by
  have hrun : ticks ((l.dropWhile (· = space)).takeWhile (· = tick)).length <:+: l := by
    have hticks : (l.dropWhile (· = space)).takeWhile (· = tick) =
        ticks ((l.dropWhile (· = space)).takeWhile (· = tick)).length := by
      refine List.eq_replicate_iff.2 ⟨rfl, fun c hc => ?_⟩
      simpa using List.all_eq_true.1 List.all_takeWhile c hc
    rw [← hticks]
    exact (List.takeWhile_prefix _).isInfix.trans (List.dropWhile_suffix _).isInfix
  have hle := le_longestRun (hrun.trans hl)
  have hshort : ¬ fence ≤ ((l.dropWhile (· = space)).takeWhile (· = tick)).length := by omega
  simp [closes, hshort]

/-- A source is read into its block, where the fence is longer than its runs of backticks. -/
theorem text_source {fence : Nat} {source : Text} (h : longestRun source < fence)
    (blocks : List Block) (language : Text) : text ⟨blocks, .inside fence language []⟩ source =
      ⟨blocks, .inside fence language (source.splitOn lineEnd)⟩ := by
  have hlines : ∀ lines : List Text, (∀ l ∈ lines, l <:+: source) → ∀ before : List Text,
      lines.foldl line ⟨blocks, .inside fence language before⟩ =
        ⟨blocks, .inside fence language (before ++ lines)⟩ := by
    intro lines
    induction lines with
    | nil => simp
    | cons l lines ih =>
      intro hinfix before
      obtain ⟨hl, hrest⟩ := List.forall_mem_cons.1 hinfix
      rw [List.foldl_cons, line]
      simp only [closes_eq_false hl h]
      simpa using ih hrest (before ++ [l])
  rw [text]
  simpa using hlines _ (fun l hl => Text.isInfix_of_mem_splitOn lineEnd hl) []

/-- The backticks in front of a text that starts with none. -/
theorem span_ticks {rest : Text} (h : rest.head? ≠ some tick) (n : Nat) :
    (ticks n ++ rest).takeWhile (· = tick) = ticks n ∧
      (ticks n ++ rest).dropWhile (· = tick) = rest := by
  have hticks : ∀ c ∈ ticks n, decide (c = tick) = true := by
    intro c hc
    simpa using List.eq_of_mem_replicate hc
  have hrest : rest.takeWhile (· = tick) = [] ∧ rest.dropWhile (· = tick) = rest := by
    cases rest with
    | nil => simp
    | cons c rest =>
      have hc : c ≠ tick := by simpa using h
      simp [hc]
  rw [List.takeWhile_append_of_pos hticks, List.dropWhile_append_of_pos hticks, hrest.1, hrest.2]
  simp

theorem opened?_fence {fence : Nat} {language : Text} (hfence : leastFence ≤ fence)
    (htick : tick ∉ language) : opened? (ticks fence ++ language) = some (fence, language) := by
  have hhead : language.head? ≠ some tick := fun hhead => htick (List.mem_of_head? hhead)
  obtain ⟨htake, hdrop⟩ := span_ticks hhead fence
  rw [opened?, htake, hdrop]
  simp [ticks, hfence, htick]

theorem closes_fence {fence : Nat} (hfence : leastFence ≤ fence) :
    closes fence (ticks fence) = true := by
  have hnil : ([] : Text).head? ≠ some tick := nofun
  obtain ⟨htake, hdrop⟩ := span_ticks hnil fence
  rw [List.append_nil] at htake hdrop
  have hindent : (ticks fence).takeWhile (· = space) = [] ∧
      (ticks fence).dropWhile (· = space) = ticks fence := by
    cases fence with
    | zero => simp [ticks]
    | succ n =>
      have hne : tick ≠ space := by decide
      simp [ticks, List.replicate_succ, hne]
  rw [closes, hindent.1, hindent.2, htake, hdrop]
  simp [ticks]

theorem lineEnd_not_mem_ticks (n : Nat) : lineEnd ∉ ticks n := by
  intro h
  exact absurd (List.eq_of_mem_replicate h) (by decide)

/-- The language may follow a fence: it is on one line and has no backtick. -/
def Follows (language : Text) : Prop := lineEnd ∉ language ∧ tick ∉ language

instance (language : Text) : Decidable (Follows language) := inferInstanceAs (Decidable (_ ∧ _))

variable {language : Text}

/-- **A code block is read as its source.** -/
theorem text_codeBlock (h : Follows language) (source : Text) (blocks : List Block) :
    (codeBlock source language).foldl text ⟨blocks, .outside⟩ =
      ⟨blocks ++ [⟨language, source⟩], .outside⟩ := by
  obtain ⟨fence, hfence, hleast, hlong⟩ : ∃ fence, fenceFor source = ticks fence ∧
      leastFence ≤ fence ∧ longestRun source < fence :=
    ⟨_, rfl, Nat.le_max_left _ _, by omega⟩
  have hfirst : lineEnd ∉ ticks fence ++ language := by
    simp [lineEnd_not_mem_ticks, h.1]
  rw [codeBlock, hfence, List.foldl_cons, List.foldl_cons, List.foldl_cons, List.foldl_nil,
    text_of_not_mem hfirst, line]
  simp only [opened?_fence hleast h.2, text_source hlong]
  rw [text_of_not_mem (lineEnd_not_mem_ticks fence), line]
  simp only [closes_fence hleast, if_true, Text.join_splitOn]

/-! ### Sections -/

/-- A code span is on one line, whichever code points end one. -/
theorem isLineBoundary_of_mem_codeSpan (t : Text) :
    ∀ c ∈ codeSpan t, c.isLineBoundary = false := by
  have hticks : ∀ n, ∀ c ∈ ticks n, c.isLineBoundary = false := by
    intro n c hc
    rw [List.eq_of_mem_replicate hc]
    decide
  have hspace : ∀ c ∈ [space], c.isLineBoundary = false := by
    intro c hc
    rw [List.mem_singleton.1 hc]
    decide
  have hline : ∀ c ∈ oneLine t, c.isLineBoundary = false := by
    intro c hc
    rcases Text.mem_join hc with hmem | ⟨l, hl, hmem⟩
    · exact hspace c hmem
    · exact Text.lines_boundary_free t l hl c hmem
  have hpadded : ∀ c ∈ padded (oneLine t), c.isLineBoundary = false := by
    intro c hc
    unfold padded at hc
    split at hc
    · simp only [List.cons_append, List.mem_cons, List.mem_append] at hc
      rcases hc with rfl | hc | hc
      · exact hspace _ List.mem_cons_self
      · exact hline c hc
      · exact hspace c (by simpa using hc)
    · exact hline c hc
  intro c hc
  simp only [codeSpan, List.mem_append] at hc
  rcases hc with (hc | hc) | hc
  · exact hticks _ c hc
  · exact hpadded c hc
  · exact hticks _ c hc

theorem lineEnd_not_mem_codeSpan (t : Text) : lineEnd ∉ codeSpan t := fun hmem =>
  absurd (isLineBoundary_of_mem_codeSpan t lineEnd hmem) (by decide)

/-- A line that begins with some words is passed over outside of blocks. -/
theorem text_words {words rest : Text} (hwords : words ≠ [] ∧ words.head? ≠ some tick ∧
    lineEnd ∉ words) (hrest : lineEnd ∉ rest) (blocks : List Block) :
    text ⟨blocks, .outside⟩ (words ++ rest) = ⟨blocks, .outside⟩ := by
  obtain ⟨hne, hhead, hline⟩ := hwords
  refine text_plain (by simp [hline, hrest]) ?_ blocks
  obtain ⟨c, words, rfl⟩ := List.exists_cons_of_ne_nil hne
  simpa using hhead

/-- Things that are read as a block each are read one after another. -/
theorem foldl_flatMap {α : Type} {lines : α → List Text} {block : α → Block} {as : List α}
    (h : ∀ a ∈ as, ∀ blocks,
      (lines a).foldl text ⟨blocks, .outside⟩ = ⟨blocks ++ [block a], .outside⟩)
    (blocks : List Block) :
    (as.flatMap lines).foldl text ⟨blocks, .outside⟩ = ⟨blocks ++ as.map block, .outside⟩ := by
  induction as generalizing blocks with
  | nil => simp
  | cons a as ih =>
    obtain ⟨ha, has⟩ := List.forall_mem_cons.1 h
    rw [List.flatMap_cons, List.foldl_append, ha blocks, ih has, List.map_cons, List.append_assoc,
      List.singleton_append]

/-- A title in bold, a code block and an empty line are read as the source of the block. -/
theorem foldl_titled (h : Follows language) {title : Text} (htitle : lineEnd ∉ title)
    (source : Text) (blocks : List Block) :
    ([Text.ofString "**" ++ title] ++ codeBlock source language ++ [[]]).foldl text
      ⟨blocks, .outside⟩ = ⟨blocks ++ [⟨language, source⟩], .outside⟩ := by
  have hbold : text ⟨blocks, .outside⟩ (Text.ofString "**" ++ title) = ⟨blocks, .outside⟩ :=
    text_words (by decide) htitle blocks
  simp only [List.foldl_append, List.foldl_cons, List.foldl_nil, hbold, text_codeBlock h, text_nil]

theorem foldl_pairLines (h : Follows language) {p : Pair} (hname : lineEnd ∉ p.handler.name)
    (blocks : List Block) : (pairLines language p).foldl text ⟨blocks, .outside⟩ =
      ⟨blocks ++ [⟨language, p.handler.source⟩], .outside⟩ := by
  have htitle : lineEnd ∉ p.handler.name ++ Text.ofString "(function):**" := by
    simp [hname, show lineEnd ∉ Text.ofString "(function):**" by decide]
  have hlines : pairLines language p = [Text.ofString "**Script:** " ++ codeSpan p.script] ++
      ([Text.ofString "**" ++ (p.handler.name ++ Text.ofString "(function):**")] ++
        codeBlock p.handler.source language ++ [[]]) := by
    simp [pairLines, Text.concat]
  rw [hlines, List.foldl_append, List.foldl_cons, List.foldl_nil,
    text_words (by decide) (lineEnd_not_mem_codeSpan p.script) blocks, foldl_titled h htitle]

theorem foldl_handlerLines (h : Follows language) {handler : Handler}
    (hname : lineEnd ∉ handler.name) (blocks : List Block) :
    (handlerLines language handler).foldl text ⟨blocks, .outside⟩ =
      ⟨blocks ++ [⟨language, handler.source⟩], .outside⟩ := by
  have htitle : lineEnd ∉ handler.name ++ Text.ofString ":**" := by
    simp [hname, show lineEnd ∉ Text.ofString ":**" by decide]
  have hlines : handlerLines language handler =
      [Text.ofString "**" ++ (handler.name ++ Text.ofString ":**")] ++
        codeBlock handler.source language ++ [[]] := by
    simp [handlerLines, Text.concat]
  rw [hlines, foldl_titled h htitle]

/-- Scripts without a handler have no blocks. -/
theorem foldl_scriptsLines (scripts : List Text) (blocks : List Block) :
    (scriptsLines scripts).foldl text ⟨blocks, .outside⟩ = ⟨blocks, .outside⟩ := by
  have hscripts : (scripts.map scriptLine).foldl text ⟨blocks, .outside⟩ = ⟨blocks, .outside⟩ := by
    induction scripts with
    | nil => rfl
    | cons script scripts ih =>
      have hline : scriptLine script = Text.ofString "- " ++ codeSpan script := by
        simp [scriptLine, Text.concat]
      rw [List.map_cons, List.foldl_cons, hline,
        text_words (by decide) (lineEnd_not_mem_codeSpan script) blocks, ih]
  by_cases hnone : scripts.isEmpty
  · simp [scriptsLines, hnone]
  · have hheading : text ⟨blocks, .outside⟩ (Text.ofString "### Single Scripts:") =
        ⟨blocks, .outside⟩ := text_plain (by decide) (by decide) blocks
    rw [scriptsLines, if_neg hnone]
    simp only [List.foldl_append, List.foldl_cons, List.foldl_nil, hheading, hscripts, text_nil]

end Reading

end Markdown

namespace Digest

open Markdown (lineEnd Block)

/-- The path and the names of a digest are on one line. -/
structure OnOneLine (d : Digest) : Prop where
  path : lineEnd ∉ d.filePath
  pairs : ∀ p ∈ d.pairs, lineEnd ∉ p.handler.name
  handlers : ∀ h ∈ d.handlers, lineEnd ∉ h.name

/-- The sources of a digest as a section shows them: those of the pairs, then the others. -/
def sources (d : Digest) : List Text :=
  d.pairs.map (fun p => p.handler.source) ++ d.handlers.map Handler.source

/-- The blocks of a digest in a language. -/
def blocks (language : Text) (d : Digest) : List Block := d.sources.map (Block.mk language)

end Digest

namespace Markdown

namespace Reading

variable {language : Text}

/-- **A section is read as the sources of its digest.** -/
theorem foldl_sectionLines (h : Follows language) {d : Digest} (hd : d.OnOneLine)
    (blocks : List Block) : (sectionLines language d).foldl text ⟨blocks, .outside⟩ =
      ⟨blocks ++ d.blocks language, .outside⟩ := by
  have hheading : Text.concat [Text.ofString "## ", d.filePath, Text.ofString ":"] =
      Text.ofString "## " ++ (d.filePath ++ Text.ofString ":") := by
    simp [Text.concat]
  have hpath : lineEnd ∉ d.filePath ++ Text.ofString ":" := by
    simp [hd.path, show lineEnd ∉ Text.ofString ":" by decide]
  have hhandlers : ∀ blocks, (handlersLines language d.handlers).foldl text ⟨blocks, .outside⟩ =
      ⟨blocks ++ d.handlers.map fun handler => ⟨language, handler.source⟩, .outside⟩ := by
    intro blocks
    by_cases hnone : d.handlers.isEmpty
    · simp [handlersLines, List.isEmpty_iff.1 hnone]
    · rw [handlersLines, if_neg hnone, List.foldl_append, List.foldl_cons, List.foldl_nil,
        text_plain (by decide) (by decide) blocks]
      exact foldl_flatMap (fun handler hmem => foldl_handlerLines h (hd.handlers handler hmem)) _
  rw [sectionLines, List.foldl_append, List.foldl_append, List.foldl_append, List.foldl_cons,
    List.foldl_cons, List.foldl_nil, hheading, text_words (by decide) hpath blocks,
    text_plain (by decide) (by decide) blocks,
    foldl_flatMap (fun p hmem => foldl_pairLines h (hd.pairs p hmem)), foldl_scriptsLines,
    hhandlers]
  simp [Digest.blocks, Digest.sources, Function.comp_def]

/-- Sections are read one after another. -/
theorem text_sections (h : Follows language) {ds : List Digest} (hds : ∀ d ∈ ds, d.OnOneLine)
    (blocks : List Block) :
    text ⟨blocks, .outside⟩ (Text.concat (ds.map (digestSection language))) =
      ⟨blocks ++ ds.flatMap (Digest.blocks language), .outside⟩ := by
  induction ds generalizing blocks with
  | nil => simp [Text.concat, text_nil]
  | cons d ds ih =>
    obtain ⟨hd, hds⟩ := List.forall_mem_cons.1 hds
    have hlines : sectionLines language d ≠ [] := by simp [sectionLines]
    rw [List.map_cons, Text.concat, List.flatten_cons, ← Text.concat, digestSection,
      text_asLines hlines, foldl_sectionLines h hd, ih hds, List.flatMap_cons, List.append_assoc]

end Reading

/-- **No source breaks out of its block.**  A comment is read as the sources of its digests, in
order, each in a block of its own in the language that was given, and the reading ends outside of
any block: whatever the scripts and the sources are. -/
theorem read_comment {marker language : Text} {ds : List Digest}
    (hmarker : lineEnd ∉ marker ∧ marker.head? ≠ some tick)
    (hlanguage : lineEnd ∉ language ∧ tick ∉ language) (hds : ∀ d ∈ ds, d.OnOneLine) :
    read (comment marker (ds.map (digestSection language))) =
      { blocks := ds.flatMap (Digest.blocks language), place := .outside } := by
  have hcomment : comment marker (ds.map (digestSection language)) =
      asLines [marker ++ [space], Text.ofString "# Overview"] ++
        Text.concat (ds.map (digestSection language)) := by
    have hspace : Text.ofString " \n" = [space, lineEnd] := by decide
    have hoverview : Text.ofString "# Overview\n" = Text.ofString "# Overview" ++ [lineEnd] := by
      decide
    simp [comment, markerLine, asLines, Text.concat, Text.join, List.intercalate_cons_cons, hspace,
      hoverview]
  have hline : lineEnd ∉ marker ++ [space] := by
    simp [hmarker.1, show lineEnd ≠ space by decide]
  have hhead : (marker ++ [space]).head? ≠ some tick := by
    cases marker with
    | nil => decide
    | cons c marker => simpa using hmarker.2
  rw [read, hcomment, Reading.text_asLines (by simp)]
  simp only [List.foldl_cons, List.foldl_nil, Reading.text_plain hline hhead,
    Reading.text_plain (l := Text.ofString "# Overview") (by decide) (by decide),
    Reading.text_sections hlanguage hds, List.nil_append]

/-- A digest whose sources and script look like fences, and one of whose sources is empty. -/
def fencedDigest : Digest where
  filePath := "dev/a.js"
  language := "javascript"
  scripts := ["```"]
  handlers := [⟨"g", ""⟩]
  pairs := [⟨"`a`\n```js", ⟨"f", "```js\n   ````\n``````"⟩⟩]

/-- The two sources are read, and nothing of the scripts. -/
theorem read_comment_fenced :
    (lineEnd ∉ Text.ofString "<!-- id: bot -->" ∧
      (Text.ofString "<!-- id: bot -->").head? ≠ some tick) ∧
    (lineEnd ∉ Text.ofString "js" ∧ tick ∉ Text.ofString "js") ∧
    (∀ d ∈ [fencedDigest], d.OnOneLine) ∧
    read (comment "<!-- id: bot -->" ([fencedDigest].map (digestSection "js"))) =
      { blocks := [⟨"js", "```js\n   ````\n``````"⟩, ⟨"js", ""⟩] } := by
  have hmarker : lineEnd ∉ Text.ofString "<!-- id: bot -->" ∧
      (Text.ofString "<!-- id: bot -->").head? ≠ some tick := by decide
  have hlanguage : lineEnd ∉ Text.ofString "js" ∧ tick ∉ Text.ofString "js" := by decide
  have hdigests : ∀ d ∈ [fencedDigest], d.OnOneLine := by
    simp only [List.forall_mem_singleton]
    exact ⟨by decide, by decide, by decide⟩
  exact ⟨hmarker, hlanguage, hdigests, read_comment hmarker hlanguage hdigests⟩

end Markdown

end PullNotes
