import PullNotes.Proofs.Markdown.Blocks

/-!
# The code spans of a section

A code span opens with a run of backticks, and the first run after it that is as long closes it.  A
space is taken off both ends of what is in between, if it has one at both and is not all spaces.
The runs around a script are longer than every run in it, and a script that starts or ends with a
backtick is set off by spaces, so every script that is not empty is one span.  What the reader sees
of it is the script on one line, unless the script itself has spaces at both ends: these look like
those that set it off, and the reader loses one on each side.

* `Markdown.IsRun` : the runs of backticks in a text.
* `Markdown.readSpan?` : reading a code span.
* `Markdown.upToRun?_eq_some_iff` : the reader goes up to the first run of a length.
* `Markdown.codeSpan_closes` : where the span of a script ends.
* `Markdown.scripts_shown_iff` : which scripts are read as they are, and which look alike.
-/

namespace PullNotes

namespace Markdown

/-! ### Runs of backticks -/

/-- A number of backticks, at least one, stand in a text between two parts of it, and no further
backtick is next to them. -/
structure IsRun (t before : Text) (n : Nat) (after : Text) : Prop where
  eq : t = before ++ (ticks n ++ after)
  pos : 0 < n
  before : before.getLast? ≠ some tick
  after : after.head? ≠ some tick

variable {n k : Nat} {t before after : Text}

/-- A text starts with one run of backticks at most. -/
theorem ticks_append_inj {s : Text} (hs : s.head? ≠ some tick) (ht : t.head? ≠ some tick)
    (h : ticks n ++ s = ticks k ++ t) : n = k ∧ s = t := by
  induction n generalizing k with
  | zero =>
    cases k with
    | zero => exact ⟨rfl, h⟩
    | succ k => simp_all [ticks, List.replicate_succ]
  | succ n ih =>
    cases k with
    | zero =>
      rw [← show ticks (n + 1) ++ s = t from h] at ht
      simp [ticks, List.replicate_succ] at ht
    | succ k =>
      obtain ⟨rfl, rfl⟩ := ih (List.cons.inj h).2
      exact ⟨rfl, rfl⟩

/-- What ends with no backtick and is a part of a run is nothing. -/
theorem eq_nil_of_prefix_ticks (h : before <+: ticks n) (hlast : before.getLast? ≠ some tick) :
    before = [] := by
  by_cases hnil : before = []
  · exact hnil
  · have hmem : before.getLast hnil ∈ ticks n := h.subset (List.getLast_mem hnil)
    rw [List.getLast?_eq_some_getLast hnil, List.eq_of_mem_replicate hmem] at hlast
    exact absurd rfl hlast

/-- The runs of a text after some backticks are these backticks, and those of the text. -/
theorem isRun_ticks_append_iff (ht : t.head? ≠ some tick) : IsRun (ticks k ++ t) before n after ↔
    (0 < k ∧ before = [] ∧ n = k ∧ after = t) ∨
      ∃ inside, before = ticks k ++ inside ∧ IsRun t inside n after := by
  constructor
  · rintro ⟨heq, hpos, hbefore, hafter⟩
    rcases List.append_eq_append_iff.1 heq with ⟨inside, rfl, hinside⟩ | ⟨rest, hticks, hrest⟩
    · refine Or.inr ⟨inside, rfl, hinside, hpos, ?_, hafter⟩
      intro hlast
      rw [List.getLast?_append, hlast] at hbefore
      exact hbefore rfl
    · -- what is before the run has no backtick at its end, so it is empty
      obtain rfl := eq_nil_of_prefix_ticks ⟨rest, hticks.symm⟩ hbefore
      obtain ⟨rfl, rfl⟩ := ticks_append_inj hafter ht heq.symm
      exact Or.inl ⟨hpos, rfl, rfl, rfl⟩
  · rintro (⟨hpos, rfl, rfl, rfl⟩ | ⟨inside, rfl, rfl, hpos, hinside, hafter⟩)
    · exact ⟨rfl, hpos, nofun, ht⟩
    · refine ⟨(List.append_assoc _ _ _).symm, hpos, ?_, hafter⟩
      intro hlast
      cases inside with
      | nil =>
        obtain ⟨m, rfl⟩ := Nat.exists_eq_add_one.2 hpos
        exact ht rfl
      | cons c inside =>
        rw [List.getLast?_append] at hlast
        simp_all

/-- A code point that is no backtick is before every run that comes after it. -/
theorem isRun_cons_iff {c : CodePoint} (hc : c ≠ tick) : IsRun (c :: t) before n after ↔
    ∃ inside, before = c :: inside ∧ IsRun t inside n after := by
  constructor
  · rintro ⟨heq, hpos, hbefore, hafter⟩
    cases before with
    | nil =>
      obtain ⟨m, rfl⟩ := Nat.exists_eq_add_one.2 hpos
      exact absurd (List.cons.inj heq).1 hc
    | cons d inside =>
      obtain ⟨rfl, rfl⟩ := List.cons.inj heq
      refine ⟨inside, rfl, rfl, hpos, ?_, hafter⟩
      intro hlast
      rw [List.getLast?_cons, hlast] at hbefore
      exact hbefore rfl
  · rintro ⟨inside, rfl, rfl, hpos, hinside, hafter⟩
    refine ⟨rfl, hpos, ?_, hafter⟩
    rw [List.getLast?_cons]
    cases hlast : inside.getLast? with
    | none => simpa using hc
    | some d => simpa [hlast] using hinside

/-- A run of a length that has no other of that length before it. -/
structure IsFirstRun (t before : Text) (n : Nat) (after : Text) : Prop where
  isRun : IsRun t before n after
  first : ∀ inside later, IsRun t inside n later → before.length ≤ inside.length

theorem not_isRun_nil : ¬ IsRun [] before n after := by
  rintro ⟨heq, hpos, -⟩
  obtain ⟨m, rfl⟩ := Nat.exists_eq_add_one.2 hpos
  simp [ticks] at heq

/-- The backticks at the start are the first run of their length. -/
theorem isFirstRun_ticks_append_iff (hn : 0 < n) (ht : t.head? ≠ some tick) :
    IsFirstRun (ticks n ++ t) before n after ↔ before = [] ∧ after = t := by
  have hrun : IsRun (ticks n ++ t) [] n t := ⟨rfl, hn, nofun, ht⟩
  constructor
  · rintro ⟨hfound, hfirst⟩
    have hnil : before = [] := List.length_eq_zero_iff.1 (Nat.le_zero.1 (hfirst [] t hrun))
    subst hnil
    exact ⟨rfl, (ticks_append_inj hfound.after ht hfound.eq.symm).2⟩
  · rintro ⟨rfl, rfl⟩
    exact ⟨hrun, fun _ _ _ => Nat.zero_le _⟩

/-- The first run of a length is not at the start if another number of backticks is there. -/
theorem isFirstRun_ticks_cons_iff {c : CodePoint} (hc : c ≠ tick) (hk : k ≠ n) :
    IsFirstRun (ticks k ++ c :: t) before n after ↔
      ∃ inside, before = ticks k ++ c :: inside ∧ IsFirstRun t inside n after := by
  have hhead : (c :: t).head? ≠ some tick := by simpa using hc
  have hruns : ∀ before after, IsRun (ticks k ++ c :: t) before n after ↔
      ∃ inside, before = ticks k ++ c :: inside ∧ IsRun t inside n after := by
    intro before after
    rw [isRun_ticks_append_iff hhead]
    constructor
    · rintro (⟨-, -, rfl, -⟩ | ⟨middle, rfl, hmiddle⟩)
      · exact absurd rfl hk
      · obtain ⟨inside, rfl, hinside⟩ := (isRun_cons_iff hc).1 hmiddle
        exact ⟨inside, rfl, hinside⟩
    · rintro ⟨inside, rfl, hinside⟩
      exact Or.inr ⟨c :: inside, rfl, (isRun_cons_iff hc).2 ⟨inside, rfl, hinside⟩⟩
  constructor
  · rintro ⟨hfound, hfirst⟩
    obtain ⟨inside, rfl, hinside⟩ := (hruns _ _).1 hfound
    refine ⟨inside, rfl, hinside, fun other later hother => ?_⟩
    have hle := hfirst _ later ((hruns _ _).2 ⟨other, rfl, hother⟩)
    simpa using hle
  · rintro ⟨inside, rfl, hinside, hfirst⟩
    refine ⟨(hruns _ _).2 ⟨inside, rfl, hinside⟩, fun other later hother => ?_⟩
    obtain ⟨rest, rfl, hrest⟩ := (hruns _ _).1 hother
    simpa using hfirst rest later hrest

/-! ### Reading -/

/-- The code up to the first run of exactly `n` backticks and what follows that run, given that `k`
backticks were read just before. -/
def upToRun? (n : Nat) : Nat → Text → Option (Text × Text)
  | k, [] => if k = n then some ([], []) else none
  | k, c :: rest =>
    if c = tick then upToRun? n (k + 1) rest
    else if k = n then some ([], c :: rest)
    else (upToRun? n 0 rest).map fun (code, after) => (ticks k ++ c :: code, after)

/-- The code has a space at both ends, and not only spaces. -/
def SetOff (code : Text) : Prop :=
  code.head? = some space ∧ code.getLast? = some space ∧ ∃ c ∈ code, c ≠ space

instance (code : Text) : Decidable (SetOff code) :=
  have := List.decidableBEx (fun c : CodePoint => c ≠ space) code
  inferInstanceAs (Decidable (_ ∧ _ ∧ _))

/-- The code without the spaces that set it off. -/
def stripped (code : Text) : Text := if SetOff code then code.tail.dropLast else code

/-- The content of the code span at the start of a text, and what follows the span. -/
def readSpan? (t : Text) : Option (Text × Text) :=
  let opening := t.takeWhile (· = tick)
  if opening.isEmpty then none
  else
    (upToRun? opening.length 0 (t.dropWhile (· = tick))).map fun (code, after) =>
      (stripped code, after)

/-- **The reader goes up to the first run of a length.** -/
theorem upToRun?_eq_some_iff (hn : 0 < n) :
    upToRun? n k t = some (before, after) ↔ IsFirstRun (ticks k ++ t) before n after := by
  induction t generalizing k before after with
  | nil =>
    have hhead : ([] : Text).head? ≠ some tick := nofun
    rw [upToRun?]
    by_cases hk : k = n
    · subst hk
      rw [if_pos rfl, isFirstRun_ticks_append_iff hn hhead]
      simp [eq_comm]
    · rw [if_neg hk]
      refine iff_of_false nofun fun ⟨hrun, _⟩ => ?_
      rcases (isRun_ticks_append_iff hhead).1 hrun with ⟨-, -, rfl, -⟩ | ⟨inside, -, hinside⟩
      · exact hk rfl
      · exact not_isRun_nil hinside
  | cons c t ih =>
    by_cases hc : c = tick
    · -- one more backtick was read
      have hmore : ticks k ++ c :: t = ticks (k + 1) ++ t := by
        simp [hc, ticks, List.replicate_succ']
      rw [upToRun?, if_pos hc, ih, hmore]
    · have hhead : (c :: t).head? ≠ some tick := by simpa using hc
      by_cases hk : k = n
      · subst hk
        simp [upToRun?, hc, isFirstRun_ticks_append_iff hn hhead, eq_comm]
      · rw [upToRun?, if_neg hc, if_neg hk, isFirstRun_ticks_cons_iff hc hk]
        simp only [Option.map_eq_some_iff, Prod.exists, Prod.mk.injEq, ih]
        constructor
        · rintro ⟨code, _, hcode, rfl, rfl⟩
          exact ⟨code, rfl, hcode⟩
        · rintro ⟨code, rfl, hcode⟩
          exact ⟨code, after, hcode, rfl, rfl⟩

/-! ### What the reader loses -/

theorem setOff_iff {code : Text} :
    SetOff code ↔ ∃ inner, code = space :: inner ++ [space] ∧ ∃ c ∈ inner, c ≠ space := by
  constructor
  · rintro ⟨hhead, hlast, c, hc, hne⟩
    obtain ⟨rest, rfl⟩ := List.head?_eq_some_iff.1 hhead
    have hrest : c ∈ rest := (List.mem_cons.1 hc).resolve_left hne
    -- the space at the end is not the one at the start, as `c` stands in between
    rw [List.getLast?_cons_of_ne_nil (List.ne_nil_of_mem hrest)] at hlast
    obtain ⟨inner, rfl⟩ := List.getLast?_eq_some_iff.1 hlast
    refine ⟨inner, rfl, c, ?_, hne⟩
    simpa [hne] using hrest
  · rintro ⟨inner, rfl, c, hc, hne⟩
    exact ⟨rfl, List.getLast?_concat, c, by simp [hc], hne⟩

theorem stripped_setOff {inner : Text} (h : ∃ c ∈ inner, c ≠ space) :
    stripped (space :: inner ++ [space]) = inner := by
  rw [stripped, if_pos (setOff_iff.2 ⟨inner, rfl, h⟩)]
  simp

theorem stripped_eq_self_iff {code : Text} : stripped code = code ↔ ¬ SetOff code := by
  by_cases h : SetOff code
  · obtain ⟨inner, rfl, hinner⟩ := setOff_iff.1 h
    rw [stripped_setOff hinner]
    refine iff_of_false (fun heq => ?_) (not_not_intro h)
    have hlength := congrArg List.length heq
    simp at hlength
    omega
  · rw [stripped, if_neg h]
    exact iff_of_true rfl h

theorem stripped_ne_nil {code : Text} (h : code ≠ []) : stripped code ≠ [] := by
  by_cases hoff : SetOff code
  · obtain ⟨inner, rfl, c, hc, hne⟩ := setOff_iff.1 hoff
    rw [stripped_setOff ⟨c, hc, hne⟩]
    exact List.ne_nil_of_mem hc
  · rwa [stripped_eq_self_iff.2 hoff]

/-- The backticks at the start of a text, if there are any. -/
theorem exists_ticks_append (t : Text) : ∃ n s, t = ticks n ++ s ∧ s.head? ≠ some tick := by
  induction t with
  | nil => exact ⟨0, [], rfl, nofun⟩
  | cons c t ih =>
    by_cases hc : c = tick
    · obtain ⟨n, s, rfl, hs⟩ := ih
      exact ⟨n + 1, s, by rw [hc]; rfl, hs⟩
    · exact ⟨0, c :: t, rfl, by simpa using hc⟩

/-- A span is read after the backticks that open it. -/
theorem readSpan?_ticks_append (ht : t.head? ≠ some tick) : readSpan? (ticks n ++ t) =
    if n = 0 then none
    else (upToRun? n 0 t).map fun (code, after) => (stripped code, after) := by
  obtain ⟨htake, hdrop⟩ := Reading.span_ticks ht n
  simp only [readSpan?, htake, hdrop]
  simp [ticks]

/-- No span is empty. -/
theorem content_ne_nil {content : Text} (h : readSpan? t = some (content, after)) :
    content ≠ [] := by
  obtain ⟨n, s, rfl, hs⟩ := exists_ticks_append t
  rw [readSpan?_ticks_append hs] at h
  split at h
  · cases h
  · next hn =>
    obtain ⟨⟨code, later⟩, hcode, heq⟩ := Option.map_eq_some_iff.1 h
    obtain ⟨rfl, rfl⟩ := Prod.mk.inj heq
    have hrun := ((upToRun?_eq_some_iff (Nat.pos_of_ne_zero hn)).1 hcode).isRun
    refine stripped_ne_nil fun hnil => hs ?_
    -- the run that closes an empty span would be a part of the one that opens it
    obtain ⟨m, rfl⟩ := Nat.exists_eq_add_one.2 hrun.pos
    rw [show s = code ++ (ticks (m + 1) ++ later) from hrun.eq, hnil]
    rfl

/-! ### Spans that are written -/

/-- A number of backticks can stand around a code: they are longer than every run in it, and there
is no backtick at its ends. -/
structure Encloses (n : Nat) (code : Text) : Prop where
  ne_nil : code ≠ []
  head : code.head? ≠ some tick
  last : code.getLast? ≠ some tick
  long : longestRun code < n

namespace Encloses

variable {code rest : Text}

theorem pos (h : Encloses n code) : 0 < n := Nat.zero_lt_of_lt h.long

theorem head_append (h : Encloses n code) (rest : Text) : (code ++ rest).head? ≠ some tick := by
  have hhead := h.head
  obtain ⟨c, code', rfl⟩ := List.exists_cons_of_ne_nil h.ne_nil
  exact hhead

/-- The run that closes the code is the first of its length after it. -/
theorem isFirstRun (h : Encloses n code) (hrest : rest.head? ≠ some tick) :
    IsFirstRun (code ++ (ticks n ++ rest)) code n rest := by
  refine ⟨⟨rfl, h.pos, h.last, hrest⟩, fun inside later hrun => ?_⟩
  have hlast := h.last
  have hlong := h.long
  rcases List.append_eq_append_iff.1 hrun.eq with ⟨more, rfl, -⟩ | ⟨more, rfl, hmore⟩
  · simp
  · -- the run would begin inside of the code: it ends there, or goes on into the backticks
    rcases List.append_eq_append_iff.1 hmore.symm with ⟨others, hticks, -⟩ | ⟨others, rfl, -⟩
    · have hnil : more = [] := eq_nil_of_prefix_ticks ⟨others, hticks.symm⟩ fun hmem =>
        hlast (by rw [List.getLast?_append, hmem, Option.some_or])
      simp [hnil]
    · have hinfix : ticks n <:+: inside ++ (ticks n ++ others) := ⟨inside, others, by simp⟩
      have hle := le_longestRun hinfix
      omega

/-- The code is read as one span. -/
theorem readSpan?_eq (h : Encloses n code) (hrest : rest.head? ≠ some tick) :
    readSpan? (ticks n ++ (code ++ (ticks n ++ rest))) = some (stripped code, rest) := by
  have hread : upToRun? n 0 (code ++ (ticks n ++ rest)) = some (code, rest) :=
    (upToRun?_eq_some_iff h.pos).2 (h.isFirstRun hrest)
  rw [readSpan?_ticks_append (h.head_append _), if_neg (Nat.ne_of_gt h.pos), hread]
  rfl

/-- What is before the backticks that close the code does not end with one. -/
theorem getLast?_ticks_append (h : Encloses n code) : (ticks n ++ code).getLast? ≠ some tick := by
  have hlast := h.last
  rw [List.getLast?_append]
  cases hcode : code.getLast? with
  | none => exact absurd (List.getLast?_eq_none_iff.1 hcode) h.ne_nil
  | some c => rwa [hcode] at hlast

/-- The runs around the code are the only ones of their length. -/
theorem length_ne (h : Encloses n code) {m : Nat}
    (hrun : IsRun (ticks n ++ (code ++ ticks n)) before m after) (hbefore : before ≠ [])
    (hafter : after ≠ []) : m ≠ n := by
  rintro rfl
  rcases (isRun_ticks_append_iff (h.head_append _)).1 hrun with ⟨-, hnil, -⟩ | ⟨inside, rfl, hin⟩
  · exact hbefore hnil
  · -- what is before it is at least the code, which leaves nothing to be after it
    have hnone : ([] : Text).head? ≠ some tick := nofun
    have hfirst := h.isFirstRun hnone
    rw [List.append_nil] at hfirst
    have hle := hfirst.first inside after hin
    have hlength := congrArg List.length hin.eq
    simp only [List.length_append] at hlength
    have hpos := List.length_pos_iff.2 hafter
    omega

end Encloses

theorem longestRun_append_space (t : Text) : longestRun (t ++ [space]) = longestRun t := by
  have hspace : runs [space] = runs [] := by decide
  unfold longestRun runs at *
  rw [List.foldr_append, hspace]
  rfl

theorem longestRun_padded (t : Text) : longestRun (padded t) = longestRun t := by
  unfold padded
  split
  · have hne : space ≠ tick := by decide
    rw [longestRun_append_space, longestRun, runs_cons, if_neg hne]
    rfl
  · rfl

theorem touchesTick_iff : touchesTick t = true ↔
    t.head? = some tick ∨ t.getLast? = some tick := by
  simp [touchesTick]

/-- **The backticks of a span can stand around its code**, if there is any. -/
theorem encloses_padded (h : t ≠ []) : Encloses (longestRun t + 1) (padded t) := by
  have hlong : longestRun (padded t) < longestRun t + 1 := by
    rw [longestRun_padded]
    exact Nat.lt_succ_self _
  unfold padded at hlong ⊢
  split at hlong
  · next htouches =>
    rw [if_pos htouches]
    have hne : space ≠ tick := by decide
    refine ⟨by simp, by simpa using hne, ?_, hlong⟩
    rw [List.getLast?_concat]
    simpa using hne
  · next htouches =>
    rw [if_neg htouches]
    have hends := not_or.1 fun hends => htouches (touchesTick_iff.2 hends)
    exact ⟨h, hends.1, hends.2, hlong⟩

/-- The span of a script that is not empty. -/
theorem exists_codeSpan_eq {script : Text} (h : oneLine script ≠ []) : ∃ n,
    codeSpan script = ticks n ++ (padded (oneLine script) ++ ticks n) ∧
      Encloses n (padded (oneLine script)) :=
  ⟨longestRun (oneLine script) + 1, List.append_assoc _ _ _, encloses_padded h⟩

theorem codeSpan_of_nil {script : Text} (h : oneLine script = []) : codeSpan script = ticks 2 := by
  rw [codeSpan, h]
  rfl

/-- **The span of a script ends where it should.**  It is on one line.  Unless the script is empty,
it opens and ends with runs of backticks of one length, no run in between has that length, and in
between is the script on one line, with a space at either end or none: so the reader finds one
span, and nothing after it. -/
theorem codeSpan_closes (script : Text) :
    (∀ c ∈ codeSpan script, c.isLineBoundary = false) ∧
    (oneLine script ≠ [] → ∃ n code,
      (code = oneLine script ∨ code = space :: oneLine script ++ [space]) ∧
      IsRun (codeSpan script) [] n (code ++ ticks n) ∧
      IsRun (codeSpan script) (ticks n ++ code) n [] ∧
      (∀ before m after, IsRun (codeSpan script) before m after → before ≠ [] → after ≠ [] →
        m ≠ n) ∧
      readSpan? (codeSpan script) = some (stripped code, [])) := by
  refine ⟨Reading.isLineBoundary_of_mem_codeSpan script, fun h => ?_⟩
  obtain ⟨n, hspan, hencloses⟩ := exists_codeSpan_eq h
  have hopens : IsRun (codeSpan script) [] n (padded (oneLine script) ++ ticks n) :=
    ⟨hspan, hencloses.pos, nofun, hencloses.head_append _⟩
  have hcloses : IsRun (codeSpan script) (ticks n ++ padded (oneLine script)) n [] := by
    refine ⟨?_, hencloses.pos, hencloses.getLast?_ticks_append, nofun⟩
    rw [hspan, List.append_nil, List.append_assoc]
  have hnone : ([] : Text).head? ≠ some tick := nofun
  have hread := hencloses.readSpan?_eq hnone
  rw [List.append_nil, ← hspan] at hread
  refine ⟨n, padded (oneLine script), ?_, hopens, hcloses, fun before m after hrun => ?_, hread⟩
  · unfold padded
    split
    · exact Or.inr rfl
    · exact Or.inl rfl
  · rw [hspan] at hrun
    exact hencloses.length_ne hrun

/-! ### Scripts that are shown as they are -/

theorem padded_of_touchesTick (h : touchesTick t = true) : padded t = space :: t ++ [space] :=
  if_pos h

theorem padded_of_not_touchesTick (h : ¬ touchesTick t = true) : padded t = t := if_neg h

theorem not_setOff_of_touchesTick (h : touchesTick t = true) : ¬ SetOff t := by
  have hne : space ≠ tick := by decide
  rintro ⟨hhead, hlast, -⟩
  rcases touchesTick_iff.1 h with htick | htick
  · exact hne (Option.some.inj (hhead.symm.trans htick))
  · exact hne (Option.some.inj (hlast.symm.trans htick))

/-- The reader takes off the spaces that were added, and else what it would take off the text. -/
theorem stripped_padded (t : Text) : stripped (padded t) = stripped t := by
  by_cases h : touchesTick t = true
  · have htick : tick ∈ t := by
      rcases touchesTick_iff.1 h with hhead | hlast
      · exact List.mem_of_mem_head? hhead
      · exact List.mem_of_getLast? hlast
    rw [padded_of_touchesTick h, stripped_setOff ⟨tick, htick, by decide⟩,
      stripped_eq_self_iff.2 (not_setOff_of_touchesTick h)]
  · rw [padded_of_not_touchesTick h]

/-- **What the reader sees of a script**, if there is any and no backtick comes after its span. -/
theorem readSpan?_codeSpan {script rest : Text} (h : oneLine script ≠ [])
    (hrest : rest.head? ≠ some tick) :
    readSpan? (codeSpan script ++ rest) = some (stripped (oneLine script), rest) := by
  obtain ⟨n, hspan, hencloses⟩ := exists_codeSpan_eq h
  rw [hspan, List.append_assoc, List.append_assoc, hencloses.readSpan?_eq hrest, stripped_padded]

/-- A script is read as it is unless it is empty or has spaces at both ends. -/
theorem exists_readSpan?_iff {script rest : Text} (hrest : rest.head? ≠ some tick) :
    (∃ after, readSpan? (codeSpan script ++ rest) = some (oneLine script, after)) ↔
      oneLine script ≠ [] ∧ ¬ SetOff (oneLine script) := by
  constructor
  · rintro ⟨after, hread⟩
    have hne : oneLine script ≠ [] := content_ne_nil hread
    rw [readSpan?_codeSpan hne hrest] at hread
    exact ⟨hne, stripped_eq_self_iff.1 (congrArg Prod.fst (Option.some.inj hread))⟩
  · rintro ⟨hne, hoff⟩
    exact ⟨rest, by rw [readSpan?_codeSpan hne hrest, stripped_eq_self_iff.2 hoff]⟩

/-- Two texts are alike once the spaces are added only if they are what the other one becomes. -/
theorem padded_eq_iff {s : Text} : padded s = padded t ↔ s = t ∨
    (touchesTick s = true ∧ t = space :: s ++ [space]) ∨
      (touchesTick t = true ∧ s = space :: t ++ [space]) := by
  -- what was set off does not touch a backtick any more
  have hout : ∀ u, ¬ touchesTick (space :: u ++ [space]) = true := by
    intro u htouches
    have hne : space ≠ tick := by decide
    rcases touchesTick_iff.1 htouches with hhead | hlast
    · exact hne (Option.some.inj hhead)
    · rw [List.getLast?_concat] at hlast
      exact hne (Option.some.inj hlast)
  constructor
  · intro h
    by_cases hs : touchesTick s = true <;> by_cases ht : touchesTick t = true
    · rw [padded_of_touchesTick hs, padded_of_touchesTick ht] at h
      exact Or.inl (List.append_cancel_right (List.cons.inj h).2)
    · rw [padded_of_touchesTick hs, padded_of_not_touchesTick ht] at h
      exact Or.inr (Or.inl ⟨hs, h.symm⟩)
    · rw [padded_of_not_touchesTick hs, padded_of_touchesTick ht] at h
      exact Or.inr (Or.inr ⟨ht, h⟩)
    · rw [padded_of_not_touchesTick hs, padded_of_not_touchesTick ht] at h
      exact Or.inl h
  · rintro (rfl | ⟨hs, rfl⟩ | ⟨ht, rfl⟩)
    · rfl
    · rw [padded_of_touchesTick hs, padded_of_not_touchesTick (hout s)]
    · rw [padded_of_touchesTick ht, padded_of_not_touchesTick (hout t)]

/-- A span tells what is in it. -/
theorem codeSpan_eq_iff {a b : Text} :
    codeSpan a = codeSpan b ↔ padded (oneLine a) = padded (oneLine b) := by
  have hpadded : ∀ t : Text, padded t = [] ↔ t = [] := by
    intro t
    unfold padded
    split
    · next h => exact iff_of_false nofun fun hnil => by simp [hnil, touchesTick] at h
    · rfl
  have hnone : ([] : Text).head? ≠ some tick := nofun
  by_cases ha : oneLine a = [] <;> by_cases hb : oneLine b = []
  · rw [codeSpan_of_nil ha, codeSpan_of_nil hb, ha, hb]
    simp
  · obtain ⟨n, hspan, hencloses⟩ := exists_codeSpan_eq hb
    rw [codeSpan_of_nil ha, hspan, ha, ← List.append_nil (ticks 2)]
    refine iff_of_false (fun h => ?_) fun h => hb ((hpadded _).1 h.symm)
    have hnil := (ticks_append_inj hnone (hencloses.head_append _) h).2
    exact hencloses.ne_nil (List.append_eq_nil_iff.1 hnil.symm).1
  · obtain ⟨n, hspan, hencloses⟩ := exists_codeSpan_eq ha
    rw [codeSpan_of_nil hb, hspan, hb, ← List.append_nil (ticks 2)]
    refine iff_of_false (fun h => ?_) fun h => ha ((hpadded _).1 h)
    have hnil := (ticks_append_inj (hencloses.head_append _) hnone h).2
    exact hencloses.ne_nil (List.append_eq_nil_iff.1 hnil).1
  · obtain ⟨n, hspanA, hA⟩ := exists_codeSpan_eq ha
    obtain ⟨m, hspanB, hB⟩ := exists_codeSpan_eq hb
    constructor
    · intro h
      rw [hspanA, hspanB] at h
      obtain ⟨rfl, heq⟩ := ticks_append_inj (hA.head_append _) (hB.head_append _) h
      exact List.append_cancel_right heq
    · intro h
      have hlongest : longestRun (oneLine a) = longestRun (oneLine b) := by
        rw [← longestRun_padded (oneLine a), h, longestRun_padded]
      unfold codeSpan
      simp only [h, hlongest]

/-- A line after the first one stands between two line ends. -/
theorem exists_asLines_eq {ls : List Text} {l : Text} (h : l ∈ ls) (first : Text) :
    ∃ before after, asLines (first :: ls) = before ++ lineEnd :: (l ++ lineEnd :: after) := by
  have hcons : ∀ l l' : Text, ∀ ls, asLines (l :: l' :: ls) = l ++ lineEnd :: asLines (l' :: ls) := by
    intro l l' ls
    simp [asLines, Text.join, List.intercalate_cons_cons]
  induction ls generalizing first with
  | nil => cases h
  | cons l' ls ih =>
    rw [hcons]
    rcases List.mem_cons.1 h with rfl | h
    · cases ls with
      | nil => exact ⟨first, [], by simp [asLines, Text.join]⟩
      | cons l' ls => exact ⟨first, asLines (l' :: ls), by rw [hcons]⟩
    · obtain ⟨before, after, heq⟩ := ih h l'
      exact ⟨first ++ lineEnd :: before, after, by rw [heq]; simp⟩

end Markdown

/-- The scripts of a digest, each with the words before its span in the section: those of the pairs,
then the others. -/
def Digest.titledScripts (d : Digest) : List (Text × Text) :=
  d.pairs.map (fun p => (Text.ofString "**Script:** ", p.script)) ++
    d.scripts.map fun script => (Text.ofString "- ", script)

namespace Markdown

theorem mem_sectionLines (language : Text) {words script : Text} {d : Digest}
    (h : (words, script) ∈ d.titledScripts) :
    words ++ codeSpan script ∈ (sectionLines language d).tail := by
  simp only [Digest.titledScripts, List.mem_append, List.mem_map, Prod.mk.injEq] at h
  simp only [sectionLines, List.cons_append, List.tail_cons, List.mem_cons, List.mem_append,
    List.mem_flatMap]
  rcases h with ⟨p, hp, rfl, rfl⟩ | ⟨script, hscript, rfl, rfl⟩
  · refine Or.inr (Or.inl (Or.inl (Or.inr ⟨p, hp, ?_⟩)))
    simp [pairLines, Text.concat]
  · refine Or.inr (Or.inl (Or.inr ?_))
    have hsome : ¬ d.scripts.isEmpty = true := by
      rw [List.isEmpty_iff]
      exact List.ne_nil_of_mem hscript
    rw [scriptsLines, if_neg hsome]
    have hline : scriptLine script = Text.ofString "- " ++ codeSpan script := by
      simp [scriptLine, Text.concat]
    rw [← hline]
    simp only [List.mem_append, List.mem_map]
    exact Or.inl (Or.inr ⟨script, hscript, rfl⟩)

/-- **Which scripts are shown as they are.**  The span of every script of a digest stands at the end
of a line of the section, and there the reader finds the script on one line exactly if that is not
empty, and has no space at one of its ends or is all spaces.  Two scripts that differ have the same
span exactly if one touches a backtick and the other is that one between two spaces. -/
theorem scripts_shown_iff (language : Text) (d : Digest) :
    (∀ words script, (words, script) ∈ d.titledScripts → ∃ before after,
      digestSection language d =
        before ++ lineEnd :: (words ++ (codeSpan script ++ lineEnd :: after)) ∧
      ((∃ rest, readSpan? (codeSpan script ++ lineEnd :: after) = some (oneLine script, rest)) ↔
        oneLine script ≠ [] ∧ ¬ SetOff (oneLine script))) ∧
    (∀ a b, codeSpan a = codeSpan b ↔ oneLine a = oneLine b ∨
      (touchesTick (oneLine a) = true ∧ oneLine b = space :: oneLine a ++ [space]) ∨
      (touchesTick (oneLine b) = true ∧ oneLine a = space :: oneLine b ++ [space])) := by
  refine ⟨fun words script h => ?_, fun a b => codeSpan_eq_iff.trans padded_eq_iff⟩
  obtain ⟨before, after, hsection⟩ := exists_asLines_eq (mem_sectionLines language h)
    (Text.concat ["## ", d.filePath, ":"])
  have hrest : (lineEnd :: after).head? ≠ some tick := by
    have hne : lineEnd ≠ tick := by decide
    simpa using hne
  refine ⟨before, after, ?_, exists_readSpan?_iff hrest⟩
  rw [← List.append_assoc words]
  exact hsection

/-- Two scripts that differ are shown alike, and one of them is read as the other.  No script can be
read from the span of the empty one. -/
theorem scripts_shown_alike :
    digestSection "typescript"
      { filePath := "dev/a.js", language := "javascript", scripts := ["`a", " `a "] } =
        Text.ofString "## dev/a.js:\n### Info:\n### Single Scripts:\n- `` `a ``\n- `` `a ``\n\n" ∧
    oneLine "`a" ≠ oneLine " `a " ∧
    readSpan? (codeSpan " `a ") = some (oneLine "`a", []) ∧
    readSpan? (codeSpan []) = none :=
  ⟨by decide +kernel, by decide, by decide, by decide⟩

end Markdown

end PullNotes
