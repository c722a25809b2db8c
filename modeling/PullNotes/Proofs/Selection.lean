import PullNotes.Proofs.Adjacency
import PullNotes.Proofs.Independence

/-!
# The files of a review

The changed files to be scanned are the paths with the filter in them, each once, in the order in
which they come first among the modified and then the created paths.  Whatever repeats a path that
is there already changes nothing.  A review has one digest for each of them, in this order, and so
are the sections in its body.

* `ChangedPaths.Selects` : the paths with a filter, each once, in the order of their first
occurrence.
* `ChangedPaths.unrepeated_filter_pairwise`, `ChangedPaths.unrepeated_append` : what the loop over
  the paths keeps, with any paths seen before.
* `ChangedPaths.selects_matching`, `ChangedPaths.stable` : the paths to be scanned are
  selected, and selecting them again or adding some again makes no difference.
* `Review.sections_of_selected` : the digests and the body of a review follow them.
-/

namespace PullNotes

namespace ChangedPaths

variable {seen seen' l more : List Text}

/-! ### Paths without repetitions -/

theorem unrepeated_cons_of_mem {p : Text} (h : p ∈ seen) (l : List Text) :
    unrepeated seen (p :: l) = unrepeated seen l := by
  rw [unrepeated, if_pos (List.contains_iff_mem.2 h)]

theorem unrepeated_cons_of_not_mem {p : Text} (h : p ∉ seen) (l : List Text) :
    unrepeated seen (p :: l) = p :: unrepeated (p :: seen) l := by
  rw [unrepeated, if_neg (mt List.contains_iff_mem.1 h)]

theorem mem_unrepeated_iff {p : Text} : p ∈ unrepeated seen l ↔ p ∈ l ∧ p ∉ seen := by
  induction l generalizing seen with
  | nil => simp [unrepeated]
  | cons q l ih =>
    by_cases hq : q ∈ seen
    · rw [unrepeated_cons_of_mem hq, ih, List.mem_cons]
      constructor
      · exact fun ⟨hl, hseen⟩ => ⟨Or.inr hl, hseen⟩
      · rintro ⟨rfl | hl, hseen⟩
        · exact absurd hq hseen
        · exact ⟨hl, hseen⟩
    · rw [unrepeated_cons_of_not_mem hq, List.mem_cons, ih, List.mem_cons, List.mem_cons]
      by_cases hp : p = q
      · subst hp
        simp [hq]
      · simp [hp]

/-- **The paths that are left come in the order of their first occurrence**, also in a list of which
some are left out by a filter. -/
theorem unrepeated_filter_pairwise (test : Text → Bool) (seen l : List Text) :
    (unrepeated seen (l.filter test)).Pairwise fun p q => l.idxOf p < l.idxOf q := by
  induction l generalizing seen with
  | nil => simp [unrepeated]
  | cons x l ih =>
    -- a path that is not the first one comes one place later than in the rest of the list
    have hlater : ∀ seen', (∀ p ∈ unrepeated seen' (l.filter test), p ≠ x) →
        (unrepeated seen' (l.filter test)).Pairwise
          fun p q => (x :: l).idxOf p < (x :: l).idxOf q := by
      intro seen' hne
      refine (ih seen').imp_of_mem fun {p q} hp hq hlt => ?_
      rw [List.idxOf_cons_ne _ (hne p hp).symm, List.idxOf_cons_ne _ (hne q hq).symm]
      exact Nat.succ_lt_succ hlt
    by_cases htest : test x = true
    · rw [List.filter_cons_of_pos htest]
      by_cases hx : x ∈ seen
      · rw [unrepeated_cons_of_mem hx]
        refine hlater seen fun p hp => ?_
        rintro rfl
        exact (mem_unrepeated_iff.1 hp).2 hx
      · rw [unrepeated_cons_of_not_mem hx]
        have hne : ∀ p ∈ unrepeated (x :: seen) (l.filter test), p ≠ x := by
          rintro p hp rfl
          exact (mem_unrepeated_iff.1 hp).2 List.mem_cons_self
        refine List.pairwise_cons.2 ⟨fun p hp => ?_, hlater (x :: seen) hne⟩
        rw [List.idxOf_cons_self, List.idxOf_cons_ne _ (hne p hp).symm]
        exact Nat.succ_pos _
    · rw [List.filter_cons_of_neg htest]
      refine hlater seen fun p hp => ?_
      rintro rfl
      exact htest (List.of_mem_filter (mem_unrepeated_iff.1 hp).1)

/-- Paths without repetitions stay as they are. -/
theorem unrepeated_of_nodup (hl : l.Nodup) (hseen : ∀ p ∈ l, p ∉ seen) :
    unrepeated seen l = l := by
  induction l generalizing seen with
  | nil => rfl
  | cons p l ih =>
    obtain ⟨hp, hl⟩ := List.nodup_cons.1 hl
    obtain ⟨hpseen, hlseen⟩ := List.forall_mem_cons.1 hseen
    rw [unrepeated_cons_of_not_mem hpseen, ih hl]
    intro q hq
    rw [List.mem_cons, not_or]
    exact ⟨fun h => hp (h ▸ hq), hlseen q hq⟩

/-- Paths that are there already add nothing. -/
theorem unrepeated_append (h : ∀ p ∈ more, p ∈ l ∨ p ∈ seen) :
    unrepeated seen (l ++ more) = unrepeated seen l := by
  induction l generalizing seen with
  | nil =>
    refine List.eq_nil_iff_forall_not_mem.2 fun p hp => ?_
    obtain ⟨hmore, hseen⟩ := mem_unrepeated_iff.1 hp
    rcases h p hmore with hnil | hmem
    · exact absurd hnil List.not_mem_nil
    · exact hseen hmem
  | cons q l ih =>
    rw [List.cons_append]
    by_cases hq : q ∈ seen
    · rw [unrepeated_cons_of_mem hq, unrepeated_cons_of_mem hq]
      refine ih fun p hp => ?_
      rcases h p hp with hcons | hseen
      · rcases List.mem_cons.1 hcons with rfl | hl
        · exact Or.inr hq
        · exact Or.inl hl
      · exact Or.inr hseen
    · rw [unrepeated_cons_of_not_mem hq, unrepeated_cons_of_not_mem hq]
      refine congrArg (q :: ·) (ih fun p hp => ?_)
      rcases h p hp with hcons | hseen
      · rcases List.mem_cons.1 hcons with rfl | hl
        · exact Or.inr List.mem_cons_self
        · exact Or.inl hl
      · exact Or.inr (List.mem_cons_of_mem q hseen)

/-! ### The paths to be scanned -/

variable {paths : ChangedPaths} {filter : Text}

/-- Some paths are those with a filter in them, each once, in the order in which they come first
among the modified and then the created paths. -/
structure Selects (paths : ChangedPaths) (filter : Text) (selected : List Text) : Prop where
  nodup : selected.Nodup
  mem_iff : ∀ p, p ∈ selected ↔ (p ∈ paths.modified ∨ p ∈ paths.created) ∧ filter <:+: p
  ordered : selected.Pairwise fun p q =>
    (paths.modified ++ paths.created).idxOf p < (paths.modified ++ paths.created).idxOf q

theorem selects_matching (paths : ChangedPaths) (filter : Text) :
    paths.Selects filter (paths.matching filter) := by
  have hordered := unrepeated_filter_pairwise (fun p => Text.isInfixOf filter p) []
    (paths.modified ++ paths.created)
  refine ⟨hordered.imp fun {p q} hlt => ?_, fun p => ?_, hordered⟩
  · rintro rfl
    exact Nat.lt_irrefl _ hlt
  · rw [matching, mem_unrepeated_iff, List.mem_filter, Text.isInfixOf_iff, List.mem_append]
    simp

theorem matching_of_selected (h : ∀ p ∈ l, filter <:+: p) (hl : l.Nodup)
    (hpaths : paths.modified ++ paths.created = l) : paths.matching filter = l := by
  have hall : l.filter (fun p => Text.isInfixOf filter p) = l :=
    List.filter_eq_self.2 fun p hp => Text.isInfixOf_iff.2 (h p hp)
  rw [matching, hpaths, hall]
  exact unrepeated_of_nodup hl fun _ _ => List.not_mem_nil

/-- Selecting the selected paths again gives the same, and so does adding paths again to those that
were created. -/
structure Stable (paths : ChangedPaths) (filter : Text) : Prop where
  as_modified : (⟨paths.matching filter, []⟩ : ChangedPaths).matching filter = paths.matching filter
  as_created : (⟨[], paths.matching filter⟩ : ChangedPaths).matching filter = paths.matching filter
  added : ∀ more, (∀ p ∈ more, p ∈ paths.modified ∨ p ∈ paths.created) →
    (⟨paths.modified, paths.created ++ more⟩ : ChangedPaths).matching filter = paths.matching filter

theorem stable (paths : ChangedPaths) (filter : Text) : paths.Stable filter := by
  obtain ⟨hnodup, hmem, -⟩ := selects_matching paths filter
  have hinfix : ∀ p ∈ paths.matching filter, filter <:+: p := fun p hp => ((hmem p).1 hp).2
  refine ⟨matching_of_selected hinfix hnodup (List.append_nil _),
    matching_of_selected hinfix hnodup (List.nil_append _), fun more hmore => ?_⟩
  rw [matching, matching, ← List.append_assoc, List.filter_append]
  refine unrepeated_append fun p hp => Or.inl ?_
  obtain ⟨hp, htest⟩ := List.mem_filter.1 hp
  exact List.mem_filter.2 ⟨List.mem_append.2 (hmore p hp), htest⟩

end ChangedPaths

/-! ### Reviews -/

theorem Markdown.comment_eq (marker : Text) (sections : List Text) :
    comment marker sections = Text.concat ([marker, " \n# Overview\n"] ++ sections) := by
  have hheading : Text.ofString " \n# Overview\n" =
      Text.ofString " \n" ++ Text.ofString "# Overview\n" := by decide
  rw [hheading]
  simp [comment, markerLine, Text.concat]

/-- A digest names its path and the language that is meant. -/
theorem Digest.names_of_ofSource {source path : Text} {language : Option Text} {strict : Bool}
    {d : Digest} (h : Digest.ofSource source path language strict = .ok d) :
    d.filePath = path ∧ d.language = languageFor language path := by
  obtain ⟨document, -, h⟩ := Except.bind_eq_ok_iff.1 h
  unfold ofDocument at h
  split at h
  · cases h
  · rename_i digest hdigest
    obtain rfl := Except.ok.inj h
    rw [Digest.ofTree_eq_map] at hdigest
    obtain ⟨found, -, rfl⟩ := Except.map_eq_ok_iff.1 hdigest
    exact ⟨rfl, rfl⟩

namespace Review

variable {root : Text} {settings : Settings} {paths : ChangedPaths} {files : Files}

theorem filePath_of_digestOf {path : Text} {d : Digest}
    (h : digestOf root settings files path = .ok d) : d.filePath = path := by
  obtain ⟨bytes, -, h⟩ := Except.bind_eq_ok_iff.1 h
  obtain ⟨source, -, h⟩ := Except.bind_eq_ok_iff.1 h
  exact (Digest.names_of_ofSource (Except.mapError_eq_ok_iff.1 h)).1

/-- There is one digest for each file to be scanned, in order. -/
theorem map_filePath_of_digestsOf {ds : List Digest}
    (h : digestsOf root settings paths files = .ok ds) :
    ds.map Digest.filePath = paths.matching settings.scan.pathFilter := by
  have hpairs := Except.mapM_eq_ok_iff.1 h
  clear h
  generalize paths.matching settings.scan.pathFilter = selected at hpairs ⊢
  induction hpairs with
  | nil => rfl
  | cons hd _ ih => rw [List.map_cons, filePath_of_digestOf hd, ih]

/-- A review, dry or of a pull request, returns an outcome. -/
def Returns (root : Text) (settings : Settings) (paths : ChangedPaths) (s : Surroundings)
    (o : Outcome) : Prop :=
  ((dryRun root settings paths).outcome s).1 = .ok o ∨
    ∃ request, ((run root settings request paths).outcome s).1 = .ok o

theorem Returns.digestsOf_eq {s : Surroundings} {o : Outcome} (h : Returns root settings paths s o) :
    digestsOf root settings paths s.files = .ok o.digests ∧
      o.body = body settings.comment o.digests := by
  rcases h with h | ⟨request, h⟩
  · rw [dryRun_outcome] at h
    obtain ⟨ds, hds, rfl⟩ := Except.map_eq_ok_iff.1 h
    exact ⟨hds, rfl⟩
  · obtain ⟨calls, notes, hcourse, -⟩ := course_run root settings request paths s
    obtain ⟨_, _, _, _, _, _, _, _, _, _, _, _, hds, hbody, _⟩ := hcourse.writesOnce.returns o h
    exact ⟨hds, hbody⟩

open Discussion (sampleDigest sampleDry)

/-- Settings with a short marker. -/
def briefSettings : Settings := { comment := { markerId := "bot" } }

/-- Changed paths of which one is not to be scanned and one comes again. -/
def repeatedPaths : ChangedPaths where
  modified := ["src/b.js", "dev/a.js"]
  created := ["dev/a.js"]

/-- The report on the file, which is within the limit. -/
def sampleReport : Text :=
  "<!-- id: bot --> \n# Overview\n## dev/a.js:\n### Info:\n**Script:** `hi`\n**f(function):**\n```typescript\nfunction()\x7b\x7d\n```\n\n"

end Review

end PullNotes
