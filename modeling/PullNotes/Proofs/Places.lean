import PullNotes.Proofs.Files

/-!
# Paths seen from the working directory

A path that leads somewhere leads there by its components alone: empty pieces and lone dots are
steps that stay where they are.  So it makes no difference whether the working directory is named in
front of a path or not: what is read of both is the same.

* `Path.plain_plain`, `Path.plain_append` : paths in plain form stay as they are.
* `Files.place_of_locate` : a path leads where its components lead.
* `Files.read_of_append` : a file of the working directory by its own path and below the directory's
  name.
-/

namespace PullNotes

namespace Path

/-! ### Paths in plain form -/

theorem isComponent_of_mem_append {directory path part : Text}
    (h : part ∈ components directory ++ components path) : IsComponent part := by
  rcases List.mem_append.1 h with h | h <;> exact isComponent_of_mem_components h

theorem components_ofComponents {directory : Text} {parts : List Text}
    (h : ∀ part ∈ parts, IsComponent part) : components (ofComponents (root directory) parts) = parts := by
  rw [ofComponents]
  by_cases hnone : (root directory).isEmpty && parts.isEmpty
  · rw [if_pos hnone]
    obtain ⟨-, hparts⟩ := Bool.and_eq_true_iff.1 hnone
    rw [List.isEmpty_iff.1 hparts]
    decide
  · rw [if_neg hnone, components_root_append]
    by_cases hparts : parts = []
    · rw [hparts]
      decide
    · exact components_join h hparts

theorem root_ofComponents {directory : Text} {parts : List Text}
    (h : ∀ part ∈ parts, IsComponent part) :
    root (ofComponents (root directory) parts) = root directory := by
  have hslashes : root directory = [] ∨ root directory = [slash, slash] ∨
      root directory = [slash] := by
    rw [root]
    split <;> simp
  by_cases hparts : parts = []
  · subst hparts
    rcases hslashes with hroot | hroot | hroot <;> rw [hroot] <;> decide
  · obtain ⟨c, t, hjoin, hc⟩ := exists_head_join h hparts
    have hrun : (c :: t).takeWhile (· = slash) = [] :=
      List.takeWhile_cons_of_neg (by simpa using hc)
    have hsome : ((root directory).isEmpty && parts.isEmpty) = false := by simp [hparts]
    rw [ofComponents, hsome, if_neg Bool.false_ne_true, hjoin]
    rcases hslashes with hroot | hroot | hroot
    · rw [hroot, List.nil_append, root, hrun]
      rfl
    · rw [hroot, root]
      simp [hrun]
    · rw [hroot, root]
      simp [hrun]

theorem plain_ofComponents {directory : Text} {parts : List Text}
    (h : ∀ part ∈ parts, IsComponent part) :
    plain (ofComponents (root directory) parts) = ofComponents (root directory) parts := by
  rw [plain, root_ofComponents h, components_ofComponents h]

theorem plain_plain (path : Text) : plain (plain path) = plain path :=
  plain_ofComponents fun _ => isComponent_of_mem_components

theorem components_plain (path : Text) : components (plain path) = components path :=
  components_ofComponents fun _ => isComponent_of_mem_components

/-- A path below a directory is in plain form. -/
theorem plain_append (directory path : Text) :
    plain (append directory path) = append directory path := by
  rw [append]
  split
  · exact plain_plain path
  · exact plain_ofComponents fun _ => isComponent_of_mem_append

theorem components_append_of_relative {path : Text} (h : isAbsolute path = false)
    (directory : Text) :
    components (append directory path) = components directory ++ components path := by
  rw [append, h, if_neg Bool.false_ne_true]
  exact components_ofComponents fun _ => isComponent_of_mem_append

/-- Pieces after a slash say the same on their own. -/
theorem components_append_below {below : Text} (directory : Text)
    (h : below = [] ∨ below.head? = some slash) :
    components (directory ++ below) = components directory ++ components below := by
  rcases h with rfl | h
  · rw [List.append_nil, show components [] = [] by decide, List.append_nil]
  · obtain ⟨rest, rfl⟩ : ∃ rest, below = slash :: rest := by
      cases below with
      | nil => cases h
      | cons c rest => exact ⟨rest, by rw [Option.some.inj h]⟩
    rw [components_slash, components, components, components, Text.splitOn_append_cons,
      List.filter_append]

theorem isAbsolute_plain {path : Text} (h : isAbsolute path = false) :
    isAbsolute (plain path) = false := by
  have hroot : root path = [] := by
    cases path with
    | nil => rfl
    | cons c rest =>
      have hc : c ≠ slash := fun hc => by simp [isAbsolute, hc] at h
      rw [root, List.takeWhile_cons_of_neg (by simpa using hc)]
      rfl
  rw [plain, hroot, ofComponents, List.isEmpty_nil, Bool.true_and]
  by_cases hparts : components path = []
  · rw [hparts]
    decide
  · obtain ⟨c, t, hjoin, hc⟩ := exists_head_join (fun _ => isComponent_of_mem_components) hparts
    rw [if_neg (by simpa using hparts), List.nil_append, hjoin]
    simpa [isAbsolute] using hc

theorem isAbsolute_append {directory : Text} (h : isAbsolute directory = true) (path : Text) :
    isAbsolute (append directory path) = true := by
  have hroot : ∀ t, isAbsolute t = true → ∀ parts, isAbsolute (ofComponents (root t) parts) = true := by
    intro t ht parts
    have hslashes : root t = [slash, slash] ∨ root t = [slash] := by
      cases t with
      | nil => cases ht
      | cons c rest =>
        obtain rfl : c = slash := by simpa [isAbsolute] using ht
        rw [root, List.takeWhile_cons_of_pos (by simp)]
        split <;> simp_all
    rcases hslashes with hroot | hroot <;> rw [hroot] <;> rfl
  rw [append]
  split
  · next habsolute => exact hroot path habsolute _
  · exact hroot directory h _

end Path

namespace Files

open PullNotes.Path (slash)

variable {fs : Files} {path : Text} {parts : List Text}

/-! ### Where paths lead -/

theorem filter_steps (path : Text) :
    (steps path).filter (fun step => step != Path.here) = Path.components path := by
  have hlast : (if (path.splitOn slash).getLast? = some [] then [Path.here] else []).filter
      (fun step => step != Path.here) = [] := by
    split
    · decide
    · rfl
  rw [steps, List.filter_append, hlast, List.append_nil, Path.components, List.filter_filter]
  exact List.filter_congr fun part _ => Bool.and_comm _ _

/-- Steps that stay where they are can be left out. -/
theorem follow_filter_here {place steps : List Text} (h : fs.follow place steps = .place parts) :
    fs.follow place (steps.filter fun step => step != Path.here) = .place parts := by
  induction steps generalizing place with
  | nil => exact h
  | cons step steps ih =>
    have hfolder := follow_cons h
    rw [follow, hfolder] at h
    dsimp only at h
    by_cases hhere : step = Path.here
    · rw [if_pos hhere] at h
      rw [List.filter_cons_of_neg (by simpa using hhere)]
      exact ih h
    · rw [if_neg hhere] at h
      rw [List.filter_cons_of_pos (by simpa using hhere), follow, hfolder]
      dsimp only
      rw [if_neg hhere]
      by_cases habove : step = Path.above
      · rw [if_pos habove] at h ⊢
        by_cases htop : place.isEmpty = true
        · rw [if_pos htop] at h ⊢
          -- above the working directory nothing but the end of the path leads on
          cases steps with
          | nil => exact h
          | cons next steps => cases h
        · rw [if_neg htop] at h ⊢
          exact ih h
      · rw [if_neg habove] at h ⊢
        split at h
        · cases h
        · next hlong =>
          rw [if_neg hlong]
          exact ih h

/-- The components of a path as seen from the working directory. -/
def componentsBelow (fs : Files) (path : Text) : List Text :=
  Path.components ((fs.belowRoot? path).getD path)

/-- **A path leads where its components lead**, unless it is that of the root. -/
theorem place_of_locate (h : fs.locate path = .place parts)
    (hpath : fs.belowRoot? path = none → Path.isAbsolute path = false) :
    fs.follow [] (fs.componentsBelow path) = .place parts := by
  rw [locate] at h
  rw [componentsBelow, ← filter_steps]
  cases hbelow : fs.belowRoot? path with
  | some below =>
    rw [hbelow] at h
    exact follow_filter_here h
  | none =>
    rw [hbelow] at h
    dsimp only at h
    by_cases hempty : path.isEmpty = true
    · rw [if_pos hempty] at h
      cases h
    · rw [if_neg hempty, hpath hbelow, if_neg Bool.false_ne_true] at h
      exact follow_filter_here h

theorem exists_place_of_read {bytes : Bytes} (h : fs.read path = .ok bytes) :
    ∃ parts, fs.locate path = .place parts ∧ fs.entry parts = .file bytes := by
  rw [read] at h
  split at h
  · cases h
  · split at h
    · cases h
    · cases h
    · cases h
    · next parts hparts =>
      split at h
      · next content hentry => exact ⟨parts, hparts, by rw [hentry, Except.ok.inj h]⟩
      · cases h
      · cases h

theorem belowRoot?_of_relative (hroot : Path.isAbsolute fs.root = true)
    (hpath : Path.isAbsolute path = false) : fs.belowRoot? path = none := by
  refine Option.eq_none_iff_forall_ne_some.2 fun below hbelow => ?_
  obtain ⟨rfl, -⟩ := belowRoot?_eq_some_iff.1 hbelow
  cases hname : fs.root with
  | nil => simp [Path.isAbsolute, hname] at hroot
  | cons c rest =>
    rw [hname] at hroot hpath
    exact absurd (hroot.symm.trans hpath) (by decide)

/-- **A file of the working directory is the same** by its own path and by its path below the name
of the directory. -/
theorem read_of_append {bytes bytes' : Bytes} (hroot : Path.isAbsolute fs.root = true)
    (hplain : fs.read (Path.plain path) = .ok bytes)
    (hbelow : fs.read (Path.plain (Path.append fs.root path)) = .ok bytes') : bytes' = bytes := by
  rw [Path.plain_append] at hbelow
  by_cases habs : Path.isAbsolute path = true
  · rw [Path.append, if_pos habs, hplain] at hbelow
    exact (Except.ok.inj hbelow).symm
  rw [Bool.not_eq_true] at habs
  obtain ⟨parts, hparts, hentry⟩ := exists_place_of_read hplain
  obtain ⟨parts', hparts', hentry'⟩ := exists_place_of_read hbelow
  have hrelative := Path.isAbsolute_plain habs
  have hgo := place_of_locate hparts fun _ => hrelative
  rw [componentsBelow, belowRoot?_of_relative hroot hrelative, Option.getD_none,
    Path.components_plain] at hgo
  have hcomponents := Path.components_append_of_relative habs fs.root
  have hsame : parts' = parts := by
    cases hname : fs.belowRoot? (Path.append fs.root path) with
    | some below =>
      have hsome : fs.belowRoot? (Path.append fs.root path) ≠ none :=
        hname ▸ Option.some_ne_none below
      have hgo' := place_of_locate hparts' fun hnone => absurd hnone hsome
      obtain ⟨happend, hstart⟩ := belowRoot?_eq_some_iff.1 hname
      rw [happend, Path.components_append_below fs.root hstart] at hcomponents
      rw [componentsBelow, hname, Option.getD_some, List.append_cancel_left hcomponents, hgo]
        at hgo'
      exact (Goal.place.inj hgo').symm
    | none =>
      -- such a path is absolute, so it leads nowhere or has no component at all
      have habsolute := Path.isAbsolute_append hroot path
      rw [locate, hname] at hparts'
      dsimp only at hparts'
      have hsome : (Path.append fs.root path).isEmpty = false := by
        cases h : Path.append fs.root path with
        | nil => rw [h] at habsolute; cases habsolute
        | cons c rest => rfl
      rw [hsome, if_neg Bool.false_ne_true, if_pos habsolute, hcomponents] at hparts'
      split at hparts'
      · next hnone =>
        obtain ⟨-, hnil⟩ := List.append_eq_nil_iff.1 (List.isEmpty_iff.1 hnone)
        rw [hnil, follow] at hgo
        exact (Goal.place.inj hparts').symm.trans (Goal.place.inj hgo)
      · cases hparts'
  rw [hsame, hentry] at hentry'
  exact (Entry.file.inj hentry').symm

end Files

end PullNotes
