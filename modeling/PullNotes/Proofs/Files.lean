import PullNotes.Files
import PullNotes.Proofs.Pieces

/-!
# Files that are written

A file is written in two steps: its folder is made, unless it is there, and then the content is put
where the path leads.  A step takes nothing away, so a path that led to a place still leads there,
and what was a folder stays one.  A path below another one leads to the place below the other's
place.

* `Path.append_append` : the path of a component below a component.
* `Files.Grows.locate_eq` : where paths lead when files are added.
* `Files.locate_below` : where a path below a folder leads.
* `Files.write_after_makeFolder` : a file can be written once its folder is made, unless there is a
  folder in its place.
* `Files.read_of_write` : what is read after it is written.
-/

namespace PullNotes

namespace Path

/-! ### Paths below a directory -/

/-- A component of a path that says something. -/
structure IsComponent (part : Text) : Prop where
  ne_nil : part ≠ []
  slash_not_mem : slash ∉ part
  ne_here : part ≠ here

theorem isComponent_of_mem_components {path part : Text} (h : part ∈ components path) :
    IsComponent part := by
  obtain ⟨hmem, hnamed⟩ := List.mem_filter.1 h
  simp only [Bool.and_eq_true, Bool.not_eq_true', List.isEmpty_eq_false_iff, bne_iff_ne] at hnamed
  exact ⟨hnamed.1, Text.not_mem_of_mem_splitOn slash hmem, hnamed.2⟩

variable {x y : Text}

theorem not_isAbsolute (hx : IsComponent x) : isAbsolute x = false := by
  cases x with
  | nil => exact absurd rfl hx.ne_nil
  | cons c x =>
    have hc : c ≠ slash := fun h => hx.slash_not_mem (h ▸ List.mem_cons_self)
    simp [isAbsolute, hc]

theorem components_of_isComponent (hx : IsComponent x) : components x = [x] := by
  rw [components, Text.splitOn_of_not_mem slash hx.slash_not_mem, List.filter_cons_of_pos]
  · rfl
  · simp [hx.ne_nil, hx.ne_here]

theorem append_component (hx : IsComponent x) (directory : Text) :
    append directory x = root directory ++ Text.join [slash] (components directory ++ [x]) := by
  rw [append, not_isAbsolute hx, components_of_isComponent hx]
  simp [ofComponents]

theorem components_slash (t : Text) : components (slash :: t) = components t := by
  have hsplit : Text.splitOn slash (slash :: t) = [] :: Text.splitOn slash t :=
    Text.splitOn_append_cons slash [] t
  rw [components, hsplit]
  rfl

theorem components_root_append (directory t : Text) :
    components (root directory ++ t) = components t := by
  rw [root]
  split
  · rfl
  · rw [List.cons_append, components_slash, List.singleton_append, components_slash]
  · rw [List.singleton_append, components_slash]

theorem components_join {parts : List Text} (h : ∀ part ∈ parts, IsComponent part)
    (hne : parts ≠ []) : components (Text.join [slash] parts) = parts := by
  rw [components, Text.splitOn_join slash (fun part hpart => (h part hpart).slash_not_mem) hne]
  refine List.filter_eq_self.2 fun part hpart => ?_
  simp [(h part hpart).ne_nil, (h part hpart).ne_here]

theorem isComponent_components_append (hx : IsComponent x) (directory : Text) :
    ∀ part ∈ components directory ++ [x], IsComponent part := by
  intro part hpart
  rcases List.mem_append.1 hpart with hpart | hpart
  · exact isComponent_of_mem_components hpart
  · exact List.mem_singleton.1 hpart ▸ hx

theorem components_append (hx : IsComponent x) (directory : Text) :
    components (append directory x) = components directory ++ [x] := by
  rw [append_component hx, components_root_append,
    components_join (isComponent_components_append hx directory) (by simp)]

/-- Components that are joined do not start with a slash. -/
theorem exists_head_join {parts : List Text} (h : ∀ part ∈ parts, IsComponent part)
    (hne : parts ≠ []) : ∃ c t, Text.join [slash] parts = c :: t ∧ c ≠ slash := by
  obtain ⟨part, rest, rfl⟩ := List.exists_cons_of_ne_nil hne
  have hpart := h part List.mem_cons_self
  obtain ⟨c, more, rfl⟩ := List.exists_cons_of_ne_nil hpart.ne_nil
  have hc : c ≠ slash := fun hc => hpart.slash_not_mem (hc ▸ List.mem_cons_self)
  cases rest with
  | nil => exact ⟨c, more, by rw [Text.join, List.intercalate_singleton], hc⟩
  | cons next rest => exact ⟨c, _, by rw [Text.join, List.intercalate_cons_cons]; rfl, hc⟩

theorem root_append (hx : IsComponent x) (directory : Text) :
    root (append directory x) = root directory := by
  obtain ⟨c, t, hjoin, hc⟩ := exists_head_join (isComponent_components_append hx directory)
    (by simp)
  have hrun : (c :: t).takeWhile (· = slash) = [] := List.takeWhile_cons_of_neg (by simpa using hc)
  rw [append_component hx, hjoin]
  have hslashes : root directory = [] ∨ root directory = [slash, slash] ∨
      root directory = [slash] := by
    rw [root]
    split <;> simp
  rcases hslashes with h | h | h
  · rw [h, List.nil_append, root, hrun]
    rfl
  · rw [h, root]
    simp [hrun]
  · rw [h, root]
    simp [hrun]

theorem join_append_singleton {parts : List Text} (hne : parts ≠ []) (y : Text) :
    Text.join [slash] (parts ++ [y]) = Text.join [slash] parts ++ slash :: y := by
  induction parts with
  | nil => exact absurd rfl hne
  | cons part parts ih =>
    cases parts with
    | nil => simp [Text.join]
    | cons next parts =>
      rw [Text.join] at ih
      simp only [Text.join, List.cons_append, List.intercalate_cons_cons] at ih ⊢
      rw [ih (List.cons_ne_nil _ _)]
      simp

/-- **A component below a component** stands after a slash. -/
theorem append_append (hx : IsComponent x) (hy : IsComponent y) (directory : Text) :
    append (append directory x) y = append directory x ++ slash :: y := by
  rw [append_component hy, root_append hx, components_append hx,
    join_append_singleton (by simp), append_component hx, List.append_assoc]

/-- What stands in a path below a directory is of the directory, of the path, or a slash. -/
theorem mem_append {c : CodePoint} {directory : Text} (hx : IsComponent x)
    (hc : c ∈ append directory x) : c ∈ directory ∨ c ∈ x ∨ c = slash := by
  rw [append_component hx, List.mem_append] at hc
  rcases hc with hc | hc
  · have hroot : ∀ c ∈ root directory, c = slash := by
      rw [root]
      split <;> simp
    exact Or.inr (Or.inr (hroot c hc))
  · rcases Text.mem_join hc with hc | ⟨part, hpart, hc⟩
    · exact Or.inr (Or.inr (List.mem_singleton.1 hc))
    · rcases List.mem_append.1 hpart with hpart | hpart
      · have hwithin := Text.isInfix_of_mem_splitOn slash (List.mem_filter.1 hpart).1
        exact Or.inl (hwithin.subset hc)
      · exact Or.inr (Or.inl (List.mem_singleton.1 hpart ▸ hc))

/-- The last piece of a path below a directory. -/
theorem getLast?_splitOn_append (hx : IsComponent x) (directory : Text) :
    (Text.splitOn slash (append directory x)).getLast? = some x := by
  have hparts := isComponent_components_append hx directory
  have hjoin : Text.splitOn slash (Text.join [slash] (components directory ++ [x])) =
      components directory ++ [x] :=
    Text.splitOn_join slash (fun part hpart => (hparts part hpart).slash_not_mem) (by simp)
  have hslash : ∀ t, Text.splitOn slash (slash :: t) = [] :: Text.splitOn slash t := fun t =>
    Text.splitOn_append_cons slash [] t
  have hlast : ∀ first : List Text, (first ++ (components directory ++ [x])).getLast? = some x := by
    intro first
    rw [← List.append_assoc, List.getLast?_concat]
  rw [append_component hx, root]
  split
  · rw [List.nil_append, hjoin]
    exact hlast []
  · rw [List.cons_append, hslash, List.singleton_append, hslash, hjoin]
    exact hlast [[], []]
  · rw [List.singleton_append, hslash, hjoin]
    exact hlast [[]]

end Path

namespace Files

open PullNotes.Path (slash IsComponent)

/-! ### Where steps lead -/

theorem follow_cons {fs : Files} {place rest : List Text} {step : Text} {parts : List Text}
    (h : fs.follow place (step :: rest) = .place parts) : fs.entry place = .folder := by
  rw [follow] at h
  split at h
  · cases h
  · cases h
  · assumption

theorem follow_step {fs : Files} {place : List Text} {x : Text} (hx : IsComponent x)
    (hup : x ≠ Path.above) (hfolder : fs.entry place = .folder) (rest : List Text) :
    fs.follow place (x :: rest) =
      if nameLimit < (Utf8.write x).length then .tooLong else fs.follow (place ++ [x]) rest := by
  rw [follow, hfolder]
  simp only [if_neg hx.ne_here, if_neg hup]

/-- Steps that end at a folder go on to what is below it. -/
theorem follow_below {fs : Files} {x y : Text} (hx : IsComponent x) (hup : x ≠ Path.above)
    (hy : IsComponent y) (hup' : y ≠ Path.above) (hshort : (Utf8.write y).length ≤ nameLimit)
    {steps place parts : List Text} (h : fs.follow place (steps ++ [x]) = .place parts)
    (hparts : fs.entry parts = .folder) :
    fs.follow place (steps ++ [x, y]) = .place (parts ++ [y]) := by
  have hshort' : ¬ nameLimit < (Utf8.write y).length := Nat.not_lt.2 hshort
  induction steps generalizing place with
  | nil =>
    have hfolder := follow_cons h
    rw [List.nil_append, follow_step hx hup hfolder] at h ⊢
    by_cases hlong : nameLimit < (Utf8.write x).length
    · rw [if_pos hlong] at h
      cases h
    · rw [if_neg hlong, follow] at h
      obtain rfl : place ++ [x] = parts := Goal.place.inj h
      rw [if_neg hlong, follow_step hy hup' hparts, if_neg hshort', follow]
  | cons step steps ih =>
    have hfolder := follow_cons h
    rw [List.cons_append, follow, hfolder] at h ⊢
    have hnone : ∀ z : List Text, (steps ++ x :: z).isEmpty = false := by simp
    simp only [hnone] at h ⊢
    split at h
    · next hhere => rw [if_pos hhere]; exact ih h
    · next hhere =>
      rw [if_neg hhere]
      split at h
      · next habove =>
        rw [if_pos habove]
        split at h
        · cases h
        · next hplace => rw [if_neg hplace]; exact ih h
      · next habove =>
        rw [if_neg habove]
        split at h
        · cases h
        · next hlong => rw [if_neg hlong]; exact ih h

/-! ### Where paths lead -/

variable {fs fs' : Files} {path : Text} {parts : List Text}

theorem steps_ne_nil (path : Text) : steps path ≠ [] := by
  rw [steps]
  by_cases hlast : (Text.splitOn slash path).getLast? = some []
  · simp [hlast]
  · rw [if_neg hlast, List.append_nil, ne_eq, List.filter_eq_nil_iff]
    intro hall
    cases hend : (Text.splitOn slash path).getLast? with
    | none =>
      rw [List.getLast?_eq_none_iff, Text.splitOn_eq] at hend
      exact absurd hend (List.splitOn_ne_nil slash path)
    | some part =>
      have hmem := List.mem_of_getLast? hend
      have hempty : part = [] := by simpa using hall part hmem
      exact hlast (hempty ▸ hend)

theorem steps_of_getLast? {x : Text} (hx : x ≠ [])
    (h : (Text.splitOn slash path).getLast? = some x) : ∃ before, steps path = before ++ [x] ∧
      ∀ {y : Text}, IsComponent y → steps (path ++ slash :: y) = before ++ [x, y] := by
  obtain ⟨before, hbefore⟩ := List.getLast?_eq_some_iff.1 h
  have hkeep : List.filter (fun part : Text => !part.isEmpty) [x] = [x] := by simp [hx]
  refine ⟨before.filter (fun part => !part.isEmpty), ?_, fun {y} hy => ?_⟩
  · rw [steps, hbefore, List.filter_append, hkeep]
    simp [hx]
  · have hkeep' : List.filter (fun part : Text => !part.isEmpty) [y] = [y] := by simp [hy.ne_nil]
    rw [steps, Text.splitOn_append_cons, Text.splitOn_of_not_mem slash hy.slash_not_mem, hbefore,
      List.filter_append, List.filter_append, hkeep, hkeep']
    simp [hy.ne_nil]

theorem belowRoot?_eq_some_iff {below : Text} : fs.belowRoot? path = some below ↔
    path = fs.root ++ below ∧ (below = [] ∨ below.head? = some slash) := by
  rw [belowRoot?]
  by_cases hprefix : fs.root.isPrefixOf path = true
  · obtain ⟨after, rfl⟩ := List.isPrefixOf_iff_prefix.1 hprefix
    rw [if_pos hprefix, List.drop_left, List.append_cancel_left_eq]
    cases after with
    | nil =>
      constructor
      · intro h
        exact ⟨Option.some.inj h, Or.inl (Option.some.inj h).symm⟩
      · rintro ⟨rfl, -⟩
        rfl
    | cons c after =>
      by_cases hc : c = slash
      · simp only [if_pos hc, Option.some.injEq]
        constructor
        · rintro rfl
          exact ⟨rfl, Or.inr (by rw [hc]; rfl)⟩
        · exact fun h => h.1
      · simp only [if_neg hc]
        constructor
        · exact nofun
        · rintro ⟨rfl, hnil | hhead⟩
          · cases hnil
          · exact absurd (Option.some.inj hhead) hc
  · rw [if_neg hprefix]
    constructor
    · exact nofun
    · rintro ⟨rfl, -⟩
      exact absurd (List.isPrefixOf_iff_prefix.2 (List.prefix_append _ _)) hprefix

theorem belowRoot?_append {below : Text} (h : fs.belowRoot? path = some below) (y : Text) :
    fs.belowRoot? (path ++ slash :: y) = some (below ++ slash :: y) := by
  obtain ⟨rfl, hbelow⟩ := belowRoot?_eq_some_iff.1 h
  refine belowRoot?_eq_some_iff.2 ⟨List.append_assoc _ _ _, Or.inr ?_⟩
  rcases hbelow with rfl | hhead
  · rfl
  · rw [List.head?_append, hhead]
    rfl

theorem belowRoot?_append_none {y : Text} (h : fs.belowRoot? path = none) (hy : slash ∉ y)
    (hroot : fs.root ≠ path ++ slash :: y) : fs.belowRoot? (path ++ slash :: y) = none := by
  have hnot : ∀ below : Text, path = fs.root ++ below → ¬ (below = [] ∨ below.head? = some slash) :=
    fun below hpath hbelow => by
      rw [belowRoot?_eq_some_iff.2 ⟨hpath, hbelow⟩] at h
      cases h
  refine Option.eq_none_iff_forall_ne_some.2 fun below hbelow => ?_
  obtain ⟨happend, hstart⟩ := belowRoot?_eq_some_iff.1 hbelow
  -- the name of the working directory ends within the path, or within what is appended
  rcases List.append_eq_append_iff.1 happend with ⟨a, hlonger, hrest⟩ | ⟨c, hpath, rfl⟩
  · cases a with
    | nil => exact hnot [] (by rw [hlonger, List.append_nil, List.append_nil]) (Or.inl rfl)
    | cons d a =>
      obtain ⟨rfl, rfl⟩ := List.cons.inj hrest
      rcases hstart with rfl | hhead
      · exact hroot (hlonger.trans (congrArg (path ++ slash :: ·) (List.append_nil a).symm))
      · obtain ⟨rest, rfl⟩ : ∃ rest, below = slash :: rest := by
          cases below with
          | nil => cases hhead
          | cons e rest => exact ⟨rest, by rw [Option.some.inj hhead]⟩
        exact hy (List.mem_append_right _ List.mem_cons_self)
  · refine hnot c hpath ?_
    cases c with
    | nil => exact Or.inl rfl
    | cons d c =>
      rcases hstart with hnil | hhead
      · cases hnil
      · exact Or.inr hhead

/-- The last piece of what remains of a path below the working directory. -/
theorem getLast?_below {x below : Text} (hlast : (Text.splitOn slash path).getLast? = some x)
    (h : fs.belowRoot? path = some below) (hne : below ≠ []) :
    (Text.splitOn slash below).getLast? = some x := by
  obtain ⟨rfl, hbelow⟩ := belowRoot?_eq_some_iff.1 h
  obtain ⟨rest, rfl⟩ : ∃ rest, below = slash :: rest := by
    cases below with
    | nil => exact absurd rfl hne
    | cons c rest => exact ⟨rest, by rw [Option.some.inj (hbelow.resolve_left hne)]⟩
  have hrest : Text.splitOn slash rest ≠ [] := by
    rw [Text.splitOn_eq]
    exact List.splitOn_ne_nil slash rest
  have hslash : Text.splitOn slash (slash :: rest) = [] :: Text.splitOn slash rest :=
    Text.splitOn_append_cons slash [] rest
  have hend := List.getLast?_eq_some_getLast hrest
  rw [Text.splitOn_append_cons, List.getLast?_append, hend] at hlast
  rw [hslash, List.getLast?_cons, hend]
  exact hlast

/-- A path that ends with a component has components. -/
theorem isEmpty_components {x : Text} (hlast : (Text.splitOn slash path).getLast? = some x)
    (hx : IsComponent x) : (Path.components path).isEmpty = false := by
  have hmem : x ∈ Path.components path :=
    List.mem_filter.2 ⟨List.mem_of_getLast? hlast, by simp [hx.ne_nil, hx.ne_here]⟩
  exact List.isEmpty_eq_false_iff.2 (List.ne_nil_of_mem hmem)

/-- A lone dot leads to the working directory, and a component after a slash below it. -/
theorem follow_below_top {y : Text} (hy : IsComponent y) (hup : y ≠ Path.above)
    (hshort : (Utf8.write y).length ≤ nameLimit) (h : fs.follow [] [Path.here] = .place parts)
    (hparts : fs.entry parts = .folder) :
    fs.follow [] (steps (slash :: y)) = .place (parts ++ [y]) := by
  have hplace : parts = [] := by
    rw [follow, follow_cons h] at h
    exact (Goal.place.inj h).symm
  subst hplace
  have hsplit : Text.splitOn slash (slash :: y) = [[], y] := by
    rw [show slash :: y = [] ++ slash :: y from rfl, Text.splitOn_append_cons,
      Text.splitOn_of_not_mem slash hy.slash_not_mem]
    rfl
  have hsteps : steps (slash :: y) = [y] := by simp [steps, hsplit, hy.ne_nil]
  rw [hsteps, follow_step hy hup hparts, if_neg (Nat.not_lt.2 hshort), follow]

/-- **A path below a folder leads below the folder's place**, unless it is the name of the working
directory itself. -/
theorem locate_below {x y : Text} (hlast : (Text.splitOn slash path).getLast? = some x)
    (hx : IsComponent x) (hup : x ≠ Path.above) (hy : IsComponent y) (hup' : y ≠ Path.above)
    (hshort : (Utf8.write y).length ≤ nameLimit) (hroot : fs.root ≠ path ++ slash :: y)
    (h : fs.locate path = .place parts) (hparts : fs.entry parts = .folder) :
    fs.locate (path ++ slash :: y) = .place (parts ++ [y]) := by
  have hgo : ∀ t : Text, (Text.splitOn slash t).getLast? = some x →
      fs.follow [] (steps t) = .place parts →
      fs.follow [] (steps (t ++ slash :: y)) = .place (parts ++ [y]) := by
    intro t ht hfollow
    obtain ⟨before, hsteps, hmore⟩ := steps_of_getLast? hx.ne_nil ht
    rw [hsteps] at hfollow
    rw [hmore hy]
    exact follow_below hx hup hy hup' hshort hfollow hparts
  rw [locate] at h ⊢
  cases hbelow : fs.belowRoot? path with
  | some below =>
    rw [hbelow] at h
    rw [belowRoot?_append hbelow]
    by_cases hne : below = []
    · -- the path is the name of the working directory, where a lone dot leads as well
      subst hne
      exact follow_below_top hy hup' hshort h hparts
    · exact hgo below (getLast?_below hlast hbelow hne) h
  | none =>
    rw [hbelow] at h
    rw [belowRoot?_append_none hbelow hy.slash_not_mem hroot]
    cases path with
    | nil => cases h
    | cons c path =>
      have hnamed := isEmpty_components hlast hx
      cases habsolute : Path.isAbsolute (c :: path) with
      | true => simp [habsolute, hnamed] at h
      | false =>
        have habsolute' : Path.isAbsolute (c :: (path ++ slash :: y)) = false := habsolute
        simp only [List.isEmpty_cons, habsolute, Bool.false_eq_true, if_false] at h
        simp only [List.cons_append, List.isEmpty_cons, habsolute', Bool.false_eq_true, if_false]
        exact hgo (c :: path) hlast h

/-! ### Files that are added -/

/-- Nothing is taken away: what was a folder stays one. -/
structure Grows (fs fs' : Files) : Prop where
  root : fs'.root = fs.root
  folder : ∀ place, fs.entry place = .folder → fs'.entry place = .folder

theorem Grows.refl (fs : Files) : Grows fs fs := ⟨rfl, fun _ h => h⟩

theorem Grows.follow_eq (hgrows : Grows fs fs') {steps place : List Text}
    (h : fs.follow place steps = .place parts) : fs'.follow place steps = .place parts := by
  induction steps generalizing place with
  | nil =>
    rw [follow] at h ⊢
    exact h
  | cons step steps ih =>
    have hfolder := follow_cons h
    rw [follow, hfolder] at h
    rw [follow, hgrows.folder place hfolder]
    simp only at h ⊢
    split at h
    · next hhere => rw [if_pos hhere]; exact ih h
    · next hhere =>
      rw [if_neg hhere]
      split at h
      · next habove =>
        rw [if_pos habove]
        split at h
        · next hplace => rw [if_pos hplace]; exact h
        · next hplace => rw [if_neg hplace]; exact ih h
      · next habove =>
        rw [if_neg habove]
        split at h
        · cases h
        · next hlong => rw [if_neg hlong]; exact ih h

theorem Grows.locate_eq (hgrows : Grows fs fs') (h : fs.locate path = .place parts) :
    fs'.locate path = .place parts := by
  have hbelow : fs'.belowRoot? path = fs.belowRoot? path := by
    rw [belowRoot?, belowRoot?, hgrows.root]
  rw [locate] at h ⊢
  rw [hbelow]
  split at h
  · exact hgrows.follow_eq h
  · split at h
    · cases h
    · next hempty =>
      rw [if_neg hempty]
      split at h
      · next habsolute => rw [if_pos habsolute]; exact h
      · next habsolute => rw [if_neg habsolute]; exact hgrows.follow_eq h

/-- An entry is a folder if there is one and no file. -/
theorem entry_eq_folder_iff {place : List Text} : fs.entry place = .folder ↔
    content? place fs.contents = none ∧ fs.hasFolder place = true := by
  rw [entry]
  cases content? place fs.contents with
  | some bytes => simp
  | none => by_cases h : fs.hasFolder place = true <;> simp [h]

theorem entry_eq_file_iff {place : List Text} {bytes : Bytes} :
    fs.entry place = .file bytes ↔ content? place fs.contents = some bytes := by
  rw [entry]
  cases content? place fs.contents with
  | some bytes => simp
  | none => by_cases h : fs.hasFolder place = true <;> simp [h]

/-- What making a folder does: the path leads to a folder, no content has changed, and the files
are as before unless the folder is new. -/
theorem makeFolder_eq_ok (h : fs.makeFolder path = .ok fs') :
    Grows fs fs' ∧ fs'.contents = fs.contents ∧ ∃ parts, fs.locate path = .place parts ∧
      fs'.entry parts = .folder ∧ (fs' = fs ∨
        content? parts fs.contents = none ∧ fs.hasFolder parts = false ∧
          fs'.folders = parts :: fs.folders) := by
  rw [makeFolder] at h
  split at h
  case h_1 => cases h
  case h_2 => cases h
  case h_3 => cases h
  case h_4 parts hlocate =>
    split at h
    case h_1 => cases h
    case h_2 hfolder =>
      obtain rfl := Except.ok.inj h
      exact ⟨.refl fs, rfl, parts, hlocate, hfolder, Or.inl rfl⟩
    case h_3 hnothing =>
      obtain rfl := Except.ok.inj h
      have hnew : content? parts fs.contents = none ∧ fs.hasFolder parts = false := by
        rw [entry] at hnothing
        split at hnothing
        · cases hnothing
        · next hnone =>
          split at hnothing
          · cases hnothing
          · next hfolder => exact ⟨hnone, eq_false_of_ne_true hfolder⟩
      refine ⟨⟨rfl, fun place hplace => ?_⟩, rfl, parts, hlocate, ?_, Or.inr ⟨hnew.1, hnew.2, rfl⟩⟩
      · obtain ⟨hnone, hhas⟩ := entry_eq_folder_iff.1 hplace
        refine entry_eq_folder_iff.2 ⟨hnone, ?_⟩
        simp only [hasFolder, List.any_cons, Bool.or_eq_true] at hhas ⊢
        rcases hhas with (hempty | hfolders) | hcontents
        · exact Or.inl (Or.inl hempty)
        · exact Or.inl (Or.inr (Or.inr hfolders))
        · exact Or.inr hcontents
      · refine entry_eq_folder_iff.2 ⟨hnew.1, ?_⟩
        simp [hasFolder]

theorem content?_putContent (place place' : List Text) (bytes : Bytes)
    (contents : List (List Text × Bytes)) : content? place' (putContent place bytes contents) =
      if place = place' then some bytes else content? place' contents := by
  induction contents with
  | nil => rfl
  | cons first rest ih =>
    obtain ⟨p, b⟩ := first
    rw [putContent]
    by_cases hp : p = place
    · subst hp
      rw [if_pos rfl, content?, content?]
      by_cases hplace : p = place'
      · rw [if_pos hplace, if_pos hplace]
      · rw [if_neg hplace, if_neg hplace, if_neg hplace]
    · rw [if_neg hp, content?, content?, ih]
      by_cases hplace : p = place'
      · rw [if_pos hplace, if_pos hplace, if_neg (fun h => hp (hplace.trans h.symm))]
      · rw [if_neg hplace, if_neg hplace]

/-- The places of contents stay when one is put. -/
theorem any_putContent (test : List Text → Bool) (place : List Text) (bytes : Bytes)
    {contents : List (List Text × Bytes)} (h : contents.any (fun c => test c.1) = true) :
    (putContent place bytes contents).any (fun c => test c.1) = true := by
  induction contents with
  | nil => cases h
  | cons first rest ih =>
    obtain ⟨p, b⟩ := first
    rw [List.any_cons, Bool.or_eq_true] at h
    rw [putContent]
    by_cases hp : p = place
    · rw [if_pos hp, List.any_cons, Bool.or_eq_true]
      exact h
    · rw [if_neg hp, List.any_cons, Bool.or_eq_true]
      exact h.imp_right ih

theorem grows_put (bytes : Bytes) (h : fs.entry parts ≠ .folder) :
    Grows fs (fs.put parts bytes) := by
  refine ⟨rfl, fun place hplace => ?_⟩
  have hne : parts ≠ place := by
    rintro rfl
    exact h hplace
  obtain ⟨hnone, hhas⟩ := entry_eq_folder_iff.1 hplace
  refine entry_eq_folder_iff.2 ⟨?_, ?_⟩
  · rw [put, content?_putContent, if_neg hne, hnone]
  · simp only [hasFolder, Bool.or_eq_true] at hhas ⊢
    refine hhas.imp_right fun hcontents => ?_
    exact any_putContent (fun p => place.isPrefixOf p && place.length < p.length) parts bytes
      hcontents

/-- A file is written where the path leads, and nothing else changes. -/
theorem write_eq_ok {bytes : Bytes} (h : fs.write path bytes = .ok fs') :
    ∃ parts, fs.locate path = .place parts ∧ fs.entry parts ≠ .folder ∧
      fs' = fs.put parts bytes := by
  rw [write] at h
  split at h
  case h_1 => cases h
  case h_2 => cases h
  case h_3 => cases h
  case h_4 parts hlocate =>
    split at h
    case h_1 old hfile =>
      refine ⟨parts, hlocate, ?_, (Except.ok.inj h).symm⟩
      rw [hfile]
      exact nofun
    case h_2 => cases h
    case h_3 hnothing =>
      split at h
      case isTrue =>
        refine ⟨parts, hlocate, ?_, (Except.ok.inj h).symm⟩
        rw [hnothing]
        exact nofun
      case isFalse => cases h

/-- **What was written is read**, and it is there. -/
theorem read_of_write {bytes : Bytes} (h : fs.write path bytes = .ok fs')
    (hnull : path.contains CodePoint.null = false) :
    fs'.read path = .ok bytes ∧ fs'.isThere path = .ok true := by
  obtain ⟨parts, hlocate, hentry, rfl⟩ := write_eq_ok h
  have hlocate' := (grows_put bytes hentry).locate_eq hlocate
  have hfile : (fs.put parts bytes).entry parts = .file bytes := by
    rw [entry_eq_file_iff, put, content?_putContent, if_pos rfl]
  constructor
  · rw [read, hnull, hlocate']
    simp [hfile]
  · rw [isThere, hnull, hlocate']
    simp [hfile]

/-- The path leads to no folder. -/
def NoFolder (fs : Files) (path : Text) : Prop :=
  ∀ parts, fs.locate path = .place parts → fs.entry parts ≠ .folder

theorem noFolder_of_read {bytes : Bytes} (h : fs.read path = .ok bytes) : fs.NoFolder path := by
  intro parts hlocate hfolder
  rw [read, hlocate] at h
  split at h
  · cases h
  · simp [hfolder] at h

theorem isThere_of_folder (hnull : path.contains CodePoint.null = false)
    (hlocate : fs.locate path = .place parts) (hentry : fs.entry parts = .folder) :
    fs.isThere path = .ok true := by
  rw [isThere, hnull, hlocate]
  simp [hentry]

theorem noFolder_of_not_isThere (hnull : path.contains CodePoint.null = false)
    (h : fs.isThere path = .ok false) : fs.NoFolder path := by
  intro parts hlocate hfolder
  rw [isThere_of_folder hnull hlocate hfolder] at h
  cases h

/-- The working directory is a folder if a path below it leads anywhere. -/
theorem entry_top {x : Text} (hlast : (Text.splitOn slash path).getLast? = some x)
    (hx : IsComponent x) (h : fs.locate path = .place parts) : fs.entry [] = .folder := by
  have hgo : ∀ t : Text, fs.follow [] (steps t) = .place parts → fs.entry [] = .folder := by
    intro t ht
    obtain ⟨step, rest, hsteps⟩ := List.exists_cons_of_ne_nil (steps_ne_nil t)
    rw [hsteps] at ht
    exact follow_cons ht
  have hnamed := isEmpty_components hlast hx
  rw [locate] at h
  split at h
  · exact hgo _ h
  · split at h
    · cases h
    · split at h
      · rw [if_neg (by rw [hnamed]; decide)] at h
        cases h
      · exact hgo _ h

theorem locate_root (htop : fs.entry [] = .folder) (h : path = fs.root) :
    fs.locate path = .place [] := by
  have hbelow : fs.belowRoot? path = some [] :=
    belowRoot?_eq_some_iff.2 ⟨by rw [h, List.append_nil], Or.inl rfl⟩
  have hsteps : steps [] = [Path.here] := by decide
  rw [locate, hbelow]
  simp only [hsteps, follow, htop, if_true]

theorem hasFolder_of_append {more : List Text} (h : fs.hasFolder (parts ++ more) = true) :
    fs.hasFolder parts = true := by
  have hprefix : ∀ p, (parts ++ more).isPrefixOf p = true → parts.isPrefixOf p = true := by
    intro p hp
    rw [List.isPrefixOf_iff_prefix] at hp ⊢
    exact (List.prefix_append _ _).trans hp
  simp only [hasFolder, Bool.or_eq_true, List.any_eq_true, Bool.and_eq_true,
    decide_eq_true_eq] at h ⊢
  rcases h with (hempty | ⟨p, hp, hfolder⟩) | ⟨c, hc, hfolder, hlength⟩
  · rw [List.isEmpty_iff, List.append_eq_nil_iff] at hempty
    exact Or.inl (Or.inl (List.isEmpty_iff.2 hempty.1))
  · exact Or.inl (Or.inr ⟨p, hp, hprefix p hfolder⟩)
  · rw [List.length_append] at hlength
    exact Or.inr ⟨c, hc, hprefix _ hfolder, by omega⟩

/-- **A file can be written once its folder is made**, unless there is a folder in its place. -/
theorem write_after_makeFolder {x y : Text} {bytes : Bytes}
    (hlast : (Text.splitOn slash path).getLast? = some x) (hx : IsComponent x)
    (hup : x ≠ Path.above) (hy : IsComponent y) (hup' : y ≠ Path.above)
    (hshort : (Utf8.write y).length ≤ nameLimit)
    (hno : fs.NoFolder (path ++ slash :: y)) (h : fs.makeFolder path = .ok fs') :
    ∃ fs'', fs'.write (path ++ slash :: y) bytes = .ok fs'' := by
  obtain ⟨hgrows, hcontents, parts, hlocate, hfolder, hsame⟩ := makeFolder_eq_ok h
  -- what has the name of the working directory is a folder
  have hroot : fs.root ≠ path ++ slash :: y := by
    intro hroot
    have htop := entry_top hlast hx hlocate
    exact hno [] (locate_root htop hroot.symm) htop
  have hlocate' := locate_below hlast hx hup hy hup' hshort (hgrows.root ▸ hroot)
    (hgrows.locate_eq hlocate) hfolder
  have hnotFolder : fs'.entry (parts ++ [y]) ≠ .folder := by
    intro hentry
    rcases hsame with rfl | ⟨-, hnew, hfolders⟩
    · exact hno _ hlocate' hentry
    · have hhas := (entry_eq_folder_iff.1 hentry).2
      have hshorter : (parts ++ [y]).isPrefixOf parts = false := by
        refine eq_false_of_ne_true fun hprefix => ?_
        have hlength := (List.isPrefixOf_iff_prefix.1 hprefix).length_le
        rw [List.length_append, List.length_singleton] at hlength
        omega
      have hbefore : fs.hasFolder (parts ++ [y]) = true := by
        simpa [hasFolder, hfolders, hcontents, hshorter] using hhas
      rw [hasFolder_of_append hbefore] at hnew
      cases hnew
  refine ⟨fs'.put (parts ++ [y]) bytes, ?_⟩
  rw [write, hlocate']
  cases hentry : fs'.entry (parts ++ [y]) with
  | file old => simp only [hentry]
  | folder => exact absurd hentry hnotFolder
  | nothing =>
    have hhas : fs'.hasFolder (parts ++ [y]).dropLast = true := by
      rw [List.dropLast_concat]
      exact (entry_eq_folder_iff.1 hfolder).2
    simp only [hentry, hhas, if_true]

end Files

end PullNotes
