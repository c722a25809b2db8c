import PullNotes.Proofs.Checking
import PullNotes.Proofs.Pieces
import PullNotes.Proofs.Runs
import PullNotes.Settings.Store

/-!
# The fields of the settings

The settings have seven fields.  Each has a dotted key, which leads to it through the members of the
settings, and no other key leads anywhere.  A setting is changed by its key: the value is put among
the members, and all of them are checked again.  The fields beside the one that is changed pass with
the value that they have, so the change comes to nothing else, and changes of two fields commute.

* `Settings.Field` : the fields, with what is had of each and what changes it.
* `Settings.exists_field_iff` : the keys that lead to a field.
* `Settings.changed_key` : what comes of a change of a field.
* `Settings.Sets`, `Settings.changed_eq_ok_iff` : what a text changes that is given for a key.
* `Settings.withKey_frame` : a change of one setting changes that field and nothing else.
-/

namespace PullNotes

/-- An operation comes to the same whatever its surroundings are, and leaves them as they are. -/
def Run.Yields {α : Type} (r : Run α) (x : Except Failure α) : Prop :=
  ∀ surroundings, r.outcome surroundings = (x, surroundings)

/-- An issue of a value at the end of a path of fields. -/
def Issue.under (path : List String) (i : Issue) : Issue := { i with path := path ++ i.path }

namespace Settings

open Run (Yields Reads)

/-! ### What is had of a field and what changes it -/

/-- The fields of the settings. -/
inductive Field where
  | baseRef
  | markerId
  | fenceLanguage
  | maxLength
  | pathFilter
  | strictParse
  | encoding
deriving DecidableEq, Repr

namespace Field

/-- The names of the members that lead to a field. -/
def path : Field → List String
  | baseRef => ["base_ref"]
  | markerId => ["comment", "marker_id"]
  | fenceLanguage => ["comment", "fence_language"]
  | maxLength => ["comment", "max_length"]
  | pathFilter => ["scan", "path_filter"]
  | strictParse => ["scan", "strict_parse"]
  | encoding => ["scan", "encoding"]

/-- The dotted key of a field. -/
def key (f : Field) : Text := Text.join [dot] (f.path.map Text.ofString)

/-- What a field holds. -/
def Value : Field → Type
  | maxLength => Int
  | strictParse => Bool
  | _ => Text

/-- What a value comes to in a field, or what is wrong with it. -/
def check : (f : Field) → Json → Checked f.Value
  | baseRef => Check.text
  | markerId => Check.text
  | fenceLanguage => Check.text
  | maxLength => Check.whole
  | pathFilter => Check.text
  | strictParse => Check.truth
  | encoding => Check.text

/-- What settings hold in a field. -/
def get : (f : Field) → Settings → f.Value
  | baseRef, s => s.baseRef
  | markerId, s => s.comment.markerId
  | fenceLanguage, s => s.comment.fenceLanguage
  | maxLength, s => s.comment.maxLength
  | pathFilter, s => s.scan.pathFilter
  | strictParse, s => s.scan.strictParse
  | encoding, s => s.scan.encoding

/-- The settings with a field changed. -/
def set : (f : Field) → f.Value → Settings → Settings
  | baseRef, a, s => { s with baseRef := a }
  | markerId, a, s => { s with comment := { s.comment with markerId := a } }
  | fenceLanguage, a, s => { s with comment := { s.comment with fenceLanguage := a } }
  | maxLength, a, s => { s with comment := { s.comment with maxLength := a } }
  | pathFilter, a, s => { s with scan := { s.scan with pathFilter := a } }
  | strictParse, a, s => { s with scan := { s.scan with strictParse := a } }
  | encoding, a, s => { s with scan := { s.scan with encoding := a } }

variable {f g : Field} {s t : Settings}

@[simp] theorem get_set (f : Field) (a : f.Value) (s : Settings) : f.get (f.set a s) = a := by
  cases f <;> rfl

/-- A change of one field leaves the others as they are. -/
theorem get_set_of_ne (h : g ≠ f) (a : f.Value) (s : Settings) : g.get (f.set a s) = g.get s := by
  cases f <;> cases g <;> first | rfl | exact absurd rfl h

/-- Settings that hold the same in every field are the same. -/
theorem ext_get (h : ∀ f : Field, f.get s = f.get t) : s = t := by
  obtain ⟨baseRef, ⟨markerId, fenceLanguage, maxLength⟩, ⟨pathFilter, strictParse, encoding⟩⟩ := s
  obtain rfl : baseRef = _ := h .baseRef
  obtain rfl : markerId = _ := h .markerId
  obtain rfl : fenceLanguage = _ := h .fenceLanguage
  obtain rfl : maxLength = _ := h .maxLength
  obtain rfl : pathFilter = _ := h .pathFilter
  obtain rfl : strictParse = _ := h .strictParse
  obtain rfl : encoding = _ := h .encoding
  rfl

/-- Of two changes of a field the last one counts. -/
theorem set_set (f : Field) (a b : f.Value) (s : Settings) : f.set b (f.set a s) = f.set b s := by
  refine ext_get fun k => ?_
  by_cases hk : k = f
  · subst hk
    rw [get_set, get_set]
  · rw [get_set_of_ne hk, get_set_of_ne hk, get_set_of_ne hk]

/-- Changes of two fields may be made in either order. -/
theorem set_comm (h : g ≠ f) (a : f.Value) (b : g.Value) (s : Settings) :
    g.set b (f.set a s) = f.set a (g.set b s) := by
  refine ext_get fun k => ?_
  by_cases hf : k = f
  · subst hf
    rw [get_set, get_set_of_ne h.symm, get_set]
  · rw [get_set_of_ne hf]
    by_cases hg : k = g
    · subst hg
      rw [get_set, get_set]
    · rw [get_set_of_ne hg, get_set_of_ne hg, get_set_of_ne hf]

/-! ### Keys -/

theorem dot_not_mem_path (f : Field) : ∀ name ∈ f.path.map Text.ofString, dot ∉ name := by
  cases f <;> decide

/-- The parts of the key of a field are the names that lead to it. -/
theorem splitOn_key (f : Field) : f.key.splitOn dot = f.path.map Text.ofString :=
  Text.splitOn_join dot f.dot_not_mem_path (by cases f <;> simp [path])

/-- No key of a field goes on from that of another one. -/
theorem eq_of_key_prefix (h : f.key <+: g.key) : f = g := by
  cases f <;> cases g <;> first | rfl | exact absurd h (by decide)

/-- Nothing is below a field. -/
theorem key_ne_append (f g : Field) (more : Text) : g.key ≠ f.key ++ dot :: more := by
  intro h
  obtain rfl := eq_of_key_prefix (f := f) (g := g) ⟨_, h.symm⟩
  simp at h

/-- No part of a key is empty. -/
theorem nil_not_mem_splitOn_key (f : Field) : [] ∉ f.key.splitOn dot := by
  rw [splitOn_key]
  cases f <;> decide

end Field

variable {s new : Settings} {key value : Text}

/-! ### Settings and their members -/

theorem checkComment_eq_ok_iff {ms : List (Text × Json)} {c : CommentSettings} :
    checkComment (.object ms) = .ok c ↔
      Check.field ms "marker_id" (some ({} : CommentSettings).markerId) Check.text =
        .ok c.markerId ∧
      Check.field ms "fence_language" (some ({} : CommentSettings).fenceLanguage) Check.text =
        .ok c.fenceLanguage ∧
      Check.field ms "max_length" (some ({} : CommentSettings).maxLength) Check.whole =
        .ok c.maxLength := by
  refine Check.three_eq_ok_iff.trans ⟨?_, ?_⟩
  · rintro ⟨markerId, fenceLanguage, maxLength, hmarker, hfence, hlength, rfl⟩
    exact ⟨hmarker, hfence, hlength⟩
  · rintro ⟨hmarker, hfence, hlength⟩
    exact ⟨_, _, _, hmarker, hfence, hlength, rfl⟩

theorem checkScan_eq_ok_iff {ms : List (Text × Json)} {c : ScanSettings} :
    checkScan (.object ms) = .ok c ↔
      Check.field ms "path_filter" (some ({} : ScanSettings).pathFilter) Check.text =
        .ok c.pathFilter ∧
      Check.field ms "strict_parse" (some ({} : ScanSettings).strictParse) Check.truth =
        .ok c.strictParse ∧
      Check.field ms "encoding" (some ({} : ScanSettings).encoding) Check.text =
        .ok c.encoding := by
  refine Check.three_eq_ok_iff.trans ⟨?_, ?_⟩
  · rintro ⟨pathFilter, strictParse, encoding, hfilter, hparse, hencoding, rfl⟩
    exact ⟨hfilter, hparse, hencoding⟩
  · rintro ⟨hfilter, hparse, hencoding⟩
    exact ⟨_, _, _, hfilter, hparse, hencoding, rfl⟩

theorem ofMembers_eq_ok_iff {ms : List (Text × Json)} : ofMembers ms = .ok s ↔
    Check.field ms "base_ref" (some ({} : Settings).baseRef) Check.text = .ok s.baseRef ∧
      Check.field ms "comment" (some {}) checkComment = .ok s.comment ∧
      Check.field ms "scan" (some {}) checkScan = .ok s.scan := by
  refine Check.three_eq_ok_iff.trans ⟨?_, ?_⟩
  · rintro ⟨baseRef, comment, scan, hbase, hcomment, hscan, rfl⟩
    exact ⟨hbase, hcomment, hscan⟩
  · rintro ⟨hbase, hcomment, hscan⟩
    exact ⟨_, _, _, hbase, hcomment, hscan, rfl⟩

theorem ofMembers_toMembers (s : Settings) : ofMembers s.toMembers = .ok s := rfl

section

variable (v : Json)

theorem ofMembers_put_baseRef (s : Settings) : ofMembers (Json.put "base_ref" v s.toMembers) =
    ((Check.text v).mapError (List.map (Issue.below "base_ref"))).map
      fun a => { s with baseRef := a } := by
  rw [ofMembers, Check.field_of_lookup? "base_ref" (v := v) rfl]
  exact Check.three_first _ s.comment s.scan fun a => Settings.mk a.1.1 a.1.2 a.2

theorem ofMembers_put_comment (s : Settings) : ofMembers (Json.put "comment" v s.toMembers) =
    ((checkComment v).mapError (List.map (Issue.below "comment"))).map
      fun a => { s with comment := a } := by
  rw [ofMembers, Check.field_of_lookup? "comment" (v := v) rfl]
  exact Check.three_second s.baseRef _ s.scan fun a => Settings.mk a.1.1 a.1.2 a.2

theorem ofMembers_put_scan (s : Settings) : ofMembers (Json.put "scan" v s.toMembers) =
    ((checkScan v).mapError (List.map (Issue.below "scan"))).map
      fun a => { s with scan := a } := by
  rw [ofMembers, Check.field_of_lookup? "scan" (v := v) rfl]
  exact Check.three_third s.baseRef s.comment _ fun a => Settings.mk a.1.1 a.1.2 a.2

theorem checkComment_put_markerId (c : CommentSettings) :
    checkComment (.object (Json.put "marker_id" v (commentMembers c))) =
      ((Check.text v).mapError (List.map (Issue.below "marker_id"))).map
        fun a => { c with markerId := a } := by
  rw [checkComment, Check.members, Except.ok_bind,
    Check.field_of_lookup? "marker_id" (v := v) rfl]
  exact Check.three_first _ c.fenceLanguage c.maxLength fun a => CommentSettings.mk a.1.1 a.1.2 a.2

theorem checkComment_put_fenceLanguage (c : CommentSettings) :
    checkComment (.object (Json.put "fence_language" v (commentMembers c))) =
      ((Check.text v).mapError (List.map (Issue.below "fence_language"))).map
        fun a => { c with fenceLanguage := a } := by
  rw [checkComment, Check.members, Except.ok_bind,
    Check.field_of_lookup? "fence_language" (v := v) rfl]
  exact Check.three_second c.markerId _ c.maxLength fun a => CommentSettings.mk a.1.1 a.1.2 a.2

theorem checkComment_put_maxLength (c : CommentSettings) :
    checkComment (.object (Json.put "max_length" v (commentMembers c))) =
      ((Check.whole v).mapError (List.map (Issue.below "max_length"))).map
        fun a => { c with maxLength := a } := by
  rw [checkComment, Check.members, Except.ok_bind,
    Check.field_of_lookup? "max_length" (v := v) rfl]
  exact Check.three_third c.markerId c.fenceLanguage _ fun a => CommentSettings.mk a.1.1 a.1.2 a.2

theorem checkScan_put_pathFilter (c : ScanSettings) :
    checkScan (.object (Json.put "path_filter" v (scanMembers c))) =
      ((Check.text v).mapError (List.map (Issue.below "path_filter"))).map
        fun a => { c with pathFilter := a } := by
  rw [checkScan, Check.members, Except.ok_bind,
    Check.field_of_lookup? "path_filter" (v := v) rfl]
  exact Check.three_first _ c.strictParse c.encoding fun a => ScanSettings.mk a.1.1 a.1.2 a.2

theorem checkScan_put_strictParse (c : ScanSettings) :
    checkScan (.object (Json.put "strict_parse" v (scanMembers c))) =
      ((Check.truth v).mapError (List.map (Issue.below "strict_parse"))).map
        fun a => { c with strictParse := a } := by
  rw [checkScan, Check.members, Except.ok_bind,
    Check.field_of_lookup? "strict_parse" (v := v) rfl]
  exact Check.three_second c.pathFilter _ c.encoding fun a => ScanSettings.mk a.1.1 a.1.2 a.2

theorem checkScan_put_encoding (c : ScanSettings) :
    checkScan (.object (Json.put "encoding" v (scanMembers c))) =
      ((Check.text v).mapError (List.map (Issue.below "encoding"))).map
        fun a => { c with encoding := a } := by
  rw [checkScan, Check.members, Except.ok_bind,
    Check.field_of_lookup? "encoding" (v := v) rfl]
  exact Check.three_third c.pathFilter c.strictParse _ fun a => ScanSettings.mk a.1.1 a.1.2 a.2

end

/-! ### One setting -/

/-- What comes of a change of one setting. -/
def changed (s : Settings) (key : Text) (value : Json) : Except Failure Settings :=
  match s.withMember? key value with
  | none => .error (.unknownKey key)
  | some ms =>
    match ofMembers ms with
    | .ok new => .ok new
    | .error issues => .error (.invalid "BotConfig" issues)

/-- A change of one setting works on nothing. -/
theorem yields_withKey (s : Settings) (key : Text) (value : Json) :
    (s.withKey key value).Yields (s.changed key value) := by
  intro surroundings
  rw [withKey, changed]
  cases s.withMember? key value with
  | none => rfl
  | some ms =>
    simp only [ofMembersOrFail]
    cases ofMembers ms with
    | ok new => rfl
    | error issues => rfl

theorem reads_withKey (s : Settings) (key : Text) (value : Json) :
    Reads (s.withKey key value) fun _ => s.changed key value :=
  fun surroundings => ⟨surroundings.notes, s.yields_withKey key value surroundings⟩

theorem changed_of_members {ms : List (Text × Json)} {v : Json}
    (h : s.withMember? key v = some ms) :
    s.changed key v = (ofMembers ms).mapError (.invalid "BotConfig") := by
  simp only [changed, h]
  cases ofMembers ms <;> rfl

theorem changed_of_none {v : Json} (h : s.withMember? key v = none) :
    s.changed key v = .error (.unknownKey key) := by
  simp only [changed, h]

/-- A change of a member of a member has its issues below both. -/
theorem changed_within {outer name : String} {v inside : Json} {α β : Type} {x : Checked α}
    {y : Checked β} {set : α → β} {put : β → Settings}
    (hmembers : s.withMember? key v = some (Json.put outer inside s.toMembers))
    (houter : ofMembers (Json.put outer inside s.toMembers) =
      (y.mapError (List.map (Issue.below outer))).map put)
    (hinner : y = (x.mapError (List.map (Issue.below name))).map set) :
    s.changed key v = (x.mapError fun issues =>
      Failure.invalid "BotConfig" (issues.map (Issue.under [outer, name]))).map
        fun a => put (set a) := by
  rw [changed_of_members hmembers, houter, hinner]
  cases x with
  | ok a => rfl
  | error issues => simp [Except.mapError, Except.map, Issue.under, Issue.below]

/-- **What comes of a change of a field**: the settings with what the value comes to in the field,
or the issues of the value at the end of the field's path. -/
theorem changed_key (s : Settings) (f : Field) (v : Json) :
    s.changed f.key v = ((f.check v).mapError fun issues =>
      Failure.invalid "BotConfig" (issues.map (Issue.under f.path))).map fun a => f.set a s := by
  cases f with
  | baseRef =>
    have hmembers : s.withMember? (Field.key .baseRef) v =
      some (Json.put "base_ref" v s.toMembers) := rfl
    rw [changed_of_members hmembers, ofMembers_put_baseRef, Field.check]
    cases Check.text v <;> rfl
  | markerId =>
    exact changed_within rfl (ofMembers_put_comment _ s) (checkComment_put_markerId v s.comment)
  | fenceLanguage =>
    exact changed_within rfl (ofMembers_put_comment _ s) (checkComment_put_fenceLanguage v s.comment)
  | maxLength =>
    exact changed_within rfl (ofMembers_put_comment _ s) (checkComment_put_maxLength v s.comment)
  | pathFilter =>
    exact changed_within rfl (ofMembers_put_scan _ s) (checkScan_put_pathFilter v s.scan)
  | strictParse =>
    exact changed_within rfl (ofMembers_put_scan _ s) (checkScan_put_strictParse v s.scan)
  | encoding =>
    exact changed_within rfl (ofMembers_put_scan _ s) (checkScan_put_encoding v s.scan)

/-- The last key of a path leads to a value that is no object, and those before it to objects. -/
theorem replace?_eq_some {v : Json} {k : Text} {rest : List Text} {ms ms' : List (Text × Json)}
    (h : replace? v (k :: rest) ms = some ms') :
    (rest = [] ∧ ∃ old, (k, old) ∈ ms ∧ ∀ inner, old ≠ .object inner) ∨
      ∃ k' rest' inner inner', rest = k' :: rest' ∧ (k, .object inner) ∈ ms ∧
        replace? v rest inner = some inner' := by
  cases rest with
  | nil =>
    rw [replace?] at h
    cases hold : Json.lookup? k ms with
    | none => simp [hold] at h
    | some old =>
      refine Or.inl ⟨rfl, old, Json.mem_of_lookup? hold, ?_⟩
      rintro inner rfl
      simp [hold] at h
  | cons k' rest =>
    rw [replace?] at h
    · cases hold : Json.lookup? k ms with
      | none => simp [hold] at h
      | some old =>
        cases old with
        | object inner =>
          simp only [hold] at h
          obtain ⟨inner', hinner, -⟩ := Option.map_eq_some_iff.1 h
          exact Or.inr ⟨k', rest, inner, inner', rfl, Json.mem_of_lookup? hold, hinner⟩
        | _ => simp [hold] at h
    · exact nofun

/-- The keys of the settings. -/
def keys : List Text := ["base_ref", "comment.marker_id", "comment.fence_language",
  "comment.max_length", "scan.path_filter", "scan.strict_parse", "scan.encoding"]

/-- A key of members that hold no objects has no dots in it. -/
theorem mem_of_replace? {v : Json} {k : Text} {rest : List Text} {ms ms' : List (Text × Json)}
    (hflat : ∀ m ∈ ms, ∀ inner, m.2 ≠ .object inner) (h : replace? v (k :: rest) ms = some ms') :
    rest = [] ∧ k ∈ ms.map Prod.fst := by
  rcases replace?_eq_some h with ⟨hrest, old, hmem, -⟩ | ⟨_, _, inner, _, _, hmem, _⟩
  · exact ⟨hrest, List.mem_map.2 ⟨_, hmem, rfl⟩⟩
  · exact absurd rfl (hflat _ hmem inner)

theorem mem_keys_of_withMember? {v : Json} {ms : List (Text × Json)}
    (h : s.withMember? key v = some ms) : key ∈ keys := by
  have hflatComment : ∀ m ∈ commentMembers s.comment, ∀ inner, m.2 ≠ .object inner := by
    simp [commentMembers]
  have hflatScan : ∀ m ∈ scanMembers s.scan, ∀ inner, m.2 ≠ .object inner := by
    simp [scanMembers]
  have hjoin := Text.join_splitOn dot key
  rw [withMember?] at h
  cases hkey : key.splitOn dot with
  | nil => simp [hkey, replace?] at h
  | cons k rest =>
    rw [hkey] at h hjoin
    rw [← hjoin]
    -- one part leads to the branch, two parts into the comment or the scan
    rcases replace?_eq_some h with ⟨rfl, old, hmem, hleaf⟩ |
      ⟨k', rest', inner, inner', rfl, hmem, hinner⟩
    · simp only [toMembers, List.mem_cons, Prod.mk.injEq, List.not_mem_nil, or_false] at hmem
      rcases hmem with ⟨rfl, -⟩ | ⟨-, rfl⟩ | ⟨-, rfl⟩
      · decide
      · exact absurd rfl (hleaf _)
      · exact absurd rfl (hleaf _)
    · simp only [toMembers, List.mem_cons, Prod.mk.injEq, reduceCtorEq, and_false, Json.object.injEq,
        List.not_mem_nil, or_false, false_or] at hmem
      rcases hmem with ⟨rfl, rfl⟩ | ⟨rfl, rfl⟩
      · obtain ⟨rfl, hk'⟩ := mem_of_replace? hflatComment hinner
        simp only [commentMembers, List.map_cons, List.map_nil, List.mem_cons, List.not_mem_nil,
          or_false] at hk'
        rcases hk' with rfl | rfl | rfl <;> decide
      · obtain ⟨rfl, hk'⟩ := mem_of_replace? hflatScan hinner
        simp only [scanMembers, List.map_cons, List.map_nil, List.mem_cons, List.not_mem_nil,
          or_false] at hk'
        rcases hk' with rfl | rfl | rfl <;> decide

/-- The keys of the settings are those of the fields. -/
theorem exists_field_iff : (∃ f : Field, f.key = key) ↔ key ∈ keys := by
  constructor
  · rintro ⟨f, rfl⟩
    cases f <;> decide
  · intro h
    simp only [keys, List.mem_cons, List.not_mem_nil, or_false] at h
    rcases h with rfl | rfl | rfl | rfl | rfl | rfl | rfl
    · exact ⟨.baseRef, rfl⟩
    · exact ⟨.markerId, rfl⟩
    · exact ⟨.fenceLanguage, rfl⟩
    · exact ⟨.maxLength, rfl⟩
    · exact ⟨.pathFilter, rfl⟩
    · exact ⟨.strictParse, rfl⟩
    · exact ⟨.encoding, rfl⟩

/-- A key of no field leads nowhere. -/
theorem changed_of_ne {v : Json} (h : ∀ f : Field, f.key ≠ key) :
    s.changed key v = .error (.unknownKey key) := by
  refine changed_of_none (Option.eq_none_iff_forall_ne_some.2 fun ms hms => ?_)
  obtain ⟨f, hf⟩ := exists_field_iff.2 (mem_keys_of_withMember? hms)
  exact h f hf

theorem changed_key_eq_ok_iff {f : Field} {v : Json} : s.changed f.key v = .ok new ↔
    ∃ a, f.check v = .ok a ∧ f.set a s = new := by
  rw [changed_key, Except.map_eq_ok_iff]
  simp only [Except.mapError_eq_ok_iff]

/-- The settings are changed by the key to others: the field that the key names has the value that
the text passes for, and all else is the same. -/
inductive Sets (s : Settings) (value : Text) : Text → Settings → Prop where
  | baseRef : Sets s value "base_ref" { s with baseRef := value }
  | markerId : Sets s value "comment.marker_id" { s with
      comment := { s.comment with markerId := value } }
  | fenceLanguage : Sets s value "comment.fence_language" { s with
      comment := { s.comment with fenceLanguage := value } }
  | maxLength {n : Int} : Check.whole (.text value) = .ok n →
      Sets s value "comment.max_length" { s with comment := { s.comment with maxLength := n } }
  | pathFilter : Sets s value "scan.path_filter" { s with
      scan := { s.scan with pathFilter := value } }
  | strictParse {b : Bool} : Check.truth (.text value) = .ok b →
      Sets s value "scan.strict_parse" { s with scan := { s.scan with strictParse := b } }
  | encoding : Sets s value "scan.encoding" { s with scan := { s.scan with encoding := value } }

/-- **A text that is given for a key** changes one field, and only that. -/
theorem changed_eq_ok_iff : s.changed key (.text value) = .ok new ↔ Sets s value key new := by
  constructor
  · intro h
    by_cases hkey : ∃ f : Field, f.key = key
    · obtain ⟨f, rfl⟩ := hkey
      obtain ⟨a, ha, rfl⟩ := changed_key_eq_ok_iff.1 h
      cases f with
      | maxLength => exact .maxLength ha
      | strictParse => exact .strictParse ha
      | baseRef => exact Except.ok.inj ha ▸ .baseRef
      | markerId => exact Except.ok.inj ha ▸ .markerId
      | fenceLanguage => exact Except.ok.inj ha ▸ .fenceLanguage
      | pathFilter => exact Except.ok.inj ha ▸ .pathFilter
      | encoding => exact Except.ok.inj ha ▸ .encoding
    · rw [changed_of_ne (not_exists.1 hkey)] at h
      cases h
  · intro h
    cases h with
    | baseRef => rfl
    | markerId => rfl
    | fenceLanguage => rfl
    | maxLength hn => exact (changed_key_eq_ok_iff (f := .maxLength)).2 ⟨_, hn, rfl⟩
    | pathFilter => rfl
    | strictParse hb => exact (changed_key_eq_ok_iff (f := .strictParse)).2 ⟨_, hb, rfl⟩
    | encoding => rfl

theorem Sets.unique {new' : Settings} (h : Sets s value key new) (h' : Sets s value key new') :
    new' = new := by
  rw [← changed_eq_ok_iff] at h h'
  exact Except.ok.inj (h'.symm.trans h)

/-! ### A change of one setting and others -/

theorem yields_iff {x : Except Failure Settings} {v : Json} :
    (s.withKey key v).Yields x ↔ s.changed key v = x := by
  constructor
  · intro h
    -- any surroundings tell the result
    have heq := (s.yields_withKey key v { files := { root := [] } }).symm.trans (h _)
    exact congrArg Prod.fst heq
  · rintro rfl
    exact s.yields_withKey key v

/-- Keys whose form tells that they are of no field: the name of a section, a key with an empty
part, and one that goes on below a field. -/
inductive Astray : Text → Prop where
  | comment : Astray "comment"
  | scan : Astray "scan"
  | emptyPart {key : Text} : [] ∈ key.splitOn dot → Astray key
  | below (f : Field) (more : Text) : Astray (f.key ++ dot :: more)

theorem Astray.ne_key (h : Astray key) (f : Field) : f.key ≠ key := by
  cases h with
  | comment => cases f <;> decide
  | scan => cases f <;> decide
  | emptyPart hmem =>
    rintro rfl
    exact f.nil_not_mem_splitOn_key hmem
  | below g more => exact g.key_ne_append f more

/-- A change succeeds only of a field, and if its value passes. -/
theorem exists_of_changed_eq_ok {v : Json} (h : s.changed key v = .ok new) :
    ∃ (f : Field) (a : f.Value), f.key = key ∧ f.check v = .ok a ∧ f.set a s = new := by
  by_cases hkey : ∃ f : Field, f.key = key
  · obtain ⟨f, rfl⟩ := hkey
    obtain ⟨a, ha, hset⟩ := changed_key_eq_ok_iff.1 h
    exact ⟨f, a, rfl, ha, hset⟩
  · rw [changed_of_ne (not_exists.1 hkey)] at h
    cases h

/-- Changes of two fields commute. -/
theorem changed_comm {key' : Text} {v v' : Json} {new' : Settings} (hne : key ≠ key')
    (h : s.changed key v = .ok new) (h' : s.changed key' v' = .ok new') :
    ∃ last, new.changed key' v' = .ok last ∧ new'.changed key v = .ok last := by
  obtain ⟨f, a, rfl, ha, rfl⟩ := exists_of_changed_eq_ok h
  obtain ⟨g, b, rfl, hb, rfl⟩ := exists_of_changed_eq_ok h'
  have hfields : g ≠ f := by
    rintro rfl
    exact hne rfl
  refine ⟨g.set b (f.set a s), changed_key_eq_ok_iff.2 ⟨b, hb, rfl⟩, ?_⟩
  exact changed_key_eq_ok_iff.2 ⟨a, ha, (Field.set_comm hfields a b s).symm⟩

/-- Of two changes of a field the last one counts, also if it fails. -/
theorem changed_changed {v v' : Json} (h : s.changed key v = .ok new) :
    new.changed key v' = s.changed key v' := by
  obtain ⟨f, a, rfl, -, rfl⟩ := exists_of_changed_eq_ok h
  rw [changed_key, changed_key]
  cases f.check v' with
  | error issues => rfl
  | ok b => exact congrArg Except.ok (f.set_set a b s)

/-- **A change of one setting changes that field and nothing else.**  The key is refused exactly if
it is of no field, which is so of the name of a section, of a key with an empty part, and of one
that goes on below a field.  The value is refused exactly if it does not pass the check of the
field, with its issues at the end of the path of the field.  Else the field holds what the value
comes to, and every other field what it held before.  So changes of two fields that succeed commute,
and of two changes of one field the last one counts. -/
theorem withKey_frame (s : Settings) :
    (∀ key v, (s.withKey key v).Yields (.error (.unknownKey key)) ↔ ∀ f : Field, f.key ≠ key) ∧
    (∀ key, Astray key → ∀ f : Field, f.key ≠ key) ∧
    (∀ (f : Field) v issues, f.check v = .error issues → (s.withKey f.key v).Yields
      (.error (.invalid "BotConfig" (issues.map (Issue.under f.path))))) ∧
    (∀ (f : Field) v a, f.check v = .ok a → ∃ new, (s.withKey f.key v).Yields (.ok new) ∧
      f.get new = a ∧ ∀ g : Field, g ≠ f → g.get new = g.get s) ∧
    (∀ key key' v v' new new', key ≠ key' →
      (s.withKey key v).Yields (.ok new) → (s.withKey key' v').Yields (.ok new') →
      ∃ last, (new.withKey key' v').Yields (.ok last) ∧ (new'.withKey key v).Yields (.ok last)) ∧
    (∀ key v v' new x, (s.withKey key v).Yields (.ok new) →
      ((new.withKey key v').Yields x ↔ (s.withKey key v').Yields x)) := by
  simp only [yields_iff]
  refine ⟨fun key v => ⟨fun h f hf => ?_, changed_of_ne⟩, fun key h => h.ne_key,
    fun f v issues h => ?_, fun f v a h => ?_, fun key key' v v' new new' => changed_comm,
    fun key v v' new x h => by rw [changed_changed h]⟩
  · rw [← hf, changed_key] at h
    cases hcheck : f.check v with
    | ok a => simp [hcheck, Except.mapError, Except.map] at h
    | error issues => simp [hcheck, Except.mapError, Except.map] at h
  · rw [changed_key, h]
    rfl
  · exact ⟨f.set a s, changed_key_eq_ok_iff.2 ⟨a, h, rfl⟩, f.get_set a s,
      fun g hg => Field.get_set_of_ne hg a s⟩

end Settings

end PullNotes
