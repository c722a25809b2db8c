import Mathlib.Data.List.Forall2
import PullNotes.Comment.Basic
import PullNotes.Proofs.Json.Writing

/-!
# Listings of comments

A listing has one object on each line, in ASCII, which tells the number and the body of a comment.
However the objects are spelled, reading the listing gives the comments in order, unless a number in
it is too long to be read.

* `Comment.IsLine`, `Comment.Lists` : a line about a comment, and a listing.
* `Comment.Lists.ofListing_eq` : what is read of a listing.
-/

namespace PullNotes

open CodePoint (ofChar)

namespace Text

theorem isLineBoundary_of_visible {c : CodePoint} (hvisible : Json.isVisible c = true)
    (hascii : c.isAscii = true) (hfeed : c ≠ CodePoint.lineFeed)
    (hreturn : c ≠ CodePoint.carriageReturn) : c.isLineBoundary = false := by
  have hfeed' : c.val ≠ 10 := fun h => hfeed (Fin.ext h)
  have hreturn' : c.val ≠ 13 := fun h => hreturn (Fin.ext h)
  simp only [Json.isVisible, Json.isSpace, Bool.or_eq_true, decide_eq_true_eq] at hvisible
  simp only [CodePoint.isAscii, decide_eq_true_eq] at hascii
  simp only [CodePoint.isLineBoundary, Bool.or_eq_false_iff, Bool.and_eq_false_iff,
    decide_eq_false_iff_not]
  omega

/-- A line with no boundary in it is the first line of a text that goes on after a line feed. -/
theorem lines_append_lineFeed {line : Text} (h : ∀ c ∈ line, c.isLineBoundary = false)
    (rest : Text) : lines (line ++ CodePoint.lineFeed :: rest) = line :: lines rest := by
  induction line with
  | nil =>
    cases rest with
    | nil => rfl
    | cons d rest =>
      rw [List.nil_append, lines, if_neg (fun h => absurd h.1 (by decide)), if_pos (by decide)]
  | cons c line ih =>
    obtain ⟨hc, hline⟩ := List.forall_mem_cons.1 h
    obtain ⟨d, more, hmore⟩ := List.exists_cons_of_ne_nil
      (List.append_ne_nil_of_right_ne_nil line (List.cons_ne_nil CodePoint.lineFeed rest))
    have hreturn : c ≠ CodePoint.carriageReturn := by
      rintro rfl
      exact absurd hc (by decide)
    rw [List.cons_append, hmore, lines, if_neg (fun h => hreturn h.1), hc, ← hmore, ih hline]
    rfl

end Text

namespace Comment

/-- The text is an object that tells the number of a comment. -/
def Tells (allowed : Int → Prop) (id : Int) (t : Text) : Prop :=
  ∃ members, Json.Spells allowed t (.object members) ∧
    Json.lookup? "id" members = some (.whole id)

/-- The text is a line about a comment: an object in ASCII that tells its number and its body. -/
def IsLine (allowed : Int → Prop) (c : Comment) (line : Text) : Prop :=
  (∀ x ∈ line, x.isAscii = true ∧ x ≠ CodePoint.lineFeed ∧ x ≠ CodePoint.carriageReturn) ∧
  ∃ members, Json.Spells allowed line (.object members) ∧
    Json.lookup? "id" members = some (.whole c.id) ∧
    Json.lookup? "body" members = some (.text c.body)

/-- The text is a listing of comments: a line about each, in order. -/
def Lists (allowed : Int → Prop) (comments : List Comment) (output : Text) : Prop :=
  ∃ lines, List.Forall₂ (IsLine allowed) comments lines ∧
    output = lines.flatMap fun line => line ++ [CodePoint.lineFeed]

/-! ### Reading an object -/

theorem ofMembers_eq (id : Int) (body : Json) :
    ofMembers [(Text.ofString "id", .whole id), (Text.ofString "body", body)] =
      match Check.text body with
      | .ok b => .ok ⟨id, b⟩
      | .error issues => .error (issues.map (Issue.below "body")) := by
  cases body <;> rfl

theorem bodyGiven_of_text {members : List (Text × Json)} {body : Text}
    (h : Json.lookup? "body" members = some (.text body)) : bodyGiven members = .text body := by
  cases body with
  | nil => simp only [bodyGiven, h]; rfl
  | cons c body => simp only [bodyGiven, h]; rfl

theorem ofAnswer_eq {members : List (Text × Json)} {id : Int}
    (h : Json.lookup? "id" members = some (.whole id)) :
    ofAnswer (.object members) =
      match Check.text (bodyGiven members) with
      | .ok b => .ok ⟨id, b⟩
      | .error issues => .error (.invalid (issues.map (Issue.below "body"))) := by
  simp only [ofAnswer, h, ofMembers_eq]
  cases Check.text (bodyGiven members) <;> rfl

variable {allowed : Int → Prop}

/-- The comment that an answer describes has the number that the answer tells. -/
theorem Tells.id_eq {id : Int} {t : Text} {c : Comment} (h : Tells allowed id t)
    (hc : ofText t = .ok c) : c.id = id := by
  obtain ⟨members, hspells, hid⟩ := h
  rw [ofText] at hc
  cases hread : Json.read t with
  | error e =>
    rw [hread] at hc
    cases hc
  | ok v =>
    obtain rfl := hspells.eq_of_read hread
    simp only [hread, ofAnswer_eq hid] at hc
    cases htext : Check.text (bodyGiven members) with
    | error issues =>
      rw [htext] at hc
      cases hc
    | ok body =>
      rw [htext] at hc
      cases hc
      rfl

/-- A line about a comment is read as the comment. -/
theorem IsLine.ofText_eq {c : Comment} {line : Text} (h : IsLine allowed c line) :
    ofText line = .ok c ∨
      ∃ n e, allowed n ∧ Json.TooLong n ∧ ofText line = .error (.json (.numeral e)) := by
  obtain ⟨_, members, hspells, hid, hbody⟩ := h
  rw [ofText]
  rcases hspells.read_eq with hread | ⟨n, e, hn, hlong, hread⟩
  · rw [hread]
    simp only [ofAnswer_eq hid, bodyGiven_of_text hbody]
    exact Or.inl rfl
  · rw [hread]
    exact Or.inr ⟨n, e, hn, hlong, rfl⟩

/-! ### Reading a listing -/

theorem IsLine.isLineBoundary_eq {c : Comment} {line : Text} (h : IsLine allowed c line) :
    ∀ x ∈ line, x.isLineBoundary = false := by
  obtain ⟨hascii, members, hspells, _⟩ := h
  intro x hx
  obtain ⟨hx', hfeed, hreturn⟩ := hascii x hx
  exact Text.isLineBoundary_of_visible (hspells.visible x hx) hx' hfeed hreturn

theorem IsLine.isBlank_eq {c : Comment} {line : Text} (h : IsLine allowed c line) :
    line.isBlank = false := by
  obtain ⟨_, members, hspells, _⟩ := h
  have hhead : ofChar '\x7b' ∈ line := by
    cases hspells with
    | emptyObject _ => exact List.mem_cons_self
    | object _ => exact List.mem_cons_self
  rw [Text.isBlank, List.all_eq_false]
  exact ⟨_, hhead, by decide⟩

theorem lines_flatMap {lines : List Text}
    (h : ∀ line ∈ lines, ∀ c ∈ line, c.isLineBoundary = false) :
    Text.lines (lines.flatMap fun line => line ++ [CodePoint.lineFeed]) = lines := by
  induction lines with
  | nil => rfl
  | cons line lines ih =>
    obtain ⟨hline, hlines⟩ := List.forall_mem_cons.1 h
    rw [List.flatMap_cons, List.append_assoc, List.singleton_append,
      Text.lines_append_lineFeed hline, ih hlines]

/-- **A listing is read as the comments that it lists**, unless a number in it is too long. -/
theorem Lists.ofListing_eq {comments : List Comment} {output : Text}
    (h : Lists allowed comments output) :
    ofListing output = .ok comments ∨
      ∃ n e, allowed n ∧ Json.TooLong n ∧ ofListing output = .error (.json (.numeral e)) := by
  obtain ⟨lines, hlines, rfl⟩ := h
  have hall : ∀ line ∈ lines, ∃ c, IsLine allowed c line := by
    induction hlines with
    | nil => exact List.forall_mem_nil _
    | cons hline _ ih => exact List.forall_mem_cons.2 ⟨⟨_, hline⟩, ih⟩
  have hsplit : Text.lines (lines.flatMap fun line => line ++ [CodePoint.lineFeed]) = lines := by
    refine lines_flatMap fun line hline => ?_
    obtain ⟨c, hc⟩ := hall line hline
    exact hc.isLineBoundary_eq
  have hkept : lines.filter (fun line => !line.isBlank) = lines := by
    refine List.filter_eq_self.2 fun line hline => ?_
    obtain ⟨c, hc⟩ := hall line hline
    rw [hc.isBlank_eq]
    rfl
  rw [ofListing, hsplit, hkept]
  -- the lines are read one after another, and the first number that is too long ends it
  clear hall hsplit hkept
  induction hlines with
  | nil => exact Or.inl rfl
  | @cons c line comments lines hline _ ih =>
    rw [List.mapM_cons]
    rcases hline.ofText_eq with hread | ⟨n, e, hn, hlong, hread⟩
    · rcases ih with hrest | ⟨n, e, hn, hlong, hrest⟩
      · rw [hread, hrest]
        exact Or.inl rfl
      · rw [hread, hrest]
        exact Or.inr ⟨n, e, hn, hlong, rfl⟩
    · rw [hread]
      exact Or.inr ⟨n, e, hn, hlong, rfl⟩

/-- The comments that are read of a listing are those that it lists. -/
theorem Lists.eq_of_ofListing {comments comments' : List Comment} {output : Text}
    (h : Lists allowed comments output) (hread : ofListing output = .ok comments') :
    comments' = comments := by
  rcases h.ofListing_eq with hlisted | ⟨n, e, _, _, herror⟩
  · exact Except.ok.inj (hread.symm.trans hlisted)
  · cases herror.symm.trans hread

/-! ### Written listings -/

/-- A comment as an object. -/
def toJson (c : Comment) : Json :=
  .object [(Text.ofString "id", .whole c.id), (Text.ofString "body", .text c.body)]

/-- A comment as a line of a listing. -/
def line (c : Comment) : Text := c.toJson.written .line

/-- A listing of comments. -/
def listing (comments : List Comment) : Text :=
  (comments.map line).flatMap fun line => line ++ [CodePoint.lineFeed]

theorem spells_line (allowed : Int → Prop) {c : Comment} (hbody : c.body.merged = c.body)
    (hid : allowed c.id) : Json.Spells allowed c.line c.toJson := by
  have hkeys : [Text.ofString "id", Text.ofString "body"].Nodup := by decide
  exact Json.spells_written .line
    ⟨hkeys, Text.merged_ofString _, hid, Text.merged_ofString _, hbody, trivial⟩

theorem line_eq (c : Comment) : c.line = Text.ofString "\x7b" ++ (Json.writtenText "id" ++
    (Text.ofString ": " ++ (Text.ofInt c.id ++ (Text.ofString ", " ++ (Json.writtenText "body" ++
      (Text.ofString ": " ++ (Json.writtenText c.body ++ Text.ofString "\x7d"))))))) := by
  simp only [line, toJson, Json.written, Json.writtenAt, Json.bracketed, Json.writtenMembers,
    List.isEmpty_cons, Bool.false_eq_true, if_false, Text.concat, Text.join, Json.Layout.newLine,
    Json.Layout.separator, List.intercalate_cons_cons, List.intercalate_singleton,
    List.flatten_cons, List.flatten_nil, List.append_assoc, List.nil_append, List.append_nil]

theorem printable_line (c : Comment) : Json.Printable c.line := by
  have hword : ∀ s : String, (Text.ofString s).all (fun x => 32 ≤ x.val && x.val < 127) = true →
      Json.Printable s := by
    intro s hs x hx
    simpa using List.all_eq_true.1 hs x hx
  rw [line_eq]
  exact (hword "\x7b" (by decide)).append ((Json.printable_writtenText _).append
    ((hword ": " (by decide)).append ((Json.printable_ofInt _).append
      ((hword ", " (by decide)).append ((Json.printable_writtenText _).append
        ((hword ": " (by decide)).append ((Json.printable_writtenText _).append
          (hword "\x7d" (by decide)))))))))

theorem isLine_line (allowed : Int → Prop) {c : Comment} (hbody : c.body.merged = c.body)
    (hid : allowed c.id) : IsLine allowed c c.line := by
  refine ⟨fun x hx => ?_, _, spells_line allowed hbody hid, rfl, rfl⟩
  obtain ⟨hlower, hupper⟩ := printable_line c x hx
  refine ⟨by rw [CodePoint.isAscii, decide_eq_true_eq]; omega, ?_, ?_⟩
  · rintro rfl
    exact absurd hlower (by decide)
  · rintro rfl
    exact absurd hlower (by decide)

theorem lists_listing (allowed : Int → Prop) {comments : List Comment}
    (h : ∀ c ∈ comments, c.body.merged = c.body ∧ allowed c.id) :
    Lists allowed comments (listing comments) := by
  refine ⟨comments.map line, ?_, rfl⟩
  rw [List.forall₂_map_right_iff, List.forall₂_same]
  exact fun c hc => isLine_line allowed (h c hc).1 (h c hc).2

theorem tells_line (allowed : Int → Prop) {c : Comment} (hbody : c.body.merged = c.body)
    (hid : allowed c.id) : Tells allowed c.id c.line :=
  ⟨_, spells_line allowed hbody hid, rfl⟩

end Comment

end PullNotes
