import PullNotes.Proofs.OwnComment

/-!
# Two reviewers

Two reviewers of one discussion know their comments by tokens, and a body may well have the token of
the other reviewer: the marker of a longer id has the token of a shorter one, and what a body shows
of the files is anybody's.  The comment of the reviewer that came first stands before that of the
other, so its own turns find it.  A turn of the other one finds it too if it has the token of the
other one at that moment, and takes it over.

* `Discussion.Undisturbed` : no turn updates a comment that the other reviewer wrote last.
* `Discussion.Clear` : no turn of the other reviewer meets its token in the comment of the first.
* `Discussion.Stands` : the invariant, that each reviewer has one comment.
* `Discussion.Stands.turn_first`, `Discussion.Stands.turn_other`, `Discussion.Stands.disturbs` :
  what a turn does to it.
* `Discussion.Stands.history` : what all turns do.
* `Discussion.undisturbed_iff_clear` : when two reviewers keep a comment each.
-/

namespace PullNotes

/-- A review by one of two reviewers, and its outcome. -/
structure Turn where
  who : Bool
  visit : Visit
  outcome : Outcome

namespace Turn

/-- What happens to a discussion in a turn. -/
def event (t : Turn) : Event := .review t.visit t.outcome

/-- Who wrote each comment last, given who did before the turn. -/
def writers (t : Turn) (writer : Int → Option Bool) (id : Int) : Option Bool :=
  if t.outcome.sync.map SyncResult.commentId = some id then some t.who else writer id

/-- The turn updates a comment that the other reviewer wrote last. -/
def Disturbs (t : Turn) (writer : Int → Option Bool) : Prop :=
  ∃ id, t.outcome.sync = some ⟨.updated, id⟩ ∧ writer id = some (!t.who)

/-- The turn looks for the token of its reviewer, and what it keeps has the token. -/
structure Signed (token : Bool → Text) (t : Turn) : Prop where
  token_eq : t.visit.token = token t.who
  infix_kept : token t.who <:+: t.outcome.kept

theorem writers_of_sync {t : Turn} {action : SyncAction} {id : Int}
    (h : t.outcome.sync = some ⟨action, id⟩) (writer : Int → Option Bool) :
    t.writers writer id = some t.who := by
  rw [writers, h]
  exact if_pos rfl

theorem writers_of_ne {t : Turn} {action : SyncAction} {id id' : Int}
    (h : t.outcome.sync = some ⟨action, id⟩) (hne : id ≠ id') (writer : Int → Option Bool) :
    t.writers writer id' = writer id' := by
  rw [writers, h]
  exact if_neg fun heq => hne (Option.some.inj heq)

/-- A turn that creates a comment disturbs nobody. -/
theorem not_disturbs_of_created {t : Turn} {id : Int} (h : t.outcome.sync = some ⟨.created, id⟩)
    (writer : Int → Option Bool) : ¬ t.Disturbs writer := by
  rintro ⟨id', hsync, _⟩
  cases h.symm.trans hsync

/-- A turn that updates the comment of its own reviewer disturbs nobody. -/
theorem not_disturbs_of_updated {t : Turn} {id : Int} (h : t.outcome.sync = some ⟨.updated, id⟩)
    {writer : Int → Option Bool} (hwriter : writer id = some t.who) : ¬ t.Disturbs writer := by
  rintro ⟨id', hsync, hother⟩
  cases h.symm.trans hsync
  exact (Bool.not_eq_self _).1 (Option.some.inj (hother.symm.trans hwriter))

end Turn

namespace Discussion

/-- No turn updates a comment that the other reviewer wrote last, given who wrote each comment
before. -/
def Undisturbed : (Int → Option Bool) → List Turn → Prop
  | _, [] => True
  | writer, t :: turns => ¬ t.Disturbs writer ∧ Undisturbed (t.writers writer) turns

/-- No turn of the other reviewer meets its token in what the first reviewer kept last, given what
the first reviewer kept before. -/
def Clear (first : Bool) (token : Text) : Text → List Turn → Prop
  | _, [] => True
  | held, t :: turns =>
    if t.who = first then Clear first token t.outcome.kept turns
    else ¬ token <:+: held ∧ Clear first token held turns

/-- What a reviewer kept in its last turn, given what it kept before. -/
def lastKept (who : Bool) : Option Text → List Turn → Option Text
  | kept, [] => kept
  | kept, t :: turns => lastKept who (if t.who = who then some t.outcome.kept else kept) turns

/-- The first reviewer has a comment after those of others, the other reviewer has at most one and
it comes last, and each comment has the token of the reviewer who wrote it. -/
structure Stands (token : Bool → Text) (first : Bool) (front : List Comment) (own : Int)
    (held : Text) (other : Option Comment) (writer : Int → Option Bool) (d : Discussion) :
    Prop where
  comments_eq : d.comments = front ++ ⟨own, held⟩ :: other.toList
  unmarked : ∀ who, ∀ c ∈ front, ¬ token who <:+: c.body
  marked : token first <:+: held
  marked_other : ∀ c ∈ other, token (!first) <:+: c.body
  writer_own : writer own = some first
  writer_other : ∀ c ∈ other, writer c.id = some (!first)

variable {r : PullRequest} {token : Bool → Text} {first : Bool} {front : List Comment} {own : Int}
  {held : Text} {other : Option Comment} {writer : Int → Option Bool} {d d' : Discussion} {t : Turn}
  {turns : List Turn}

theorem Stands.owned (h : Stands token first front own held other writer d) :
    Owned (token first) front own held other.toList d :=
  ⟨h.comments_eq, h.unmarked first, h.marked⟩

/-- The two comments are different ones. -/
theorem Stands.ne_own (h : Stands token first front own held other writer d) {c : Comment}
    (hc : c ∈ other) : own ≠ c.id := by
  intro heq
  have hother := h.writer_other c hc
  rw [← heq, h.writer_own] at hother
  exact (Bool.eq_not_self _).1 (Option.some.inj hother)

/-- A turn of the first reviewer replaces the body of its comment. -/
theorem Stands.turn_first (h : Stands token first front own held other writer d)
    (hreview : Reviewed r d t.visit t.outcome d') (hsigned : t.Signed token)
    (hwho : t.who = first) : ¬ t.Disturbs writer ∧
      Stands token first front own t.outcome.kept other (t.writers writer) d' := by
  subst hwho
  obtain ⟨hsync, rfl⟩ := h.owned.of_reviewed hreview hsigned.token_eq
  refine ⟨Turn.not_disturbs_of_updated hsync h.writer_own,
    ⟨(h.owned.replace hsigned.infix_kept).comments_eq, h.unmarked, hsigned.infix_kept,
      h.marked_other, Turn.writers_of_sync hsync writer, fun c hc => ?_⟩⟩
  rw [Turn.writers_of_ne hsync (h.ne_own hc)]
  exact h.writer_other c hc

/-- The other reviewer has a comment once its turn has written one that is not the first's. -/
theorem Stands.write_other (h : Stands token first front own held other writer d)
    {action : SyncAction} {id : Int} (hsync : t.outcome.sync = some ⟨action, id⟩) (hne : id ≠ own)
    (hwho : t.who = !first) (hkept : token (!first) <:+: t.outcome.kept)
    (hcomments : d'.comments = (front ++ [⟨own, held⟩]) ++ [⟨id, t.outcome.kept⟩]) :
    Stands token first front own held (some ⟨id, t.outcome.kept⟩) (t.writers writer) d' where
  comments_eq := by
    rw [hcomments, List.append_assoc]
    rfl
  unmarked := h.unmarked
  marked := h.marked
  marked_other c hc := Option.some.inj hc ▸ hkept
  writer_own := by rw [Turn.writers_of_ne hsync hne, h.writer_own]
  writer_other c hc := by rw [← Option.some.inj hc, Turn.writers_of_sync hsync, hwho]

/-- A turn of the other reviewer that meets no token in the comment of the first creates a comment
of its own or replaces its body. -/
theorem Stands.turn_other (h : Stands token first front own held other writer d)
    (hreview : Reviewed r d t.visit t.outcome d') (hsigned : t.Signed token) (hwho : t.who = !first)
    (hclear : ¬ token (!first) <:+: held) : ¬ t.Disturbs writer ∧
      ∃ id,
        Stands token first front own held (some ⟨id, t.outcome.kept⟩) (t.writers writer) d' := by
  have hkept := hsigned.infix_kept
  have htoken := hsigned.token_eq
  rw [hwho] at hkept htoken
  -- as the first comment does not have the token either, that of the other reviewer is the first
  have hfront : ∀ c ∈ front ++ [⟨own, held⟩], ¬ token (!first) <:+: c.body :=
    List.forall_mem_append.2 ⟨h.unmarked _, List.forall_mem_singleton.2 hclear⟩
  have hcomments := h.comments_eq
  cases other with
  | none =>
    obtain ⟨id, hnew, hsync, rfl⟩ := hreview.of_unmarked (htoken ▸ hcomments ▸ hfront)
    have hne : id ≠ own := by
      rintro rfl
      refine hnew (List.mem_map.2 ⟨⟨id, held⟩, ?_, rfl⟩)
      rw [hcomments]
      exact List.mem_append_right _ List.mem_cons_self
    refine ⟨Turn.not_disturbs_of_created hsync writer, id,
      h.write_other hsync hne hwho hkept ?_⟩
    rw [add_comments, hcomments]
    rfl
  | some c =>
    have howned : Owned (token (!first)) (front ++ [⟨own, held⟩]) c.id c.body [] d := by
      refine ⟨?_, hfront, h.marked_other c rfl⟩
      rw [hcomments, List.append_assoc]
      rfl
    obtain ⟨hsync, rfl⟩ := howned.of_reviewed hreview htoken
    have hwriter : writer c.id = some t.who := by rw [h.writer_other c rfl, hwho]
    exact ⟨Turn.not_disturbs_of_updated hsync hwriter, c.id,
      h.write_other hsync (h.ne_own rfl).symm hwho hkept (howned.replace hkept).comments_eq⟩

/-- A turn of the other reviewer that meets its token in the comment of the first takes it over. -/
theorem Stands.disturbs (h : Stands token first front own held other writer d)
    (hreview : Reviewed r d t.visit t.outcome d') (hsigned : t.Signed token) (hwho : t.who = !first)
    (hmet : token (!first) <:+: held) : t.Disturbs writer := by
  have howned : Owned (token (!first)) front own held other.toList d :=
    ⟨h.comments_eq, h.unmarked _, hmet⟩
  obtain ⟨hsync, _⟩ := howned.of_reviewed hreview (by rw [hsigned.token_eq, hwho])
  refine ⟨own, hsync, ?_⟩
  rw [h.writer_own, hwho, Bool.not_not]

/-- **What all turns do**: each reviewer keeps its comment exactly as long as no turn of the other
reviewer meets its token in the comment of the first. -/
theorem Stands.history (h : Stands token first front own held other writer d)
    (hhistory : History r d (turns.map Turn.event) d') (hsigned : ∀ t ∈ turns, t.Signed token) :
    (Undisturbed writer turns ↔ Clear first (token (!first)) held turns) ∧
      (Clear first (token (!first)) held turns → ∃ (held' : Text) (other' : Option Comment),
        lastKept first (some held) turns = some held' ∧
        lastKept (!first) (other.map Comment.body) turns = other'.map Comment.body ∧
        d'.comments = front ++ ⟨own, held'⟩ :: other'.toList) := by
  induction turns generalizing held other writer d with
  | nil =>
    cases hhistory
    exact ⟨Iff.rfl, fun _ => ⟨held, other, rfl, rfl, h.comments_eq⟩⟩
  | cons t turns ih =>
    obtain ⟨ht, hlater⟩ := List.forall_mem_cons.1 hsigned
    cases hhistory with
    | cons hhappens hrest =>
      cases hhappens with
      | review hreview =>
        rw [Undisturbed, Clear, lastKept, lastKept]
        by_cases hwho : t.who = first
        · obtain ⟨hquiet, hstands⟩ := h.turn_first hreview ht hwho
          rw [if_pos hwho, if_pos hwho, if_neg (by rw [hwho]; exact (Bool.eq_not_self _).1)]
          obtain ⟨hiff, hafter⟩ := ih hstands hrest hlater
          exact ⟨(and_iff_right hquiet).trans hiff, hafter⟩
        · have hother := Bool.eq_not_of_ne hwho
          rw [if_neg hwho, if_neg hwho, if_pos hother]
          by_cases hmet : token (!first) <:+: held
          · -- both sides fail at this turn, whatever comes after it
            have hdisturbs := h.disturbs hreview ht hother hmet
            exact ⟨iff_of_false (fun hquiet => hquiet.1 hdisturbs) (fun hclear => hclear.1 hmet),
              fun hclear => absurd hmet hclear.1⟩
          · obtain ⟨hquiet, id, hstands⟩ := h.turn_other hreview ht hother hmet
            obtain ⟨hiff, hafter⟩ := ih hstands hrest hlater
            exact ⟨and_congr (iff_of_true hquiet hmet) hiff, fun hclear => hafter hclear.2⟩

/-! ### Markers -/

/-- The token of a reviewer with an id. -/
def tokenOf (id : Text) : Text := CommentSettings.searchToken { markerId := id }

theorem tokenOf_mono {id id' : Text} (h : id <+: id') : tokenOf id <+: tokenOf id' := by
  simp only [tokenOf, CommentSettings.searchToken, Text.concat, List.flatten_cons, List.flatten_nil,
    List.append_nil]
  exact (List.prefix_append_right_inj _).2 h

/-- The body of a review in a history is the one that it composes. -/
theorem History.body_eq {events : List Event} (h : History r d events d') {v : Visit} {o : Outcome}
    (hmem : Event.review v o ∈ events) : o.body = Review.body v.settings.comment o.digests := by
  induction h with
  | nil => cases hmem
  | cons hhappens _ ih =>
    rcases List.mem_cons.1 hmem with rfl | hmem
    · cases hhappens with
      | review hreview => exact hreview.step.2.1
    · exact ih hmem

/-- The ids of two reviewers mark the bodies of their turns, and no body is clipped. -/
structure MarkedBy (ids : Bool → Text) (t : Turn) : Prop where
  markerId_eq : t.visit.settings.comment.markerId = ids t.who
  unclipped : Review.Unclipped t.visit.settings.comment t.outcome.digests

theorem MarkedBy.signed {ids : Bool → Text} (h : MarkedBy ids t)
    (hids : ∀ who, (ids who).merged = ids who)
    (hbody : t.outcome.body = Review.body t.visit.settings.comment t.outcome.digests) :
    t.Signed (fun who => tokenOf (ids who)) := by
  have htoken : t.visit.token = tokenOf (ids t.who) := by
    rw [Visit.token, CommentSettings.searchToken, h.markerId_eq]
    rfl
  refine ⟨htoken, ?_⟩
  rw [← htoken]
  refine (CommentSettings.searchToken_infix_marker _).trans
    (Review.marker_prefix_merged ?_ ?_).isInfix
  · rw [h.markerId_eq, hids]
  · rw [hbody]
    exact h.unclipped.marker_prefix_body

theorem exists_lastKept {who : Bool} : ∀ {kept : Option Text} {turns : List Turn},
    (kept.isSome ∨ ∃ t ∈ turns, t.who = who) → ∃ body, lastKept who kept turns = some body
  | some body, [], _ => ⟨body, rfl⟩
  | none, [], h => by
    rcases h with h | ⟨t, hmem, _⟩
    · cases h
    · cases hmem
  | kept, t :: turns, h => by
    rw [lastKept]
    refine exists_lastKept ?_
    by_cases hwho : t.who = who
    · rw [if_pos hwho]
      exact Or.inl rfl
    · rw [if_neg hwho]
      rcases h with h | ⟨u, hmem, hu⟩
      · exact Or.inl h
      · rcases List.mem_cons.1 hmem with rfl | hmem
        · exact absurd hu hwho
        · exact Or.inr ⟨u, hmem, hu⟩

/-- The other reviewer meets its token if all that the first one keeps has it. -/
theorem not_clear {token : Text} (hheld : token <:+: held)
    (hturns : ∀ t ∈ turns, t.who = first → token <:+: t.outcome.kept)
    (hother : ∃ t ∈ turns, t.who = !first) : ¬ Clear first token held turns := by
  induction turns generalizing held with
  | nil =>
    obtain ⟨_, hmem, _⟩ := hother
    cases hmem
  | cons t turns ih =>
    obtain ⟨ht, hlater⟩ := List.forall_mem_cons.1 hturns
    rw [Clear]
    by_cases hwho : t.who = first
    · rw [if_pos hwho]
      refine ih (ht hwho) hlater ?_
      obtain ⟨u, hmem, hu⟩ := hother
      rcases List.mem_cons.1 hmem with rfl | hmem
      · exact absurd (hwho.symm.trans hu) (Bool.eq_not_self _).1
      · exact ⟨u, hmem, hu⟩
    · rw [if_neg hwho]
      exact fun hclear => hclear.1 hheld

/-- **When two reviewers keep a comment each.**  Of two reviewers whose comments nobody has marked
before, each ends with one comment that has the body of its last turn, and never touches that of the
other, exactly if the one that came later never meets its token in what the first one kept last.  It
does meet it if its id is the start of the other id. -/
theorem undisturbed_iff_clear {before after : Discussion} {ids : Bool → Text}
    (hhistory : History r before ((t :: turns).map Turn.event) after)
    (hbefore : ∀ who, ∀ c ∈ before.comments, ¬ tokenOf (ids who) <:+: c.body)
    (hids : ∀ who, (ids who).merged = ids who) (hturns : ∀ u ∈ t :: turns, MarkedBy ids u)
    (hother : ∃ u ∈ turns, u.who = !t.who) :
    ((Undisturbed (fun _ => none) (t :: turns) ∧ ∃ own other held kept,
        lastKept t.who none (t :: turns) = some held ∧
        lastKept (!t.who) none (t :: turns) = some kept ∧
        after.comments = before.comments ++ [⟨own, held⟩, ⟨other, kept⟩]) ↔
      Clear t.who (tokenOf (ids (!t.who))) t.outcome.kept turns) ∧
    (ids (!t.who) <+: ids t.who →
      ¬ Clear t.who (tokenOf (ids (!t.who))) t.outcome.kept turns) := by
  have hsigned : ∀ u ∈ t :: turns, u.Signed fun who => tokenOf (ids who) := fun u hu =>
    (hturns u hu).signed hids (hhistory.body_eq (List.mem_map_of_mem hu))
  obtain ⟨ht, hlater⟩ := List.forall_mem_cons.1 hsigned
  refine ⟨?_, fun hstarts => ?_⟩
  · cases hhistory with
    | cons hhappens hrest =>
      cases hhappens with
      | review hreview =>
        -- the first turn finds no comment with its token, so it creates the comment of its reviewer
        obtain ⟨own, hnew, hsync, rfl⟩ := hreview.of_unmarked (by rw [ht.token_eq]; exact hbefore _)
        have hstands : Stands (fun who => tokenOf (ids who)) t.who before.comments own
          t.outcome.kept none
            (t.writers fun _ => none) (before.add ⟨own, t.outcome.kept⟩ hnew) :=
          ⟨rfl, hbefore, ht.infix_kept, nofun, Turn.writers_of_sync hsync _, nofun⟩
        obtain ⟨hiff, hafter⟩ := hstands.history hrest hlater
        rw [Undisturbed, lastKept, lastKept, if_pos rfl, if_neg (Bool.eq_not_self _).1,
          and_iff_right (Turn.not_disturbs_of_created hsync _)]
        refine ⟨fun h => hiff.1 h.1, fun hclear => ⟨hiff.2 hclear, ?_⟩⟩
        obtain ⟨held, other, hheld, hkept, hcomments⟩ := hafter hclear
        obtain ⟨kept, hsome⟩ : ∃ kept, lastKept (!t.who) none turns = some kept :=
          exists_lastKept (Or.inr hother)
        rw [Option.map_none, hsome] at hkept
        obtain ⟨c, rfl, rfl⟩ := Option.map_eq_some_iff.1 hkept.symm
        exact ⟨own, c.id, held, c.body, hheld, hsome, hcomments⟩
  · have hinfix : ∀ u ∈ t :: turns, u.who = t.who → tokenOf (ids (!t.who)) <:+: u.outcome.kept := by
      intro u hu hwho
      exact (tokenOf_mono (hwho ▸ hstarts)).isInfix.trans (hsigned u hu).infix_kept
    obtain ⟨hfirst, hrest⟩ := List.forall_mem_cons.1 hinfix
    exact not_clear (hfirst rfl) hrest hother

/-! ### Instances

Two reviewers whose ids have nothing in common, and two of which one has an id that is the start of
the other's. -/

/-- Settings with an id. -/
def settingsOf (id : Text) : Settings := { comment := { markerId := id } }

/-- What a review with nothing to scan writes. -/
def emptyBody (id : Text) : Text :=
  .concat ["<!-- id: ", id, " --> \n# No files changed ☑️ <!-- id: ", id, " --> \n"]

/-- Two ids that have nothing in common. -/
def apartIds : Bool → Text
  | false => "lint"
  | true => "bot"

/-- The body of the review of a file. -/
def lintBody : Text :=
  "<!-- id: lint --> \n# Overview\n## dev/a.js:\n### Info:\n**Script:** `hi`\n**f(function):**\n" ++
    "```typescript\nfunction()\x7b\x7d\n```\n\n"

/-- The first reviewer reviews a file. -/
def lintFirst : Turn where
  who := false
  visit := sampleOpened.visit 8 "/w" (settingsOf "lint") { modified := ["dev/a.js"] } sampleFiles
  outcome := ⟨lintBody, [sampleDigest], some ⟨.created, 8⟩⟩

/-- The discussion after this. -/
def lintOpened : Discussion := sampleOpened.add ⟨8, lintBody⟩ (by decide)

/-- The other reviewer has nothing to scan. -/
def botTurn : Turn where
  who := true
  visit := lintOpened.visit 9 "/w" (settingsOf "bot") {} sampleFiles
  outcome := ⟨emptyBody "bot", [], some ⟨.created, 9⟩⟩

/-- The discussion after this. -/
def botOpened : Discussion := lintOpened.add ⟨9, emptyBody "bot"⟩ (by decide)

/-- The first reviewer has nothing more to scan. -/
def lintSecond : Turn where
  who := false
  visit := botOpened.visit 8 "/w" (settingsOf "lint") {} sampleFiles
  outcome := ⟨emptyBody "lint", [], some ⟨.updated, 8⟩⟩

/-- The discussion in the end. -/
def lintClosed : Discussion := botOpened.replace 8 (emptyBody "lint")

theorem reviewed_lintFirst :
    Reviewed sampleRequest sampleOpened lintFirst.visit lintFirst.outcome lintOpened :=
  reviewed_create (answered_visit (by decide +kernel) (by decide +kernel) _ _ _ _)
    (digests_sample _) (by decide +kernel) (by decide +kernel) (by decide +kernel) (by decide)

theorem reviewed_botTurn :
    Reviewed sampleRequest lintOpened botTurn.visit botTurn.outcome botOpened :=
  reviewed_create (answered_visit (by decide +kernel) (by decide +kernel) _ _ _ _) rfl
    (by decide +kernel) (by decide +kernel) (by decide +kernel) (by decide)

theorem reviewed_lintSecond :
    Reviewed sampleRequest botOpened lintSecond.visit lintSecond.outcome lintClosed :=
  reviewed_update (c := ⟨8, lintBody⟩) (Comment.marked?_eq_some_iff.1 (by decide +kernel))
    (answered_visit (by decide +kernel) (by decide +kernel) _ _ _ _) rfl
    (by decide +kernel) (by decide +kernel)

theorem history_apart : History sampleRequest sampleOpened
    ([lintFirst, botTurn, lintSecond].map Turn.event) lintClosed :=
  .cons (.review reviewed_lintFirst) (.cons (.review reviewed_botTurn)
    (.cons (.review reviewed_lintSecond) .nil))

/-- Each of the two has one comment in the end. -/
theorem undisturbed_apart :
    (∀ who, ∀ c ∈ sampleOpened.comments, ¬ tokenOf (apartIds who) <:+: c.body) ∧
    (∀ u ∈ [lintFirst, botTurn, lintSecond], MarkedBy apartIds u) ∧
    Undisturbed (fun _ => none) [lintFirst, botTurn, lintSecond] ∧
    ∃ own other held kept, lastKept false none [lintFirst, botTurn, lintSecond] = some held ∧
      lastKept true none [lintFirst, botTurn, lintSecond] = some kept ∧
      lintClosed.comments = sampleOpened.comments ++ [⟨own, held⟩, ⟨other, kept⟩] := by
  have hunmarked : ∀ who, ∀ c ∈ sampleOpened.comments, ¬ tokenOf (apartIds who) <:+: c.body := by
    decide +kernel
  have hids : ∀ who, (apartIds who).merged = apartIds who := fun who =>
    Text.merged_of_scalar (by cases who <;> exact Text.scalar_ofString _)
  have hmarked : ∀ u ∈ [lintFirst, botTurn, lintSecond], MarkedBy apartIds u := by
    simp only [List.forall_mem_cons]
    exact ⟨⟨by decide +kernel, by decide +kernel⟩, ⟨by decide +kernel, by decide +kernel⟩,
      ⟨by decide +kernel, by decide +kernel⟩, List.forall_mem_nil _⟩
  have hmet : ¬ tokenOf (apartIds true) <:+: lintFirst.outcome.kept := by decide +kernel
  have hclear :
      Clear false (tokenOf (apartIds true)) lintFirst.outcome.kept [botTurn, lintSecond] := by
    rw [Clear, if_neg (by decide), Clear, if_pos (by rfl), Clear]
    exact ⟨hmet, trivial⟩
  have hother : ∃ u ∈ [botTurn, lintSecond], u.who = !lintFirst.who :=
    ⟨botTurn, List.mem_cons_self, rfl⟩
  have hboth := undisturbed_iff_clear history_apart hunmarked hids hmarked hother
  exact ⟨hunmarked, hmarked, hboth.1.2 hclear⟩

/-- Two ids of which one is the start of the other. -/
def nestedIds : Bool → Text
  | false => "bot2"
  | true => "bot"

/-- The reviewer with the longer id creates a comment. -/
def longTurn : Turn where
  who := false
  visit := sampleOpened.visit 8 "/w" (settingsOf "bot2") {} sampleFiles
  outcome := ⟨emptyBody "bot2", [], some ⟨.created, 8⟩⟩

/-- The discussion after this. -/
def longOpened : Discussion := sampleOpened.add ⟨8, emptyBody "bot2"⟩ (by decide)

/-- The reviewer with the shorter id takes the comment over. -/
def shortTurn : Turn where
  who := true
  visit := longOpened.visit 8 "/w" (settingsOf "bot") {} sampleFiles
  outcome := ⟨emptyBody "bot", [], some ⟨.updated, 8⟩⟩

theorem reviewed_longTurn :
    Reviewed sampleRequest sampleOpened longTurn.visit longTurn.outcome longOpened :=
  reviewed_create (answered_visit (by decide +kernel) (by decide +kernel) _ _ _ _) rfl
    (by decide +kernel) (by decide +kernel) (by decide +kernel) (by decide)

theorem reviewed_shortTurn : Reviewed sampleRequest longOpened shortTurn.visit shortTurn.outcome
    (longOpened.replace 8 (emptyBody "bot")) :=
  reviewed_update (c := ⟨8, emptyBody "bot2"⟩) (Comment.marked?_eq_some_iff.1 (by decide +kernel))
    (answered_visit (by decide +kernel) (by decide +kernel) _ _ _ _) rfl
    (by decide +kernel) (by decide +kernel)

/-- Different ids do not keep reviewers apart: the comment of the first one is lost. -/
theorem disturbed_nested :
    (nestedIds false ≠ nestedIds true ∧ ∀ who, nestedIds who ≠ []) ∧
    (∀ who, ∀ c ∈ sampleOpened.comments, ¬ tokenOf (nestedIds who) <:+: c.body) ∧
    (∀ u ∈ [longTurn, shortTurn], MarkedBy nestedIds u) ∧
    ∃ after, History sampleRequest sampleOpened ([longTurn, shortTurn].map Turn.event) after ∧
      ¬ Undisturbed (fun _ => none) [longTurn, shortTurn] ∧
      after.comments = sampleOpened.comments ++ [⟨8, emptyBody "bot"⟩] := by
  refine ⟨by decide +kernel, by decide +kernel, ?_, _,
    .cons (.review reviewed_longTurn) (.cons (.review reviewed_shortTurn) .nil), ?_,
    by decide +kernel⟩
  · simp only [List.forall_mem_cons]
    exact ⟨⟨by decide +kernel, by decide +kernel⟩, ⟨by decide +kernel, by decide +kernel⟩,
      List.forall_mem_nil _⟩
  · rw [Undisturbed, Undisturbed]
    have hwriter : longTurn.writers (fun _ => none) 8 = some false := Turn.writers_of_sync rfl _
    exact fun hquiet => hquiet.2.1 ⟨8, by rfl, hwriter⟩

end Discussion

end PullNotes
