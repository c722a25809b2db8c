import PullNotes.Proofs.Json.Values
import PullNotes.Proofs.Utf8
import PullNotes.Validation

/-!
# What passes a check

A value that passes a check for a whole number gives one that is not too long to be written and read
again: a text that spells it is limited in its length, and a number of double width in its size.  A
field of an object gives what its value gives, or the default.

* `Check.both_eq_ok_iff`, `Check.field_eq_ok` : fields.
* `Check.whole_settled` : whole numbers.
-/

namespace PullNotes

namespace Check

/-! ### Fields -/

theorem both_eq_ok_iff {α β : Type} {a : Checked α} {b : Checked β} {x : α} {y : β} :
    both a b = .ok (x, y) ↔ a = .ok x ∧ b = .ok y := by
  cases a with
  | error is =>
    constructor
    · cases b <;> exact nofun
    · exact fun h => nomatch h.1
  | ok x' =>
    cases b with
    | error is => exact ⟨nofun, fun h => nomatch h.2⟩
    | ok y' =>
      constructor
      · intro h
        obtain ⟨rfl, rfl⟩ := Prod.mk.inj (Except.ok.inj h)
        exact ⟨rfl, rfl⟩
      · rintro ⟨hx, hy⟩
        obtain rfl := Except.ok.inj hx
        obtain rfl := Except.ok.inj hy
        rfl

/-- Three fields are had together if each of them is. -/
theorem three_eq_ok_iff {α β γ δ : Type} {a : Checked α} {b : Checked β} {c : Checked γ}
    {k : (α × β) × γ → δ} {d : δ} : (both (both a b) c >>= fun x => Except.ok (k x)) = .ok d ↔
      ∃ x y z, a = .ok x ∧ b = .ok y ∧ c = .ok z ∧ k ((x, y), z) = d := by
  rw [Except.bind_eq_ok_iff]
  constructor
  · rintro ⟨⟨⟨x, y⟩, z⟩, hboth, hk⟩
    obtain ⟨hfirst, hz⟩ := both_eq_ok_iff.1 hboth
    obtain ⟨hx, hy⟩ := both_eq_ok_iff.1 hfirst
    exact ⟨x, y, z, hx, hy, hz, Except.ok.inj hk⟩
  · rintro ⟨x, y, z, hx, hy, hz, rfl⟩
    exact ⟨((x, y), z), both_eq_ok_iff.2 ⟨both_eq_ok_iff.2 ⟨hx, hy⟩, hz⟩, rfl⟩

/-- The issues of three fields are those of the first one if the others have none. -/
theorem three_first {α β γ δ : Type} (a : Checked α) (y : β) (z : γ) (k : (α × β) × γ → δ) :
    (both (both a (.ok y)) (.ok z) >>= fun x => Except.ok (k x)) =
      a.map fun x => k ((x, y), z) := by
  cases a with
  | ok x => rfl
  | error is => exact congrArg Except.error (by simp [both, issues])

/-- The issues of three fields are those of the second one if the others have none. -/
theorem three_second {α β γ δ : Type} (x : α) (b : Checked β) (z : γ) (k : (α × β) × γ → δ) :
    (both (both (.ok x) b) (.ok z) >>= fun x => Except.ok (k x)) =
      b.map fun y => k ((x, y), z) := by
  cases b with
  | ok y => rfl
  | error is => exact congrArg Except.error (by simp [both, issues])

/-- The issues of three fields are those of the third one if the others have none. -/
theorem three_third {α β γ δ : Type} (x : α) (y : β) (c : Checked γ) (k : (α × β) × γ → δ) :
    (both (both (.ok x) (.ok y)) c >>= fun x => Except.ok (k x)) =
      c.map fun z => k ((x, y), z) := by
  cases c with
  | ok z => rfl
  | error is => rfl

/-- What is had of a field is what its value passes for, or the default. -/
theorem field_eq_ok {α : Type} {ms : List (Text × Json)} {name : String} {default : Option α}
    {check : Json → Checked α} {a : α} (h : field ms name default check = .ok a) :
    (∃ v, Json.lookup? name ms = some v ∧ check v = .ok a) ∨ default = some a := by
  cases hv : Json.lookup? name ms with
  | some v =>
    cases hcheck : check v with
    | ok a' =>
      simp only [field, hv, hcheck, Except.ok.injEq] at h
      exact Or.inl ⟨v, rfl, h ▸ hcheck⟩
    | error is => simp [field, hv, hcheck] at h
  | none =>
    cases default with
    | some a' =>
      simp only [field, hv, Except.ok.injEq] at h
      exact Or.inr (congrArg some h)
    | none => simp [field, hv] at h

/-- A field that is there is checked by its value, and the issues of the value are below it. -/
theorem field_of_lookup? {α : Type} {ms : List (Text × Json)} (name : String) {default : Option α}
    {check : Json → Checked α} {v : Json} (hv : Json.lookup? name ms = some v) :
    field ms name default check = (check v).mapError (List.map (Issue.below name)) := by
  simp only [field, hv]
  cases check v <;> rfl

/-- What holds of the values that pass and of the default holds of what is had of a field. -/
theorem field_settled {α : Type} {number : Int → Prop} {content : Text → Prop} {P : α → Prop}
    {ms : List (Text × Json)} {name : String} {default : Option α} {check : Json → Checked α}
    {a : α} (h : field ms name default check = .ok a) (hms : Json.EachMember number content ms)
    (hcheck : ∀ v a, Json.Each number content v → check v = .ok a → P a)
    (hdefault : ∀ d, default = some d → P d) : P a := by
  rcases field_eq_ok h with ⟨v, hv, ha⟩ | ha
  · exact hcheck v a (hms.lookup? hv) ha
  · exact hdefault a ha

theorem text_eq_ok {v : Json} {t : Text} (h : text v = .ok t) : v = .text t := by
  cases v with
  | text t' => rw [Except.ok.inj h]
  | _ => cases h

theorem members_eq_ok {name : String} {v : Json} {ms : List (Text × Json)}
    (h : members name v = .ok ms) : v = .object ms := by
  cases v with
  | object ms' => rw [Except.ok.inj h]
  | _ => cases h

/-! ### Spelled numbers -/

theorem plainWhole?_eq_some {t : Text} {n : Int} (h : plainWhole? t = some n) :
    ∃ digits : Text, digits ≠ [] ∧ (∀ c ∈ digits, c.isAsciiDigit = true) ∧
      digits.length ≤ t.length ∧ n.natAbs = Json.decimalValue digits := by
  have hvalue : ∀ digits : Text,
      Numeral.value 10 (digits.map fun c => c.val - 48) = Json.decimalValue digits := by
    intro digits
    rw [Numeral.value, List.foldl_map]
    rfl
  -- the digits are those after the sign, if there is one
  have hgo : ∀ (negative : Bool) (digits : Text), digits.length ≤ t.length →
      (if digits.isEmpty || !digits.all CodePoint.isAsciiDigit ||
        (digits.head? = some zero && 1 < digits.length) then none
      else
        let m : Int := Numeral.value 10 (digits.map fun c => c.val - 48)
        some (if negative then -m else m)) = some n →
      ∃ digits : Text, digits ≠ [] ∧ (∀ c ∈ digits, c.isAsciiDigit = true) ∧
        digits.length ≤ t.length ∧ n.natAbs = Json.decimalValue digits := by
    intro negative digits hlength hsome
    split at hsome
    · cases hsome
    · next hwell =>
      simp only [Bool.or_eq_true, not_or, Bool.not_eq_true, Bool.not_eq_false',
        List.isEmpty_eq_false_iff, List.all_eq_true] at hwell
      refine ⟨digits, hwell.1.1, hwell.1.2, hlength, ?_⟩
      rw [hvalue] at hsome
      rw [← Option.some.inj hsome]
      cases negative <;> simp
  rw [plainWhole?.eq_def] at h
  cases t with
  | nil => exact hgo false [] (Nat.le_refl _) h
  | cons c rest =>
    by_cases hc : c = CodePoint.ofChar '-'
    · simp only [if_pos hc] at h
      exact hgo true rest (Nat.le_succ _) h
    · simp only [if_neg hc] at h
      exact hgo false (c :: rest) (Nat.le_refl _) h

theorem length_withoutZeros?_le {t s : Text} (h : withoutZeros? t = some s) :
    s.length ≤ t.length := by
  cases t with
  | nil => cases h
  | cons c rest =>
    rw [withoutZeros?] at h
    split at h
    · generalize hzeros : rest.takeWhile (fun d => d = zero || d = underscore) = zeros at h
      have hlast : ((c :: zeros).getLast?.toList).length = 1 := by
        rw [List.getLast?_cons]
        rfl
      have hle : (rest.drop zeros.length).length ≤ rest.length := by
        rw [List.length_drop]
        omega
      simp only at h
      split at h
      · obtain rfl := Option.some.inj h
        rw [hlast, List.length_cons]
        omega
      · next d after hafter =>
        rw [hafter, List.length_cons] at hle
        split at h
        · obtain rfl := Option.some.inj h
          rw [List.length_cons, List.length_cons]
          omega
        · split at h
          · obtain rfl := Option.some.inj h
            rw [List.length_append, hlast, List.length_cons, List.length_cons]
            omega
          · cases h
    · split at h
      · obtain rfl := Option.some.inj h
        exact Nat.le_refl _
      · cases h

theorem length_cutAt?_le {mark : CodePoint} {t before after : Text}
    (h : Text.cutAt? mark t = some (before, after)) : before.length ≤ t.length := by
  induction t generalizing before with
  | nil => cases h
  | cons c t ih =>
    rw [Text.cutAt?] at h
    split at h
    · obtain ⟨rfl, -⟩ := Prod.mk.inj (Option.some.inj h)
      exact Nat.zero_le _
    · obtain ⟨⟨before', after'⟩, hcut, heq⟩ := Option.map_eq_some_iff.1 h
      obtain ⟨rfl, rfl⟩ := Prod.mk.inj heq
      exact Nat.succ_le_succ (ih hcut)

theorem length_withoutFraction_le (t : Text) : (withoutFraction t).length ≤ t.length := by
  rw [withoutFraction]
  split
  · next before after hcut =>
    split
    · exact length_cutAt?_le hcut
    · exact Nat.le_refl _
  · exact Nat.le_refl _

theorem length_withoutUnderscores_le (t : Text) : (withoutUnderscores t).length ≤ t.length := by
  rw [withoutUnderscores]
  split
  · exact Nat.le_refl _
  · exact List.length_filter_le _ _

theorem length_plainForm?_le {t s : Text} (h : plainForm? t = some s) : s.length ≤ t.length := by
  have hgo : ∀ {unsigned? : Option Text}, (∀ u, unsigned? = some u → u.length ≤ t.length) →
      ((unsigned?.bind withoutZeros?).map withoutFraction).map withoutUnderscores = some s →
      s.length ≤ t.length := by
    intro unsigned? hunsigned hsome
    obtain ⟨s', hs', rfl⟩ := Option.map_eq_some_iff.1 hsome
    obtain ⟨s'', hs'', rfl⟩ := Option.map_eq_some_iff.1 hs'
    obtain ⟨u, hu, hzeros⟩ := Option.bind_eq_some_iff.1 hs''
    calc (withoutUnderscores (withoutFraction s'')).length
        ≤ (withoutFraction s'').length := length_withoutUnderscores_le _
      _ ≤ s''.length := length_withoutFraction_le _
      _ ≤ u.length := length_withoutZeros?_le hzeros
      _ ≤ t.length := hunsigned u hu
  rw [plainForm?.eq_def] at h
  refine hgo (fun u hu => ?_) h
  cases t with
  | nil => rw [← Option.some.inj hu]
  | cons c rest =>
    simp only at hu
    split at hu
    · split at hu
      · cases hu
      · rw [← Option.some.inj hu]
        exact Nat.le_succ _
    · rw [← Option.some.inj hu]

/-- A text spells a number that has no more digits than the text has code points. -/
theorem length_spelledWhole? {t : Text} {n : Int} (h : spelledWhole? t = some n) :
    (Text.ofNat n.natAbs).length ≤ t.length := by
  have hplain : ∀ {s : Text}, plainWhole? s = some n → (Text.ofNat n.natAbs).length ≤ s.length := by
    intro s hs
    obtain ⟨digits, hne, hdigits, hlength, hvalue⟩ := plainWhole?_eq_some hs
    rw [hvalue]
    exact (Text.length_ofNat_le (Json.decimalValue_lt hdigits) (List.length_pos_iff.2 hne)).trans
      hlength
  rw [spelledWhole?] at h
  split at h
  · next m hm =>
    rw [Option.some.inj h] at hm
    exact hplain hm
  · obtain ⟨s, hs, hsome⟩ := Option.bind_eq_some_iff.1 h
    exact (hplain hsome).trans (length_plainForm?_le hs)

/-! ### Whole numbers -/

theorem not_tooLong_of_natAbs_lt {n : Int} {k : Nat} (h : n.natAbs < 10 ^ k) (hk : 0 < k)
    (hmax : k ≤ Numeral.maxDigits) : ¬ Json.TooLong n :=
  Nat.not_lt.2 ((Text.length_ofNat_le h hk).trans hmax)

/-- **A whole number that passes is not too long**, unless it is one of the value's own that is. -/
theorem whole_settled {content : Text → Prop} {v : Json} {n : Int} (h : whole v = .ok n)
    (hv : Json.Each (fun n => ¬ Json.TooLong n) content v) : ¬ Json.TooLong n := by
  cases v with
  | whole m => exact Except.ok.inj h ▸ hv
  | bool b =>
    rw [← Except.ok.inj h]
    cases b <;> decide
  | real x =>
    rw [whole, wholeOfReal] at h
    split at h
    · cases h
    · split at h
      · cases h
      · split at h
        · next m _ _ hbound =>
          obtain rfl := Except.ok.inj h
          have hbounds : -0x8000000000000000 < m ∧ m < 0x8000000000000000 := hbound
          exact not_tooLong_of_natAbs_lt (k := 19) (by omega) (by decide) (by decide)
        · cases h
  | text t =>
    rw [whole] at h
    split at h
    · cases h
    · split at h
      · cases h
      · next hshort =>
        split at h
        · next m hm =>
          obtain rfl := Except.ok.inj h
          have hlength := length_spelledWhole? hm
          have hbytes := Utf8.length_le_length_write (trimmed t)
          exact Nat.not_lt.2 (by omega)
        · cases h
  | _ => cases h

end Check

end PullNotes
