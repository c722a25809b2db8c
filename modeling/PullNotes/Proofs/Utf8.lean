import PullNotes.Proofs.Runs
import PullNotes.Proofs.Surrogates

/-!
# Texts in UTF-8

What is written of a code point is read as that one piece, whatever follows it, unless the code
point is a surrogate.  So a text without surrogates comes back from its bytes, and no other bytes
are read as a text.  The program's own files are in UTF-8: what it reads of them has no surrogates,
as the line ends that are turned into line feeds bring none in, and a text without carriage returns
is read as it was written.

* `Utf8.pieces_writePoint` : the bytes of a code point are one piece.
* `Utf8.readForgiving_write` : a text comes back from its bytes.
* `Encoding.readFrom_eq_ok_iff` : the bytes that are read as a text.
* `Encoding.readFile_own_eq_ok_iff` : what is read of a file of the program.
* `Utf8.length_le_length_write` : a text has no more code points than bytes.
-/

namespace PullNotes

open CodePoint (carriageReturn lineFeed)

namespace Utf8

/-! ### Pieces -/

theorem not_isSurrogate_pointOf {n : Nat} (h : n < 0xD800 ∨ 0xDFFF < n) :
    (pointOf n).isSurrogate = false := by
  rw [pointOf]
  split
  · simp only [CodePoint.isSurrogate, Bool.and_eq_false_iff, decide_eq_false_iff_not]
    omega
  · decide

theorem isContinuation_iff {b : Nat} : isContinuation b = true ↔ 0x80 ≤ b ∧ b < 0xC0 := by
  simp only [isContinuation, Bool.and_eq_true, decide_eq_true_eq]

/-- No piece stands for a surrogate. -/
theorem not_isSurrogate_of_pieceAt {b width : Nat} {rest : List Nat} {c : CodePoint}
    (h : pieceAt b rest = .point c width) : c.isSurrogate = false := by
  revert h
  fun_cases pieceAt b rest
  case case1 hb =>
    intro h
    obtain ⟨rfl, -⟩ := Piece.point.inj h
    exact not_isSurrogate_pointOf (by omega)
  case case4 hc =>
    intro h
    obtain ⟨rfl, -⟩ := Piece.point.inj h
    have hc := isContinuation_iff.1 hc
    exact not_isSurrogate_pointOf (by omega)
  case case9 hguard _ _ hd =>
    intro h
    obtain ⟨rfl, -⟩ := Piece.point.inj h
    have hd := isContinuation_iff.1 hd
    simp only [Bool.or_eq_true, Bool.and_eq_true, Bool.not_eq_true', beq_iff_eq, decide_eq_true_eq,
      not_or, not_and, Bool.not_eq_false, isContinuation_iff] at hguard
    -- the byte after 0xED is below 0xA0, which leaves the surrogates out
    exact not_isSurrogate_pointOf (by omega)
  case case16 hguard _ hd _ _ he =>
    intro h
    obtain ⟨rfl, -⟩ := Piece.point.inj h
    have he := isContinuation_iff.1 he
    simp only [Bool.not_eq_true', Bool.not_eq_false, isContinuation_iff] at hd
    simp only [Bool.or_eq_true, Bool.and_eq_true, Bool.not_eq_true', beq_iff_eq, decide_eq_true_eq,
      not_or, not_and, Bool.not_eq_false, isContinuation_iff] at hguard
    exact not_isSurrogate_pointOf (by omega)
  all_goals exact nofun

theorem toNat_toUInt8 {n : Nat} (h : n < 256) : n.toUInt8.toNat = n := by
  rw [Nat.toUInt8_eq, UInt8.toNat_ofNat', Nat.mod_eq_of_lt h]

theorem pointOf_eq {n : Nat} {c : CodePoint} (h : n = c.val) : pointOf n = c := by
  rw [h, pointOf_val]

/-! ### One piece for each number of bytes -/

theorem isContinuation_low (n : Nat) : isContinuation (0x80 + n % 64) = true :=
  isContinuation_iff.2 (by omega)

theorem pieceAt_one {n : Nat} (h : n < 0x80) (rest : List Nat) :
    pieceAt n rest = .point (pointOf n) 1 := by
  rw [pieceAt.eq_def, if_pos h]

theorem pieceAt_two {n : Nat} (hlow : 0x80 ≤ n) (hhigh : n < 0x800) (rest : List Nat) :
    pieceAt (0xC0 + n / 64) ((0x80 + n % 64) :: rest) = .point (pointOf n) 2 := by
  have hvalue : (0xC0 + n / 64 - 0xC0) * 64 + (0x80 + n % 64 - 0x80) = n := by omega
  rw [pieceAt.eq_def, if_neg (by omega), if_neg (by omega), if_pos (by omega)]
  simp only [isContinuation_low, if_true, hvalue]

/-- The guards on the second byte keep short forms and surrogates out. -/
theorem pieceAt_three {n : Nat} (hlow : 0x800 ≤ n) (hhigh : n < 0x10000)
    (hsurrogate : ¬ (0xD800 ≤ n ∧ n ≤ 0xDFFF)) (rest : List Nat) :
    pieceAt (0xE0 + n / 4096) ((0x80 + n / 64 % 64) :: (0x80 + n % 64) :: rest) =
      .point (pointOf n) 3 := by
  have hguard : (!isContinuation (0x80 + n / 64 % 64) ||
      (0xE0 + n / 4096 == 0xE0 && decide (0x80 + n / 64 % 64 < 0xA0)) ||
      (0xE0 + n / 4096 == 0xED && decide (0xA0 ≤ 0x80 + n / 64 % 64))) = false := by
    simp only [isContinuation_low, Bool.not_true, Bool.false_or, Bool.or_eq_false_iff,
      Bool.and_eq_false_iff, beq_eq_false_iff_ne, decide_eq_false_iff_not]
    omega
  have hvalue : (0xE0 + n / 4096 - 0xE0) * 4096 + (0x80 + n / 64 % 64 - 0x80) * 64 +
      (0x80 + n % 64 - 0x80) = n := by omega
  rw [pieceAt.eq_def, if_neg (by omega), if_neg (by omega), if_neg (by omega), if_pos (by omega)]
  simp only [hguard, Bool.false_eq_true, if_false]
  simp only [isContinuation_low, if_true, hvalue]

/-- The guards on the second byte keep short forms and what is past the last code point out. -/
theorem pieceAt_four {n : Nat} (hlow : 0x10000 ≤ n) (hhigh : n < 0x110000) (rest : List Nat) :
    pieceAt (0xF0 + n / 262144)
        ((0x80 + n / 4096 % 64) :: (0x80 + n / 64 % 64) :: (0x80 + n % 64) :: rest) =
      .point (pointOf n) 4 := by
  have hguard : (!isContinuation (0x80 + n / 4096 % 64) ||
      (0xF0 + n / 262144 == 0xF0 && decide (0x80 + n / 4096 % 64 < 0x90)) ||
      (0xF0 + n / 262144 == 0xF4 && decide (0x90 ≤ 0x80 + n / 4096 % 64))) = false := by
    simp only [isContinuation_low, Bool.not_true, Bool.false_or, Bool.or_eq_false_iff,
      Bool.and_eq_false_iff, beq_eq_false_iff_ne, decide_eq_false_iff_not]
    omega
  have hvalue : (0xF0 + n / 262144 - 0xF0) * 262144 + (0x80 + n / 4096 % 64 - 0x80) * 4096 +
      (0x80 + n / 64 % 64 - 0x80) * 64 + (0x80 + n % 64 - 0x80) = n := by omega
  rw [pieceAt.eq_def, if_neg (by omega), if_neg (by omega), if_neg (by omega), if_neg (by omega),
    if_pos (by omega)]
  simp only [hguard, Bool.false_eq_true, if_false]
  simp only [isContinuation_low, Bool.not_true, Bool.false_eq_true, if_false, if_true, hvalue]

/-- The bytes of a code point begin a piece that is the code point and takes them all. -/
theorem pieceAt_writePoint {c : CodePoint} (hc : c.isSurrogate = false) :
    ∃ b more, writePoint c = b :: more ∧ more.length ≤ 3 ∧
      ∀ rest, pieceAt b.toNat (more.map UInt8.toNat ++ rest) = .point c (more.length + 1) := by
  have hlt := c.isLt
  have hsurrogate : ¬ (0xD800 ≤ c.val ∧ c.val ≤ 0xDFFF) := by
    rw [← CodePoint.isSurrogate_iff, hc]
    decide
  rw [writePoint]
  by_cases h1 : c.val < 0x80
  · refine ⟨_, [], if_pos h1, Nat.zero_le _, fun rest => ?_⟩
    rw [toNat_toUInt8 (by omega), pieceAt_one h1, pointOf_val]
    rfl
  simp only [if_neg h1]
  by_cases h2 : c.val < 0x800
  · refine ⟨_, _, if_pos h2, by simp, fun rest => ?_⟩
    simp only [List.map_cons, List.map_nil, List.cons_append, List.nil_append]
    rw [toNat_toUInt8 (by omega), toNat_toUInt8 (by omega), pieceAt_two (by omega) h2, pointOf_val]
    rfl
  simp only [if_neg h2]
  by_cases h3 : c.val < 0x10000
  · refine ⟨_, _, if_pos h3, by simp, fun rest => ?_⟩
    simp only [List.map_cons, List.map_nil, List.cons_append, List.nil_append]
    rw [toNat_toUInt8 (by omega), toNat_toUInt8 (by omega), toNat_toUInt8 (by omega),
      pieceAt_three (by omega) h3 hsurrogate, pointOf_val]
    rfl
  · refine ⟨_, _, if_neg h3, by simp, fun rest => ?_⟩
    simp only [List.map_cons, List.map_nil, List.cons_append, List.nil_append]
    rw [toNat_toUInt8 (by omega), toNat_toUInt8 (by omega), toNat_toUInt8 (by omega),
      toNat_toUInt8 (by omega), pieceAt_four (by omega) hlt, pointOf_val]
    rfl

/-! ### Whole texts -/

theorem piecesFrom_skip (skipped rest : Bytes) :
    piecesFrom skipped.length (skipped ++ rest) = pieces rest := by
  induction skipped with
  | nil => rfl
  | cons b skipped ih => exact ih

theorem utf8Piece_writePoint {c : CodePoint} (hc : c.isSurrogate = false) :
    ∃ b more, writePoint c = b :: more ∧
      ∀ rest, Encoding.utf8Piece (b :: (more ++ rest)) = .point c (more.length + 1) := by
  obtain ⟨b, more, hwrite, hlength, hpiece⟩ := pieceAt_writePoint hc
  refine ⟨b, more, hwrite, fun rest => ?_⟩
  have htake : ((more ++ rest).take 3).map UInt8.toNat =
      more.map UInt8.toNat ++ (rest.take (3 - more.length)).map UInt8.toNat := by
    rw [List.take_append, List.take_of_length_le hlength, List.map_append]
  rw [Encoding.utf8Piece, htake, hpiece]

/-- **The bytes of a code point are one piece**, whatever follows them. -/
theorem pieces_writePoint {c : CodePoint} (hc : c.isSurrogate = false) (rest : Bytes) :
    ∃ width, pieces (writePoint c ++ rest) = .point c width :: pieces rest := by
  obtain ⟨b, more, hwrite, hpiece⟩ := utf8Piece_writePoint hc
  refine ⟨more.length + 1, ?_⟩
  have hfirst : pieceAt b.toNat (((more ++ rest).take 3).map UInt8.toNat) =
      .point c (more.length + 1) := hpiece rest
  rw [hwrite, List.cons_append, pieces, piecesFrom, hfirst]
  exact congrArg _ (piecesFrom_skip more rest)

/-- **A text without surrogates comes back from its bytes.** -/
theorem readForgiving_write {t : Text} (h : t.Scalar) : readForgiving (write t) = t := by
  induction t with
  | nil => rfl
  | cons c t ih =>
    obtain ⟨hc, ht⟩ := List.forall_mem_cons.1 h
    obtain ⟨width, hpieces⟩ := pieces_writePoint hc (write t)
    rw [readForgiving] at ih ⊢
    rw [write, List.flatMap_cons, ← write, hpieces, List.map_cons, ih ht]
    rfl

theorem length_le_length_write (t : Text) : t.length ≤ (write t).length := by
  have hpoint : ∀ c, 1 ≤ (writePoint c).length := by
    intro c
    simp only [writePoint]
    split
    · exact Nat.le_refl _
    · split
      · exact Nat.succ_le_succ (Nat.zero_le _)
      · split <;> exact Nat.succ_le_succ (Nat.zero_le _)
  induction t with
  | nil => exact Nat.le_refl _
  | cons c t ih =>
    rw [write, List.flatMap_cons, List.length_append, List.length_cons]
    have hrest : t.length ≤ (t.flatMap writePoint).length := ih
    have := hpoint c
    omega

/-! ### Bytes that are read -/

/-- The bytes of a code point as numbers. -/
theorem map_toNat_writePoint (c : CodePoint) : (writePoint c).map UInt8.toNat =
    if c.val < 0x80 then [c.val]
    else if c.val < 0x800 then [0xC0 + c.val / 64, 0x80 + c.val % 64]
    else if c.val < 0x10000 then
      [0xE0 + c.val / 4096, 0x80 + c.val / 64 % 64, 0x80 + c.val % 64]
    else
      [0xF0 + c.val / 262144, 0x80 + c.val / 4096 % 64, 0x80 + c.val / 64 % 64,
        0x80 + c.val % 64] := by
  have hlt := c.isLt
  rw [writePoint]
  by_cases h1 : c.val < 0x80
  · simp only [h1, if_true, List.map_cons, List.map_nil, toNat_toUInt8 (n := c.val) (by omega)]
  by_cases h2 : c.val < 0x800
  · simp only [h1, h2, if_true, if_false, List.map_cons, List.map_nil,
      toNat_toUInt8 (n := 0xC0 + c.val / 64) (by omega),
      toNat_toUInt8 (n := 0x80 + c.val % 64) (by omega)]
  by_cases h3 : c.val < 0x10000
  · simp only [h1, h2, h3, if_true, if_false, List.map_cons, List.map_nil,
      toNat_toUInt8 (n := 0xE0 + c.val / 4096) (by omega),
      toNat_toUInt8 (n := 0x80 + c.val / 64 % 64) (by omega),
      toNat_toUInt8 (n := 0x80 + c.val % 64) (by omega)]
  · simp only [h1, h2, h3, if_false, List.map_cons, List.map_nil,
      toNat_toUInt8 (n := 0xF0 + c.val / 262144) (by omega),
      toNat_toUInt8 (n := 0x80 + c.val / 4096 % 64) (by omega),
      toNat_toUInt8 (n := 0x80 + c.val / 64 % 64) (by omega),
      toNat_toUInt8 (n := 0x80 + c.val % 64) (by omega)]

/-- A piece that is a code point takes the bytes that are written of it, which are four at most. -/
theorem map_toNat_of_pieceAt {b width : Nat} {rest : List Nat} {c : CodePoint}
    (h : pieceAt b rest = .point c width) :
    (writePoint c).map UInt8.toNat = b :: rest.take (width - 1) ∧ width ≤ 4 := by
  revert h
  rw [map_toNat_writePoint]
  fun_cases pieceAt b rest
  case case1 hb =>
    intro h
    obtain ⟨rfl, rfl⟩ := Piece.point.inj h
    rw [val_pointOf (by omega), if_pos hb]
    exact ⟨rfl, by omega⟩
  case case4 hc =>
    intro h
    obtain ⟨rfl, rfl⟩ := Piece.point.inj h
    have hc := isContinuation_iff.1 hc
    rw [val_pointOf (by omega), if_neg (by omega), if_pos (by omega)]
    simp only [Nat.reduceSub, List.take_succ_cons, List.take_zero, List.cons.injEq, and_true]
    omega
  case case9 hguard _ _ hd =>
    intro h
    obtain ⟨rfl, rfl⟩ := Piece.point.inj h
    have hd := isContinuation_iff.1 hd
    simp only [Bool.or_eq_true, Bool.and_eq_true, Bool.not_eq_true', beq_iff_eq, decide_eq_true_eq,
      not_or, not_and, Bool.not_eq_false, isContinuation_iff] at hguard
    rw [val_pointOf (by omega), if_neg (by omega), if_neg (by omega), if_pos (by omega)]
    simp only [Nat.reduceSub, List.take_succ_cons, List.take_zero, List.cons.injEq, and_true]
    omega
  case case16 hguard _ hd _ _ he =>
    intro h
    obtain ⟨rfl, rfl⟩ := Piece.point.inj h
    have he := isContinuation_iff.1 he
    simp only [Bool.not_eq_true', Bool.not_eq_false, isContinuation_iff] at hd
    simp only [Bool.or_eq_true, Bool.and_eq_true, Bool.not_eq_true', beq_iff_eq, decide_eq_true_eq,
      not_or, not_and, Bool.not_eq_false, isContinuation_iff] at hguard
    rw [val_pointOf (by omega), if_neg (by omega), if_neg (by omega), if_neg (by omega)]
    simp only [Nat.reduceSub, List.take_succ_cons, List.take_zero, List.cons.injEq, and_true]
    omega
  all_goals exact nofun

theorem writePoint_eq_of_utf8Piece {b : UInt8} {rest : Bytes} {c : CodePoint} {width : Nat}
    (h : Encoding.utf8Piece (b :: rest) = .point c width) :
    writePoint c ++ rest.drop (width - 1) = b :: rest := by
  obtain ⟨hnumbers, hwidth⟩ := map_toNat_of_pieceAt h
  have hbytes : (writePoint c).map UInt8.toNat =
      (b :: (rest.take 3).take (width - 1)).map UInt8.toNat := by
    rw [hnumbers, List.map_cons, List.map_take, List.map_take, List.map_take]
  have hwrite := (List.map_inj_right fun _ _ => UInt8.toNat_inj.1).1 hbytes
  rw [hwrite, List.take_take, Nat.min_eq_left (by omega), List.cons_append, List.take_append_drop]

end Utf8

namespace Text

theorem Scalar.cons {c : CodePoint} {t : Text} (hc : c.isSurrogate = false) (ht : t.Scalar) :
    Scalar (c :: t) :=
  List.forall_mem_cons.2 ⟨hc, ht⟩

theorem scalar_withLineFeeds {t : Text} (h : t.Scalar) : t.withLineFeeds.Scalar := by
  have hfeed : CodePoint.isSurrogate lineFeed = false := by decide
  induction t using withLineFeeds.induct with
  | case1 => exact h
  | case2 =>
    rw [withLineFeeds, if_pos rfl]
    exact .cons hfeed (List.forall_mem_nil _)
  | case3 c hc =>
    rw [withLineFeeds, if_neg hc]
    exact h
  | case4 c d rest hpair ih =>
    rw [withLineFeeds, if_pos hpair]
    obtain ⟨-, hrest⟩ := List.forall_mem_cons.1 h
    exact .cons hfeed (ih (List.forall_mem_cons.1 hrest).2)
  | case5 d rest hpair ih =>
    rw [withLineFeeds, if_neg hpair, if_pos rfl]
    exact .cons hfeed (ih (List.forall_mem_cons.1 h).2)
  | case6 c d rest hpair hc ih =>
    rw [withLineFeeds, if_neg hpair, if_neg hc]
    obtain ⟨hscalar, hrest⟩ := List.forall_mem_cons.1 h
    exact .cons hscalar (ih hrest)

theorem withLineFeeds_eq_self {t : Text} (h : carriageReturn ∉ t) : t.withLineFeeds = t := by
  induction t using withLineFeeds.induct with
  | case1 => rfl
  | case2 => exact absurd List.mem_cons_self h
  | case3 c hc => rw [withLineFeeds, if_neg hc]
  | case4 c d rest hpair _ => exact absurd (hpair.1 ▸ List.mem_cons_self) h
  | case5 => exact absurd List.mem_cons_self h
  | case6 c d rest hpair hc ih =>
    rw [withLineFeeds, if_neg hpair, if_neg hc, ih fun hmem => h (List.mem_cons_of_mem _ hmem)]

end Text

namespace Encoding

/-! ### Files -/

/-- **Bytes are read as a text exactly if they are what is written of it**, and it has no surrogates
in it. -/
theorem readFrom_eq_ok_iff {bs : Bytes} {position skip : Nat} {t : Text} :
    readFrom "utf-8" utf8Piece position skip bs = .ok t ↔ t.Scalar ∧ Utf8.write t = bs.drop skip := by
  induction bs generalizing position skip t with
  | nil =>
    rw [readFrom, List.drop_nil]
    constructor
    · intro h
      obtain rfl := Except.ok.inj h
      exact ⟨List.forall_mem_nil _, rfl⟩
    · rintro ⟨-, hwrite⟩
      have hlength := Utf8.length_le_length_write t
      rw [hwrite] at hlength
      rw [List.eq_nil_of_length_eq_zero (Nat.le_zero.1 hlength)]
  | cons b rest ih =>
    cases skip with
    | succ skip => exact ih
    | zero =>
      rw [readFrom, List.drop_zero]
      constructor
      · intro h
        split at h
        · next c width hpiece =>
          obtain ⟨more, hmore, h⟩ := Except.bind_eq_ok_iff.1 h
          obtain rfl := Except.ok.inj h
          obtain ⟨hscalar, hwrite⟩ := ih.1 hmore
          refine ⟨.cons (Utf8.not_isSurrogate_of_pieceAt hpiece) hscalar, ?_⟩
          rw [Utf8.write, List.flatMap_cons, ← Utf8.write, hwrite]
          exact Utf8.writePoint_eq_of_utf8Piece hpiece
        · cases h
      · rintro ⟨hscalar, hwrite⟩
        cases t with
        | nil => cases hwrite
        | cons c t =>
          obtain ⟨hc, ht⟩ := List.forall_mem_cons.1 hscalar
          obtain ⟨b', more, hpoint, hpiece⟩ := Utf8.utf8Piece_writePoint hc
          rw [Utf8.write, List.flatMap_cons, ← Utf8.write, hpoint, List.cons_append] at hwrite
          obtain ⟨rfl, rfl⟩ := List.cons.inj hwrite
          rw [hpiece]
          have hmore : readFrom "utf-8" utf8Piece (position + 1) more.length
              (more ++ Utf8.write t) = .ok t := ih.2 ⟨ht, by simp⟩
          simp only [Nat.add_sub_cancel, hmore]
          rfl

theorem named_own : named Run.ownEncoding = .ok .utf8 := rfl

theorem readFile_own (bs : Bytes) : readFile Run.ownEncoding bs =
    (readFrom "utf-8" utf8Piece 0 0 bs).map Text.withLineFeeds := by
  rw [readFile, named_own]
  show (readFrom "utf-8" utf8Piece 0 0 bs >>= fun text => .ok text.withLineFeeds) = _
  cases readFrom "utf-8" utf8Piece 0 0 bs <;> rfl

/-- What the program reads of a file of its own: the text that its bytes were written of, if there
is one, with line feeds as line ends. -/
theorem readFile_own_eq_ok_iff {bs : Bytes} {t : Text} : readFile Run.ownEncoding bs = .ok t ↔
    ∃ source : Text, source.Scalar ∧ Utf8.write source = bs ∧ source.withLineFeeds = t := by
  rw [readFile_own, Except.map_eq_ok_iff]
  simp only [readFrom_eq_ok_iff, List.drop_zero, and_assoc]

/-- **A file of the program has no surrogates in it** when it is read. -/
theorem scalar_of_readFile {bs : Bytes} {t : Text} (h : readFile Run.ownEncoding bs = .ok t) :
    t.Scalar := by
  obtain ⟨source, hscalar, -, rfl⟩ := readFile_own_eq_ok_iff.1 h
  exact Text.scalar_withLineFeeds hscalar

/-- **What was written is read again**, if it has no surrogates and no carriage returns. -/
theorem readFile_write {t : Text} (h : t.Scalar) (hreturn : carriageReturn ∉ t) :
    readFile Run.ownEncoding (Utf8.write t) = .ok t :=
  readFile_own_eq_ok_iff.2 ⟨t, h, rfl, Text.withLineFeeds_eq_self hreturn⟩

end Encoding

end PullNotes
