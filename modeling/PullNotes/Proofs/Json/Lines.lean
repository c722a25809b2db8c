import PullNotes.Proofs.Json.Writing
import PullNotes.Proofs.Pieces
import PullNotes.Text.Line

/-!
# The lines of written values

A value is written in printable ASCII, whatever its texts hold, and a layout adds nothing but
spaces and line feeds.  So nothing that is written is lost in a file of ASCII lines.

* `Json.lined_written` : what is written of a value.
-/

namespace PullNotes

namespace Json

open CodePoint (lineFeed)

/-- A text of printable ASCII code points and line feeds. -/
def Lined (t : Text) : Prop := ∀ c ∈ t, (32 ≤ c.val ∧ c.val < 127) ∨ c = lineFeed

theorem Printable.lined {t : Text} (h : Printable t) : Lined t := fun c hc => Or.inl (h c hc)

theorem Lined.append {s t : Text} (hs : Lined s) (ht : Lined t) : Lined (s ++ t) :=
  List.forall_mem_append.2 ⟨hs, ht⟩

theorem Lined.concat {ts : List Text} (h : ∀ t ∈ ts, Lined t) : Lined (Text.concat ts) := by
  intro c hc
  obtain ⟨t, ht, hc⟩ := List.mem_flatten.1 hc
  exact h t ht c hc

theorem Lined.join {separator : Text} {ts : List Text} (hseparator : Lined separator)
    (h : ∀ t ∈ ts, Lined t) : Lined (Text.join separator ts) := by
  intro c hc
  rcases Text.mem_join hc with hc | ⟨t, ht, hc⟩
  · exact hseparator c hc
  · exact h t ht c hc

/-- A word of the program is printable if each of its code points is. -/
theorem lined_ofString {s : String}
    (h : (Text.ofString s).all (fun c => 32 ≤ c.val && c.val < 127) = true) :
    Lined (Text.ofString s) := by
  intro c hc
  simpa using Or.inl (b := c = lineFeed) (List.all_eq_true.1 h c hc)

/-! ### Layouts -/

theorem lined_newLine (depth : Nat) (layout : Layout) : Lined (layout.newLine depth) := by
  cases layout with
  | line => exact List.forall_mem_nil _
  | indented step =>
    intro c hc
    rw [Layout.newLine, Text.ofChars, List.map_cons, List.map_replicate, List.mem_cons] at hc
    rcases hc with rfl | hc
    · exact Or.inr rfl
    · rw [(List.mem_replicate.1 hc).2]
      exact Or.inl (by decide)

theorem lined_separator (depth : Nat) (layout : Layout) : Lined (layout.separator depth) := by
  cases layout with
  | line => exact lined_ofString (by decide)
  | indented step =>
    exact (lined_ofString (by decide)).append (lined_newLine depth (.indented step))

theorem lined_bracketed (layout : Layout) (depth : Nat) {opening closing : String}
    (hopening : Lined opening) (hclosing : Lined closing) {ts : List Text}
    (h : ∀ t ∈ ts, Lined t) : Lined (bracketed layout depth opening closing ts) := by
  rw [bracketed]
  split
  · exact hopening.append hclosing
  · refine .concat ?_
    simp only [List.forall_mem_cons]
    exact ⟨hopening, lined_newLine _ _, (lined_separator _ _).join h, lined_newLine _ _, hclosing,
      List.forall_mem_nil _⟩

/-! ### Values -/

variable {allowed : Int → Prop}

mutual

theorem lined_writtenAt (layout : Layout) : ∀ (depth : Nat) (v : Json), Plain allowed v →
    Lined (writtenAt layout depth v)
  | _, null, _ => lined_ofString (by decide)
  | _, bool true, _ => lined_ofString (by decide)
  | _, bool false, _ => lined_ofString (by decide)
  | _, whole n, _ => (printable_ofInt n).lined
  | _, real _, h => h.elim
  | _, text t, _ => (printable_writtenText t).lined
  | depth, list vs, h => lined_bracketed layout depth (lined_ofString (by decide))
      (lined_ofString (by decide)) (lined_writtenItems layout (depth + 1) vs h)
  | depth, object ms, h => lined_bracketed layout depth (lined_ofString (by decide))
      (lined_ofString (by decide)) (lined_writtenMembers layout (depth + 1) ms h.2)

theorem lined_writtenItems (layout : Layout) : ∀ (depth : Nat) (vs : List Json),
    PlainItems allowed vs → ∀ t ∈ writtenItems layout depth vs, Lined t
  | _, [], _ => List.forall_mem_nil _
  | depth, v :: vs, h => List.forall_mem_cons.2
      ⟨lined_writtenAt layout depth v h.1, lined_writtenItems layout depth vs h.2⟩

theorem lined_writtenMembers (layout : Layout) : ∀ (depth : Nat) (ms : List (Text × Json)),
    PlainMembers allowed ms → ∀ t ∈ writtenMembers layout depth ms, Lined t
  | _, [], _ => List.forall_mem_nil _
  | depth, (k, v) :: ms, h => by
    have hmember : Lined (Text.concat [writtenText k, ": ", writtenAt layout depth v]) := by
      refine .concat ?_
      simp only [List.forall_mem_cons]
      exact ⟨(printable_writtenText k).lined, lined_ofString (by decide),
        lined_writtenAt layout depth v h.2.1, List.forall_mem_nil _⟩
    exact List.forall_mem_cons.2 ⟨hmember, lined_writtenMembers layout depth ms h.2.2⟩

end

/-- **What is written of a value** is printable ASCII, on one line or several. -/
theorem lined_written (layout : Layout) {v : Json} (h : Plain allowed v) :
    Lined (v.written layout) :=
  lined_writtenAt layout 0 v h

end Json

end PullNotes
