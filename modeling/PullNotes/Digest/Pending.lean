import PullNotes.Digest.Basic

/-!
# The pending script

While a tree is walked, the script seen last waits for a handler.  The next handler claims it; only
another script takes its place, and nothing else disturbs it.
-/

namespace PullNotes

/-- The script seen last, and whether it still waits for a handler. -/
structure Pending where
  waiting : Bool := false
  script : Option Text := none
deriving DecidableEq, Repr

namespace Pending

/-- Notes a script, which now waits. -/
def note (_ : Pending) (script : Text) : Pending := ⟨true, some script⟩

/-- The waiting script, if any, goes to a handler; after that none waits. -/
def claim (p : Pending) : Option Text × Pending :=
  if p.waiting then (p.script, { p with waiting := false }) else (none, p)

@[simp] theorem claim_note (p : Pending) (script : Text) :
    (p.note script).claim = (some script, ⟨false, some script⟩) := rfl

theorem claim_of_not_waiting {p : Pending} (h : p.waiting = false) : p.claim = (none, p) := by
  simp [claim, h]

end Pending

end PullNotes
