import PullNotes.Text.Basic

/-!
# Similar words

How alike two words are: the number of code points that their longest common stretch, and the
longest ones before and after it, have in common, twice, in relation to both lengths.  For a
misspelt word the most similar of the known ones are suggested.
-/

namespace PullNotes

namespace Similar

/-- The number of code points at the start that two words have in common. -/
def commonStart : Text → Text → Nat
  | a :: as, b :: bs => if a = b then commonStart as bs + 1 else 0
  | _, _ => 0

/-- A stretch that two words have in common: where it starts in each, and its length. -/
structure Stretch where
  left : Nat := 0
  right : Nat := 0
  length : Nat := 0
deriving DecidableEq, Repr

/-- The longer of a stretch and those that start at a place of the first word and anywhere in the
second one, from a place on. -/
def longestAt (a : Text) (left : Nat) : Nat → Text → Stretch → Stretch
  | _, [], best => best
  | right, b :: bs, best =>
    let n := commonStart a (b :: bs)
    longestAt a left (right + 1) bs (if best.length < n then ⟨left, right, n⟩ else best)

/-- The longer of a stretch and those that start in the first word from a place on. -/
def longestFrom (b : Text) : Nat → Text → Stretch → Stretch
  | _, [], best => best
  | left, a :: as, best => longestFrom b (left + 1) as (longestAt (a :: as) left 0 b best)

/-- The longest stretch that two words have in common, the first one of those. -/
def longest (a b : Text) : Stretch := longestFrom b 0 a {}

/-- The number of code points in common, for words up to a length. -/
def commonUpTo : Nat → Text → Text → Nat
  | 0, _, _ => 0
  | n + 1, a, b =>
    let s := longest a b
    if s.length = 0 then 0
    else
      s.length + commonUpTo n (a.take s.left) (b.take s.right)
        + commonUpTo n (a.drop (s.left + s.length)) (b.drop (s.right + s.length))

/-- The number of code points in common. -/
def common (a b : Text) : Nat := commonUpTo a.length a b

/-- A known word, and how similar it is: code points in common out of the length of both words. -/
structure Candidate where
  word : Text
  common : Nat
  length : Nat
deriving DecidableEq, Repr

namespace Candidate

/-- A known word as a candidate for a given one. -/
def of (given known : Text) : Candidate :=
  ⟨known, Similar.common known given, known.length + given.length⟩

/-- Whether three fifths of the code points are in common, or more. -/
def isClose (c : Candidate) : Bool := 3 * c.length ≤ 10 * c.common

/-- Whether the code points of one word come before those of another one. -/
def wordBefore : Text → Text → Bool
  | [], _ => true
  | _ :: _, [] => false
  | a :: as, b :: bs => a < b || (a = b && wordBefore as bs)

/-- Whether a candidate is no worse than another one; of two as similar, the later word is the
better. -/
def isBetter (c d : Candidate) : Bool :=
  let left := c.common * d.length
  let right := d.common * c.length
  right < left || (left = right && wordBefore d.word c.word)

end Candidate

/-- The greatest number of words that are suggested. -/
def limit : Nat := 3

/-- The known words that may be meant by a given one, in order. -/
def suggestions (given : Text) (known : List Text) : List Text :=
  let close := (known.map (Candidate.of given)).filter Candidate.isClose
  (((close.mergeSort Candidate.isBetter).take limit).map Candidate.word).mergeSort
    Candidate.wordBefore

end Similar

end PullNotes
