import PullNotes.Text.Basic

/-!
# Binary numbers of double width

A number m · 2^q with a sign, kept exact: m has at most fifty-three binary digits, and q is the
least exponent that allows this, but never below -1074.  A decimal is read as the nearest of these
numbers, an exact half going to the even m.  A number is shown with the fewest decimal digits that
read back as it.
-/

namespace PullNotes

/-- A number of double width: none, infinite, or m · 2^q; each of the last two with a sign. -/
inductive Binary64 where
  | nan
  | infinite (negative : Bool)
  | finite (negative : Bool) (m : Nat) (q : Int)
deriving DecidableEq, Repr

namespace Binary64

/-- The number of binary digits. -/
def width : Nat := 53

/-- The least number with too many binary digits. -/
def mantissaBound : Nat := Nat.pow 2 width

/-- The least exponent. -/
def leastExponent : Int := -1074

/-- The greatest exponent. -/
def greatestExponent : Int := 971

/-- A power of a base as a numerator and a denominator. -/
def power (base : Nat) : Int → Nat × Nat
  | .ofNat k => (base.pow k, 1)
  | .negSucc k => (1, base.pow (k + 1))

/-- A quotient rounded to the nearest whole number, a half to the even one. -/
def nearest (num den : Nat) : Nat :=
  let whole := num / den
  let twice := 2 * (num % den)
  if den < twice ∨ (twice = den ∧ whole % 2 = 1) then whole + 1 else whole

/-- The nearest number of an exponent to a quotient; a result of too many digits has the next
exponent. -/
def atExponent (negative : Bool) (num den : Nat) (q : Int) : Binary64 :=
  let (up, down) := power 2 q
  let m := nearest (num * down) (den * up)
  let (m, q) := if m = mantissaBound then (m / 2, q + 1) else (m, q)
  if greatestExponent < q then infinite negative else finite negative m q

/-- The exponent for a quotient that is not zero. -/
def exponentFor (num den : Nat) : Int :=
  let guess : Int := (num.log2 : Int) - den.log2 - width
  let (up, down) := power 2 guess
  let q := if num * down / (den * up) < mantissaBound then guess else guess + 1
  max leastExponent q

/-- The number nearest to a quotient. -/
def ofQuotient (negative : Bool) (num den : Nat) : Binary64 :=
  if num = 0 then finite negative 0 leastExponent
  else atExponent negative num den (exponentFor num den)

/-- The number of decimal digits of a number. -/
def decimalDigits (n : Nat) : Nat := (Nat.toDigits 10 n).length

/-- Beyond this power of ten a number is infinite, and below its inverse it is zero. -/
def farthestPower : Int := 400

/-- The number nearest to a decimal n · 10^p. -/
def ofDecimal (negative : Bool) (n : Nat) (p : Int) : Binary64 :=
  let magnitude := decimalDigits n + p
  if n = 0 ∨ magnitude < -farthestPower then finite negative 0 leastExponent
  else if farthestPower < magnitude then infinite negative
  else
    let (up, down) := power 10 p
    ofQuotient negative (n * up) down

/-- Whether a number is zero. -/
def isZero : Binary64 → Bool
  | finite _ 0 _ => true
  | _ => false

/-- The whole part of a finite number, toward zero. -/
def whole? : Binary64 → Option Int
  | finite negative m q =>
    let (up, down) := power 2 q
    let n : Int := (m * up / down : Nat)
    some (if negative then -n else n)
  | _ => none

/-- Whether a number is a whole number. -/
def isWhole : Binary64 → Bool
  | finite _ m q => let (up, down) := power 2 q; (m * up) % down == 0
  | _ => false

/-! ### The shortest decimal -/

/-- The power of ten above a quotient that is not zero: the number of its digits before the point,
or minus the number of zeros after it. -/
def magnitude (num den : Nat) : Int :=
  if den ≤ num then decimalDigits (num / den)
  else
    match (List.range 400).find? fun j => den ≤ num * Nat.pow 10 (j + 1) with
    | some j => -(j : Int)
    | none => -400

/-- The decimal of a number of digits next to a quotient that reads back as a number, if one does;
of two the nearer, and of two equally near the even one. -/
def decimalOf? (x : Binary64) (negative : Bool) (num den digits : Nat) : Option (Nat × Int) :=
  let p := magnitude num den - digits
  let (up, down) := power 10 p
  let low := num * down / (den * up)
  let near := nearest (num * down) (den * up)
  let far := if near = low then low + 1 else low
  if ofDecimal negative near p = x then some (near, p)
  else if ofDecimal negative far p = x then some (far, p)
  else none

/-- The decimal n · 10^p with the fewest digits that reads back as a finite number. -/
def shortest (negative : Bool) (m : Nat) (q : Int) : Nat × Int :=
  let (up, down) := power 2 q
  ((List.range 17).findSome? fun k =>
    decimalOf? (finite negative m q) negative (m * up) down (k + 1)).getD (0, 0)

/-! ### Showing -/

/-- A decimal is shown with an exponent when its point would stand after more digits than this. -/
def greatestPositional : Int := 16

/-- A decimal is shown with an exponent when more zeros than this would follow its point. -/
def leastPositional : Int := -3

/-- The digits of a decimal without the zeros at the end. -/
def significant (n : Nat) : List Char :=
  ((Nat.toDigits 10 n).reverse.dropWhile (· = '0')).reverse

/-- An exponent with its sign and at least two digits. -/
def exponentText (e : Int) : List Char :=
  let digits := Nat.toDigits 10 e.natAbs
  (if e < 0 then '-' else '+') :: (List.replicate (2 - digits.length) '0' ++ digits)

/-- A decimal with some digits and the point after a number of them. -/
def positional (digits : List Char) (point : Int) : List Char :=
  if point ≤ 0 then '0' :: '.' :: List.replicate point.natAbs '0' ++ digits
  else
    let before := digits.take point.toNat
    let after := digits.drop point.toNat
    before ++ List.replicate (point.toNat - digits.length) '0' ++ '.' ::
      (if after.isEmpty then ['0'] else after)

/-- The shortest decimal of a number that is not zero and not negative, with or without an
exponent. -/
def shownPositive (m : Nat) (q : Int) : List Char :=
  let (n, p) := shortest false m q
  let digits := significant n
  let point := decimalDigits n + p
  if leastPositional ≤ point ∧ point ≤ greatestPositional then positional digits point
  else
    match digits with
    | [] => []
    | [d] => d :: 'e' :: exponentText (point - 1)
    | d :: ds => d :: '.' :: ds ++ 'e' :: exponentText (point - 1)

/-- A number as a text. -/
def shown : Binary64 → Text
  | nan => "nan"
  | infinite negative => if negative then "-inf" else "inf"
  | finite negative m q =>
    (if negative then Text.ofString "-" else []) ++
      (if m = 0 then Text.ofString "0.0" else Text.ofChars (shownPositive m q))

end Binary64

end PullNotes
