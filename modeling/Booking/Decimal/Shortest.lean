import Booking.Decimal.Binary64
/-!
# The shortest decimal of a double

The fewest decimal digits that read back as the same double, and of those the
nearest to it. On the grid of each digit count only the two neighbours of the
value need a look: if any point of a grid reads back, one of these does.
-/
namespace Booking

structure Decimal where
  digits : Nat
  exponent : Int
deriving DecidableEq, Repr

/-- The exponent of the power of ten at or below a fraction that is not zero. -/
def Decimal.magnitude (num den : Nat) : Int :=
  -- no double is as small as 10 ^ -400
  ((Nat.toDigits 10 (num * Nat.pow 10 400 / den)).length : Int) - 401

/-- A double with the numbers that round to it: four times the significand, the distances from
there to both ends, and whether the ends belong to it. The unit is a quarter of the last bit. -/
structure Decimal.Reach where
  center : Nat
  below : Nat
  above : Nat
  isClosed : Bool

def Decimal.reach (x : Binary64) : Decimal.Reach where
  center := 4 * x.significand
  below := if x.significand = Binary64.bound / 2 && Binary64.leastExponent < x.exponent then 1 else 2
  above := 2
  isClosed := x.significand % 2 == 0

/-- Whether `c * 10 ^ k` rounds to the double, and four times its distance from it if so. Both are
compared as multiples of the same unit. -/
def Decimal.distance? (x : Binary64) (c : Nat) (k : Int) : Option Nat :=
  let r := Decimal.reach x
  let e := x.exponent - 2
  -- the point and the double's quarters, over one denominator
  let point := c * Nat.pow 10 k.toNat * Nat.pow 2 (-e).toNat
  let unit := Nat.pow 10 (-k).toNat * Nat.pow 2 e.toNat
  let center := r.center * unit
  if point ≤ center then
    let d := center - point
    if d < r.below * unit || (r.isClosed && d == r.below * unit) then some d else none
  else
    let d := point - center
    if d < r.above * unit || (r.isClosed && d == r.above * unit) then some d else none

/-- The better of the two neighbours of the double on the grid of so many digits. -/
def Decimal.onGrid? (x : Binary64) (count : Nat) : Option Decimal :=
  let k := Decimal.magnitude x.numerator x.denominator + 1 - count
  let low := x.numerator * Nat.pow 10 (-k).toNat / (x.denominator * Nat.pow 10 k.toNat)
  match Decimal.distance? x low k, Decimal.distance? x (low + 1) k with
  | none, none => none
  | some _, none => some ⟨low, k⟩
  | none, some _ => some ⟨low + 1, k⟩
  | some a, some b => some (if a < b || (a == b && low % 2 == 0) then ⟨low, k⟩ else ⟨low + 1, k⟩)

def Decimal.strip : Nat → Decimal → Decimal
  | 0, d => d
  | n + 1, d =>
    if d.digits ≠ 0 ∧ d.digits % 10 = 0 then Decimal.strip n ⟨d.digits / 10, d.exponent + 1⟩ else d

/-- The shortest decimal that reads back as the double; 17 digits always do. -/
def Decimal.shortest (x : Binary64) : Decimal :=
  if x.significand = 0 then ⟨0, 0⟩
  else
    ((List.range' 1 17).findSome? (Decimal.onGrid? x)).elim ⟨0, 0⟩ (Decimal.strip 17)

example : Decimal.shortest ⟨7205759403792794, -56⟩ = ⟨1, -1⟩ := by decide +kernel
example : Decimal.shortest ⟨1, -1074⟩ = ⟨5, -324⟩ := by decide +kernel

end Booking
