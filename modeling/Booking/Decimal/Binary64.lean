/-!
# Numbers of 64-bit binary floating point

A finite double is a sign and a magnitude `significand * 2 ^ exponent` with a
significand below 2^53 and an exponent of at least -1074. `Binary64.nearest?`
rounds a fraction to the nearest double, a half to the even significand, and
answers `none` beyond the largest one. All arithmetic is on natural numbers.
-/
namespace Booking

structure Binary64 where
  significand : Nat
  exponent : Int
deriving DecidableEq, Repr

/-- Two to the power of 53, above every significand. -/
def Binary64.bound : Nat := 0x20000000000000

def Binary64.leastExponent : Int := -1074
def Binary64.greatestExponent : Int := 971

def Binary64.numerator (x : Binary64) : Nat := x.significand * Nat.pow 2 x.exponent.toNat
def Binary64.denominator (x : Binary64) : Nat := Nat.pow 2 (-x.exponent).toNat

def Binary64.zero : Binary64 := ⟨0, Binary64.leastExponent⟩

/-- The quotient rounded to the nearest number, a half to the even one. -/
def Binary64.divideEven (num den : Nat) : Nat :=
  let q := num / den
  let twice := 2 * (num % den)
  if den < twice || (twice == den && q % 2 == 1) then q + 1 else q

/-- The quotient of `num` by `den * 2 ^ e`, as a fraction. -/
def Binary64.scaled (num den : Nat) (e : Int) : Nat × Nat :=
  (num * Nat.pow 2 (-e).toNat, den * Nat.pow 2 e.toNat)

/-- The nearest double to a fraction, unless it is too large for one. -/
def Binary64.nearest? (num den : Nat) : Option Binary64 :=
  if num = 0 then some Binary64.zero
  else
    -- with this exponent or the next one the quotient has 53 bits
    let low : Int := (Nat.log2 num : Int) - Nat.log2 den - 53
    let (a, b) := Binary64.scaled num den low
    let e := max Binary64.leastExponent (if a / b < Binary64.bound then low else low + 1)
    let (a, b) := Binary64.scaled num den e
    let m := Binary64.divideEven a b
    let (m, e) := if m = Binary64.bound then (Binary64.bound / 2, e + 1) else (m, e)
    if Binary64.greatestExponent < e then none else some ⟨m, e⟩

example : Binary64.nearest? 1 10 = some ⟨7205759403792794, -56⟩ := by decide +kernel
example : Binary64.nearest? (Nat.pow 2 1024) 1 = none := by decide +kernel

end Booking
