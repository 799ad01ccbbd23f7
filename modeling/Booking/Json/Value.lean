import Booking.Decimal.Shortest
import Booking.Text.Basic
/-!
# JSON values

A number that is written without fraction and exponent and fits 64 bits is an
integer; any other is a double. Reading collects digits into a significand of
64 bits and rounds twice: the significand to a double, then its product with a
rounded power of ten. A number too large for a double is refused. `-0` is a
double, since no integer keeps its sign.

An object keeps its members in the order in which they were given, repeated
keys included; those who read one decide what a repeated key means.
-/
namespace Booking

/-! ## Numbers -/

inductive Json.Number where
  /-- An integer from -2^63 up to 2^64 - 1. -/
  | integer (value : Int)
  | float (isNegative : Bool) (magnitude : Binary64)
deriving DecidableEq, Repr

/-- The largest power of ten that a double comes near to. -/
def Json.Number.greatestPower : Nat := 308

def Binary64.powerOfTen (k : Nat) : Binary64 := (Binary64.nearest? (Nat.pow 10 k) 1).getD Binary64.zero

def Binary64.mul? (x y : Binary64) : Option Binary64 :=
  Binary64.nearest? (x.numerator * y.numerator) (x.denominator * y.denominator)

def Binary64.div (x y : Binary64) : Binary64 :=
  (Binary64.nearest? (x.numerator * y.denominator) (x.denominator * y.numerator)).getD
    Binary64.zero

/-- Divides by `10 ^ k`, as often as needed by the largest power there is. The number of rounds is
enough to leave nothing of any number of 64 bits. -/
def Binary64.divideByPower : Nat → Binary64 → Nat → Binary64
  | 0, _, _ => Binary64.zero
  | n + 1, x, k =>
    if x.significand = 0 then x
    else if k ≤ Json.Number.greatestPower then x.div (Binary64.powerOfTen k)
    else
      Binary64.divideByPower n (x.div (Binary64.powerOfTen Json.Number.greatestPower))
        (k - Json.Number.greatestPower)

/-- The double for `significand * 10 ^ exponent`. -/
def Binary64.ofParts? (significand : Nat) (exponent : Int) : Option Binary64 :=
  (Binary64.nearest? significand 1).bind (fun x =>
    if x.significand = 0 then some x
    else if exponent < 0 then some (Binary64.divideByPower 4 x exponent.natAbs)
    else if exponent ≤ Json.Number.greatestPower then
      x.mul? (Binary64.powerOfTen exponent.natAbs)
    else none)

/-- Appends digits to a significand while it stays below 2^64, and counts those left over. -/
def Json.Number.collect (significand : Nat) : List Char → Nat × Nat
  | [] => (significand, 0)
  | c :: cs =>
    let next := 10 * significand + (c.toNat - '0'.toNat)
    if next < Text.bound64 then Json.Number.collect next cs else (significand, cs.length + 1)

/-- The double for a number with these digits before and after the point. -/
def Json.Number.double? (isNegative : Bool) (whole fraction : List Char) (exponent : Int) :
    Option Json.Number :=
  let (s, left) := Json.Number.collect 0 whole
  let (s, leftOfFraction) := Json.Number.collect s fraction
  (Binary64.ofParts? s (left + leftOfFraction - fraction.length + exponent)).map
    (Json.Number.float isNegative)

/-- A non-empty run of digits and what follows it. -/
def Json.Number.run? (cs : List Char) : Option (List Char × List Char) :=
  let ds := cs.takeWhile Char.isDigit
  if ds.isEmpty then none else some (ds, cs.dropWhile Char.isDigit)

/-- The exponent after the letter `e`, up to the end of the text. -/
def Json.Number.exponent? : List Char → Option Int
  | '+' :: ds => (Text.numeral? ds).map Int.ofNat
  | '-' :: ds => (Text.numeral? ds).map (fun n => -(n : Int))
  | ds => (Text.numeral? ds).map Int.ofNat

def Json.Number.ofWhole? (isNegative : Bool) (whole : List Char) : Option Json.Number :=
  let n := Nat.ofDigitChars 10 whole 0
  if isNegative then
    if n ≠ 0 ∧ n ≤ Text.bound64 / 2 then some (.integer (-n)) else Json.Number.double? true whole [] 0
  else if n < Text.bound64 then some (.integer n)
  else Json.Number.double? false whole [] 0

/-- Reads what follows the whole part: a fraction, an exponent, both or nothing. -/
def Json.Number.ofTail? (isNegative : Bool) (whole : List Char) : List Char → Option Json.Number
  | [] => Json.Number.ofWhole? isNegative whole
  | '.' :: rest =>
    match Json.Number.run? rest with
    | none => none
    | some (fraction, []) => Json.Number.double? isNegative whole fraction 0
    | some (fraction, c :: rest) =>
      if c = 'e' ∨ c = 'E' then
        (Json.Number.exponent? rest).bind (Json.Number.double? isNegative whole fraction)
      else none
  | c :: rest =>
    if c = 'e' ∨ c = 'E' then
      (Json.Number.exponent? rest).bind (Json.Number.double? isNegative whole [])
    else none

/-- Reads a number without its sign; a whole part of several digits does not start with zero. -/
def Json.Number.ofUnsigned? (isNegative : Bool) (cs : List Char) : Option Json.Number :=
  match Json.Number.run? cs with
  | none => none
  | some ('0' :: _ :: _, _) => none
  | some (whole, rest) => Json.Number.ofTail? isNegative whole rest

def Json.Number.parse? : List Char → Option Json.Number
  | '-' :: cs => Json.Number.ofUnsigned? true cs
  | cs => Json.Number.ofUnsigned? false cs

/-- An exponent, which always has a sign. -/
def Decimal.exponentText (e : Int) : List Char :=
  'e' :: (if e < 0 then '-' else '+') :: Nat.toDigits 10 e.natAbs

/-- A decimal in positional notation from 10^-5 up to 10^16, with an exponent outside. There is
always a point or an exponent. -/
def Decimal.text (d : Decimal) : List Char :=
  let ds := Nat.toDigits 10 d.digits
  let point : Int := ds.length + d.exponent
  if 0 ≤ d.exponent ∧ point ≤ 16 then ds ++ List.replicate d.exponent.toNat '0' ++ ['.', '0']
  else if 0 < point ∧ point ≤ 16 then ds.take point.toNat ++ '.' :: ds.drop point.toNat
  else if -5 < point ∧ point ≤ 0 then ['0', '.'] ++ List.replicate (-point).toNat '0' ++ ds
  else
    let fraction := if ds.length = 1 then [] else '.' :: ds.drop 1
    ds.take 1 ++ fraction ++ Decimal.exponentText (point - 1)

def Json.Number.text : Json.Number → String
  | .integer i => String.ofList (Text.integer i)
  | .float isNegative x =>
    let ds := (Decimal.shortest x).text
    String.ofList (if isNegative then '-' :: ds else ds)

/-! ## Values -/

inductive Json where
  | null
  | bool (value : Bool)
  | number (value : Json.Number)
  | string (value : String)
  | array (items : List Json)
  | object (members : List (String × Json))

def Json.ofInt (i : Int) : Json := .number (.integer i)

def Json.valuesOf (key : String) (members : List (String × Json)) : List Json :=
  members.filterMap (fun m => if m.1 = key then some m.2 else none)

def Json.without (key : String) (members : List (String × Json)) : List (String × Json) :=
  members.filter (fun m => m.1 ≠ key)

end Booking
