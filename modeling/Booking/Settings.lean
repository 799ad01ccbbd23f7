import Booking.Desk.Basic
import Booking.Text.Basic
/-!
# Settings

What a host may set from outside: the number of slots that one request may
list and the widest span of a reservation. A setting that is absent or is no
numeral takes its default; one that is too large takes the hard limit.
-/
namespace Booking

/-- The most slots that any request may list. -/
def Settings.slotLimit : Nat := 100000

/-- The number of slots that a request may list unless it is set. -/
def Settings.standardSlots : Nat := 10000

structure Settings where
  maxSlots : Nat := Settings.standardSlots
  /-- In milliseconds. -/
  maxSpan : Int := Desk.widestSpan
deriving DecidableEq, Repr

/-- A natural number of 64 bits, a plus sign allowed. -/
def Settings.unsigned? : List Char → Option Nat
  | '+' :: cs => Text.numeralBelow? Text.bound64 cs
  | cs => Text.numeralBelow? Text.bound64 cs

/-- An integer of 64 bits, with or without a sign. -/
def Settings.signed? : List Char → Option Int
  | '-' :: cs => (Text.numeralBelow? (Text.bound64 / 2 + 1) cs).map (fun n => -(n : Int))
  | '+' :: cs => (Text.numeralBelow? (Text.bound64 / 2) cs).map Int.ofNat
  | cs => (Text.numeralBelow? (Text.bound64 / 2) cs).map Int.ofNat

def Settings.slotsKey : String := "RESERVO_MAX_SLOTS"

def Settings.spanKey : String := "RESERVO_MAX_SPAN_DAYS"

def Settings.slotsOf (value : Option String) : Nat :=
  match value.bind (fun s => Settings.unsigned? (Text.trim s.toList)) with
  | none => Settings.standardSlots
  | some n => min n Settings.slotLimit

/-- The widest span for a number of days, which has to be positive. -/
def Settings.spanOf (value : Option String) : Int :=
  match value.bind (fun s => Settings.signed? (Text.trim s.toList)) with
  | none => Desk.widestSpan
  | some days =>
    if 0 < days then min (Instant.saturate (days * Instant.msPerDay)) Desk.widestSpan
    else Desk.widestSpan

def Settings.ofLookup (lookup : String → Option String) : Settings where
  maxSlots := Settings.slotsOf (lookup Settings.slotsKey)
  maxSpan := Settings.spanOf (lookup Settings.spanKey)

end Booking
