import Booking.Time.Date
/-!
# Instants

An instant is an `Int`: milliseconds since 1970-01-01T00:00:00Z, negative before
it. The number line has no ends here; `Instant.saturate` brings a sum back into
the 64 bits that an instant has outside the library.
-/
namespace Booking

def Instant.msPerMinute : Int := 60000
def Instant.msPerHour : Int := 3600000
def Instant.msPerDay : Int := 86400000

def Instant.least : Int := -9223372036854775808

def Instant.greatest : Int := 9223372036854775807

/-- The nearest number that 64 bits hold. -/
def Instant.saturate (x : Int) : Int := max Instant.least (min Instant.greatest x)

/-- The number of the UTC day that the instant lies in; day 0 is 1970-01-01. -/
def Instant.dayNumber (t : Int) : Int := t / Instant.msPerDay

def Instant.ofDayNumber (n : Int) : Int := n * Instant.msPerDay

theorem Instant.saturate_of_mem {x : Int} (h₁ : Instant.least ≤ x) (h₂ : x ≤ Instant.greatest) :
    Instant.saturate x = x := by
  simp only [Instant.saturate]; omega

theorem Instant.dayNumber_mem_iff {first next t : Int} :
    (first ≤ Instant.dayNumber t ∧ Instant.dayNumber t < next) ↔
      Instant.ofDayNumber first ≤ t ∧ t < Instant.ofDayNumber next := by
  simp only [Instant.dayNumber, Instant.ofDayNumber, Instant.msPerDay]
  omega

@[simp] theorem Instant.dayNumber_ofDayNumber (n : Int) :
    Instant.dayNumber (Instant.ofDayNumber n) = n := by
  simp only [Instant.dayNumber, Instant.ofDayNumber, Instant.msPerDay]; omega

/-!
## Samples

What a recurrence pattern looks at in an instant: minute, hour, day, month and
weekday in UTC. An instant outside the days that have a date has no sample.
-/

structure Sample where
  minute : Nat
  hour : Nat
  /-- The day of the month, from 1. -/
  day : Nat
  /-- The month, from 1. -/
  month : Nat
  /-- The day of the week: 0 is Sunday. -/
  weekday : Nat
deriving DecidableEq, Repr

def Instant.isRepresentable (t : Int) : Bool := Date.hasDay (Instant.dayNumber t)

def Instant.date (t : Int) : Date := Date.ofDayNumber (Instant.dayNumber t)

def Sample.ofInstant? (t : Int) : Option Sample :=
  let n := Instant.dayNumber t
  if Date.hasDay n then
    let date := Date.ofDayNumber n
    some {
      minute := (t / Instant.msPerMinute % 60).toNat
      hour := (t / Instant.msPerHour % 24).toNat
      day := date.day
      month := date.month
      weekday := Date.weekday n }
  else none

/-- Midnight at the end of the instant's day, if the next day has a date too. -/
def Instant.nextMidnight? (t : Int) : Option Int :=
  let n := Instant.dayNumber t
  if Date.hasDay n && Date.hasDay (n + 1) then some (Instant.ofDayNumber (n + 1)) else none

theorem Sample.ofInstant?_isSome {t : Int} :
    (Sample.ofInstant? t).isSome = Instant.isRepresentable t := by
  simp only [Sample.ofInstant?, Instant.isRepresentable]
  split <;> simp_all

end Booking
