import Booking.Time.Instant
/-!
# Spans and quota periods

A quota counts per day, week, month or year. `Period.bucket?` is the period
that an instant falls into, from midnight to midnight; weeks start on Sunday.
There is no bucket where one of its two midnights has no date.
-/
namespace Booking

structure Span where
  start : Int
  stop : Int
deriving DecidableEq, Repr

def Span.duration (s : Span) : Int := s.stop - s.start

def Span.containsInclusive (s : Span) (t : Int) : Bool := s.start ≤ t && t ≤ s.stop

inductive Period where
  | day
  | week
  | month
  | year
deriving DecidableEq, Repr

def Period.all : List Period := [.day, .week, .month, .year]

def Period.name : Period → String
  | .day => "day"
  | .week => "week"
  | .month => "month"
  | .year => "year"

def Period.standard : Period := .day

/-- The first day of the period around a day, and the first day after it. -/
def Period.days (p : Period) (n : Int) : Int × Int :=
  match p with
  | .day => (n, n + 1)
  | .week => (n - Date.weekday n, n - Date.weekday n + 7)
  | .month =>
    let date := Date.ofDayNumber n
    let first := n - (date.day - 1)
    (first, first + Date.monthLength date.year date.month)
  | .year =>
    let year := (Date.ofDayNumber n).year
    (Date.dayNumber ⟨year, 1, 1⟩, Date.dayNumber ⟨year + 1, 1, 1⟩)

/-- The period around an instant, as the span between its two midnights. -/
def Period.bucket? (p : Period) (t : Int) : Option Span :=
  let n := Instant.dayNumber t
  let (first, next) := p.days n
  if Date.hasDay n && Date.hasDay first && Date.hasDay next then
    some { start := Instant.ofDayNumber first, stop := Instant.ofDayNumber next }
  else none

end Booking
