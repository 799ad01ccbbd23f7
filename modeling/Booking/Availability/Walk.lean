import Booking.Time.Instant
/-!
# Walks through a window

A walk looks at the instants of a window from its start on, a fixed step apart,
as long as they are before its stop. The next instant saturates at the last one
that 64 bits hold, and there the walk ends. `Walk.instants` is the whole walk,
`Walk.find?` goes to the next instant that passes a test, and `Walk.take`
collects the first few, without looking further than it has to.
-/
namespace Booking

structure Walk where
  /-- The instant to look at next. -/
  next : Int
  /-- The first instant that is too late. -/
  stop : Int
  step : Int
deriving DecidableEq, Repr

/-- The walk from `start` with a step of so many minutes; a step of zero leaves nothing to walk. -/
def Walk.ofMinutes (start stop : Int) (minutes : Nat) : Walk :=
  let step := minutes * Instant.msPerMinute
  { next := if 0 < step then start else stop, stop, step }

def Walk.goesOn (w : Walk) : Bool := w.next < w.stop && w.next < Instant.greatest && 0 < w.step

def Walk.tail (w : Walk) : Walk := { w with next := Instant.saturate (w.next + w.step) }

theorem Walk.tail_lt {w : Walk} (h : w.goesOn = true) :
    (Instant.greatest - w.tail.next).toNat < (Instant.greatest - w.next).toNat := by
  simp only [Walk.goesOn, Bool.and_eq_true, decide_eq_true_eq] at h
  simp only [Walk.tail, Instant.saturate, Instant.least, Instant.greatest] at *
  omega

def Walk.instants (w : Walk) : List Int :=
  if _h : w.goesOn then w.next :: w.tail.instants else []
termination_by (Instant.greatest - w.next).toNat
decreasing_by exact Walk.tail_lt _h

/-- The next instant that passes the test, and the walk after it. -/
def Walk.find? (test : Int → Bool) (w : Walk) : Option (Int × Walk) :=
  if _h : w.goesOn then
    if test w.next then some (w.next, w.tail) else w.tail.find? test
  else none
termination_by (Instant.greatest - w.next).toNat
decreasing_by exact Walk.tail_lt _h

/-- The first instants that pass the test, at most `n`. -/
def Walk.take (test : Int → Bool) (n : Nat) (w : Walk) : List Int :=
  go n w []
where
  /-- Puts the instants in front of those found before, which are in reverse order. -/
  go : Nat → Walk → List Int → List Int
    | 0, _, found => found.reverse
    | n + 1, w, found =>
      match w.find? test with
      | none => found.reverse
      | some (t, rest) => go n rest (t :: found)

end Booking
