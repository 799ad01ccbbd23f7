import Booking.Availability.Walk
import Booking.Recurrence.Reader
import Booking.Time.Period
/-!
# Availability and quota

A resource is available at the instants that one of its patterns accepts, and
its quota allows so many schedules in each period. A text that is no pattern is
left out, which narrows the availability and breaks nothing else.
-/
namespace Booking

structure Quota where
  count : Nat
  period : Period := Period.standard
deriving DecidableEq, Repr

structure Availability where
  patterns : List Pattern := []
  quota : Quota
deriving DecidableEq, Repr

def Availability.ofQuota (q : Quota) : Availability := { quota := q }

def Availability.setQuota (a : Availability) (q : Quota) : Availability := { a with quota := q }

def Availability.add (a : Availability) (p : Pattern) : Availability :=
  { a with patterns := a.patterns ++ [p] }

/-- Adds the pattern that the text stands for; `none` if it stands for none. -/
def Availability.addText? (a : Availability) (s : String) : Option Availability :=
  match Pattern.parse s with
  | .ok p => some (a.add p)
  | .error _ => none

/-- Adds the patterns that the texts stand for and leaves out the other texts. -/
def Availability.addTexts (a : Availability) (texts : List String) : Availability :=
  texts.foldl (fun a s => (a.addText? s).getD a) a

/-- Removes the first pattern whose canonical text is that of the given text; `none` if the text
stands for no pattern or for one that is not there. -/
def Availability.removeText? (a : Availability) (s : String) : Option Availability :=
  match Pattern.parse s with
  | .error _ => none
  | .ok p =>
    if a.patterns.any (fun q => q.text == p.text) then
      some { a with patterns := a.patterns.eraseP (fun q => q.text == p.text) }
    else none

def Availability.isAvailable (a : Availability) (t : Int) : Bool :=
  a.patterns.any (fun p => p.accepts t)

def Availability.isAvailableRange (a : Availability) (start stop : Int) : Bool :=
  a.patterns.any (fun p => p.acceptsRange start stop)

/-- The first available instants of a window, at most `limit`, from `start` on and so many minutes
apart. -/
def Availability.slots (a : Availability) (start stop : Int) (minutes limit : Nat) : List Int :=
  (Walk.ofMinutes start stop minutes).take a.isAvailable limit

def Availability.period? (a : Availability) (t : Int) : Option Span := a.quota.period.bucket? t

/-- Whether fewer schedules than the quota allows lie in the period around `now`. A schedule at
either end of the period counts. -/
def Availability.hasQuota (a : Availability) (schedules : List Int) (now : Int) : Bool :=
  match a.period? now with
  | none => false
  | some span => schedules.countP span.containsInclusive < a.quota.count

/-- The most instants that a request for slots may look at. -/
def Walk.maxSteps : Int := 1000000

/-- The stop of a window cut to so many steps, or `none` if the window is no longer than that. -/
def Walk.cutStop? (start stop : Int) (minutes : Nat) (steps : Int) : Option Int :=
  let step := minutes * Instant.msPerMinute
  let limit := Instant.saturate (start + Instant.saturate (step * steps))
  if step == 0 || stop ≤ start || stop ≤ limit then none else some limit

end Booking
