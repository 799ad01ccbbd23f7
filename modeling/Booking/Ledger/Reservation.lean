import Booking.Ident
import Booking.Json.Value
import Booking.Recurrence.Pattern
/-!
# Reservations, groups and rules

A reservation books one resource for one user. An availability group is a named
set of resources that are booked alike, and a rule belongs to one group: a user
may hold only so many reservations there that start and end inside its window.
-/
namespace Booking

structure Reservation where
  id : Ident
  user : Ident
  resource : Ident
  start : Int
  stop : Int
deriving DecidableEq, Repr

structure Group where
  id : Ident
  name : String
  resources : List Ident := []
deriving DecidableEq, Repr

/-- At most `limit` reservations per user whose two ends the window accepts. -/
structure Rule where
  id : Ident
  group : Ident
  limit : Nat
  window : Pattern
  /-- Kept for the host as it was given; nothing here looks at it. -/
  constraints : Json := .null

/-- Whether the window accepts both ends of the reservation, so that the rule counts it. -/
def Rule.counts (rule : Rule) (r : Reservation) : Bool :=
  rule.window.accepts r.start && rule.window.accepts r.stop

/-- Whether the rule lets the user book from `start` to `stop` beside the existing reservations. -/
def Rule.allows (rule : Rule) (existing : List Reservation) (user : Ident) (start stop : Int) :
    Bool :=
  rule.window.acceptsRange start stop &&
    existing.countP (fun r => rule.counts r && r.user == user) < rule.limit

end Booking
