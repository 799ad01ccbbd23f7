import Booking.Ledger.Basic
import Booking.Time.Instant
/-!
# The desk

The desk takes reservations into a ledger: it checks the span, the group and
its resources, and the rules, and only then adds the reservation to the log. A
refusal names the first thing that was wrong and leaves the desk as it was.
-/
namespace Booking

/-- The first instant that may be booked, 2000-01-01T00:00:00Z. -/
def Desk.earliest : Int := 946684800000

/-- The last instant that may be booked, 2200-01-01T00:00:00Z. -/
def Desk.latest : Int := 7258118400000

/-- The widest span that any desk accepts: 366 days. -/
def Desk.widestSpan : Int := 366 * Instant.msPerDay

def Desk.isWithinLimits (start stop : Int) : Bool := Desk.earliest ≤ start && stop ≤ Desk.latest

structure Desk where
  ledger : Ledger := {}
  /-- The widest span that this desk accepts. -/
  maxSpan : Int := Desk.widestSpan

def Desk.ofLedger (l : Ledger) : Desk := { ledger := l }

/-- Lowers the widest span; no desk accepts more than `Desk.widestSpan`. -/
def Desk.withMaxSpan (d : Desk) (ms : Int) : Desk := { d with maxSpan := min ms Desk.widestSpan }

inductive Refusal where
  | unknownGroup (group : Ident)
  | notInGroup (resource group : Ident)
  | rejected (rule : Ident)
  | emptySpan (start stop : Int)
  | outOfLimits
  | tooWide
deriving DecidableEq, Repr

def Refusal.message : Refusal → String
  | .unknownGroup group => "not found: " ++ group.text
  | .notInGroup resource group =>
    "resource " ++ resource.text ++ " is not in availability group " ++ group.text
  | .rejected rule => "rejected by reservation rule " ++ rule.text
  | .emptySpan start stop => s!"invalid span [{start}, {stop})"
  | .outOfLimits => "limit exceeded: timestamp out of range"
  | .tooWide => "limit exceeded: span too wide"

/-- What is wrong with the span from `start` to `stop`, if anything. -/
def Desk.spanRefusal? (maxSpan start stop : Int) : Option Refusal :=
  if stop ≤ start then some (.emptySpan start stop)
  else if !Desk.isWithinLimits start stop then some .outOfLimits
  else if maxSpan < stop - start then some .tooWide
  else none

/-- What keeps the reservation out of the ledger, if anything. -/
def Ledger.refusal? (l : Ledger) (g : Ident) (r : Reservation) : Option Refusal :=
  match l.group? g with
  | none => some (.unknownGroup g)
  | some group =>
    if !group.resources.contains r.resource then some (.notInGroup r.resource g)
    else
      match l.admission r.user g r.start r.stop with
      | .admitted => none
      | .unknownGroup => some (.unknownGroup g)
      | .rejected rule => some (.rejected rule)

/-- What keeps the desk from taking the reservation, if anything. -/
def Desk.refusal? (d : Desk) (g : Ident) (r : Reservation) : Option Refusal :=
  (Desk.spanRefusal? d.maxSpan r.start r.stop).or (d.ledger.refusal? g r)

/-- Adds the reservation to the log, or says why not. -/
def Desk.reserve (d : Desk) (g : Ident) (r : Reservation) : Except Refusal Desk :=
  match d.refusal? g r with
  | some refusal => .error refusal
  | none => .ok { d with ledger := d.ledger.addReservation r }

/-- Takes the reservations one after the other, and says of each what came of it. -/
def Desk.reserveEach (d : Desk) (g : Ident) :
    List Reservation → List (Reservation × Option Refusal) × Desk
  | [] => ([], d)
  | r :: rs =>
    match d.reserve g r with
    | .error refusal =>
      let (outcomes, last) := d.reserveEach g rs
      ((r, some refusal) :: outcomes, last)
    | .ok d =>
      let (outcomes, last) := d.reserveEach g rs
      ((r, none) :: outcomes, last)

def Desk.addResource (d : Desk) (g resource : Ident) : Except Refusal Desk :=
  if (d.ledger.group? g).isSome then
    .ok { d with ledger := d.ledger.addResource g resource }
  else .error (.unknownGroup g)

/-- Changes the ledger without any check. -/
def Desk.apply (d : Desk) (c : Ledger.Change) : Desk := { d with ledger := d.ledger.apply c }

/-!
## Names of counters

The names under which a host counts what the library decides, and the label
that each decision is counted under.
-/

/-- Counts the decisions on admission, by outcome. -/
def Metrics.decisions : String := "reservo_admission_decisions_total"

/-- Counts the reservations added through a desk. -/
def Metrics.reservations : String := "reservo_reservations_total"

/-- Counts the texts that were left out because they are no patterns. -/
def Metrics.patternsRejected : String := "reservo_patterns_rejected_total"

/-- The outcome of a span that is refused before any rule is asked. -/
def Metrics.invalidOutcome : String := "invalid"

def Admission.label : Admission → String
  | .admitted => "admitted"
  | .unknownGroup => "unknown_group"
  | .rejected _ => "rejected"

end Booking
