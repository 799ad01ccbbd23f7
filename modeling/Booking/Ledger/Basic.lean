import Booking.Ledger.Register
import Booking.Ledger.Reservation
/-!
# The ledger

The ledger holds the registered groups, the rules of each group and the log of
reservations, to which entries are only ever added. A register of log positions
per user spares the search through the log. Identifiers need not be unique: a
second group under the same identifier is ignored, while reservations and rules
are kept as often as they come.
-/
namespace Booking

structure Ledger where
  groups : Register Group := {}
  log : Array Reservation := #[]
  /-- The positions of each user's reservations in the log, in order. -/
  positions : Register (Array Nat) := {}
  /-- The rules of each group, in order. -/
  rules : Register (Array Rule) := {}

def Ledger.group? (l : Ledger) (g : Ident) : Option Group := l.groups.get? g

def Ledger.rulesFor (l : Ledger) (g : Ident) : List Rule := ((l.rules.get? g).getD #[]).toList

/-- Registers a group, unless there is one under its identifier. -/
def Ledger.addGroup (l : Ledger) (g : Group) : Ledger :=
  { l with groups := l.groups.alter g.id (fun old => some (old.getD g)) }

/-- Adds a resource to a registered group; to no group, nothing. -/
def Ledger.addResource (l : Ledger) (g resource : Ident) : Ledger :=
  { l with
    groups := l.groups.alter g
      (Option.map (fun group => { group with resources := group.resources ++ [resource] })) }

def Ledger.addReservation (l : Ledger) (r : Reservation) : Ledger :=
  { l with
    log := l.log.push r
    positions := l.positions.alter r.user (fun old => some ((old.getD #[]).push l.log.size)) }

/-- Adds a rule to its group, registered or not. -/
def Ledger.addRule (l : Ledger) (rule : Rule) : Ledger :=
  { l with rules := l.rules.alter rule.group (fun old => some ((old.getD #[]).push rule)) }

inductive Ledger.Change where
  | group (group : Group)
  | resource (group resource : Ident)
  | reservation (reservation : Reservation)
  | rule (rule : Rule)

def Ledger.apply (l : Ledger) : Ledger.Change → Ledger
  | .group g => l.addGroup g
  | .resource g resource => l.addResource g resource
  | .reservation r => l.addReservation r
  | .rule rule => l.addRule rule

def Ledger.ofChanges (changes : List Ledger.Change) : Ledger := changes.foldl Ledger.apply {}

/-- The user's reservations, in the order of the log. -/
def Ledger.reservationsOf (l : Ledger) (user : Ident) : List Reservation :=
  ((l.positions.get? user).getD #[]).toList.filterMap (fun i => l.log[i]?)

/-- The user's reservations of resources that the group lists, in the order of the log. -/
def Ledger.reservationsFor (l : Ledger) (user g : Ident) : List Reservation :=
  match l.group? g with
  | none => []
  | some group => (l.reservationsOf user).filter (fun r => group.resources.contains r.resource)

/-!
## Admission

A user may book in a group if the group is registered and all its rules allow
it. The first rule that does not is the one that rejects.
-/

inductive Admission where
  | admitted
  | unknownGroup
  | rejected (rule : Ident)
deriving DecidableEq, Repr

def Admission.isAdmitted : Admission → Bool
  | .admitted => true
  | _ => false

def Admission.rule? : Admission → Option Ident
  | .rejected rule => some rule
  | _ => none

def Ledger.admission (l : Ledger) (user g : Ident) (start stop : Int) : Admission :=
  match l.group? g with
  | none => .unknownGroup
  | some _ =>
    let existing := l.reservationsFor user g
    match (l.rulesFor g).find? (fun rule => !rule.allows existing user start stop) with
    | none => .admitted
    | some rule => .rejected rule.id

def Ledger.canReserve (l : Ledger) (user g : Ident) (start stop : Int) : Bool :=
  (l.admission user g start stop).isAdmitted

end Booking
