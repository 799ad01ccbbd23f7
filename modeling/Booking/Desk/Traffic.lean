import Booking.Desk.Basic
/-!
# Calls in flight

Several calls may ask one desk for reservations at the same time. Each of them
goes through the same phases, one atomic step at a time, and between two steps
any other call may move. What keeps the check and the entry of one user
together is a lock per user: a table gives each user's lock as long as some
call needs it. A call takes a handle to the lock of its user, acquires the
lock, decides, adds its reservation, releases the lock, gives its handle back,
and removes the entry from the table if no call has a handle to it any more.

Locks are numbered in the order of their creation, and a lock's holder and its
handles can be read off the phases of the calls. A call that is abandoned while
it waits for something gives up its lock and its handle, and does nothing else.
-/
namespace Booking

/-- How far a call has come. From `waiting` to `released` it has a handle to the lock. -/
inductive Call.Phase where
  | arrived
  /-- The span is in order. -/
  | checked
  | waiting (lock : Nat)
  | holding (lock : Nat)
  | decided (lock : Nat) (refusal : Option Refusal)
  /-- The reservation is in the log, unless it was refused. -/
  | settled (lock : Nat) (refusal : Option Refusal)
  | released (lock : Nat) (refusal : Option Refusal)
  | leaving (refusal : Option Refusal)
  | finished (refusal : Option Refusal)
  | abandoned
deriving DecidableEq, Repr

def Call.Phase.handle? : Call.Phase → Option Nat
  | .waiting lock | .holding lock | .decided lock _ | .settled lock _ | .released lock _ => some lock
  | _ => none

def Call.Phase.held? : Call.Phase → Option Nat
  | .holding lock | .decided lock _ | .settled lock _ => some lock
  | _ => none

def Call.Phase.isOver : Call.Phase → Bool
  | .finished _ | .abandoned => true
  | _ => false

/-- Whether the call waits for something, so that it may be abandoned. -/
def Call.Phase.isWaiting : Call.Phase → Bool
  | .waiting _ | .holding _ => true
  | .decided _ refusal => refusal.isNone
  | _ => false

structure Call where
  group : Ident
  reservation : Reservation
  phase : Call.Phase := .arrived
deriving DecidableEq, Repr

def Call.user (c : Call) : Ident := c.reservation.user

structure Traffic where
  desk : Desk
  /-- The lock of each user that has one. -/
  table : Register Nat := {}
  /-- The number that the next new lock gets. -/
  nextLock : Nat := 0
  calls : List Call

def Traffic.ofCalls (d : Desk) (calls : List Call) : Traffic := { desk := d, calls }

def Traffic.isHeld (t : Traffic) (lock : Nat) : Bool :=
  t.calls.any (fun c => c.phase.held? == some lock)

def Traffic.hasHandle (t : Traffic) (lock : Nat) : Bool :=
  t.calls.any (fun c => c.phase.handle? == some lock)

def Traffic.move (t : Traffic) (i : Nat) (phase : Call.Phase) : Traffic :=
  { t with calls := t.calls.modify i (fun c => { c with phase }) }

/-- Takes a handle to the user's lock, and creates the lock if there is none. -/
def Traffic.takeHandle (t : Traffic) (i : Nat) (user : Ident) : Traffic :=
  match t.table.get? user with
  | some lock => t.move i (.waiting lock)
  | none =>
    { t.move i (.waiting t.nextLock) with
      table := t.table.alter user (fun _ => some t.nextLock)
      nextLock := t.nextLock + 1 }

/-- Removes the user's lock from the table, unless some call has a handle to it. -/
def Traffic.sweep (t : Traffic) (user : Ident) : Traffic :=
  { t with
    table := t.table.alter user (fun lock? => lock?.filter (fun lock => t.hasHandle lock)) }

/-- The next step of call `i`; `none` if it is over or waits for a lock that another call holds. -/
def Traffic.step? (t : Traffic) (i : Nat) : Option Traffic :=
  match t.calls[i]? with
  | none => none
  | some c =>
    match c.phase with
    | .arrived =>
      match Desk.spanRefusal? t.desk.maxSpan c.reservation.start c.reservation.stop with
      | some refusal => some (t.move i (.finished (some refusal)))
      | none => some (t.move i .checked)
    | .checked => some (t.takeHandle i c.user)
    | .waiting lock => if t.isHeld lock then none else some (t.move i (.holding lock))
    | .holding lock =>
      some (t.move i (.decided lock (t.desk.ledger.refusal? c.group c.reservation)))
    | .decided lock (some refusal) => some (t.move i (.settled lock (some refusal)))
    | .decided lock none =>
      some { t.move i (.settled lock none) with desk := t.desk.apply (.reservation c.reservation) }
    | .settled lock refusal => some (t.move i (.released lock refusal))
    | .released _ refusal => some (t.move i (.leaving refusal))
    | .leaving refusal => some ((t.move i (.finished refusal)).sweep c.user)
    | .finished _ | .abandoned => none

/-- Abandons call `i`, if it waits for something. -/
def Traffic.abandon? (t : Traffic) (i : Nat) : Option Traffic :=
  match t.calls[i]? with
  | none => none
  | some c => if c.phase.isWaiting then some (t.move i .abandoned) else none

/-- One step of each call in turn, as far as it can move. -/
def Traffic.round (t : Traffic) : Traffic :=
  (List.range t.calls.length).foldl (fun t i => (t.step? i).getD t) t

def Traffic.isOver (t : Traffic) : Bool := t.calls.all (fun c => c.phase.isOver)

/-- Goes round by round until all calls are over, at most `n` rounds. -/
def Traffic.rounds : Nat → Traffic → Traffic
  | 0, t => t
  | n + 1, t => if t.isOver then t else Traffic.rounds n t.round

/-- The number of steps that a call has at most. -/
def Call.maxSteps : Nat := 8

/-- Lets all calls start at once and take turns. In each round some call moves, so there are no
more rounds than steps. -/
def Traffic.run (t : Traffic) : Traffic := Traffic.rounds (Call.maxSteps * t.calls.length) t

def Traffic.takenCount (t : Traffic) : Nat :=
  t.calls.countP (fun c => c.phase == .finished none)

def Desk.reserveTogether (d : Desk) (g : Ident) (rs : List Reservation) : Nat × Desk :=
  let t := (Traffic.ofCalls d (rs.map (fun r => { group := g, reservation := r }))).run
  (t.takenCount, t.desk)

end Booking
