import Booking.Record.Forms
import Booking.Time.Stamp
/-!
# Requests

A request is one command with its fields, as a JSON object that names the
command under the key `command`, or as an array of the command and its fields in
order. Instants are timestamps. A reservation in a request may come without an
identifier; it is given one when the request is answered.
-/
namespace Booking

structure Request.Entry where
  id? : Option Ident := none
  user : Ident
  resource : Ident
  start : Int
  stop : Int
deriving DecidableEq, Repr

/-- What the ledger of a request holds before the request is answered. -/
structure Request.Setup where
  groups : List Group := []
  rules : List Rule := []
  reservations : List Request.Entry := []

inductive Request where
  | accepts (pattern : String) (instant : Int)
  | acceptsRange (pattern : String) (start stop : Int)
  /-- What is the pattern's canonical text, and what does it say of each dimension? -/
  | explain (pattern : String)
  | slots (patterns : List String) (start stop : Int) (stepMinutes : Nat)
  | quota (quota : Quota) (schedules : List Int) (now? : Option Int)
  | canReserve (setup : Request.Setup) (user group : Ident) (start stop : Int)
  | reserve (setup : Request.Setup) (group : Ident) (requests : List Request.Entry)

/-- The fields of a record or command: members of an object, or the items of an array. -/
inductive Request.Fields where
  | members (ms : List (String × Json))
  | items (vs : List Json)

def Request.Fields.ofJson (f : Record.Form) : Record.Reader Request.Fields
  | .object ms => .ok (.members ms)
  | .array vs => do
    f.noMore vs
    return .items vs
  | v => Record.mismatch v f.expected

/-- Reads a field that has to be there: the one with the key, or the one at the position. -/
def Request.Fields.get {α : Type} (fs : Request.Fields) (f : Record.Form) (i : Nat) (key : String)
    (read : Record.Reader α) : Except DataError α :=
  match fs with
  | .members ms => do Record.require key (← Record.member? ms key read)
  | .items vs => f.item vs i read

/-- Reads a field that may be missing. In an array only the last fields may be. -/
def Request.Fields.getD {α : Type} (fs : Request.Fields) (i : Nat) (key : String)
    (read : Record.Reader α) (default : α) : Except DataError α :=
  match fs with
  | .members ms => do return (← Record.member? ms key read).getD default
  | .items vs => Record.itemD vs i read default

def Record.stamp : Record.Reader Int :=
  Record.parsed (fun s => (Stamp.parse? s).elim (Except.error ()) Except.ok)
    (fun _ => DataError.timestamp)

def Record.optional {α : Type} (read : Record.Reader α) : Record.Reader (Option α)
  | .null => .ok none
  | v => (read v).map some

def Json.isNullOrEmpty : Json → Bool
  | .null => true
  | .object [] => true
  | _ => false

/-- Requests let an empty object stand for `null` beside the name of a period. -/
def Request.readQuota : Record.Reader Quota :=
  Quota.ofJsonWith (Period.ofJsonWith Json.isNullOrEmpty)

def Request.Entry.form : Record.Form := ⟨"ReservationInput", 5⟩

def Request.Entry.ofJson : Record.Reader Request.Entry := fun v => do
  let f := Request.Entry.form
  let fs ← Request.Fields.ofJson f v
  let id? ← fs.getD 0 "id" (fun v => (Record.ident v).map some) none
  let user ← fs.get f 1 "userId" Record.ident
  let resource ← fs.get f 2 "resourceId" Record.ident
  let start ← fs.get f 3 "start" Record.stamp
  let stop ← fs.get f 4 "end" Record.stamp
  return { id?, user, resource, start, stop }

/-- Reads the fields that come first in both commands on reservations. -/
def Request.Setup.ofFields (fs : Request.Fields) : Except DataError Request.Setup := do
  let groups ← fs.getD 0 "groups" (Record.listOf Group.ofJson) []
  let rules ← fs.getD 1 "rules" (Record.listOf Rule.ofJson) []
  let reservations ← fs.getD 2 "reservations" (Record.listOf Request.Entry.ofJson) []
  return { groups, rules, reservations }

inductive Request.Kind where
  | accepts
  | acceptsRange
  | explain
  | slots
  | quota
  | canReserve
  | reserve
deriving DecidableEq, Repr

def Request.Kind.all : List Request.Kind :=
  [.accepts, .acceptsRange, .explain, .slots, .quota, .canReserve, .reserve]

/-- The name of the command, and how many fields it has. -/
def Request.Kind.form : Request.Kind → Record.Form
  | .accepts => ⟨"match", 2⟩
  | .acceptsRange => ⟨"matchRange", 3⟩
  | .explain => ⟨"explain", 1⟩
  | .slots => ⟨"slots", 4⟩
  | .quota => ⟨"quota", 3⟩
  | .canReserve => ⟨"canReserve", 7⟩
  | .reserve => ⟨"reserve", 5⟩

def Request.Kind.ofName (name : String) : Except DataError Request.Kind :=
  match Request.Kind.all.find? (fun k => k.form.name = name) with
  | some k => .ok k
  | none => .error (.unknownVariant name (Request.Kind.all.map (fun k => k.form.name)))

def Request.ofFields (k : Request.Kind) (fs : Request.Fields) : Except DataError Request :=
  let f := k.form
  match k with
  | .accepts => do
    return .accepts (← fs.get f 0 "pattern" Record.string) (← fs.get f 1 "at" Record.stamp)
  | .acceptsRange => do
    return .acceptsRange (← fs.get f 0 "pattern" Record.string)
      (← fs.get f 1 "start" Record.stamp) (← fs.get f 2 "end" Record.stamp)
  | .explain => do
    return .explain (← fs.get f 0 "pattern" Record.string)
  | .slots => do
    return .slots (← fs.get f 0 "patterns" (Record.listOf Record.string))
      (← fs.get f 1 "start" Record.stamp) (← fs.get f 2 "end" Record.stamp)
      (← fs.get f 3 "stepMinutes" Record.count)
  | .quota => do
    let quota ← fs.get f 0 "quota" Request.readQuota
    let schedules ← fs.get f 1 "schedules" (Record.listOf Record.stamp)
    -- only an object may leave the instant out
    let now? ← match fs with
      | .members _ => fs.getD 2 "now" (Record.optional Record.stamp) none
      | .items _ => fs.get f 2 "now" (Record.optional Record.stamp)
    return .quota quota schedules now?
  | .canReserve => do
    return .canReserve (← Request.Setup.ofFields fs) (← fs.get f 3 "userId" Record.ident)
      (← fs.get f 4 "groupId" Record.ident) (← fs.get f 5 "start" Record.stamp)
      (← fs.get f 6 "end" Record.stamp)
  | .reserve => do
    return .reserve (← Request.Setup.ofFields fs) (← fs.get f 3 "groupId" Record.ident)
      (← fs.get f 4 "requests" (Record.listOf Request.Entry.ofJson))

/-- The command's name and its fields, still unread. -/
def Request.split : Json → Except DataError (String × Json)
  | .object ms => do
    let name ← Record.member? ms "command" Record.string
    return (← Record.require "command" name, .object (Json.without "command" ms))
  | .array (v :: vs) => do
    return (← Record.string v, .array vs)
  | _ => .error (.missing "command")

def Request.ofJson : Record.Reader Request := fun v => do
  let (name, rest) ← Request.split v
  let k ← Request.Kind.ofName name
  Request.ofFields k (← Request.Fields.ofJson k.form rest)

end Booking
