import Booking.Availability.Basic
import Booking.Ledger.Reservation
import Booking.Record.Basic
/-!
# The records

How each type of the library is read from JSON and written to it. A value is
written with all its fields, identifiers in upper case and patterns in canonical
text; fields with a default may be left out where it is read.
-/
namespace Booking

def Ident.toJson (i : Ident) : Json := .string i.text

def Pattern.ofJson : Record.Reader Pattern := Record.parsed Pattern.parse .pattern
def Pattern.toJson (p : Pattern) : Json := .string p.canonical

def Period.ofName (s : String) : Except DataError Period :=
  match Period.all.find? (fun p => p.name = s) with
  | some p => .ok p
  | none => .error (.unknownVariant s (Period.all.map Period.name))

/-- A period is written as its name, or as an object with its name as the only key and a value that
counts as nothing. -/
def Period.ofJsonWith (isNothing : Json → Bool) : Record.Reader Period
  | .string s => Period.ofName s
  | .object [(s, v)] => do
    let p ← Period.ofName s
    if isNothing v then return p else Record.mismatch v "unit"
  | v@(.object _) => .error (.wrongValue (DataError.describe v) "map with a single key")
  | v => Record.mismatch v "string or map"

def Json.isNull : Json → Bool
  | .null => true
  | _ => false

def Period.ofJson : Record.Reader Period := Period.ofJsonWith Json.isNull
def Period.toJson (p : Period) : Json := .string p.name

def Quota.form : Record.Form := ⟨"Quota", 2⟩

def Quota.ofJsonWith (period : Record.Reader Period) : Record.Reader Quota
  | .object ms => do
    let count ← Record.member? ms "count" Record.count
    let period ← Record.member? ms "period" period
    let count ← Record.require "count" count
    return { count, period := period.getD Period.standard }
  | .array vs => do
    let count ← Quota.form.item vs 0 Record.count
    let period ← Record.itemD vs 1 period Period.standard
    Quota.form.noMore vs
    return { count, period }
  | v => Record.mismatch v Quota.form.expected

def Quota.ofJson : Record.Reader Quota := Quota.ofJsonWith Period.ofJson

def Quota.toJson (q : Quota) : Json :=
  .object [("count", Json.ofInt q.count), ("period", q.period.toJson)]

def Span.form : Record.Form := ⟨"Span", 2⟩

def Span.ofJson : Record.Reader Span
  | .object ms => do
    let stop ← Record.member? ms "end" Record.instant
    let start ← Record.member? ms "start" Record.instant
    return { start := ← Record.require "start" start, stop := ← Record.require "end" stop }
  | .array vs => do
    let start ← Span.form.item vs 0 Record.instant
    let stop ← Span.form.item vs 1 Record.instant
    Span.form.noMore vs
    return { start, stop }
  | v => Record.mismatch v Span.form.expected

def Span.toJson (s : Span) : Json :=
  .object [("start", Json.ofInt s.start), ("end", Json.ofInt s.stop)]

def Group.form : Record.Form := ⟨"AvailabilityGroup", 3⟩

def Group.ofJson : Record.Reader Group
  | .object ms => do
    let id ← Record.member? ms "id" Record.ident
    let name ← Record.member? ms "name" Record.string
    let resources ← Record.member? ms "resources" (Record.listOf Record.ident)
    let id ← Record.require "id" id
    let name ← Record.require "name" name
    return { id, name, resources := resources.getD [] }
  | .array vs => do
    let id ← Group.form.item vs 0 Record.ident
    let name ← Group.form.item vs 1 Record.string
    let resources ← Record.itemD vs 2 (Record.listOf Record.ident) []
    Group.form.noMore vs
    return { id, name, resources }
  | v => Record.mismatch v Group.form.expected

def Group.toJson (g : Group) : Json :=
  .object [("id", g.id.toJson), ("name", .string g.name),
    ("resources", .array (g.resources.map Ident.toJson))]

def Reservation.form : Record.Form := ⟨"Reservation", 5⟩

def Reservation.ofJson : Record.Reader Reservation
  | .object ms => do
    let stop ← Record.member? ms "end" Record.instant
    let id ← Record.member? ms "id" Record.ident
    let resource ← Record.member? ms "resourceId" Record.ident
    let start ← Record.member? ms "start" Record.instant
    let user ← Record.member? ms "userId" Record.ident
    let id ← Record.require "id" id
    let user ← Record.require "userId" user
    let resource ← Record.require "resourceId" resource
    let start ← Record.require "start" start
    let stop ← Record.require "end" stop
    return { id, user, resource, start, stop }
  | .array vs => do
    let id ← Reservation.form.item vs 0 Record.ident
    let user ← Reservation.form.item vs 1 Record.ident
    let resource ← Reservation.form.item vs 2 Record.ident
    let start ← Reservation.form.item vs 3 Record.instant
    let stop ← Reservation.form.item vs 4 Record.instant
    Reservation.form.noMore vs
    return { id, user, resource, start, stop }
  | v => Record.mismatch v Reservation.form.expected

def Reservation.toJson (r : Reservation) : Json :=
  .object [("id", r.id.toJson), ("userId", r.user.toJson), ("resourceId", r.resource.toJson),
    ("start", Json.ofInt r.start), ("end", Json.ofInt r.stop)]

def Rule.form : Record.Form := ⟨"ReservationRule", 5⟩

def Rule.ofJson : Record.Reader Rule
  | .object ms => do
    let group ← Record.member? ms "availabilityGroupId" Record.ident
    let id ← Record.member? ms "id" Record.ident
    let limit ← Record.member? ms "maxReservationsPerWindow" Record.count
    let constraints ← Record.member? ms "resourceConstraints" .ok
    let window ← Record.member? ms "window" Pattern.ofJson
    let id ← Record.require "id" id
    let group ← Record.require "availabilityGroupId" group
    let limit ← Record.require "maxReservationsPerWindow" limit
    let window ← Record.require "window" window
    return { id, group, limit, window, constraints := constraints.getD .null }
  | .array vs => do
    let id ← Rule.form.item vs 0 Record.ident
    let group ← Rule.form.item vs 1 Record.ident
    let limit ← Rule.form.item vs 2 Record.count
    let window ← Rule.form.item vs 3 Pattern.ofJson
    let constraints ← Record.itemD vs 4 .ok .null
    Rule.form.noMore vs
    return { id, group, limit, window, constraints }
  | v => Record.mismatch v Rule.form.expected

def Rule.toJson (rule : Rule) : Json :=
  .object [("id", rule.id.toJson), ("availabilityGroupId", rule.group.toJson),
    ("maxReservationsPerWindow", Json.ofInt rule.limit), ("window", rule.window.toJson),
    ("resourceConstraints", rule.constraints)]

end Booking
