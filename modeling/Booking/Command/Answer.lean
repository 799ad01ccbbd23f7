import Booking.Command.Request
import Booking.Desk.Basic
import Booking.Json.Reader
import Booking.Json.Writer
import Booking.Settings
/-!
# Answers

What a request is answered with: data, or the text of an error. A request sees
only what it brings along; besides that, an answer depends on the settings, on
the clock if the request leaves out the instant, and on the identifiers that are
given to reservations without one.
-/
namespace Booking

inductive Answer where
  | success (data : Json)
  | failure (message : String)

def Answer.toJson : Answer → Json
  | .success data => .object [("ok", .bool true), ("data", data)]
  | .failure message => .object [("ok", .bool false), ("error", .string message)]

/-- The exit status of a program that gives the answer. -/
def Answer.status : Answer → Nat
  | .success _ => 0
  | .failure _ => 1

/-- What an answer depends on besides the request. -/
structure Surroundings where
  settings : Settings := {}
  now : Int
  /-- A supply of identifiers. -/
  fresh : Nat → Ident

def Answer.ofOption : Option String → Json
  | some s => .string s
  | none => .null

/-- The pattern of a request, or what is wrong with its text. -/
def Request.pattern (s : String) : Except String Pattern :=
  if Pattern.maxLength < s.utf8ByteSize then
    .error s!"pattern longer than {Pattern.maxLength} bytes"
  else (Pattern.parse s).mapError PatternError.message

def Answer.ofPattern (s : String) (data : Pattern → Json) : Answer :=
  match Request.pattern s with
  | .ok p => .success (data p)
  | .error message => .failure message

def Answer.ofMatch (isMatch : Bool) : Json := .object [("matches", .bool isMatch)]

def Answer.explanation (p : Pattern) : Json :=
  .object [("canonical", .string p.canonical), ("labelled", .string p.labelled)]

/-- The slots of a window, whether there would have been more, and the number of texts that are no
patterns. -/
structure SlotList where
  slots : List Int
  isTruncated : Bool
  skipped : Nat
deriving DecidableEq, Repr

/-- Lists slots up to the limit, and looks at no more instants than `Walk.maxSteps`. -/
def SlotList.ofWindow (limit : Nat) (patterns : List String) (start stop : Int) (minutes : Nat) :
    SlotList :=
  let a := (Availability.ofQuota { count := 0 }).addTexts patterns
  let cut? := Walk.cutStop? start stop minutes Walk.maxSteps
  let found := a.slots start (cut?.getD stop) minutes (limit + 1)
  { slots := found.take limit
    isTruncated := limit < found.length || cut?.isSome
    skipped := patterns.length - a.patterns.length }

def SlotList.toJson (s : SlotList) : Json :=
  .object [("slots", .array ((s.slots.filterMap Stamp.text?).map Json.string)),
    ("truncated", .bool s.isTruncated), ("skipped", Json.ofInt s.skipped)]

def Answer.slots (limit : Nat) (patterns : List String) (start stop : Int) (minutes : Nat) :
    Answer :=
  if !Desk.isWithinLimits start stop then .failure "timestamp out of range"
  else if patterns.any (fun s => Pattern.maxLength < s.utf8ByteSize) then
    .failure s!"pattern longer than {Pattern.maxLength} bytes"
  else .success (SlotList.ofWindow limit patterns start stop minutes).toJson

def Answer.quota (q : Quota) (schedules : List Int) (now : Int) : Json :=
  let a := Availability.ofQuota q
  let bound (f : Span → Int) := Answer.ofOption ((a.period? now).bind (fun s => Stamp.text? (f s)))
  .object [("available", .bool (a.hasQuota schedules now)), ("periodStart", bound Span.start),
    ("periodEnd", bound Span.stop)]

/-- The reservation of an entry, with the given identifier if it has none. -/
def Request.Entry.toReservation (e : Request.Entry) (fresh : Ident) : Reservation :=
  { id := e.id?.getD fresh, user := e.user, resource := e.resource, start := e.start,
    stop := e.stop }

/-- The reservations of the entries; entry `k` may take the fresh identifier `first + k`. -/
def Request.Entry.toReservations (fresh : Nat → Ident) (first : Nat) (es : List Request.Entry) :
    List Reservation :=
  es.zipIdx.map (fun q => q.1.toReservation (fresh (first + q.2)))

def Request.Setup.ledger (s : Request.Setup) (fresh : Nat → Ident) : Ledger :=
  Ledger.ofChanges
    (s.groups.map Ledger.Change.group ++ s.rules.map Ledger.Change.rule ++
      (Request.Entry.toReservations fresh 0 s.reservations).map Ledger.Change.reservation)

def Answer.reason : Admission → String
  | .admitted => "admitted"
  | .unknownGroup => "unknownGroup"
  | .rejected _ => "rejected"

def Answer.ofAdmission (a : Admission) : Json :=
  .object [("admitted", .bool a.isAdmitted), ("reason", .string (Answer.reason a)),
    ("ruleId", Answer.ofOption (a.rule?.map Ident.text))]

def Answer.ofOutcome (q : Reservation × Option Refusal) : Json :=
  let error := match q.2 with
    | none => []
    | some refusal => [("error", Json.string refusal.message)]
  .object ([("id", q.1.id.toJson), ("admitted", Json.bool q.2.isNone)] ++ error)

/-- What came of each entry, taken one after the other at a desk with the request's ledger. -/
def Request.Setup.reserve (s : Request.Setup) (w : Surroundings) (g : Ident)
    (es : List Request.Entry) : List (Reservation × Option Refusal) :=
  let desk := (Desk.ofLedger (s.ledger w.fresh)).withMaxSpan w.settings.maxSpan
  (desk.reserveEach g (Request.Entry.toReservations w.fresh s.reservations.length es)).1

def Request.answer (w : Surroundings) : Request → Answer
  | .accepts s t => Answer.ofPattern s (fun p => Answer.ofMatch (p.accepts t))
  | .acceptsRange s start stop =>
    Answer.ofPattern s (fun p => Answer.ofMatch (p.acceptsRange start stop))
  | .explain s => Answer.ofPattern s Answer.explanation
  | .slots patterns start stop minutes =>
    Answer.slots w.settings.maxSlots patterns start stop minutes
  | .quota q schedules now? => .success (Answer.quota q schedules (now?.getD w.now))
  | .canReserve setup user g start stop =>
    .success (Answer.ofAdmission ((setup.ledger w.fresh).admission user g start stop))
  | .reserve setup g es =>
    .success (.object [("results", .array ((setup.reserve w g es).map Answer.ofOutcome))])

def Answer.ofText (w : Surroundings) (s : String) : Answer :=
  match (Json.parse? s).map Request.ofJson with
  | some (.ok request) => request.answer w
  | _ => .failure "invalid JSON input"

/-- Answers the bytes of a request, which have to be UTF-8. -/
def Answer.ofBytes (w : Surroundings) (bytes : ByteArray) : Answer :=
  match String.fromUTF8? bytes with
  | some s => Answer.ofText w s
  | none => .failure "failed to read stdin: stream did not contain valid UTF-8"

end Booking
