import Booking.Command.Answer
import Std.Time.DateTime.Timestamp
/-!
# Command line

Reads one request from standard input, prints its answer as a line of JSON, and
ends with status 0 for data and 1 for an error. Settings come from the
environment.
-/
namespace Booking

/-- Everything that standard input holds. -/
partial def readToEnd (input : IO.FS.Stream) (done : ByteArray) : IO ByteArray := do
  let chunk ← input.read 65536
  if chunk.isEmpty then return done else readToEnd input (done ++ chunk)

/-- The surroundings of a run: a fresh identifier has the time in its first 48 bits and chance in
the other 80. -/
def Surroundings.read : IO Surroundings := do
  let slots ← IO.getEnv Settings.slotsKey
  let span ← IO.getEnv Settings.spanKey
  let lookup (key : String) := if key = Settings.slotsKey then slots else span
  let now := (← Std.Time.Timestamp.now).toMillisecondsSinceUnixEpoch.toInt
  let chance := (← IO.getRandomBytes 10).foldl (fun n b => n * 256 + b.toNat) 0
  return {
    settings := Settings.ofLookup lookup
    now
    fresh := fun k => Ident.ofNat (now.toNat * Nat.pow 2 80 + (chance + k) % Nat.pow 2 80) }

end Booking

def main : IO UInt32 := do
  let surroundings ← Booking.Surroundings.read
  let bytes ← Booking.readToEnd (← IO.getStdin) ByteArray.empty
  let answer := Booking.Answer.ofBytes surroundings bytes
  IO.println answer.toJson.text
  (← IO.getStdout).flush
  return answer.status.toUInt32
