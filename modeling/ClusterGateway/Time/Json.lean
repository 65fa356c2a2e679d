import ClusterGateway.Json.Decode
import ClusterGateway.Time.Rfc3339

/-!
# Times in JSON

An instant is a string with a timestamp, a window of time an object with both ends.
-/

namespace ClusterGateway

open Json

namespace Instant

/-- The instant as JSON. -/
def encode (t : Instant) : Value := .string (Time.Rfc3339.render t)

/-- Reads an instant. -/
def decode : Decoder Instant := fun room d =>
  (Decoder.string room d).bind Time.Rfc3339.parseRelaxed?

end Instant

namespace TimeRange

/-- The window as JSON. -/
def encode (r : TimeRange) : Value := .object [("from", r.start.encode), ("to", r.stop.encode)]

/-- Reads a window. -/
def decode : Decoder TimeRange := fun room d => do
  let m ← Members.read? ["from", "to"] room d
  let start ← m.required "from" Instant.decode
  let stop ← m.required "to" Instant.decode
  return ⟨start, stop⟩

end TimeRange

end ClusterGateway
