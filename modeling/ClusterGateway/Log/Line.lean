import ClusterGateway.Text.Split
import ClusterGateway.Time.Json

/-!
# Log lines

A container writes lines, and the API server puts a timestamp and a blank in front of each.  A
line whose body is a JSON object has its fields as labels; every line has the label `pod`.
-/

namespace ClusterGateway

open Json

/-- A line of the log of a pod. -/
structure LogLine where
  /-- When it was written. -/
  time : Instant
  /-- What was written. -/
  body : String
  /-- Labels for the reader. -/
  labels : Value
  /-- The pod that wrote it. -/
  pod : String
  deriving Repr, BEq, Inhabited

namespace LogLine

/-- The fields of a body that is a JSON object. -/
def bodyFields (body : String) : List (String × Value) :=
  match Value.parse? (Text.trim body) with
  | some (.object fields) => fields
  | _ => []

/-- The labels of a body: its fields, and the name of the pod unless they name one. -/
def labelsOf (body pod : String) : Value :=
  let fields := bodyFields body
  match fields.lookup "pod" with
  | some _ => .object fields
  | none => .object (Value.putMember "pod" (.string pod) fields)

/-- The line that a raw line of a pod denotes; none without a timestamp in front. -/
def parse? (raw pod : String) : Option LogLine := do
  let (stamp, body) ← Text.cut? ' ' raw
  let time ← Time.Rfc3339.parse? stamp
  return ⟨time, body, labelsOf body pod, pod⟩

/-- A line names the pod that it was read for. -/
theorem pod_of_parse? {raw pod : String} {line : LogLine} (h : parse? raw pod = some line) :
    line.pod = pod := by
  obtain ⟨cut, -, h⟩ := Option.bind_eq_some_iff.1 h
  obtain ⟨time, -, h⟩ := Option.bind_eq_some_iff.1 h
  rw [← Option.some.inj h]

/-- The line as JSON. -/
def encode (l : LogLine) : Value := .object [
  ("timestamp", l.time.encode), ("body", .string l.body), ("labels", l.labels),
  ("pod", .string l.pod)]

/-- Reads a line. -/
def decode : Decoder LogLine := fun room d => do
  let m ← Members.read? ["timestamp", "body", "labels", "pod"] room d
  let time ← m.required "timestamp" Instant.decode
  let body ← m.required "body" .string
  let labels ← m.required "labels" .value
  let pod ← m.required "pod" .string
  return ⟨time, body, labels, pod⟩

end LogLine

end ClusterGateway
