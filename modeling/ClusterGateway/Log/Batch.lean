import ClusterGateway.Log.Request

/-!
# Batches of log lines

The logs of all pods behind an object, asked for at the same time.  The answer holds the lines of
all of them in the order of their times; lines of one time stay in the order of the pods and, in
one pod, in the order in which they were written.  A pod whose log cannot be opened has no lines.
-/

namespace ClusterGateway

namespace LogBatch

/-- The window of a query. -/
def window (q : LogsQuery) (now : Instant) : TimeRange := q.timeRange.getD (.lastHour now)

/-- Lines in the order of their times. -/
def byTime (lines : List LogLine) : List LogLine :=
  lines.mergeSort fun a b => a.time.notAfter b.time

/-- The lines of all logs that pass a filter. -/
def merge (f : LineFilter) (logs : List PodLog) : List LogLine :=
  byTime (logs.flatMap (·.matching f))

/-- The lines that a query asks for. -/
def lines (identity : Identity) (q : LogsQuery) : Operation (List LogLine) := do
  let asked ← Operation.ofDialogue .now
  let range := window q asked
  let filter ← Operation.ofExcept (LineFilter.ofPattern q.filter (some range))
  let group ← PodGroup.resolve identity q.resource q.ns q.name
  let now ← Operation.ofDialogue .now
  let options := LogOptions.ofBatch q range.start now
  let logs ← Operation.ofDialogue
    (.collect (group.pods.map fun pod => PodLog.fetch identity options q.ns pod))
  return merge filter logs

end LogBatch

end ClusterGateway
