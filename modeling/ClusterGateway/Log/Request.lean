import ClusterGateway.Http.Percent
import ClusterGateway.Log.Filter
import ClusterGateway.Log.Framing
import ClusterGateway.Pod.Group
import ClusterGateway.Query.Basic

/-!
# Requests for logs

How the log of one pod is asked for, and the streams of all pods behind an object.
-/

namespace ClusterGateway

open Http

/-- What is asked of a log. -/
structure LogOptions where
  /-- The container; the only one if none is named. -/
  container : Option String
  /-- Whether lines that are still to be written are wanted. -/
  follow : Bool
  /-- Whether the log of the terminated container is meant. -/
  previous : Bool
  /-- For how many seconds back. -/
  since : Option Int
  /-- How many of the last lines. -/
  tail : Option Int
  deriving Repr, DecidableEq, Inhabited

namespace LogOptions

/-- The pairs that ask for the options, in the order of their names. -/
def pairs (o : LogOptions) : List (String × String) :=
  (o.container.map fun c => ("container", c)).toList ++
  (if o.follow then [("follow", "true")] else []) ++
  (if o.previous then [("previous", "true")] else []) ++
  (o.since.map fun n => ("sinceSeconds", toString n)).toList ++
  (o.tail.map fun n => ("tailLines", toString n)).toList ++
  [("timestamps", "true")]

/-- The address of the log of a pod. -/
def address (o : LogOptions) (ns pod : String) : String :=
  PodGroup.podsPath ns ++ "/" ++ pod ++ "/log?" ++
    String.join (o.pairs.map fun (name, value) =>
      "&" ++ Percent.encodeForm name ++ "=" ++ Percent.encodeForm value)

/-- A text that is there. -/
def nonEmpty? (s : String) : Option String := if s = "" then none else some s

/-- A number of lines that limits anything. -/
def limit? (n : Int) : Option Int := if 0 < n then some n else none

/-- How many seconds back the API server has to look so that it misses nothing after `start`;
none when that is less than a second. -/
def since? (start now : Instant) : Option Int :=
  let seconds := Int.tdiv (now.nanosSince start) Instant.nanosPerSecond
  if 0 < seconds then some (seconds + 1) else none

/-- What a query for a batch asks for. -/
def ofBatch (q : LogsQuery) (start now : Instant) : LogOptions :=
  ⟨nonEmpty? q.container, false, q.previous, since? start now, limit? q.tail⟩

/-- What a query for a live stream asks for. -/
def ofLive (q : LogsQuery) : LogOptions :=
  ⟨nonEmpty? q.container, true, false, none, limit? q.tail⟩

end LogOptions

/-- The log of a pod: what arrives, if it could be opened. -/
structure PodLog where
  /-- The name of the pod. -/
  pod : String
  /-- What arrives. -/
  body : Option Body
  deriving Repr, DecidableEq, Inhabited

namespace PodLog

/-- The request for the log of a pod. -/
def request? (identity : Identity) (o : LogOptions) (ns pod : String) : Option Request :=
  if pod = "" then none
  else (Uri.parse? (o.address ns pod)).bind fun uri =>
    Exchange.inNameOf? identity (Exchange.get uri .empty)

/-- Asks for the log of a pod. -/
def fetch (identity : Identity) (o : LogOptions) (ns pod : String) : Dialogue PodLog :=
  match request? identity o ns pod with
  | some r => (Dialogue.request r).bind fun answer => .done ⟨pod, Exchange.bodyOf? answer⟩
  | none => .done ⟨pod, none⟩

/-- The raw lines that arrive. -/
def rawLines (l : PodLog) : List String := (l.body.map Framing.lines).getD []

/-- The lines that arrive and pass a filter. -/
def matching (f : LineFilter) (l : PodLog) : List LogLine :=
  (l.rawLines.filterMap fun raw => LogLine.parse? raw l.pod).filter f.accepts

end PodLog

end ClusterGateway
