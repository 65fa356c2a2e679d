import ClusterGateway.Log.Request

/-!
# Live logs

The logs of all pods behind an object, followed at the same time.  Every line that passes the
filter is offered to one sink.  A sink that refuses a line stops the log of that pod only.  A pod
looks whether the stream is cancelled before it reads a line and once more before it hands a line
over; then its log ends.

The logs of the pods go on independently, so a course of events is any list of `LiveEvent`, and
`LiveStream.run` is what comes of it.  Between the last look of a pod and the sink's answer anything
may happen elsewhere, and if the stream is cancelled meanwhile, the sink may answer all the same or
the line is withdrawn.
-/

namespace ClusterGateway

/-- Where lines go, with states `σ`. -/
structure LineSink (σ : Type) where
  /-- Offers a line: whether it is accepted, and the state afterwards. -/
  offer : σ → LogLine → Bool × σ
  /-- Whether the sink has asked for the end of the whole stream. -/
  cancels : σ → Bool

/-- How far the log of a pod has got. -/
inductive PodProgress where
  /-- The raw lines that are still to be read. -/
  | reading (rest : List String)
  /-- A line that is still to be offered, and the raw lines after it. -/
  | offering (line : LogLine) (rest : List String)
  /-- A line that is on its way to the sink, and the raw lines after it. -/
  | handing (line : LogLine) (rest : List String)
  /-- The end. -/
  | ended
  deriving Inhabited

/-- How far a live stream has got. -/
structure LiveState (σ : Type) where
  /-- The pods and how far their logs have got. -/
  pods : List (String × PodProgress)
  /-- The state of the sink. -/
  sink : σ
  /-- Whether the stream has been cancelled. -/
  cancelled : Bool
  /-- The lines that the sink has accepted, in their order. -/
  accepted : List LogLine

/-- What can happen next. -/
inductive LiveEvent where
  /-- The log of a pod, told by its place, goes on. -/
  | advance (pod : Nat)
  /-- A pod withdraws the line that is on its way, if the stream is cancelled. -/
  | withdraw (pod : Nat)
  /-- The stream is cancelled. -/
  | cancel
  deriving Repr, DecidableEq, Inhabited

namespace LiveStream

variable {σ : Type}

/-- Reads the next raw line of a pod. -/
def readLine (f : LineFilter) (pod raw : String) (rest : List String) : PodProgress :=
  match LogLine.parse? raw pod with
  | some line => if f.accepts line then .offering line rest else .reading rest
  | none => .reading rest

/-- Sets how far the log of a pod has got. -/
def putProgress (s : LiveState σ) (i : Nat) (pod : String) (p : PodProgress) : LiveState σ :=
  { s with pods := s.pods.set i (pod, p) }

/-- Offers a line of a pod to the sink. -/
def offerLine (sink : LineSink σ) (s : LiveState σ) (i : Nat) (pod : String) (line : LogLine)
    (rest : List String) : LiveState σ :=
  let (taken, after) := sink.offer s.sink line
  { pods := s.pods.set i (pod, if taken then .reading rest else .ended)
    sink := after
    cancelled := s.cancelled || sink.cancels after
    accepted := if taken then s.accepted ++ [line] else s.accepted }

/-- One step of the log of a pod. -/
def advance (f : LineFilter) (sink : LineSink σ) (s : LiveState σ) (i : Nat) : LiveState σ :=
  match s.pods[i]? with
  | none | some (_, .ended) | some (_, .reading []) => s
  | some (pod, .reading (raw :: rest)) =>
    putProgress s i pod (if s.cancelled then .ended else readLine f pod raw rest)
  | some (pod, .offering line rest) =>
    putProgress s i pod (if s.cancelled then .ended else .handing line rest)
  | some (pod, .handing line rest) => offerLine sink s i pod line rest

/-- Withdraws the line of a pod that is on its way to the sink, if the stream is cancelled. -/
def withdraw (s : LiveState σ) (i : Nat) : LiveState σ :=
  match s.pods[i]? with
  | some (pod, .handing _ _) => if s.cancelled then putProgress s i pod .ended else s
  | _ => s

/-- What comes of an event. -/
def step (f : LineFilter) (sink : LineSink σ) (s : LiveState σ) : LiveEvent → LiveState σ
  | .advance i => advance f sink s i
  | .withdraw i => withdraw s i
  | .cancel => { s with cancelled := true }

/-- What comes of a course of events. -/
def run (f : LineFilter) (sink : LineSink σ) (s : LiveState σ) (events : List LiveEvent) :
    LiveState σ :=
  events.foldl (step f sink) s

/-! ### From the start to the end -/

/-- The start of a stream: every pod with what arrives of its log. -/
def start (logs : List PodLog) (sink : σ) (cancelled : Bool) : LiveState σ :=
  ⟨logs.map fun l => (l.pod, .reading l.rawLines), sink, cancelled, []⟩

/-- A course of events that brings every log to its end, one pod after the other. -/
def inTurn (logs : List PodLog) : List LiveEvent :=
  (logs.zipIdx.map fun (l, i) => List.replicate (3 * l.rawLines.length) (.advance i)).flatten

/-- The lines that a sink accepts when the pods take turns as a whole. -/
def accepted (f : LineFilter) (logs : List PodLog) (sink : LineSink σ) (s : σ)
    (cancelled : Bool) : List LogLine :=
  (run f sink (start logs s cancelled) (inTurn logs)).accepted

/-- The filter of a live stream and the logs of its pods. -/
def connect (identity : Identity) (q : LogsQuery) : Operation (LineFilter × List PodLog) := do
  let filter ← Operation.ofExcept (LineFilter.ofPattern q.filter none)
  let group ← PodGroup.resolve identity q.resource q.ns q.name
  let logs ← Operation.ofDialogue
    (.all (group.pods.map fun pod => PodLog.fetch identity (.ofLive q) q.ns pod))
  return (filter, logs)

end LiveStream

namespace LineSink

/-- A sink that accepts everything. -/
def accepting : LineSink Unit := ⟨fun s _ => (true, s), fun _ => false⟩

/-- A sink that closes after it has accepted so many lines; the state is how many more. -/
def closing : LineSink Nat := ⟨fun
  | 0, _ => (false, 0)
  | n + 1, _ => (true, n), fun _ => false⟩

end LineSink

end ClusterGateway
