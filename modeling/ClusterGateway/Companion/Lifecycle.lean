import ClusterGateway.Net.SocketAddress

/-!
# The life of the companion listener

The listener of the companion can be started and stopped by any number of callers at the same
time.  A call goes through small steps that each touch the shared state once, and between any two
of them the steps of other calls may come; `Lifecycle.step` is one such step of one call.

A run of the listener begins when a start finds it stopped and claims it with a fresh token.  A
stop marks the run and cancels the token that is current then; the run ends when its own token is
cancelled.
-/

namespace ClusterGateway

namespace Lifecycle

/-- What the listener is doing. -/
inductive Phase where
  /-- Nothing. -/
  | stopped
  /-- It is about to listen. -/
  | starting
  /-- It listens. -/
  | running
  /-- It is about to stop. -/
  | stopping
  deriving Repr, DecidableEq, Inhabited

/-- Tells the runs of a listener apart. -/
abbrev Token := Nat

/-- What all calls share. -/
structure Listener where
  /-- What the listener is doing. -/
  phase : Phase
  /-- The token of the latest run. -/
  token : Token
  /-- The tokens that have been cancelled. -/
  cancelled : List Token
  /-- The address where the listener listens, if that is known. -/
  address : Option Net.SocketAddress
  deriving Repr, DecidableEq, Inhabited

/-- What a call to start returns. -/
inductive StartResult where
  /-- The listener was stopped. -/
  | ended
  /-- The listener was not stopped when the call came. -/
  | alreadyRunning
  /-- The address cannot be listened on. -/
  | bindFailed
  /-- Listening failed. -/
  | serveFailed
  deriving Repr, DecidableEq, Inhabited

/-- How far a call to start has got. -/
inductive StartProgress where
  /-- It has been made. -/
  | called
  /-- It has claimed the listener. -/
  | claimed (run : Token)
  /-- It has bound an address, which is known or not. -/
  | bound (run : Token) (address : Option Net.SocketAddress)
  /-- It has published the address. -/
  | published (run : Token)
  /-- It serves. -/
  | serving (run : Token)
  /-- It does not serve any more. -/
  | closing (run : Token) (result : StartResult)
  /-- It has withdrawn the address. -/
  | cleared (run : Token) (result : StartResult)
  /-- It has returned. -/
  | returned (result : StartResult)
  deriving Repr, DecidableEq, Inhabited

/-- What a call to stop returns. -/
inductive StopResult where
  /-- The listener is stopped. -/
  | stopped
  /-- The listener has not stopped in time. -/
  | timedOut
  deriving Repr, DecidableEq, Inhabited

/-- How far a call to stop has got. -/
inductive StopProgress where
  /-- It has been made. -/
  | called
  /-- It has marked a run, if there was one to mark. -/
  | marked (run : Option Token)
  /-- It has cancelled the current token and waits. -/
  | waiting (run : Option Token)
  /-- It has returned. -/
  | returned (result : StopResult)
  deriving Repr, DecidableEq, Inhabited

/-- What is up to the surroundings. -/
structure Chance where
  /-- What binding comes to: nothing if it fails, else the address that is bound, if that is
  known. -/
  binds : Option (Option Net.SocketAddress)
  /-- Whether listening fails. -/
  fails : Bool
  /-- Whether connections are still open. -/
  busy : Bool
  /-- Whether the time to wait is over. -/
  late : Bool
  deriving Repr, DecidableEq, Inhabited

/-- The listener and all calls. -/
structure System where
  /-- What the calls share. -/
  listener : Listener
  /-- The calls to start. -/
  starts : List StartProgress
  /-- The calls to stop. -/
  stops : List StopProgress
  deriving Repr, DecidableEq, Inhabited

/-- What can happen next. -/
inductive Event where
  /-- A call to start is made. -/
  | callStart
  /-- A call to stop is made. -/
  | callStop
  /-- A call to start, told by its place, goes on. -/
  | start (call : Nat) (chance : Chance)
  /-- A call to stop, told by its place, goes on. -/
  | stop (call : Nat) (chance : Chance)
  deriving Repr, DecidableEq, Inhabited

/-! ### Steps -/

namespace Listener

/-- A listener that has never been started. -/
def fresh : Listener := ⟨.stopped, 0, [], none⟩

/-- The listener claimed by a new run. -/
def claim (l : Listener) : Listener := { l with phase := .starting, token := l.token + 1 }

/-- The listener after a run has got to listening, unless it has been marked. -/
def markRunning (l : Listener) : Listener :=
  if l.phase = .starting then { l with phase := .running } else l

/-- Whether there is a run that can be marked. -/
def isLive (l : Listener) : Bool := l.phase = .starting || l.phase = .running

/-- The listener after its run has been marked. -/
def markStopping (l : Listener) : Listener :=
  if l.isLive then { l with phase := .stopping } else l

/-- The listener after the current token has been cancelled. -/
def cancel (l : Listener) : Listener := { l with cancelled := l.token :: l.cancelled }

end Listener

/-- One step of a call to start. -/
def startStep (chance : Chance) (l : Listener) : StartProgress → Listener × StartProgress
  | .called =>
    if l.phase = .stopped then (l.claim, .claimed l.claim.token)
    else (l, .returned .alreadyRunning)
  | .claimed run => match chance.binds with
    | some address => (l, .bound run address)
    | none => (l, .closing run .bindFailed)
  | .bound run address => ({ l with address := address }, .published run)
  | .published run => (l.markRunning, .serving run)
  | .serving run =>
    if chance.fails then (l, .closing run .serveFailed)
    else if l.cancelled.contains run ∧ !chance.busy then (l, .closing run .ended)
    else (l, .serving run)
  | .closing run result => ({ l with address := none }, .cleared run result)
  | .cleared _ result => ({ l with phase := .stopped }, .returned result)
  | .returned result => (l, .returned result)

/-- One step of a call to stop. -/
def stopStep (chance : Chance) (l : Listener) : StopProgress → Listener × StopProgress
  | .called => (l.markStopping, .marked (if l.isLive then some l.token else none))
  | .marked run => (l.cancel, .waiting run)
  | .waiting run =>
    if l.phase = .stopped then (l, .returned .stopped)
    else if chance.late then (l, .returned .timedOut)
    else (l, .waiting run)
  | .returned result => (l, .returned result)

/-- What comes of an event. -/
def step (s : System) : Event → System
  | .callStart => { s with starts := s.starts ++ [.called] }
  | .callStop => { s with stops := s.stops ++ [.called] }
  | .start i chance => match s.starts[i]? with
    | some call =>
      let (l, call) := startStep chance s.listener call
      { s with listener := l, starts := s.starts.set i call }
    | none => s
  | .stop i chance => match s.stops[i]? with
    | some call =>
      let (l, call) := stopStep chance s.listener call
      { s with listener := l, stops := s.stops.set i call }
    | none => s

/-- A listener that nobody has called. -/
def System.fresh : System := ⟨.fresh, [], []⟩

/-- What comes of a course of events. -/
def run (s : System) (events : List Event) : System := events.foldl step s

/-- The states that a course of events can lead to. -/
def Reachable (s : System) : Prop := ∃ events, s = run .fresh events

end Lifecycle

end ClusterGateway
