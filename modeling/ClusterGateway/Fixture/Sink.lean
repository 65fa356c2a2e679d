import ClusterGateway.Log.Live

/-!
# A choosy sink

A sink for trying out live streams: it refuses the lines of some pods, takes only so many lines of
a pod, and ends the whole stream after so many lines in total.
-/

namespace ClusterGateway

namespace Fixture

/-- What a choosy sink is like. -/
structure ChoosySink where
  /-- The pods whose lines it refuses. -/
  refused : List String
  /-- How many lines of a pod it takes. -/
  perPod : Option Nat
  /-- After how many lines it ends the stream. -/
  total : Option Nat

namespace ChoosySink

/-- Whether a line is taken after the lines of some pods have been. -/
def takes (c : ChoosySink) (taken : List String) (l : LogLine) : Bool :=
  !c.refused.contains l.pod && c.perPod.all (taken.count l.pod < ·)

/-- The sink; its state are the pods of the lines taken. -/
def sink (c : ChoosySink) : LineSink (List String) where
  offer taken l := if c.takes taken l then (true, l.pod :: taken) else (false, taken)
  cancels taken := c.total.any fun n => n ≤ taken.length

end ChoosySink

end Fixture

end ClusterGateway
