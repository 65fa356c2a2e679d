import ClusterGateway.Time.Calendar

/-!
# Instants

Points in time to the nanosecond, and windows of time.  A leap second counts as a long second:
it prolongs the second before it, so its nanoseconds start at `10 ^ 9`.
-/

namespace ClusterGateway

/-- A point in time. -/
structure Instant where
  /-- The seconds since the start of 1970 in UTC. -/
  seconds : Int
  /-- The nanoseconds into the second; `10 ^ 9` and more are in a leap second. -/
  nanos : Nat
  deriving Repr, DecidableEq, Inhabited

namespace Instant

/-- The nanoseconds of a second. -/
def nanosPerSecond : Nat := Nat.pow 10 9

/-- Whether an instant is earlier than another. -/
def before (s t : Instant) : Bool :=
  s.seconds < t.seconds || (s.seconds == t.seconds && s.nanos < t.nanos)

/-- Whether an instant is not later than another. -/
def notAfter (s t : Instant) : Bool := !t.before s

/-- The instant so many nanoseconds later. -/
def addNanos (t : Instant) (n : Int) : Instant :=
  let total := t.nanos + n
  ⟨t.seconds + total / nanosPerSecond, (total % nanosPerSecond).toNat⟩

/-- The second of the day. -/
def secondOfDay (t : Instant) : Int := t.seconds % 86400

/-- The nanoseconds from an instant to a later one.  A leap second counts where the other instant
lies in a later second of the day, whatever the day, than the one it prolongs. -/
def nanosSince (later earlier : Instant) : Int :=
  let leap : Int :=
    if earlier.secondOfDay < later.secondOfDay ∧ nanosPerSecond ≤ earlier.nanos then 1
    else if later.secondOfDay < earlier.secondOfDay ∧ nanosPerSecond ≤ later.nanos then -1
    else 0
  (later.seconds - earlier.seconds + leap) * nanosPerSecond + (later.nanos - earlier.nanos)

end Instant

/-- A window of time without its ends. -/
structure TimeRange where
  /-- The end in the past. -/
  start : Instant
  /-- The end in the future. -/
  stop : Instant
  deriving Repr, DecidableEq, Inhabited

namespace TimeRange

/-- Whether an instant lies strictly inside the window. -/
def contains (r : TimeRange) (t : Instant) : Bool := r.start.before t && t.before r.stop

/-- The hour that ends at an instant. -/
def lastHour (now : Instant) : TimeRange :=
  ⟨now.addNanos (-(3600 * Instant.nanosPerSecond)), now⟩

end TimeRange

end ClusterGateway
