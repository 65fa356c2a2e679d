import ClusterGateway.Error
import ClusterGateway.Log.Line
import ClusterGateway.Regex.Match

/-!
# Choosing log lines

A line passes if its time lies inside a window and its body matches a pattern, as far as these
are given.
-/

namespace ClusterGateway

/-- Which lines pass. -/
structure LineFilter where
  /-- The pattern for the body. -/
  pattern : Option Regex
  /-- The window for the time. -/
  window : Option TimeRange

namespace LineFilter

/-- The filter of a pattern; the empty pattern lets everything through. -/
def ofPattern (pattern : String) (window : Option TimeRange) : Except GatewayError LineFilter :=
  if pattern = "" then .ok ⟨none, window⟩
  else match Regex.compile? pattern with
    | some r => .ok ⟨some r, window⟩
    | none => .error .invalidRegex

/-- Whether a line passes. -/
def accepts (f : LineFilter) (l : LogLine) : Bool :=
  f.window.all (fun r => r.contains l.time) && f.pattern.all fun r => r.isMatch l.body

/-- Whether everything passes. -/
def isEmpty (f : LineFilter) : Bool := f.pattern.isNone && f.window.isNone

end LineFilter

end ClusterGateway
