import ClusterGateway.Resource.Selector

/-!
# Workloads

An object that runs pods chooses them by a label selector.  Nothing else of it is looked at.
-/

namespace ClusterGateway

open Json

namespace Workload

/-- Reads the selector out of the description of a workload. -/
def decodeSpec : Decoder (Option LabelSelector) := fun room d => do
  let m ← Members.read? ["selector"] room d
  m.withDefault "selector" none (.nullable LabelSelector.decode)

/-- Reads the selector of a workload, if it has one. -/
def decode : Decoder (Option LabelSelector) := fun room d => do
  let m ← Members.read? ["spec"] room d
  m.withDefault "spec" none decodeSpec

end Workload

end ClusterGateway
