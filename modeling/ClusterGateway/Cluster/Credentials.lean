import ClusterGateway.Json.Decode
import ClusterGateway.Text.Quoted

/-!
# Credentials for the cluster

Where the gateway's own access to the cluster comes from.  The text of the credentials
(`Credentials.text`) never shows an inline kubeconfig.
-/

namespace ClusterGateway

open Json

/-- Where the gateway's own access to the cluster comes from. -/
inductive Credentials where
  /-- The service account of the pod in which the gateway runs. -/
  | inCluster
  /-- A kubeconfig file, and the context to use if not the current one. -/
  | file (path : String) (context : Option String)
  /-- A kubeconfig as text. -/
  | inline (kubeconfig : String)
  deriving Repr, DecidableEq, Inhabited

namespace Credentials

/-- A path between quotes; unlike other texts it has a backslash in front of an apostrophe. -/
def quotedPath (path : String) : String :=
  String.ofList ((Text.quoted path).toList.flatMap fun c =>
    if c = '\'' then ['\\', '\''] else [c])

/-- The text of the credentials. -/
def text : Credentials → String
  | inCluster => "InCluster"
  | file path context =>
    let context := match context with
      | some name => "Some(" ++ Text.quoted name ++ ")"
      | none => "None"
    "Path \x7b path: " ++ quotedPath path ++ ", context: " ++ context ++ " \x7d"
  | inline _ => "Kubeconfig \x7b .. \x7d"

/-- Reads credentials. -/
def decode : Decoder Credentials := fun room d => do
  let (kind, rest) ← d.untag? "provider"
  if !d.hasValue room then none
  else match kind with
    | "incluster" => if rest.isPlain then some .inCluster else none
    | "path" => do
      let m ← Members.read? ["path", "context"] room rest
      let path ← m.required "path" .string
      let context ← m.withDefault "context" none (.nullable .string)
      return .file path context
    | "kubeconfig" => do
      let m ← Members.read? ["kubeconfig"] room rest
      let kubeconfig ← m.required "kubeconfig" .string
      return .inline kubeconfig
    | _ => none

end Credentials

end ClusterGateway
