import Rollout.Provider
import Rollout.Settings.Check
import Rollout.Yaml.Reader
import Rollout.Yaml.Record

namespace Rollout

structure KubeFile where
  clusters : List (String × Option String)
  contexts : List (String × String)
  deriving DecidableEq, Repr

namespace KubeFile

open Yaml

def cluster : Decoder (String × Option String) :=
  let entry : Decoder (Option String) :=
    record "ClusterEntry" [.optionalText "server" fun server _ => some server] none
  record "NamedCluster"
    [.of "name" false text fun name c => (name, c.2),
     .of "cluster" false entry fun server c => (c.1, server)]
    ("", none)

def context : Decoder (String × String) :=
  let entry : Decoder String :=
    record "ContextEntry" [.of "cluster" false text fun cluster _ => cluster] ""
  record "NamedContext"
    [.of "name" false text fun name c => (name, c.2),
     .of "context" false entry fun cluster c => (c.1, cluster)]
    ("", "")

def ofNode : Node → Except Mismatch KubeFile :=
  record "KubeconfigFile"
    [.of "clusters" true (list cluster) fun clusters file => { file with clusters },
     .of "contexts" true (list context) fun contexts file => { file with contexts }]
    ⟨[], []⟩ []

def parse : String → Except String KubeFile := decode ofNode

end KubeFile

structure DockerDesktop where
  -- The kubeconfig file, by default the one below the home directory.
  kubeconfigPath : Option String
  context : String
  deriving DecidableEq, Repr

namespace DockerDesktop

def providerId : String := "docker_desktop"
def defaultContext : String := "docker-desktop"

def fields : List String := ["kubeconfig", "context"]

def ofSettings (settings : Settings) : DockerDesktop × List Violation :=
  let check := Check.ofSettings ("provider " ++ providerId) settings
  let (path, v1) := check.text "kubeconfig" false
  let (context, v2) := check.text "context" false
  (⟨path, context.getD defaultContext⟩, v1 ++ v2 ++ check.only fields)

def path (d : DockerDesktop) (host : Host) : String :=
  d.kubeconfigPath.getD
    (Path.join (Path.join ((host.value? "HOME").getD ".") ".kube") "config")

def refuse {α : Type} (d : DockerDesktop) (host : Host) (message : String) : Except Error α :=
  .error (.provider (.kubeconfig (d.path host) message))

def read (d : DockerDesktop) (host : Host) : Except Error (String × String × Option String) :=
  match host.readText (d.path host) with
  | .error message => d.refuse host message
  | .ok contents =>
    match KubeFile.parse contents with
    | .error message => d.refuse host message
    | .ok file =>
      match file.contexts.lookup d.context with
      | none => d.refuse host s!"context '{d.context}' not found"
      | some cluster => .ok (contents, cluster, (file.clusters.lookup cluster).bind id)

def kubeconfig (d : DockerDesktop) (host : Host) : Except Error KubeConfig := do
  let (contents, _) ← d.read host
  pure ⟨some d.context, contents⟩

def describe (d : DockerDesktop) (host : Host) : Except Error ClusterInfo := do
  let (_, cluster, server) ← d.read host
  pure ⟨d.context, cluster, none, none, server⟩

def provider (settings : Settings) : Provider :=
  let (d, violations) := ofSettings settings
  ⟨providerId, violations, fun host wire => (d.kubeconfig host, wire),
    fun host wire => (d.describe host, wire)⟩

end DockerDesktop

end Rollout
