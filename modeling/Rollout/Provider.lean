import Rollout.Error
import Rollout.Host
import Rollout.Http
import Rollout.Json
import Rollout.Settings
import Rollout.Text.Quoted

namespace Rollout

structure KubeConfig where
  -- The context to use; without one the file's own counts.
  context : Option String
  contents : String
  deriving DecidableEq, Repr

-- The form of diagnostics; the contents hold credentials and are only counted.
def KubeConfig.debug (k : KubeConfig) : String :=
  let context := match k.context with
    | some c => "Some(" ++ Text.quoted c ++ ")"
    | none => "None"
  "KubeConfig \x7b context: " ++ context ++ s!", contents: <{k.contents.utf8ByteSize} bytes> \x7d"

structure ClusterInfo where
  id : String
  name : String
  region : Option String
  version : Option String
  endpoint : Option String
  deriving DecidableEq, Repr

abbrev Inquiry (α : Type) := Host → Http.Wire → Except Error α × Http.Wire

structure Provider where
  id : String
  violations : List Violation
  kubeconfig : Inquiry KubeConfig
  describe : Inquiry ClusterInfo

end Rollout
