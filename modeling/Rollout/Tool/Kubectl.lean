import Rollout.Json.Writer
import Rollout.Run.Outside
import Rollout.Tool

namespace Rollout

structure Kubectl where
  program : String
  deriving DecidableEq, Repr

namespace Kubectl

def applyCall (kubectl : Kubectl) (session : KubeConfig) (r : Resource) : ToolCall :=
  let context := match session.context with
    | some name => [ToolWord.text "--context", .text name]
    | none => []
  ⟨kubectl.program,
    [.text "--kubeconfig", .file session.contents] ++ context ++
      [.text "apply", .text "-f", .text "-"],
    some (Utf8.encode r.body.render)⟩

def isUnchanged (line : String) : Bool :=
  " unchanged".toList.reverse.isPrefixOf (Text.trimRight line.toList).reverse

def outcome (output : String) : ApplyOutcome :=
  let named := (Text.lines output).filter fun line => !(Text.trim line).isEmpty
  if !named.isEmpty && named.all isUnchanged then .unchanged else .applied

def applied (r : Resource) (result : Except RemoteError String) : ApplyResult :=
  match result with
  | .ok output => .ok (outcome output)
  | .error (.remote message) => .error (.rejected r.key.render message)
  | .error cause => .error cause

def apply {σ : Type} (kubectl : Kubectl) (tools : Tools σ) (session : KubeConfig) (r : Resource)
    (s : σ) : ApplyResult × σ :=
  let (result, s) := (kubectl.applyCall session r).run tools s
  (applied r result, s)

end Kubectl

end Rollout
