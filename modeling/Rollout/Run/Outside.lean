import Rollout.Provider
import Rollout.Run.Report

namespace Rollout

inductive Answer (α : Type) where
  | ended (result : Except RemoteError α)
  | hangs

def Answer.within {α : Type} (limit : Duration) : Answer α → Except RemoteError α
  | .ended result => result
  | .hangs => .error (.timedOut limit)

structure BuildContext where
  dir : String
  dockerfile : String
  deriving DecidableEq, Repr

structure PushLogin where
  registry : String
  username : String
  password : String
  deriving DecidableEq, Repr

structure Outside (σ : Type) where
  clock : σ → Moment
  cancelled : σ → Bool
  build : Image → BuildContext → σ → Answer Unit × σ
  push : Image → Option PushLogin → σ → Answer (Option String) × σ
  connect : KubeConfig → σ → Answer Unit × σ
  start : Resource → σ → σ
  finish : Resource → σ → Answer ApplyOutcome × σ

abbrev ApplyResult := Except RemoteError ApplyOutcome

inductive RunEvent where
  | built (image : Image) (context : BuildContext) (result : Except RemoteError Unit)
  | pushed (image : Image) (login : Option PushLogin)
    (result : Except RemoteError (Option String))
  | connected (kubeconfig : KubeConfig) (result : Except RemoteError Unit)
  | started (resource : Resource)
  | ended (resource : Resource) (result : ApplyResult)

end Rollout
