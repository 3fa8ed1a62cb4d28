import Rollout.Run.Pool
import Rollout.Tool.Docker
import Rollout.Tool.Kubectl

namespace Rollout

-- The state of the outside together with the open session and results that nobody has taken.
structure Workplace (σ : Type) where
  tools : σ
  session : KubeConfig
  results : List (ResourceKey × ApplyResult)

namespace Workplace

variable {σ : Type}

def start (s : σ) : Workplace σ := ⟨s, ⟨none, ""⟩, []⟩

def outside (clock : σ → Moment) (docker : Docker) (kubectl : Kubectl) (tools : Tools σ) :
    Outside (Workplace σ) :=
  { clock := fun w => clock w.tools
    cancelled := fun _ => false
    build := fun image context w =>
      let (result, s) := docker.build tools image context w.tools
      (.ended result, { w with tools := s })
    push := fun image login w =>
      let (result, s) := docker.push tools image login w.tools
      (.ended result, { w with tools := s })
    connect := fun session w => (.ended (.ok ()), { w with session })
    start := fun r w =>
      let (result, s) := kubectl.apply tools w.session r w.tools
      { w with tools := s, results := w.results ++ [(r.key, result)] }
    finish := fun r w =>
      match w.results.lookup r.key with
      | some result =>
        (.ended result, { w with results := w.results.filter fun entry => entry.1 ≠ r.key })
      | none => (.hangs, w) }

end Workplace

-- Begins calls as early as possible and takes their results in order.
def Schedule.eager : Schedule := fun _ _ => .start

end Rollout
