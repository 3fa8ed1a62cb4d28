import Rollout.Proofs.Run.Pool
import Rollout.Run

namespace Rollout.Run

variable {σ : Type} {outside : Outside σ} {options : RunOptions} {env : Environment}
variable {image : Image} {resolved : Resolved} {schedule : Schedule} {p q q' : Progress σ}

@[simp] theorem enter_events (state : RunState) : (enter outside state p).events = p.events := rfl
@[simp] theorem enter_outside (state : RunState) : (enter outside state p).outside = p.outside := rfl
@[simp] theorem enter_applied (state : RunState) :
    (enter outside state p).report.applied = p.report.applied := rfl
@[simp] theorem enter_image (state : RunState) :
    (enter outside state p).report.image = p.report.image := rfl
@[simp] theorem enter_manifestDigest (state : RunState) :
    (enter outside state p).report.manifestDigest = p.report.manifestDigest := rfl
@[simp] theorem enter_state (state : RunState) :
    (enter outside state p).report.state = state := rfl

@[simp] theorem current_ok : current (.ok p) = p := rfl
@[simp] theorem current_error : current (.error p) = p := rfl

theorem build_parts {result : Except RemoteError Unit}
    (ran : build outside options env image p = (result, q)) :
    (outside.cancelled p.outside = true ∧ result = .error .cancelled ∧ q = p) ∨
      q = { p with
        events := p.events ++ [.built image (buildContext options env) result]
        outside := (outside.build image (buildContext options env) p.outside).2 } := by
  unfold build at ran
  split at ran
  · rename_i stopped
    cases ran
    exact .inl ⟨stopped, rfl, rfl⟩
  · cases ran
    exact .inr rfl

theorem push_parts {result : Except RemoteError (Option String)}
    (ran : push outside options env image p = (result, q)) :
    (outside.cancelled p.outside = true ∧ result = .error .cancelled ∧ q = p) ∨
      q = { p with
        events := p.events ++ [.pushed image (pushLogin? env image) result]
        outside := (outside.push image (pushLogin? env image) p.outside).2 } := by
  unfold push at ran
  split at ran
  · rename_i stopped
    cases ran
    exact .inl ⟨stopped, rfl, rfl⟩
  · cases ran
    exact .inr rfl

theorem connect_parts {kubeconfig : KubeConfig} {result : Except RemoteError Unit}
    (ran : connect outside options kubeconfig p = (result, q)) :
    q = { p with
      events := p.events ++ [.connected kubeconfig result]
      outside := (outside.connect kubeconfig p.outside).2 } := by
  cases ran
  rfl

theorem build_report {result : Except RemoteError Unit}
    (ran : build outside options env image p = (result, q)) : q.report = p.report := by
  obtain ⟨-, -, rfl⟩ | rfl := build_parts ran <;> rfl

theorem push_report {result : Except RemoteError (Option String)}
    (ran : push outside options env image p = (result, q)) : q.report = p.report := by
  obtain ⟨-, -, rfl⟩ | rfl := push_parts ran <;> rfl

theorem connect_report {kubeconfig : KubeConfig} {result : Except RemoteError Unit}
    (ran : connect outside options kubeconfig p = (result, q)) : q.report = p.report := by
  rw [connect_parts ran]

-- The ways in which building and pushing end.
inductive Published (outside : Outside σ) (options : RunOptions) (env : Environment)
    (image : Image) (p : Progress σ) : Except (Progress σ) (Progress σ) → Prop where
  | skipped (skip : options.skipBuild = true) : Published outside options env image p (.ok p)
  | unbuilt {cause : RemoteError} {q : Progress σ} (full : options.skipBuild = false)
      (built : build outside options env image (enter outside (.working .building) p) =
        (.error cause, q)) :
      Published outside options env image p (.error (fail outside .building cause q))
  | unpushed {cause : RemoteError} {q q' : Progress σ} (full : options.skipBuild = false)
      (built : build outside options env image (enter outside (.working .building) p) =
        (.ok (), q))
      (pushed : push outside options env image (enter outside (.working .pushing) q) =
        (.error cause, q')) :
      Published outside options env image p (.error (fail outside .pushing cause q'))
  | pushed {digest : Option String} {q q' : Progress σ} (full : options.skipBuild = false)
      (built : build outside options env image (enter outside (.working .building) p) =
        (.ok (), q))
      (pushed : push outside options env image (enter outside (.working .pushing) q) =
        (.ok digest, q')) :
      Published outside options env image p (.ok { q' with report := { q'.report with digest } })

theorem publish_published : Published outside options env image p
    (publish outside options env image p) := by
  unfold publish
  split
  · rename_i skip
    exact .skipped skip
  · rename_i full
    have full : options.skipBuild = false := by simpa using full
    rcases built : build outside options env image (enter outside (.working .building) p)
      with ⟨cause | ⟨⟩, q⟩
    · simp only [attempt, built]
      exact .unbuilt full built
    · rcases pushed : push outside options env image (enter outside (.working .pushing) q)
        with ⟨cause | digest, q'⟩
      · simp only [attempt, built, pushed, bind, Except.bind]
        exact .unpushed full built pushed
      · simp only [attempt, built, pushed, bind, Except.bind, pure, Except.pure]
        exact .pushed full built pushed

-- What building and pushing do outside, and that they stop at the first failure.
theorem publish_trace_ok (ran : publish outside options env image p = .ok q) :
    (options.skipBuild = true ∧ q.events = p.events) ∨
      (options.skipBuild = false ∧ ∃ digest, q.events = p.events ++
        [.built image (buildContext options env) (.ok ()),
          .pushed image (pushLogin? env image) (.ok digest)]) := by
  have published : Published outside options env image p (.ok q) := ran ▸ publish_published
  cases published with
  | skipped skip => exact .inl ⟨skip, rfl⟩
  | @pushed digest _ _ full built pushed =>
    refine .inr ⟨full, digest, ?_⟩
    obtain ⟨-, impossible, -⟩ | rfl := build_parts built
    · cases impossible
    · obtain ⟨-, impossible, -⟩ | rfl := push_parts pushed
      · cases impossible
      · simp

theorem publish_trace_error (ran : publish outside options env image p = .error q) :
    options.skipBuild = false ∧ (q.events = p.events ∨
      (∃ result, q.events = p.events ++ [.built image (buildContext options env) result]) ∨
      ∃ cause, q.events = p.events ++ [.built image (buildContext options env) (.ok ()),
        .pushed image (pushLogin? env image) (.error cause)]) := by
  have published : Published outside options env image p (.error q) := ran ▸ publish_published
  cases published with
  | unbuilt full built =>
    refine ⟨full, ?_⟩
    obtain ⟨-, -, rfl⟩ | rfl := build_parts built
    · exact .inl rfl
    · exact .inr (.inl ⟨_, rfl⟩)
  | @unpushed cause _ _ full built pushed =>
    refine ⟨full, ?_⟩
    obtain ⟨-, impossible, -⟩ | rfl := build_parts built
    · cases impossible
    · obtain ⟨-, -, rfl⟩ | rfl := push_parts pushed
      · exact .inr (.inl ⟨.ok (), rfl⟩)
      · exact .inr (.inr ⟨cause, by simp [fail]⟩)

theorem publish_report (outside : Outside σ) (options : RunOptions) (env : Environment)
    (image : Image) (p : Progress σ) :
    let q := current (publish outside options env image p)
    q.report.applied = p.report.applied ∧ q.report.image = p.report.image ∧
      q.report.manifestDigest = p.report.manifestDigest := by
  have published : Published outside options env image p (publish outside options env image p) :=
    publish_published
  generalize publish outside options env image p = r at published
  cases published with
  | skipped skip => exact ⟨rfl, rfl, rfl⟩
  | unbuilt full built => simp [fail, build_report built]
  | unpushed full built pushed => simp [fail, push_report pushed, build_report built]
  | pushed full built pushed => simp [push_report pushed, build_report built]

def conclude (outside : Outside σ) : Option RemoteError × Progress σ → Progress σ
  | (some cause, p) => fail outside .applying cause p
  | (none, p) => enter outside .done p

def verdict : Option RemoteError → RunState
  | some cause => .failed .applying cause
  | none => .done

@[simp] theorem conclude_events (failure : Option RemoteError) :
    (conclude outside (failure, p)).events = p.events := by cases failure <;> rfl
@[simp] theorem conclude_applied (failure : Option RemoteError) :
    (conclude outside (failure, p)).report.applied = p.report.applied := by cases failure <;> rfl
@[simp] theorem conclude_outside (failure : Option RemoteError) :
    (conclude outside (failure, p)).outside = p.outside := by cases failure <;> rfl
@[simp] theorem conclude_state (failure : Option RemoteError) :
    (conclude outside (failure, p)).report.state = verdict failure := by cases failure <;> rfl

-- The ways in which a run ends behind its resolution.
inductive Driven (outside : Outside σ) (schedule : Schedule) (options : RunOptions)
    (env : Environment) (resolved : Resolved) (p : Progress σ) : Progress σ → Prop where
  | unpublished {q : Progress σ}
      (published : publish outside options env resolved.image p = .error q) :
      Driven outside schedule options env resolved p q
  | unconnected {cause : RemoteError} {q q' : Progress σ}
      (published : publish outside options env resolved.image p = .ok q)
      (connected : connect outside options resolved.kubeconfig
        (enter outside (.working .applying) q) = (.error cause, q')) :
      Driven outside schedule options env resolved p (fail outside .applying cause q')
  | connected {q q' : Progress σ}
      (published : publish outside options env resolved.image p = .ok q)
      (connected : connect outside options resolved.kubeconfig
        (enter outside (.working .applying) q) = (.ok (), q')) :
      Driven outside schedule options env resolved p
        (conclude outside (applyTiers outside schedule options 0 resolved.manifest.tiers q'))

theorem drive_connected
    (published : publish outside options env resolved.image p = .ok q)
    (connected : connect outside options resolved.kubeconfig
      (enter outside (.working .applying) q) = (.ok (), q')) :
    drive outside schedule options env resolved p =
      conclude outside (applyTiers outside schedule options 0 resolved.manifest.tiers q') := by
  rcases applied : applyTiers outside schedule options 0 resolved.manifest.tiers q'
    with ⟨_ | cause, q''⟩ <;>
    simp only [drive, stages, current, published, attempt, deliver, connected, applied, conclude,
      bind, Except.bind, pure, Except.pure]

theorem drive_driven (outside : Outside σ) (schedule : Schedule) (options : RunOptions)
    (env : Environment) (resolved : Resolved) (p : Progress σ) :
    Driven outside schedule options env resolved p
      (drive outside schedule options env resolved p) := by
  rcases published : publish outside options env resolved.image p with q | q
  · simp only [drive, stages, current, published, bind, Except.bind]
    exact .unpublished published
  · rcases reached : connect outside options resolved.kubeconfig
      (enter outside (.working .applying) q) with ⟨cause | ⟨⟩, q'⟩
    · simp only [drive, stages, current, published, attempt, deliver, reached, bind, Except.bind]
      exact .unconnected published reached
    · rw [drive_connected published reached]
      exact .connected published reached

def ready (outside : Outside σ) (runId : String) (env : Environment) (resolved : Resolved) (s : σ) :
    Progress σ :=
  let p := begin outside runId env s
  { p with report := { p.report with
      image := some resolved.image.render
      manifestDigest := some resolved.manifest.digest } }

theorem proceed_ready (outside : Outside σ) (schedule : Schedule) (options : RunOptions)
    (runId : String) (env : Environment) (resolved : Resolved) (s : σ) :
    proceed outside schedule options runId env s (.ready resolved) =
      (drive outside schedule options env resolved (ready outside runId env resolved s)).finish :=
  rfl

-- Up to the connection neither the schedule nor the number of places in the pool matters.
theorem proceed_connected {runId : String} {s : σ} {kubeconfig : KubeConfig}
    (reached : .connected kubeconfig (.ok ()) ∈
      (proceed outside schedule options runId env s (.ready resolved)).events) :
    ∃ q : Progress σ, starts q.events = [] ∧ endings q.events = [] ∧ q.report.applied = [] ∧
      ∀ (schedule : Schedule) (n : Nat),
        proceed outside schedule { options with concurrency := n } runId env s (.ready resolved) =
          (conclude outside (applyTiers outside schedule { options with concurrency := n } 0
            resolved.manifest.tiers q)).finish := by
  have driven := drive_driven outside schedule options env resolved
    (ready outside runId env resolved s)
  change _ ∈ (drive outside schedule options env resolved
    (ready outside runId env resolved s)).events at reached
  have begun : (ready outside runId env resolved s).events = [] := rfl
  have bare := (publish_report outside options env resolved.image
    (ready outside runId env resolved s)).1
  generalize drive outside schedule options env resolved
    (ready outside runId env resolved s) = final at driven reached
  cases driven with
  | unpublished published =>
    obtain ⟨-, events | ⟨_, events⟩ | ⟨_, events⟩⟩ := publish_trace_error published <;>
      simp [events, begun] at reached
  | unconnected published connected =>
    rw [connect_parts connected] at reached
    obtain ⟨-, events⟩ | ⟨-, _, events⟩ := publish_trace_ok published <;>
      simp [fail, events, begun] at reached
  | @connected q q' published connected =>
    have parts := connect_parts connected
    refine ⟨q', ?_, ?_, ?_, fun schedule n => ?_⟩
    · obtain ⟨-, events⟩ | ⟨-, _, events⟩ := publish_trace_ok published <;>
        simp [parts, events, begun, starts]
    · obtain ⟨-, events⟩ | ⟨-, _, events⟩ := publish_trace_ok published <;>
        simp [parts, events, begun, endings]
    · rw [published] at bare
      rw [parts]
      exact bare
    · rw [proceed_ready]
      exact congrArg Progress.finish (drive_connected published connected)

end Rollout.Run
