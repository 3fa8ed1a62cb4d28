import Rollout.Proofs.Run.Rerun

namespace Rollout

def RunReport.states (report : RunReport) : List RunState := report.transitions.map Transition.state

@[simp] theorem RunReport.states_enter (report : RunReport) (state : RunState) (now : Moment) :
    (report.enter state now).states = report.states ++ [state] := by
  simp [states, enter]

theorem RunReport.visited_iff {report : RunReport} {state : RunState} :
    report.visited state = true ↔ state ∈ report.states := by
  simp [visited, states]

namespace Run

variable {σ : Type} {outside : Outside σ} {schedule : Schedule} {options : RunOptions}
variable {env : Environment} {image : Image} {resolved : Resolved} {p q : Progress σ}
variable {skip : Bool} {stage : Stage} {cause : RemoteError} {states : List RunState}
variable {report : RunReport}

def route (skip : Bool) : List Stage :=
  if skip then [.resolving, .applying] else [.resolving, .building, .pushing, .applying]

-- The states of a run that is working on a stage.
def through (skip : Bool) (stage : Stage) : List RunState :=
  .idle :: ((route skip).takeWhile (fun s => s ≠ stage) ++ [stage]).map .working

-- The states of a run that is over.
inductive Course (skip : Bool) : List RunState → Prop where
  | failed {stage : Stage} (onRoute : stage ∈ route skip) (cause : RemoteError) :
      Course skip (through skip stage ++ [.failed stage cause])
  | done : Course skip (through skip .applying ++ [.done])

theorem through_opens (onRoute : stage ∈ route skip) :
    [.idle, .working .resolving] <+: through skip stage := by
  revert onRoute
  cases skip <;> cases stage <;> decide

theorem through_last (skip : Bool) (stage : Stage) :
    (through skip stage).getLast? = some (.working stage) := by
  simp [through, List.getLast?_cons]

theorem through_chain (onRoute : stage ∈ route skip) :
    (through skip stage).IsChain fun a b => a.mayEnter b = true := by
  revert onRoute
  cases skip <;> cases stage <;> decide

theorem mayEnter_failed (cause : RemoteError) :
    (RunState.working stage).mayEnter (.failed stage cause) = true := by
  simp [RunState.mayEnter, RunState.stage?]

theorem building_mem_through (onRoute : stage ∈ route skip) :
    .working .building ∈ through skip stage ↔ skip = false ∧ stage ≠ .resolving := by
  revert onRoute
  cases skip <;> cases stage <;> decide

theorem pushing_mem_through (onRoute : stage ∈ route skip) :
    .working .pushing ∈ through skip stage ↔
      skip = false ∧ stage ≠ .resolving ∧ stage ≠ .building := by
  revert onRoute
  cases skip <;> cases stage <;> decide

theorem applying_onRoute (skip : Bool) : Stage.applying ∈ route skip := by
  cases skip <;> decide

theorem Course.opens (course : Course skip states) : [.idle, .working .resolving] <+: states := by
  cases course with
  | failed onRoute cause => exact (through_opens onRoute).trans (List.prefix_append _ _)
  | done => exact (through_opens (applying_onRoute skip)).trans (List.prefix_append _ _)

theorem Course.chain (course : Course skip states) :
    states.IsChain fun a b => a.mayEnter b = true := by
  cases course with
  | failed onRoute cause =>
    refine List.isChain_append.mpr ⟨through_chain onRoute, .singleton _, ?_⟩
    simp [through_last, mayEnter_failed]
  | done =>
    refine List.isChain_append.mpr ⟨through_chain (applying_onRoute skip), .singleton _, ?_⟩
    simp [through_last, RunState.mayEnter]

@[simp] theorem enter_states (state : RunState) :
    (enter outside state p).report.states = p.report.states ++ [state] :=
  RunReport.states_enter ..

-- A report that was closed: its last transition is the one to its state, at its end.
structure Concluded (skip : Bool) (report : RunReport) : Prop where
  course : Course skip report.states
  closed : ∃ now, report.transitions.getLast? = some ⟨report.state, now⟩ ∧
    report.finishedAt = some now

theorem Concluded.last (concluded : Concluded skip report) :
    report.states.getLast? = some report.state := by
  obtain ⟨now, last, -⟩ := concluded.closed
  simp [RunReport.states, List.getLast?_map, last]

theorem Concluded.state (concluded : Concluded skip report) {before : List RunState}
    {final : RunState} (whole : report.states = before ++ [final]) : report.state = final := by
  have last := concluded.last
  rw [whole, List.getLast?_concat] at last
  exact (Option.some.inj last).symm

theorem enter_concluded {state : RunState} (terminal : state.isTerminal = true)
    (course : Course skip (p.report.states ++ [state])) :
    Concluded skip (enter outside state p).report := by
  refine ⟨by rwa [enter_states], outside.clock p.outside, ?_, ?_⟩
  · simp [enter, RunReport.enter]
  · simp [enter, RunReport.enter, terminal]

theorem fail_concluded (onRoute : stage ∈ route skip)
    (here : p.report.states = through skip stage) :
    Concluded skip (fail outside stage cause p).report :=
  enter_concluded rfl (here ▸ .failed onRoute cause)

theorem conclude_concluded (here : p.report.states = through skip .applying)
    (failure : Option RemoteError) : Concluded skip (conclude outside (failure, p)).report := by
  cases failure with
  | none => exact enter_concluded rfl (here ▸ .done)
  | some cause => exact fail_concluded (applying_onRoute skip) here

theorem publish_course (outside : Outside σ) (env : Environment) (image : Image)
    (begun : p.report.states = through options.skipBuild .resolving) :
    match publish outside options env image p with
    | .ok q => q.report.states ++ [.working .applying] = through options.skipBuild .applying
    | .error q => Concluded options.skipBuild q.report := by
  have building : options.skipBuild = false →
      (enter outside (.working .building) p).report.states = through false .building := by
    intro full
    rw [enter_states, begun, full]
    rfl
  have published : Published outside options env image p (publish outside options env image p) :=
    publish_published
  generalize publish outside options env image p = r at published
  cases published with
  | skipped skip =>
    change p.report.states ++ _ = _
    rw [begun, skip]
    rfl
  | @unbuilt cause q full built =>
    change Concluded options.skipBuild _
    rw [full]
    refine fail_concluded (by decide) ?_
    rw [build_report built, building full]
  | @unpushed cause q q' full built pushed =>
    change Concluded options.skipBuild _
    rw [full]
    refine fail_concluded (by decide) ?_
    rw [push_report pushed, enter_states, build_report built, building full]
    rfl
  | @pushed digest q q' full built pushed =>
    change q'.report.states ++ _ = _
    rw [push_report pushed, enter_states, build_report built, building full, full]
    rfl

theorem drive_concluded (begun : p.report.states = through options.skipBuild .resolving) :
    Concluded options.skipBuild (drive outside schedule options env resolved p).report := by
  have published := publish_course outside env resolved.image begun
  have driven := drive_run outside schedule options env resolved p
  generalize drive outside schedule options env resolved p = final at driven
  cases driven with
  | unpublished ran => rwa [ran] at published
  | unconnected ran connected =>
    rw [ran] at published
    refine fail_concluded (applying_onRoute _) ?_
    rw [connect_report connected, enter_states]
    exact published
  | applied ran connected run =>
    rw [ran] at published
    obtain ⟨applied, kept⟩ := run.report
    refine conclude_concluded ?_ _
    rw [kept, connect_report connected]
    exact (enter_states _).trans published

theorem proceed_concluded {runId : String} {s : σ} {resolution : Resolution}
    (ran : (proceed outside schedule options runId env s resolution).answer = .ok report) :
    Concluded options.skipBuild report := by
  have begun : [.idle, .working .resolving] = through options.skipBuild .resolving := by
    cases options.skipBuild <;> rfl
  cases resolution with
  | refused e => cases ran
  | failed image cause =>
    obtain rfl := Except.ok.inj ran
    exact fail_concluded (by cases options.skipBuild <;> decide) begun
  | ready resolved =>
    obtain rfl := Except.ok.inj ran
    exact drive_concluded begun

-- A run that is over, step by step.
structure Legal (skip : Bool) (report : RunReport) : Prop where
  opens : [.idle, .working .resolving] <+: report.states
  steps : report.states.IsChain fun a b => a.mayEnter b = true
  last : report.states.getLast? = some report.state
  terminal : report.state.isTerminal = true
  closed : ∃ now, report.transitions.getLast? = some ⟨report.state, now⟩ ∧
    report.finishedAt = some now
  failed : ∀ stage cause, report.state = .failed stage cause →
    ∃ before, report.states = before ++ [.working stage, .failed stage cause]
  building : report.visited (.working .building) = false ↔
    skip = true ∨ ∃ cause, report.state = .failed .resolving cause
  pushing : report.visited (.working .pushing) = false ↔
    skip = true ∨ ∃ cause, report.state = .failed .resolving cause ∨
      report.state = .failed .building cause
  success : (∃ r, report.result = .ok r) ↔ report.state = .done
  result : report.state = .done → report.result = .ok report
  failure : ∀ stage cause, report.state = .failed stage cause →
    report.result = .error (.execution stage cause)

-- The last state is no working one, so that it does not count for what was visited.
theorem visited_through {final : RunState} (terminal : final.isTerminal = true)
    (whole : report.states = through skip stage ++ [final]) (s : Stage) :
    report.visited (.working s) = false ↔ .working s ∉ through skip stage := by
  have other : RunState.working s ≠ final := by
    rintro rfl
    cases terminal
  rw [← Bool.not_eq_true, RunReport.visited_iff, whole, List.mem_append, List.mem_singleton]
  simp [other]

theorem Concluded.legal (concluded : Concluded skip report) : Legal skip report := by
  have last := concluded.last
  have course := concluded.course
  have opens := course.opens
  have steps := course.chain
  generalize whole : report.states = states at course
  cases course with
  | @failed stage onRoute cause =>
    have state : report.state = .failed stage cause := concluded.state whole
    have result : report.result = .error (.execution stage cause) := by
      simp [RunReport.result, RunReport.failure?, state]
    have visited := visited_through rfl whole
    refine ⟨opens, steps, last, by rw [state]; rfl, concluded.closed, ?_, ?_, ?_, ?_, ?_, ?_⟩
    · intro stage' cause' same
      obtain ⟨rfl, rfl⟩ := RunState.failed.inj (state.symm.trans same)
      obtain ⟨before, working⟩ := List.getLast?_eq_some_iff.mp (through_last skip stage)
      exact ⟨before, by rw [whole, working, List.append_assoc]; rfl⟩
    · rw [visited, building_mem_through onRoute, state]
      cases skip <;> simp
    · rw [visited, pushing_mem_through onRoute, state]
      cases skip <;> simp [exists_or]
      tauto
    · simp [result, state]
    · simp [state]
    · rw [state, result]
      rintro _ _ same
      cases same
      rfl
  | done =>
    have state : report.state = .done := concluded.state whole
    have result : report.result = .ok report := by
      simp [RunReport.result, RunReport.failure?, state]
    have visited := visited_through rfl whole
    refine ⟨opens, steps, last, by rw [state]; rfl, concluded.closed, ?_, ?_, ?_, ?_, ?_, ?_⟩
    · simp [state]
    · rw [visited, building_mem_through (applying_onRoute skip), state]
      cases skip <;> simp
    · rw [visited, pushing_mem_through (applying_onRoute skip), state]
      cases skip <;> simp
    · simp [result, state]
    · exact fun _ => result
    · simp [state]

namespace Launch

theorem report_legal {registries : Registries} {l : Launch σ}
    (ran : (l.finish registries env).answer = .ok report) : Legal l.options.skipBuild report :=
  (proceed_concluded ran).legal

-- A run that is asked to stop while it builds.
def interrupted : Launch Bool where
  outside := {
    clock := fun _ => ⟨0, 0⟩
    cancelled := id
    build := fun _ _ _ => (.ended (.ok ()), true)
    push := fun _ _ stopped => (.ended (.ok none), stopped)
    connect := fun _ stopped => (.ended (.ok ()), stopped)
    start := fun _ stopped => stopped
    finish := fun _ stopped => (.ended (.ok .applied), stopped) }
  schedule _ _ := .start
  options := { RunOptions.default with tag := some "v1" }
  host := ⟨[], .ofDir []⟩
  runId := "run"
  wire := ⟨"", fun _ => .dropped, []⟩
  start := false

theorem interrupted_legal :
    ∃ report, (interrupted.finish localRegistries localEnvironment).answer = .ok report ∧
      report.state = .failed .pushing .cancelled ∧ Legal false report := by
  have ran : (interrupted.finish localRegistries localEnvironment).answer = .ok _ := rfl
  exact ⟨_, ran, rfl, report_legal ran⟩

end Launch

end Run

end Rollout
