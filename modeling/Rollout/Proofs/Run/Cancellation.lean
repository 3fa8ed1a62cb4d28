import Rollout.Proofs.Run.Course

namespace Rollout

def RunEvent.cause? : RunEvent → Option RemoteError
  | .built _ _ (.error cause) => some cause
  | .pushed _ _ (.error cause) => some cause
  | .connected _ (.error cause) => some cause
  | .ended _ (.error cause) => some cause
  | _ => none

namespace Run

open Pool

variable {σ : Type} {outside : Outside σ} {schedule : Schedule} {options : RunOptions}
variable {env : Environment} {image : Image} {resolved : Resolved} {p q : Progress σ}
variable {tier : List Resource} {tiers : List (List Resource)} {failure : Option RemoteError}
variable {cause : RemoteError} {skip : Bool} {m : Manifest} {stage : Stage} {s t : σ}
variable {events before later : List RunEvent}

-- A signal that is only ever set.
def Latched (outside : Outside σ) : Prop :=
  ∀ t event, outside.cancelled t = true → outside.cancelled (after outside t event) = true

def standing (outside : Outside σ) (s : σ) (events : List RunEvent) : σ :=
  events.foldl (after outside) s

theorem standing_append (outside : Outside σ) (s : σ) (a b : List RunEvent) :
    standing outside s (a ++ b) = standing outside (standing outside s a) b :=
  List.foldl_append

theorem Latched.standing (latched : Latched outside) (events : List RunEvent)
    (stopped : outside.cancelled t = true) : outside.cancelled (standing outside t events) = true := by
  induction events generalizing t with
  | nil => exact stopped
  | cons event rest ih => exact ih (latched t event stopped)

-- No call begins behind a moment at which somebody has asked to stop.
structure Heeds (outside : Outside σ) (s : σ) (events : List RunEvent) (t : σ) : Prop where
  here : t = standing outside s events
  silent : ∀ before later, events = before ++ later →
    outside.cancelled (standing outside s before) = true → ∀ event ∈ later, event.checked = false

theorem heeds_stable (latched : Latched outside) (options : RunOptions) (s : σ) :
    Stable outside options (Heeds outside s) := by
  intro events t event heeds made
  obtain ⟨rfl, silent⟩ := heeds
  refine ⟨by rw [standing_append]; rfl, fun before later split stopped => ?_⟩
  rcases List.eq_nil_or_concat later with rfl | ⟨middle, last, rfl⟩
  · simp
  · rw [List.concat_eq_append] at split ⊢
    obtain ⟨rfl, same⟩ := List.append_inj' (split.trans (List.append_assoc ..).symm) rfl
    obtain rfl := (List.cons.inj same).1
    have still := latched.standing middle stopped
    rw [← standing_append] at still
    intro other member
    rcases List.mem_append.mp member with old | new
    · exact silent before middle rfl stopped other old
    · rw [List.mem_singleton.mp new]
      by_contra checked
      rw [made.calm (by simpa using checked)] at still
      cases still

theorem heeds_nil (outside : Outside σ) (s : σ) : Heeds outside s [] s := by
  refine ⟨rfl, fun before later split stopped => ?_⟩
  rw [(List.append_eq_nil_iff.mp split.symm).2]
  simp

-- Every call that began is over.
def Balanced (events : List RunEvent) : Prop :=
  (starts events).Perm ((endings events).map Prod.fst)

theorem Balanced.over (balanced : Balanced events) {r : Resource} :
    .started r ∈ events ↔ ∃ x, .ended r x ∈ events := by
  rw [← mem_starts, balanced.mem_iff]
  constructor
  · intro member
    obtain ⟨⟨_, x⟩, ended, rfl⟩ := List.mem_map.mp member
    exact ⟨x, mem_endings.mp ended⟩
  · rintro ⟨x, ended⟩
    exact List.mem_map_of_mem (mem_endings.mpr ended)

theorem TierRun.balanced (run : TierRun outside options tier p failure q)
    (balanced : Balanced p.events) : Balanced q.events := by
  obtain ⟨stand, path, done, -, -, rfl⟩ := run
  have matched := reached_matched path
  rw [(pending_eq_zero done).2, List.map_nil, List.append_nil] at matched
  simpa [Balanced] using balanced.append matched

theorem TiersRun.balanced (run : TiersRun outside options tiers p failure q)
    (balanced : Balanced p.events) : Balanced q.events := by
  induction run with
  | done => exact balanced
  | stop first => exact first.balanced balanced
  | next first later ih => exact ih (first.balanced balanced)

theorem TierRun.accepts (run : TierRun outside options tier p none q) {r : Resource}
    (member : r ∈ tier) : ∃ outcome, .ended r (.ok outcome) ∈ q.events := by
  obtain ⟨stand, -, -, completed, passing, rfl⟩ := run
  rw [← completed.listed] at member
  obtain ⟨⟨_, answer⟩, listed, rfl⟩ := List.mem_map.mp member
  have fine := List.findSome?_eq_none_iff.mp passing.symm _ listed
  obtain ⟨x, rfl, ended | ⟨rfl, -⟩⟩ := completed.answered _ answer listed
  · cases x with
    | error cause => cases fine
    | ok outcome => exact ⟨outcome, List.mem_append_right _ ended⟩
  · cases fine

theorem TiersRun.accepts (run : TiersRun outside options tiers p failure q)
    (passing : failure = none) {r : Resource} (member : r ∈ tiers.flatten) :
    ∃ outcome, .ended r (.ok outcome) ∈ q.events := by
  induction run with
  | done => cases member
  | stop first => cases passing
  | next first later ih =>
    rcases List.mem_append.mp member with here | further
    · obtain ⟨outcome, ended⟩ := first.accepts here
      exact ⟨outcome, later.events_prefix.subset ended⟩
    · exact ih passing further

theorem TierRun.fails (run : TierRun outside options tier p (some cause) q) :
    cause = .cancelled ∨ ∃ r, .ended r (.error cause) ∈ q.events := by
  obtain ⟨stand, -, -, completed, failing, rfl⟩ := run
  obtain ⟨⟨r, answer⟩, listed, told⟩ := List.exists_of_findSome?_eq_some failing.symm
  obtain ⟨x, rfl, ended | ⟨rfl, -⟩⟩ := completed.answered r answer listed
  · cases x with
    | error cause =>
      obtain rfl := Option.some.inj told
      exact .inr ⟨r, List.mem_append_right _ ended⟩
    | ok outcome => cases told
  · exact .inl (Option.some.inj told).symm

theorem TiersRun.fails (run : TiersRun outside options tiers p failure q)
    (failed : failure = some cause) :
    cause = .cancelled ∨ ∃ r, .ended r (.error cause) ∈ q.events := by
  induction run with
  | done => cases failed
  | stop first =>
    obtain rfl := Option.some.inj failed
    exact first.fails
  | next first later ih => exact ih failed

theorem TierRun.records (run : TierRun outside options tier p failure q) {r : Resource}
    {outcome : ApplyOutcome} (ended : .ended r (.ok outcome) ∈ q.events) :
    .ended r (.ok outcome) ∈ p.events ∨ (r.key, outcome) ∈ q.report.applied := by
  obtain ⟨stand, -, -, completed, -, rfl⟩ := run
  refine (List.mem_append.mp ended).imp_right fun new => List.mem_append_right _ ?_
  exact List.mem_filterMap.mpr ⟨_, completed.reported r _ new, rfl⟩

theorem TiersRun.applied_prefix (run : TiersRun outside options tiers p failure q) :
    p.report.applied <+: q.report.applied := by
  induction run with
  | done => exact List.prefix_rfl
  | stop first =>
    obtain ⟨stand, -, -, -, -, rfl⟩ := first
    exact List.prefix_append _ _
  | next first later ih =>
    obtain ⟨stand, -, -, -, -, rfl⟩ := first
    exact (List.prefix_append _ _).trans ih

theorem TiersRun.records (run : TiersRun outside options tiers p failure q) {r : Resource}
    {outcome : ApplyOutcome} (ended : .ended r (.ok outcome) ∈ q.events) :
    .ended r (.ok outcome) ∈ p.events ∨ (r.key, outcome) ∈ q.report.applied := by
  induction run with
  | done => exact .inl ended
  | stop first => exact first.records ended
  | next first later ih =>
    rcases ih ended with here | recorded
    · exact (first.records here).imp_right fun old => later.applied_prefix.subset old
    · exact .inr recorded

theorem drive_balanced (fresh : p.events = []) :
    Balanced (drive outside schedule options env resolved p).events := by
  obtain ⟨still, silent⟩ | ⟨q, failure, last, still, silent, run, same⟩ :=
    drive_calls outside schedule options env resolved fresh
  · simp [Balanced, still, silent]
  · rw [same, conclude_events]
    exact run.balanced (by simp [Balanced, still, silent])

theorem drive_records (fresh : p.events = []) {r : Resource} {outcome : ApplyOutcome} :
    let q := drive outside schedule options env resolved p
    .ended r (.ok outcome) ∈ q.events → (r.key, outcome) ∈ q.report.applied := by
  intro final ended
  obtain ⟨-, silent⟩ | ⟨q, failure, last, -, silent, run, same⟩ :
    _ ∨ ∃ q failure last, _ ∧ _ ∧ _ ∧ final = _ :=
    drive_calls outside schedule options env resolved fresh
  · have none := mem_endings.mpr ended
    rw [silent] at none
    cases none
  · rw [same, conclude_events] at ended
    rw [same, conclude_applied]
    refine (run.records ended).resolve_left fun old => ?_
    have none := mem_endings.mpr old
    rw [silent] at none
    cases none

-- The stages that still have a call to start.
def Owes (skip : Bool) (m : Manifest) (events : List RunEvent) : Stage → Prop
  | .resolving => False
  | .building => skip = false ∧ ∀ image context result, .built image context result ∉ events
  | .pushing => skip = false ∧ ∀ image login result, .pushed image login result ∉ events
  | .applying => ∃ r ∈ m.resources, .started r ∉ events

inductive OwesFirst (skip : Bool) (m : Manifest) (events : List RunEvent) : Stage → Prop where
  | building (owed : Owes skip m events .building) : OwesFirst skip m events .building
  | pushing (built : ¬ Owes skip m events .building) (owed : Owes skip m events .pushing) :
      OwesFirst skip m events .pushing
  | applying (built : ¬ Owes skip m events .building) (pushed : ¬ Owes skip m events .pushing)
      (owed : Owes skip m events .applying) : OwesFirst skip m events .applying

theorem owes_append (silent : ∀ event ∈ later, event.checked = false) :
    Owes skip m (before ++ later) stage ↔ Owes skip m before stage := by
  have absent : ∀ event : RunEvent, event.checked = true →
      (event ∉ before ++ later ↔ event ∉ before) := by
    intro event checked
    have outer : event ∉ later := fun member => by
      rw [silent event member] at checked
      cases checked
    simp [outer]
  cases stage with
  | resolving => exact .rfl
  | building => simp only [Owes, absent (.built _ _ _) rfl]
  | pushing => simp only [Owes, absent (.pushed _ _ _) rfl]
  | applying => simp only [Owes, absent (.started _) rfl]

theorem OwesFirst.append (silent : ∀ event ∈ later, event.checked = false)
    (first : OwesFirst skip m before stage) : OwesFirst skip m (before ++ later) stage := by
  have same : ∀ stage, Owes skip m (before ++ later) stage ↔ Owes skip m before stage :=
    fun stage => owes_append silent
  cases first with
  | building owed => exact .building ((same _).mpr owed)
  | pushing built owed => exact .pushing (mt (same _).mp built) ((same _).mpr owed)
  | applying built pushed owed =>
    exact .applying (mt (same _).mp built) (mt (same _).mp pushed) ((same _).mpr owed)

theorem publish_owes (ran : publish outside options env image p = .ok q)
    (grown : q.events <+: events) :
    ¬ Owes options.skipBuild m events .building ∧ ¬ Owes options.skipBuild m events .pushing := by
  obtain ⟨skip, -⟩ | ⟨full, digest, told⟩ := publish_trace_ok ran
  · simp [Owes, skip]
  · rw [told] at grown
    have built : .built image (buildContext options env) (.ok ()) ∈ events :=
      grown.subset (by simp)
    have pushed : .pushed image (pushLogin? env image) (.ok digest) ∈ events :=
      grown.subset (by simp)
    exact ⟨fun owed => owed.2 _ _ _ built, fun owed => owed.2 _ _ _ pushed⟩

theorem connected_prefix {kubeconfig : KubeConfig} {result : Except RemoteError Unit}
    {state : RunState} {q' last : Progress σ}
    (connected : connect outside options kubeconfig (enter outside state q) = (result, q'))
    (run : TiersRun outside options tiers q' failure last) : q.events <+: last.events := by
  refine List.IsPrefix.trans ?_ run.events_prefix
  rw [connect_parts connected]
  exact List.prefix_append _ _

theorem publish_failed (ran : publish outside options env image p = .error q) :
    ∃ stage cause, stage ≠ .resolving ∧ q.report.state = .failed stage cause := by
  have published : Published outside options env image p (.error q) := ran ▸ publish_published
  cases published with
  | unbuilt full built => exact ⟨_, _, by decide, rfl⟩
  | unpushed full built pushed => exact ⟨_, _, by decide, rfl⟩

theorem drive_owes (fresh : p.events = []) :
    let final := drive outside schedule options env resolved p
    final.report.state = .done →
      ∀ stage, ¬ Owes options.skipBuild resolved.manifest final.events stage := by
  intro final done
  have balanced : Balanced final.events := drive_balanced fresh
  have driven : DriveRun outside options env resolved p final := drive_run ..
  generalize final = final at driven done balanced
  cases driven with
  | unpublished ran =>
    obtain ⟨stage, cause, -, state⟩ := publish_failed ran
    rw [state] at done
    cases done
  | unconnected ran connected => cases done
  | applied ran connected run =>
    rw [conclude_state] at done
    rw [conclude_events] at balanced ⊢
    have passing := verdict_eq_done.mp done
    have grown := connected_prefix connected run
    intro stage owed
    cases stage with
    | resolving => exact owed
    | building => exact (publish_owes ran grown).1 owed
    | pushing => exact (publish_owes ran grown).2 owed
    | applying =>
      obtain ⟨r, member, unstarted⟩ := owed
      rw [← Manifest.flatten_tiers] at member
      obtain ⟨outcome, ended⟩ := run.accepts passing member
      exact unstarted (balanced.over.mpr ⟨_, ended⟩)

theorem build_stopped {result : Except RemoteError Unit}
    (ran : build outside options env image p = (result, q)) (failed : result = .error cause)
    (clean : ∀ event ∈ q.events, event.cause? = none) : cause = .cancelled ∧ q = p := by
  obtain ⟨-, rfl, rfl⟩ | rfl := build_parts ran
  · exact ⟨(Except.error.inj failed).symm, rfl⟩
  · subst failed
    have none := clean (.built image (buildContext options env) (.error cause)) (by simp)
    cases none

theorem push_stopped {result : Except RemoteError (Option String)}
    (ran : push outside options env image p = (result, q)) (failed : result = .error cause)
    (clean : ∀ event ∈ q.events, event.cause? = none) : cause = .cancelled ∧ q = p := by
  obtain ⟨-, rfl, rfl⟩ | rfl := push_parts ran
  · exact ⟨(Except.error.inj failed).symm, rfl⟩
  · subst failed
    have none := clean (.pushed image (pushLogin? env image) (.error cause)) (by simp)
    cases none

-- Where no call fails, the first stage with a call left is the one that was stopped.
theorem publish_stopped (fresh : p.events = [])
    (ran : publish outside options env image p = .error q)
    (clean : ∀ event ∈ q.events, event.cause? = none)
    (first : OwesFirst options.skipBuild m q.events stage) :
    q.report.state = .failed stage .cancelled := by
  have published : Published outside options env image p (.error q) := ran ▸ publish_published
  cases published with
  | unbuilt full built =>
    obtain ⟨rfl, rfl⟩ := build_stopped built rfl clean
    have owed : Owes options.skipBuild m [] .building := ⟨full, by simp⟩
    change OwesFirst options.skipBuild m p.events stage at first
    rw [fresh] at first
    cases first with
    | building owed => rfl
    | pushing done _ => exact absurd owed done
    | applying done _ _ => exact absurd owed done
  | @unpushed _ q' _ full built pushed =>
    obtain ⟨rfl, rfl⟩ := push_stopped pushed rfl clean
    obtain ⟨-, impossible, -⟩ | rfl := build_parts built
    · cases impossible
    · change OwesFirst options.skipBuild m
        (p.events ++ [.built image (buildContext options env) (.ok ())]) stage at first
      rw [fresh] at first
      cases first with
      | building owed => exact absurd (List.mem_singleton.mpr rfl) (owed.2 _ _ _)
      | pushing done owed => rfl
      | applying _ done _ => exact absurd ⟨full, by simp⟩ done

theorem drive_stopped (fresh : p.events = []) :
    let final := drive outside schedule options env resolved p
    (∀ event ∈ final.events, event.cause? = none) →
      OwesFirst options.skipBuild resolved.manifest final.events stage →
        final.report.state = .failed stage .cancelled := by
  intro final clean first
  have owes : final.report.state = .done →
    ∀ stage, ¬ Owes options.skipBuild resolved.manifest final.events stage := drive_owes fresh
  have driven : DriveRun outside options env resolved p final := drive_run ..
  generalize final = final at driven clean first owes
  cases driven with
  | unpublished ran => exact publish_stopped fresh ran clean first
  | @unconnected cause q q' ran connected =>
    rw [connect_parts connected] at clean
    have none := clean (.connected resolved.kubeconfig (.error cause)) (by simp [fail])
    cases none
  | @applied q q' last failure ran connected run =>
    rw [conclude_state] at owes ⊢
    rw [conclude_events] at clean first owes
    have grown := connected_prefix connected run
    obtain ⟨unbuilt, unpushed⟩ := publish_owes (m := resolved.manifest) ran grown
    cases first with
    | building owed => exact absurd owed unbuilt
    | pushing _ owed => exact absurd owed unpushed
    | applying _ _ owed =>
      cases failure with
      | none => exact absurd owed (owes rfl .applying)
      | some cause =>
        obtain rfl | ⟨r, ended⟩ := run.fails rfl
        · rfl
        · cases clean _ ended

-- What becomes of a run that was asked to stop between two parts of its history.
structure Halted (registries : Registries) (env : Environment) (l : Launch σ)
    (before later : List RunEvent) (report : RunReport) : Prop where
  -- What is in flight is waited for.
  completes : ∀ r, .started r ∈ before → ∃ x, .ended r x ∈ before ++ later
  applied : ∀ key outcome, (key, outcome) ∈ report.applied ↔
    ∃ r, r.key = key ∧ .started r ∈ before ∧ .ended r (.ok outcome) ∈ before ++ later
  done : report.state = .done → ∃ resolved, l.resolve registries env = .ready resolved ∧
    ∀ stage, ¬ Owes l.options.skipBuild resolved.manifest before stage
  stopped : ∀ resolved stage, l.resolve registries env = .ready resolved →
    OwesFirst l.options.skipBuild resolved.manifest before stage →
      (∀ event ∈ before ++ later, event.cause? = none) → report.state = .failed stage .cancelled

namespace Launch

variable {registries : Registries} {l : Launch σ}

theorem heeds (latched : Latched l.outside) (registries : Registries) (env : Environment) :
    Heeds l.outside l.start (l.finish registries env).events (l.finish registries env).outside :=
  proceed_kept (heeds_stable latched l.options l.start) (heeds_nil l.outside l.start) ..

theorem failed_halted (failed : l.resolve registries env = .failed image cause) {report : RunReport}
    (answer : (l.finish registries env).answer = .ok report)
    (split : (l.finish registries env).events = before ++ later) :
    Halted registries env l before later report := by
  rw [finish_proceed, failed] at answer split
  obtain rfl := Except.ok.inj answer
  obtain ⟨rfl, rfl⟩ := List.append_eq_nil_iff.mp split.symm
  refine ⟨by simp, fun key outcome => ?_, fun done => (nomatch done), fun resolved stage ready => ?_⟩
  · change (key, outcome) ∈ [] ↔ _
    simp
  · cases failed.symm.trans ready

theorem ready_halted (found : l.resolve registries env = .ready resolved) {report : RunReport}
    (answer : (l.finish registries env).answer = .ok report)
    (split : (l.finish registries env).events = before ++ later)
    (silent : ∀ event ∈ later, event.checked = false) :
    Halted registries env l before later report := by
  rw [finish_proceed, found, proceed_ready] at answer split
  obtain rfl := Except.ok.inj answer
  change (drive l.outside l.schedule l.options env resolved
    (ready l.outside l.runId env resolved l.start)).events = _ at split
  have balanced : Balanced (before ++ later) := split ▸ drive_balanced rfl
  refine ⟨fun r started => balanced.over.mp (List.mem_append_left _ started),
    fun key outcome => ⟨fun recorded => ?_, ?_⟩, fun done => ⟨resolved, found, fun stage owed => ?_⟩,
    fun resolved' stage same first clean => ?_⟩
  · obtain ⟨r, -, same, ended⟩ := drive_recorded rfl recorded
    rw [split] at ended
    refine ⟨r, same, ?_, ended⟩
    -- Behind the signal no call begins, so that this one began before it.
    refine (List.mem_append.mp (balanced.over.mpr ⟨_, ended⟩)).resolve_right fun new => ?_
    cases silent _ new
  · rintro ⟨r, rfl, -, ended⟩
    rw [← split] at ended
    exact drive_records rfl ended
  · have owed := (owes_append silent).mpr owed
    rw [← split] at owed
    exact drive_owes rfl done stage owed
  · obtain rfl := Resolution.ready.inj (found.symm.trans same)
    have first := first.append silent
    rw [← split] at first clean
    exact drive_stopped rfl clean first

theorem cancellation_heeded (latched : Latched l.outside)
    (split : (l.finish registries env).events = before ++ later)
    (stopped : l.outside.cancelled (standing l.outside l.start before) = true) :
    (∀ event ∈ later, event.checked = false) ∧
      ∀ report, (l.finish registries env).answer = .ok report →
        Halted registries env l before later report := by
  have silent := (heeds latched registries env).silent before later split stopped
  refine ⟨silent, fun report answer => ?_⟩
  cases found : l.resolve registries env with
  | refused e =>
    rw [finish_proceed, found] at answer
    cases answer
  | failed image cause => exact failed_halted found answer split
  | ready resolved => exact ready_halted found answer split silent

theorem interrupted_latched : Latched interrupted.outside := by
  intro stopped event here
  cases event with
  | built image context result => rfl
  | _ => exact here

theorem interrupted_halted :
    let events := (interrupted.finish localRegistries localEnvironment).events
    ∃ report, (interrupted.finish localRegistries localEnvironment).answer = .ok report ∧
      report.state = .failed .pushing .cancelled ∧
      Halted localRegistries localEnvironment interrupted (events.take 1) (events.drop 1) report := by
  intro events
  have split : events = events.take 1 ++ events.drop 1 := (List.take_append_drop 1 events).symm
  have ran : (interrupted.finish localRegistries localEnvironment).answer = .ok _ := rfl
  exact ⟨_, ran, rfl, (cancellation_heeded interrupted_latched split rfl).2 _ ran⟩

end Launch

end Run

end Rollout
