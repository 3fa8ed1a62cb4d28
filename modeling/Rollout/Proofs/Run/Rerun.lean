import Rollout.Proofs.Assembly.Resolution
import Rollout.Proofs.Run.Reconcile
import Rollout.Proofs.Run.Tierwise

namespace Rollout.Run

open Pool

variable {σ : Type} {outside : Outside σ} {store : σ → ClusterStore} {options : RunOptions}
variable {schedule : Schedule} {env : Environment} {image : Image} {resolved : Resolved}
variable {p q : Progress σ} {runId : String} {s : σ} {declared : List Resource}
variable {resolution : Resolution}

theorem drive_recorded (bare : p.report.applied = []) {key : ResourceKey} {outcome : ApplyOutcome} :
    let q := drive outside schedule options env resolved p
    (key, outcome) ∈ q.report.applied →
      ∃ r ∈ resolved.manifest.resources, r.key = key ∧ .ended r (.ok outcome) ∈ q.events := by
  intro final recorded
  have applied := (publish_report outside options env resolved.image p).1.trans bare
  have driven : DriveRun outside options env resolved p final := drive_run ..
  generalize final = final at driven recorded
  cases driven with
  | unpublished ran =>
    rw [ran] at applied
    exact absurd (applied ▸ recorded) List.not_mem_nil
  | @unconnected cause q q' ran connected =>
    rw [ran] at applied
    rw [connect_parts connected] at recorded
    exact absurd (applied ▸ recorded) List.not_mem_nil
  | applied ran connected run =>
    rw [ran] at applied
    rw [conclude_applied] at recorded
    rw [conclude_events, ← Manifest.flatten_tiers]
    refine (run.recorded recorded).resolve_left ?_
    rw [connect_parts connected]
    exact fun old => absurd (applied ▸ old) List.not_mem_nil

-- No key is answered for twice, since a manifest has each key once.
theorem drive_keys (manifest : resolved.manifest = Manifest.ofResources declared)
    (fresh : p.events = []) :
    ((endings (drive outside schedule options env resolved p).events).map
      fun call => call.1.key).Nodup := by
  obtain ⟨called, order, within⟩ : ((endings (drive outside schedule options env resolved
      p).events).map Prod.fst).Subperm resolved.manifest.resources := drive_once fresh
  have distinct := Manifest.ofResources_distinct declared
  rw [← manifest] at distinct
  have keys := (order.map Resource.key).nodup_iff.mp (distinct.sublist (within.map Resource.key))
  rwa [List.map_map] at keys

theorem proceed_reconciled (keeps : Keeps outside store)
    (manifest : ∀ resolved, resolution = .ready resolved →
      ∃ declared, resolved.manifest = Manifest.ofResources declared) :
    let finish := proceed outside schedule options runId env s resolution
    Reconciled (store s) finish.events (store finish.outside) := by
  refine (proceed_replayed outside schedule options runId env s resolution).reconciled keeps ?_
  cases resolution with
  | refused e => exact .nil
  | failed image cause => exact .nil
  | ready resolved =>
    obtain ⟨declared, manifest⟩ := manifest resolved rfl
    exact drive_keys manifest rfl

theorem applying_ready {report : RunReport}
    (ran : (proceed outside schedule options runId env s resolution).answer = .ok report)
    (reached : report.visited (.working .applying) = true) :
    ∃ resolved, resolution = .ready resolved := by
  cases resolution with
  | refused e => cases ran
  | failed image cause =>
    obtain rfl := Except.ok.inj ran
    simp [RunReport.visited, fail, enter, begin, RunReport.enter, RunReport.new] at reached
  | ready resolved => exact ⟨resolved, rfl⟩

-- What a cluster that rejects nothing answers, going by what it held at the beginning.
def upkeep (held : ClusterStore) (r : Resource) : ApplyOutcome :=
  if held r.key = some r.body then .unchanged else .applied

theorem attempted_accepting (outcome : Resource → ApplyOutcome) (tiers : List (List Resource)) :
    let result : Resource → ApplyResult := fun r => .ok (outcome r)
    tiers.flatten.findSome? (objection result) = none ∧
      (attempted result tiers).filterMap (acceptance result) =
        tiers.flatten.map fun r => (r.key, outcome r) := by
  intro result
  have passing : tiers.flatten.findSome? (objection result) = none :=
    List.findSome?_eq_none_iff.mpr fun r _ => objection_eq_none.mpr ⟨outcome r, rfl⟩
  have recorded : acceptance result = fun r => some (r.key, outcome r) := rfl
  exact ⟨passing, by rw [attempted_all passing, recorded, List.filterMap_eq_map']⟩

-- Applying alone, with a cluster that can be reached and rejects nothing.
structure Smooth (outside : Outside σ) (options : RunOptions) (finish : Finish σ) : Prop where
  applyOnly : options.skipBuild = true
  calm : ∀ t, outside.cancelled t = false
  connects : ∀ kubeconfig cause, .connected kubeconfig (.error cause) ∉ finish.events
  accepts : ∀ r cause, .ended r (.error cause) ∉ finish.events

theorem smooth_connected
    (smooth : Smooth outside options
      (proceed outside schedule options runId env s (.ready resolved))) :
    .connected resolved.kubeconfig (.ok ()) ∈
      (proceed outside schedule options runId env s (.ready resolved)).events := by
  have published : publish outside options env resolved.image (ready outside runId env resolved s) =
      .ok (ready outside runId env resolved s) := by simp [publish, smooth.applyOnly]
  rcases connected : connect outside options resolved.kubeconfig
    (enter outside (.working .applying) (ready outside runId env resolved s))
    with ⟨cause | ⟨⟩, q⟩
  · refine absurd ?_ (smooth.connects resolved.kubeconfig cause)
    rw [proceed_ready]
    simp only [drive, stages, current, published, attempt, deliver, connected, bind, Except.bind]
    rw [connect_parts connected]
    exact List.mem_append_right _ (List.mem_singleton.mpr rfl)
  · exact proceed_connects published connected

-- What comes of such a run against a cluster with the given bodies.
structure Upkept (store : σ → ClusterStore) (held : ClusterStore) (m : Manifest)
    (finish : Finish σ) (report : RunReport) : Prop where
  answer : finish.answer = .ok report
  done : report.state = .done
  applied : report.applied = m.resources.map fun r =>
    (r.key, if held r.key = some r.body then .unchanged else .applied)
  holds : ∀ r ∈ m.resources, store finish.outside r.key = some r.body
  foreign : ∀ key, key ∉ m.resources.map Resource.key → store finish.outside key = held key

theorem smooth_run (keeps : Keeps outside store)
    (manifest : resolved.manifest = Manifest.ofResources declared)
    (smooth : Smooth outside options
      (proceed outside schedule options runId env s (.ready resolved))) :
    let finish := proceed outside schedule options runId env s (.ready resolved)
    ∃ report, Upkept store (store s) resolved.manifest finish report := by
  intro finish
  have known : Reconciled (store s) finish.events (store finish.outside) :=
    proceed_reconciled keeps fun _ same => by cases same; exact ⟨declared, manifest⟩
  obtain ⟨q, still, silent, bare, course⟩ := proceed_connected (smooth_connected smooth)
  have here : finish = _ := course schedule options.concurrency
  have told : ∀ r x, .ended r x ∈ finish.events → x = .ok (upkeep (store s) r) := by
    intro r x ended
    rcases x with cause | _ | _
    · exact absurd ended (smooth.accepts r cause)
    · rw [upkeep, if_neg (known.applied r ended).1]
    · rw [upkeep, if_pos (known.unchanged r ended).1]
  rw [here] at told
  obtain ⟨tierwise, settled⟩ := applied_tierwise options manifest smooth.calm still silent bare
    schedule told
  obtain ⟨passing, recorded⟩ := attempted_accepting (upkeep (store s)) resolved.manifest.tiers
  rw [Manifest.flatten_tiers] at passing recorded
  have done := settled.state.trans (congrArg verdict passing)
  refine ⟨_, congrArg Finish.answer here, done, settled.applied.trans recorded, ?_, ?_⟩
  · intro r member
    have ended := tierwise.ended r ((tierwise.complete done).1 ▸ member)
    have ended : .ended r (.ok (upkeep (store s) r)) ∈ finish.events := here ▸ ended
    cases held : upkeep (store s) r with
    | unchanged => exact (known.unchanged r (held ▸ ended)).2
    | applied => exact (known.applied r (held ▸ ended)).2
  · intro key foreign
    refine known.untouched key fun r x ended same => foreign ?_
    exact List.mem_map.mpr ⟨r, drive_ended rfl ended, same⟩

namespace Launch

-- A later run of the same definition, with the same tag and the same answers of the provider,
-- against the same cluster. It applies alone, and none of its calls fails.
structure Repeats (registries : Registries) (env : Environment) (store : σ → ClusterStore)
    (first later : Launch σ) : Prop where
  tag : imageFor later.host later.options env = imageFor first.host first.options env
  answers : ∀ prepared, Assembly.prepare registries env = .ok prepared →
    Assembly.access prepared.provider later.host later.wire =
      Assembly.access prepared.provider first.host first.wire
  keeps : Keeps later.outside store
  smooth : Smooth later.outside later.options (later.finish registries env)

variable {registries : Registries} {first second third later : Launch σ} {report₁ : RunReport}

theorem Repeats.run (repeats : Repeats registries env store first later)
    (resolved_first : first.resolve registries env = .ready resolved) :
    ∃ report, Upkept store (store later.start) resolved.manifest (later.finish registries env)
      report := by
  obtain ⟨declared, manifest⟩ := resolve_manifest resolved_first
  have same : later.resolve registries env = .ready resolved :=
    (resolve_same repeats.tag repeats.answers).trans resolved_first
  have smooth := repeats.smooth
  rw [finish_proceed, same] at smooth ⊢
  exact smooth_run repeats.keeps manifest smooth

-- What two later runs make of the cluster that a first one left.
structure Converges (registries : Registries) (env : Environment) (store : σ → ClusterStore)
    (first second third : Launch σ) (m : Manifest) (report₁ report₂ report₃ : RunReport) :
    Prop where
  rerun : Upkept store (store second.start) m (second.finish registries env) report₂
  accepted : ∀ key outcome, (key, outcome) ∈ report₁.applied →
    (key, .unchanged) ∈ report₂.applied
  foreign : ∀ key, key ∉ m.resources.map Resource.key →
    store (second.finish registries env).outside key = store first.start key
  last : Upkept store (store third.start) m (third.finish registries env) report₃
  unchanged : report₃.applied = m.resources.map fun r => (r.key, .unchanged)
  settled : store (third.finish registries env).outside = store third.start

-- The first run got as far as applying; how it ended does not matter.
theorem rerun_converges (keeps : Keeps first.outside store)
    (ran : (first.finish registries env).answer = .ok report₁)
    (reached : report₁.visited (.working .applying) = true)
    (again : Repeats registries env store first second)
    (left : store second.start = store (first.finish registries env).outside)
    (oncemore : Repeats registries env store first third)
    (kept : store third.start = store (second.finish registries env).outside) :
    ∃ resolved report₂ report₃, first.resolve registries env = .ready resolved ∧
      Converges registries env store first second third resolved.manifest
        report₁ report₂ report₃ := by
  obtain ⟨resolved, ready⟩ := applying_ready (finish_proceed registries env first ▸ ran) reached
  obtain ⟨report₂, upkept₂⟩ := again.run ready
  obtain ⟨report₃, upkept₃⟩ := oncemore.run ready
  have known : Reconciled (store first.start) (first.finish registries env).events
      (store (first.finish registries env).outside) :=
    proceed_reconciled keeps fun _ same => resolve_manifest same
  refine ⟨resolved, report₂, report₃, ready, upkept₂, ?_, ?_, upkept₃, ?_, ?_⟩
  · intro key outcome recorded
    rw [finish_proceed, ready] at ran
    obtain rfl := Except.ok.inj ran
    obtain ⟨r, member, rfl, ended⟩ := drive_recorded rfl recorded
    have ended : .ended r (.ok outcome) ∈ (first.finish registries env).events := by
      rw [finish_proceed, ready]
      exact ended
    have held : store second.start r.key = some r.body := by
      rw [left]
      cases outcome with
      | unchanged => exact (known.unchanged r ended).2
      | applied => exact (known.applied r ended).2
    rw [upkept₂.applied]
    exact List.mem_map.mpr ⟨r, member, by rw [if_pos held]⟩
  · intro key foreign
    rw [upkept₂.foreign key foreign, left]
    refine known.untouched key fun r x ended same => foreign ?_
    rw [finish_proceed, ready] at ended
    exact List.mem_map.mpr ⟨r, drive_ended rfl ended, same⟩
  · rw [upkept₃.applied]
    refine List.map_congr_left fun r member => ?_
    rw [if_pos (kept ▸ upkept₂.holds r member)]
  · funext key
    by_cases native : key ∈ resolved.manifest.resources.map Resource.key
    · obtain ⟨r, member, rfl⟩ := List.mem_map.mp native
      rw [upkept₃.holds r member, kept, upkept₂.holds r member]
    · exact upkept₃.foreign key native

-- A cluster that denies some resources.
def cluster (denied : Resource → Bool) : Outside ClusterStore where
  clock _ := ⟨0, 0⟩
  cancelled _ := false
  build _ _ held := (.ended (.ok ()), held)
  push _ _ held := (.ended (.ok none), held)
  connect _ held := (.ended (.ok ()), held)
  start _ held := held
  finish r held :=
    if denied r then (.ended (.error (.rejected r.key.render "denied")), held)
    else if held r.key = some r.body then (.ended (.ok .unchanged), held)
    else (.ended (.ok .applied), fun key => if key = r.key then some r.body else held key)

theorem cluster_keeps (denied : Resource → Bool) : Keeps (cluster denied) id where
  build _ _ _ := rfl
  push _ _ _ := rfl
  connect _ _ := rfl
  start _ _ := rfl
  finish r held := by
    simp only [cluster, id]
    split
    · exact .rejected rfl
    · split
      · rename_i same
        exact .unchanged same rfl
      · rename_i differs
        exact .applied differs ⟨if_pos rfl, fun key apart => if_neg apart⟩

def localRegistries : Registries :=
  ⟨[("local", fun _ => ⟨"local", [], fun _ wire => (.ok ⟨none, ""⟩, wire),
      fun _ wire => (.ok ⟨"local", "local", none, none, none⟩, wire)⟩)],
    [("web", fun _ => ⟨"web", [], [], fun ctx =>
      .ok ⟨[.new "apps/v1" "Deployment" (ctx.objectName "web") (some ctx.namespaceName)], []⟩⟩)]⟩

def localEnvironment : Environment :=
  ⟨"staging", "shop", ⟨⟨"docker.io", "shop/web", none⟩, none, "Dockerfile", "."⟩,
    ⟨none, [("local", [])], [("web", [])]⟩⟩

def launch (skipBuild : Bool) (denied : Resource → Bool) (held : ClusterStore) :
    Launch ClusterStore :=
  ⟨cluster denied, fun _ _ => .start, { RunOptions.default with skipBuild, tag := some "v1" },
    ⟨[], .ofDir []⟩, "run", ⟨"", fun _ => .dropped, []⟩, held⟩

theorem accepting_smooth {registries : Registries} {env : Environment} {l : Launch ClusterStore}
    (accepting : l.outside = cluster fun _ => false) (applyOnly : l.options.skipBuild = true) :
    Smooth l.outside l.options (l.finish registries env) := by
  have replayed := l.replayed registries env
  rw [accepting] at replayed ⊢
  refine ⟨applyOnly, fun _ => rfl, ?_, ?_⟩
  · intro kubeconfig cause called
    obtain ⟨t, answer⟩ := replayed.told called
    cases answer
  · intro r cause ended
    obtain ⟨t, answer⟩ := replayed.told ended
    simp only [Told, cluster, Bool.false_eq_true, if_false] at answer
    split at answer <;> cases answer

theorem launch_repeats (held held' : ClusterStore) (denied : Resource → Bool) :
    Repeats localRegistries localEnvironment id (launch false denied held)
      (launch true (fun _ => false) held') :=
  ⟨rfl, fun _ _ => rfl, cluster_keeps _, accepting_smooth rfl rfl⟩

theorem denied_deployment_converges :
    let first := launch false (fun r => r.kind == "Deployment") fun _ => none
    let second := launch true (fun _ => false)
      (first.finish localRegistries localEnvironment).outside
    let third := launch true (fun _ => false)
      (second.finish localRegistries localEnvironment).outside
    ∃ resolved report₁ report₂ report₃,
      first.resolve localRegistries localEnvironment = .ready resolved ∧
      Converges localRegistries localEnvironment id first second third resolved.manifest
        report₁ report₂ report₃ := by
  intro first second third
  have connects : .connected _ (.ok ()) ∈
      (first.finish localRegistries localEnvironment).events := proceed_connects rfl rfl
  obtain ⟨resolved, report₂, report₃, ready, converges⟩ :=
    rerun_converges (cluster_keeps _) (rfl : (first.finish _ _).answer = _)
      (drive_visits rfl connects) (launch_repeats _ _ _) rfl (launch_repeats _ _ _) rfl
  exact ⟨resolved, _, report₂, report₃, ready, converges⟩

end Launch

end Rollout.Run
