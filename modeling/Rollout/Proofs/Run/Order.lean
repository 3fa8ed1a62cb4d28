import Mathlib.Data.List.Perm.Subperm
import Rollout.Proofs.Run.Tiers

namespace Rollout.Run

open Pool

variable {σ : Type} {outside : Outside σ} {schedule : Schedule} {options : RunOptions}
variable {env : Environment} {resolved : Resolved} {image : Image} {p q : Progress σ}
variable {events before : List RunEvent} {event : RunEvent} {skip : Bool}

-- What has to have been done, and nothing else but that, when a call is made.
def Permitted (skip : Bool) (image : Image) (before : List RunEvent) : RunEvent → Prop
  | .built i _ _ => skip = false ∧ i = image ∧ before = []
  | .pushed i _ _ => skip = false ∧ i = image ∧ ∃ context, before = [.built image context (.ok ())]
  | .connected _ _ => (skip = true ∧ before = []) ∨
      (skip = false ∧ ∃ context login digest,
        before = [.built image context (.ok ()), .pushed image login (.ok digest)])
  | .started _ => ∃ kubeconfig, .connected kubeconfig (.ok ()) ∈ before
  | .ended r _ => .started r ∈ before ∧ ∃ kubeconfig, .connected kubeconfig (.ok ()) ∈ before

def Ordered (skip : Bool) (image : Image) (events : List RunEvent) : Prop :=
  ∀ before event after, events = before ++ event :: after → Permitted skip image before event

theorem Ordered.nil : Ordered skip image [] := by
  intro before event after split
  simp at split

theorem Ordered.snoc (ordered : Ordered skip image events)
    (permitted : Permitted skip image events event) : Ordered skip image (events ++ [event]) := by
  intro before other after split
  rcases List.eq_nil_or_concat after with rfl | ⟨middle, last, rfl⟩
  · obtain ⟨rfl, same⟩ := List.append_inj' split rfl
    obtain rfl := (List.cons.inj same).1
    exact permitted
  · have earlier : events = before ++ other :: middle :=
      (List.append_inj' (split.trans (by simp : _ = (before ++ other :: middle) ++ [last])) rfl).1
    exact ordered before other middle earlier

theorem reached_ordered {limit : Nat} {timeLimit : Duration} {calls : List (Nat × Resource)} {s : σ}
    {stand : Stand σ} (ordered : Ordered skip image before)
    (connected : ∃ kubeconfig, .connected kubeconfig (.ok ()) ∈ before)
    (path : Reached outside limit timeLimit ⟨⟨calls, [], []⟩, [], s⟩ stand) :
    Ordered skip image (before ++ stand.events) ∧
      ∀ call ∈ stand.pool.flying, .started call.2 ∈ stand.events := by
  have known : ∀ events, ∃ kubeconfig, .connected kubeconfig (.ok ()) ∈ before ++ events :=
    fun events => connected.imp fun _ member => List.mem_append_left events member
  induction path with
  | refl => exact ⟨by simpa using ordered, by simp⟩
  | step prior move ih =>
    obtain ⟨kept, flying⟩ := ih
    cases move with
    | start waits room calm =>
      rw [← List.append_assoc]
      refine ⟨kept.snoc (known _), fun call member => ?_⟩
      rcases List.mem_append.mp member with old | new
      · exact List.mem_append_left _ (flying call old)
      · rw [List.mem_singleton.mp new]; simp
    | withdraw waits stopped => exact ⟨kept, flying⟩
    | finish flies =>
      rw [← List.append_assoc]
      have begun := flying _ (List.mem_of_getElem? flies)
      refine ⟨kept.snoc ⟨List.mem_append_right _ begun, known _⟩, fun call member => ?_⟩
      exact List.mem_append_left _ (flying call (List.eraseIdx_subset member))

theorem tiersRun_ordered {tiers : List (List Resource)} {failure : Option RemoteError}
    (ordered : Ordered skip image p.events)
    (connected : ∃ kubeconfig, .connected kubeconfig (.ok ()) ∈ p.events)
    (run : TiersRun outside options tiers p failure q) : Ordered skip image q.events := by
  induction run with
  | done => exact ordered
  | stop first =>
    obtain ⟨stand, path, -, -, -, rfl⟩ := first
    exact (reached_ordered ordered connected path).1
  | next first later ih =>
    obtain ⟨stand, path, -, -, -, rfl⟩ := first
    exact ih (reached_ordered ordered connected path).1
      (connected.imp fun _ member => List.mem_append_left _ member)

theorem publish_ordered (outside : Outside σ) (options : RunOptions) (env : Environment)
    (image : Image) (fresh : p.events = []) :
    Ordered options.skipBuild image (current (publish outside options env image p)).events := by
  have built : options.skipBuild = false → ∀ result, Ordered options.skipBuild image
      [.built image (buildContext options env) result] :=
    fun full _ => Ordered.nil.snoc ⟨full, rfl, rfl⟩
  have pushed : options.skipBuild = false → ∀ result, Ordered options.skipBuild image
      [.built image (buildContext options env) (.ok ()),
        .pushed image (pushLogin? env image) result] :=
    fun full _ => (built full _).snoc ⟨full, rfl, _, rfl⟩
  rcases ran : publish outside options env image p with q | q <;> simp only [current]
  · obtain ⟨full, events | ⟨result, events⟩ | ⟨cause, events⟩⟩ := publish_trace_error ran <;>
      rw [events, fresh]
    · exact .nil
    · exact built full result
    · exact pushed full (.error cause)
  · obtain ⟨-, events⟩ | ⟨full, digest, events⟩ := publish_trace_ok ran <;> rw [events, fresh]
    · exact .nil
    · exact pushed full (.ok digest)

theorem connect_permitted {kubeconfig : KubeConfig} {result : Except RemoteError Unit}
    (fresh : p.events = []) (ran : publish outside options env image p = .ok q) :
    Permitted options.skipBuild image q.events (.connected kubeconfig result) := by
  obtain ⟨skip, events⟩ | ⟨full, digest, events⟩ := publish_trace_ok ran <;> rw [events, fresh]
  · exact .inl ⟨skip, rfl⟩
  · exact .inr ⟨full, _, _, digest, rfl⟩

theorem drive_ordered (fresh : p.events = []) :
    Ordered options.skipBuild resolved.image
      (drive outside schedule options env resolved p).events := by
  have published := publish_ordered outside options env resolved.image fresh
  have driven := drive_run outside schedule options env resolved p
  generalize drive outside schedule options env resolved p = final at driven
  cases driven with
  | unpublished ran => rwa [ran] at published
  | unconnected ran connected =>
    rw [ran] at published
    rw [connect_parts connected]
    exact published.snoc (connect_permitted fresh ran)
  | applied ran connected run =>
    rw [ran] at published
    rw [conclude_events]
    rw [connect_parts connected] at run
    refine tiersRun_ordered (published.snoc (connect_permitted fresh ran)) ?_ run
    exact ⟨resolved.kubeconfig, List.mem_append_right _ (List.mem_singleton.mpr rfl)⟩

theorem TiersRun.started {tiers : List (List Resource)} {failure : Option RemoteError}
    (run : TiersRun outside options tiers p failure q) {r : Resource}
    (began : r ∈ starts q.events) : r ∈ starts p.events ∨ r ∈ tiers.flatten := by
  induction run with
  | done => exact .inl began
  | stop first =>
    obtain ⟨stand, -, -, completed, -, rfl⟩ := first
    rcases List.mem_append.mp (starts_append _ _ ▸ began) with old | new
    · exact .inl old
    · exact .inr (List.mem_append_left _ (completed.order.subset new))
  | next first later ih =>
    obtain ⟨stand, -, -, completed, -, rfl⟩ := first
    rcases ih began with here | further
    · rcases List.mem_append.mp (starts_append _ _ ▸ here) with old | new
      · exact .inl old
      · exact .inr (List.mem_append_left _ (completed.order.subset new))
    · exact .inr (List.mem_append_right _ further)

-- Only from an open connection on are there calls for resources.
theorem drive_calls (outside : Outside σ) (schedule : Schedule) (options : RunOptions)
    (env : Environment) (resolved : Resolved) (fresh : p.events = []) :
    let final := drive outside schedule options env resolved p
    (starts final.events = [] ∧ endings final.events = []) ∨
      ∃ q failure last, starts q.events = [] ∧ endings q.events = [] ∧
        TiersRun outside options resolved.manifest.tiers q failure last ∧
        final = conclude outside (failure, last) := by
  have quiet : ∀ q, publish outside options env resolved.image p = .ok q →
      starts q.events = [] ∧ endings q.events = [] := by
    intro q ran
    obtain ⟨-, events⟩ | ⟨-, _, events⟩ := publish_trace_ok ran <;> rw [events, fresh] <;>
      exact ⟨rfl, rfl⟩
  have driven := drive_run outside schedule options env resolved p
  generalize drive outside schedule options env resolved p = final at driven
  cases driven with
  | unpublished ran =>
    left
    obtain ⟨-, events | ⟨_, events⟩ | ⟨_, events⟩⟩ := publish_trace_error ran <;>
      rw [events, fresh] <;> exact ⟨rfl, rfl⟩
  | @unconnected cause q q' ran connected =>
    left
    rw [connect_parts connected]
    simpa [fail] using quiet q ran
  | @applied q q' last failure ran connected run =>
    right
    have begun : starts q'.events = [] ∧ endings q'.events = [] := by
      rw [connect_parts connected]
      simpa using quiet q ran
    exact ⟨q', failure, last, begun.1, begun.2, run, rfl⟩

theorem drive_started (fresh : p.events = []) {r : Resource}
    (began : .started r ∈ (drive outside schedule options env resolved p).events) :
    r ∈ resolved.manifest.resources := by
  rw [← mem_starts] at began
  obtain ⟨none, -⟩ | ⟨q, failure, last, still, -, run, same⟩ :=
    drive_calls outside schedule options env resolved fresh
  · rw [none] at began
    cases began
  · rw [same, conclude_events] at began
    rw [← Manifest.flatten_tiers]
    refine (run.started began).resolve_left ?_
    rw [still]
    exact List.not_mem_nil

theorem TiersRun.once {tiers : List (List Resource)} {failure : Option RemoteError}
    (run : TiersRun outside options tiers p failure q) : ∃ later, q.events = p.events ++ later ∧
      ((endings later).map Prod.fst).Subperm tiers.flatten := by
  induction run with
  | done => exact ⟨[], by simp, List.nil_subperm⟩
  | stop first =>
    obtain ⟨stand, -, -, completed, -, rfl⟩ := first
    exact ⟨_, rfl, completed.once.trans (List.sublist_append_left _ _).subperm⟩
  | next first later ih =>
    obtain ⟨stand, -, -, completed, -, rfl⟩ := first
    obtain ⟨further, same, once⟩ := ih
    refine ⟨stand.events ++ further, by rw [same, List.append_assoc], ?_⟩
    rw [endings_append, List.map_append, List.flatten_cons]
    exact List.Subperm.append completed.once once

theorem drive_once (fresh : p.events = []) :
    ((endings (drive outside schedule options env resolved p).events).map Prod.fst).Subperm
      resolved.manifest.resources := by
  obtain ⟨-, none⟩ | ⟨q, failure, last, -, silent, run, same⟩ :=
    drive_calls outside schedule options env resolved fresh
  · rw [none]
    exact List.nil_subperm
  · obtain ⟨later, extended, once⟩ := run.once
    rw [same, conclude_events, extended, endings_append, silent, ← Manifest.flatten_tiers]
    exact once

theorem drive_ended (fresh : p.events = []) {r : Resource} {x : ApplyResult}
    (ended : .ended r x ∈ (drive outside schedule options env resolved p).events) :
    r ∈ resolved.manifest.resources :=
  (drive_once fresh).subset (List.mem_map_of_mem (mem_endings.mpr ended))

theorem TiersRun.report {tiers : List (List Resource)} {failure : Option RemoteError}
    (run : TiersRun outside options tiers p failure q) :
    ∃ applied, q.report = { p.report with applied } := by
  induction run with
  | done => exact ⟨_, rfl⟩
  | stop first => obtain ⟨stand, -, -, -, -, rfl⟩ := first; exact ⟨_, rfl⟩
  | next first later ih =>
    obtain ⟨stand, -, -, -, -, rfl⟩ := first
    obtain ⟨applied, same⟩ := ih
    exact ⟨applied, same⟩

theorem drive_report (outside : Outside σ) (schedule : Schedule) (options : RunOptions)
    (env : Environment) (resolved : Resolved) (p : Progress σ) :
    let q := drive outside schedule options env resolved p
    q.report.image = p.report.image ∧ q.report.manifestDigest = p.report.manifestDigest := by
  have published := (publish_report outside options env resolved.image p).2
  have driven := drive_run outside schedule options env resolved p
  generalize drive outside schedule options env resolved p = final at driven
  cases driven with
  | unpublished ran => rwa [ran] at published
  | unconnected ran connected =>
    rw [ran] at published
    rw [connect_parts connected]
    exact published
  | @applied q q' last failure ran connected run =>
    rw [ran] at published
    obtain ⟨applied, kept⟩ := run.report
    rw [connect_parts connected] at kept
    cases failure <;> simpa [conclude, fail, kept] using published

theorem drive_visits (fresh : p.events = []) {kubeconfig : KubeConfig}
    {result : Except RemoteError Unit} (called : .connected kubeconfig result ∈
      (drive outside schedule options env resolved p).events) :
    (drive outside schedule options env resolved p).report.visited (.working .applying) = true := by
  have driven := drive_run outside schedule options env resolved p
  generalize drive outside schedule options env resolved p = final at driven called
  cases driven with
  | unpublished ran =>
    obtain ⟨-, events | ⟨_, events⟩ | ⟨_, events⟩⟩ := publish_trace_error ran <;>
      simp [events, fresh] at called
  | unconnected ran connected =>
    rw [connect_parts connected]
    simp [RunReport.visited, fail, enter, RunReport.enter]
  | @applied q q' last failure ran connected run =>
    obtain ⟨applied, kept⟩ := run.report
    rw [connect_parts connected] at kept
    cases failure <;> simp [RunReport.visited, conclude, fail, kept, enter, RunReport.enter]

end Rollout.Run
