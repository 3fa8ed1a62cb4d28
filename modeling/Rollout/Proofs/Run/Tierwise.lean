import Rollout.Proofs.Run.Replay

namespace Rollout.Run

open Pool

variable {σ : Type} {outside : Outside σ} {options : RunOptions} {m : Manifest}
variable {runId : String} {env : Environment} {s : σ} {resolved : Resolved}
variable {p q : Progress σ} {result : Resource → ApplyResult} {kubeconfig : KubeConfig}
variable {failure : Option RemoteError} {events : List RunEvent} {declared : List Resource}

-- What a run does with a manifest once it is connected, when calls have fixed results.
structure Tierwise (limit : Nat) (m : Manifest) (result : Resource → ApplyResult)
    (events : List RunEvent) (report : RunReport) : Prop where
  bounded : Bounded limit events
  once : ((starts events).map Resource.key).Nodup
  order : starts events <+: m.resources
  -- Every call of a tier is made once the tier is begun, whatever becomes of the others.
  whole : ∃ k, starts events = (m.tiers.take k).flatten
  matched : ((endings events).map Prod.fst).Perm (starts events)
  ended : ∀ r ∈ starts events, .ended r (result r) ∈ events
  barrier : ∀ before r after, events = before ++ .started r :: after →
    ∀ t, m.Earlier t r → ∃ outcome, .ended t (.ok outcome) ∈ before
  applied : report.applied = (starts events).filterMap (acceptance result)
  done : report.state = .done ↔ ∀ r x, .ended r x ∈ events → ∃ outcome, x = .ok outcome
  complete : report.state = .done → starts events = m.resources ∧
    report.applied.map Prod.fst = m.resources.map Resource.key ∧
      (m.resources.map Resource.key).Nodup
  failed : report.state ≠ .done → ∃ before r after cause,
    m.resources = before ++ r :: after ∧ .ended r (.error cause) ∈ events ∧
      (∀ t ∈ before, ∃ outcome, .ended t (.ok outcome) ∈ events) ∧
      report.state = .failed .applying cause

theorem tiered_of_sorted (sorted : m.resources.Pairwise fun a b => a.precedence ≤ b.precedence) :
    Tiered m.tiers :=
  ⟨fun _ present _ left _ right => Manifest.tier_level present left right,
    Manifest.tiers_increase sorted⟩

theorem verdict_eq_done : verdict failure = .done ↔ failure = none := by
  cases failure <;> simp [verdict]

theorem acceptance_keys {rs : List Resource} (passing : rs.findSome? (objection result) = none) :
    (rs.filterMap (acceptance result)).map Prod.fst = rs.map Resource.key := by
  rw [List.findSome?_eq_none_iff] at passing
  induction rs with
  | nil => rfl
  | cons r rest ih =>
    obtain ⟨outcome, ok⟩ := objection_eq_none.mp (passing r (by simp))
    have kept : acceptance result r = some (r.key, outcome) := by simp [acceptance, ok]
    simp [kept, ih fun t member => passing t (List.mem_cons_of_mem r member)]

theorem Rolled.tierwise {limit : Nat} {report : RunReport}
    (manifest : m = Manifest.ofResources declared)
    (rolled : Rolled limit result m.tiers failure events)
    (applied : report.applied = (starts events).filterMap (acceptance result))
    (state : report.state = verdict failure) : Tierwise limit m result events report := by
  have sorted : m.resources.Pairwise fun a b => a.precedence ≤ b.precedence :=
    manifest ▸ Manifest.ofResources_sorted declared
  have distinct : (m.resources.map Resource.key).Nodup :=
    manifest ▸ Manifest.ofResources_distinct declared
  have order : starts events <+: m.resources := by
    rw [rolled.started, ← Manifest.flatten_tiers]
    exact attempted_prefix result m.tiers
  have cause : failure = (starts events).findSome? (objection result) := by
    rw [rolled.cause, rolled.started, attempted_objection]
  refine ⟨rolled.bounded, distinct.sublist (order.sublist.map _), order, ?_, rolled.matched,
    rolled.ended, ?_, applied, ?_, ?_, ?_⟩
  · rw [rolled.started]
    exact attempted_take result m.tiers
  · intro before r after split t earlier
    have present : t ∈ m.tiers.flatten := Manifest.flatten_tiers m ▸ earlier.present
    obtain ⟨ended, accepted⟩ := rolled.barrier before r after split t present (earlier.below sorted)
    obtain ⟨outcome, ok⟩ := objection_eq_none.mp accepted
    exact ⟨outcome, ok ▸ ended⟩
  · rw [state, verdict_eq_done, cause, List.findSome?_eq_none_iff]
    constructor
    · intro passing r x ended
      obtain ⟨started, rfl⟩ := rolled.known r x ended
      exact objection_eq_none.mp (passing r started)
    · intro passing r started
      exact objection_eq_none.mpr (passing r _ (rolled.ended r started))
  · intro done
    have passing := verdict_eq_done.mp (state ▸ done)
    rw [rolled.cause] at passing
    have all : starts events = m.resources := by
      rw [rolled.started, attempted_all passing, Manifest.flatten_tiers]
    rw [Manifest.flatten_tiers] at passing
    exact ⟨all, by rw [applied, all, acceptance_keys passing], distinct⟩
  · intro undone
    obtain ⟨c, failing⟩ := Option.ne_none_iff_exists'.mp fun none =>
      undone (state.trans (verdict_eq_done.mpr none))
    obtain ⟨before, r, after, split, objected, passed⟩ :=
      List.findSome?_eq_some_iff.mp (cause.symm.trans failing)
    obtain ⟨rest, whole⟩ := order
    refine ⟨before, r, after ++ rest, c, by simp [← whole, split], ?_, ?_, ?_⟩
    · rw [← objection_eq_some.mp objected]
      exact rolled.ended r (by simp [split])
    · intro t member
      obtain ⟨outcome, ok⟩ := objection_eq_none.mp (passed t member)
      exact ⟨outcome, ok ▸ rolled.ended t (by simp [split, member])⟩
    · rw [state, failing]; rfl

-- What the results alone decide of the report.
structure Settled (m : Manifest) (result : Resource → ApplyResult) (report : RunReport) : Prop where
  state : report.state = verdict (m.resources.findSome? (objection result))
  applied : report.applied = (attempted result m.tiers).filterMap (acceptance result)

theorem applied_tierwise (options : RunOptions) (manifest : m = Manifest.ofResources declared)
    (calm : ∀ t, outside.cancelled t = false) (still : starts q.events = [])
    (silent : endings q.events = []) (bare : q.report.applied = []) (schedule : Schedule)
    (told : ∀ r x, .ended r x ∈
      (conclude outside (applyTiers outside schedule options 0 m.tiers q)).events → x = result r) :
    let final := conclude outside (applyTiers outside schedule options 0 m.tiers q)
    Tierwise (max 1 options.concurrency) m result final.events final.report ∧
      Settled m result final.report := by
  have run := applyTiers_run outside schedule options 0 m.tiers q
  generalize applyTiers outside schedule options 0 m.tiers q = outcome at run told
  obtain ⟨failure, final⟩ := outcome
  dsimp only at run
  rw [conclude_events] at told
  have sorted : m.resources.Pairwise fun a b => a.precedence ≤ b.precedence :=
    manifest ▸ Manifest.ofResources_sorted declared
  obtain ⟨events, extended, report, rolled⟩ :=
    tiersRun_rolled calm (tiered_of_sorted sorted) run told
  have begun : starts final.events = starts events := by rw [extended, starts_append, still]; rfl
  have applied : final.report.applied = (starts final.events).filterMap (acceptance result) := by
    rw [report, begun, bare]; rfl
  have whole := rolled.lead still silent
  rw [← extended] at whole
  refine ⟨Rolled.tierwise manifest (by simpa using whole) (by simpa using applied)
    (conclude_state failure), ?_, ?_⟩
  · rw [conclude_state, rolled.cause, Manifest.flatten_tiers]
  · rw [conclude_applied, applied, begun, rolled.started]

-- Where the outside has one answer for each resource, that is what the events tell.
theorem proceed_told (schedule : Schedule) (options : RunOptions) (runId : String)
    (env : Environment) (s : σ)
    (answers : ∀ r ∈ resolved.manifest.resources, ∀ t,
      (outside.finish r t).1.within options.applyTimeout = result r) :
    ∀ r x, .ended r x ∈
      (proceed outside schedule options runId env s (.ready resolved)).events → x = result r := by
  intro r x ended
  have replayed := proceed_replayed outside schedule options runId env s (.ready resolved)
  obtain ⟨t, answer⟩ := replayed.told ended
  exact answer.trans (answers r (drive_ended rfl ended) t)

-- The whole course of a run that was connected.
theorem connected_run_tierwise (manifest : resolved.manifest = Manifest.ofResources declared)
    (calm : ∀ t, outside.cancelled t = false)
    (answers : ∀ r ∈ resolved.manifest.resources, ∀ t,
      (outside.finish r t).1.within options.applyTimeout = result r)
    {schedule : Schedule}
    (reached : .connected kubeconfig (.ok ()) ∈
      (proceed outside schedule options runId env s (.ready resolved)).events) :
    ∃ report,
      (proceed outside schedule options runId env s (.ready resolved)).answer = .ok report ∧
      Tierwise (max 1 options.concurrency) resolved.manifest result
        (proceed outside schedule options runId env s (.ready resolved)).events report ∧
      -- Another order of endings or another limit leads to the same state and the same record.
      ∀ (schedule : Schedule) (n : Nat), ∃ other,
        (proceed outside schedule { options with concurrency := n } runId env s
          (.ready resolved)).answer = .ok other ∧
        other.state = report.state ∧ other.applied = report.applied := by
  obtain ⟨q, still, silent, bare, same⟩ := proceed_connected reached
  have settles : ∀ (schedule : Schedule) (n : Nat), ∃ report,
      (proceed outside schedule { options with concurrency := n } runId env s
        (.ready resolved)).answer = .ok report ∧
      Tierwise (max 1 n) resolved.manifest result
        (proceed outside schedule { options with concurrency := n } runId env s
          (.ready resolved)).events report ∧
      Settled resolved.manifest result report := by
    intro schedule n
    have told := proceed_told schedule { options with concurrency := n } runId env s answers
    rw [same schedule n] at told ⊢
    exact ⟨_, rfl, applied_tierwise _ manifest calm still silent bare schedule told⟩
  obtain ⟨report, answer, tierwise, settled⟩ := settles schedule options.concurrency
  refine ⟨report, answer, tierwise, fun schedule n => ?_⟩
  obtain ⟨other, answer', -, settled'⟩ := settles schedule n
  exact ⟨other, answer', settled'.state.trans settled.state.symm,
    settled'.applied.trans settled.applied.symm⟩

-- A trial: everything succeeds at once, apart from what the cluster says to a resource.
def trial (result : Resource → ApplyResult) : Outside Unit where
  clock _ := ⟨0, 0⟩
  cancelled _ := false
  build _ _ s := (.ended (.ok ()), s)
  push _ _ s := (.ended (.ok none), s)
  connect _ s := (.ended (.ok ()), s)
  start _ s := s
  finish r s := (.ended (result r), s)

def rejectsDeployments (r : Resource) : ApplyResult :=
  if r.kind = "Deployment" then .error (.rejected r.key.render "quota exceeded") else .ok .applied

def shopEnvironment : Environment :=
  ⟨"staging", "shop", ⟨⟨"docker.io", "shop/web", none⟩, none, "Dockerfile", "."⟩,
    ⟨none, [("docker_desktop", [])], []⟩⟩

def shopResources : List Resource :=
  [.new "apps/v1" "Deployment" "shop-web" (some "shop-staging"),
    .new "v1" "Namespace" "shop-staging" none,
    .new "v1" "ConfigMap" "shop-config" (some "shop-staging"),
    .new "v1" "Service" "shop-web" (some "shop-staging")]

def shopResolved : Resolved :=
  ⟨.ofResources shopResources, ⟨"docker.io", "shop/web", some "v1"⟩, ⟨none, ""⟩,
    ⟨"local", "local", none, none, none⟩⟩

theorem rejected_deployment_tierwise :
    let finish := proceed (trial rejectsDeployments) (fun _ _ => .start) .default "run"
      shopEnvironment () (.ready shopResolved)
    ∃ report, finish.answer = .ok report ∧
      Tierwise 4 shopResolved.manifest rejectsDeployments finish.events report ∧
      ∀ (schedule : Schedule) (n : Nat), ∃ other,
        (proceed (trial rejectsDeployments) schedule { RunOptions.default with concurrency := n }
          "run" shopEnvironment () (.ready shopResolved)).answer = .ok other ∧
        other.state = report.state ∧ other.applied = report.applied :=
  connected_run_tierwise (rfl : _ = Manifest.ofResources shopResources) (fun _ => rfl)
    (fun _ _ _ => rfl) (proceed_connects rfl rfl)

end Rollout.Run
