import Rollout.Proofs.Run.Replay

namespace Rollout.Run

open Pool

abbrev ClusterStore := ResourceKey → Option Json

def Stored (r : Resource) (before after : ClusterStore) : Prop :=
  after r.key = some r.body ∧ ∀ key, key ≠ r.key → after key = before key

-- What an answer says of the store. Of a call that never ends nobody knows whether it got through.
inductive Answered (r : Resource) (before after : ClusterStore) : Answer ApplyOutcome → Prop where
  | unchanged (held : before r.key = some r.body) (same : after = before) :
      Answered r before after (.ended (.ok .unchanged))
  | applied (differs : before r.key ≠ some r.body) (stored : Stored r before after) :
      Answered r before after (.ended (.ok .applied))
  | rejected {cause : RemoteError} (same : after = before) :
      Answered r before after (.ended (.error cause))
  | lost (either : after = before ∨ Stored r before after) : Answered r before after .hangs

-- An outside whose cluster keeps such a store, which only calls for resources change.
structure Keeps {σ : Type} (outside : Outside σ) (store : σ → ClusterStore) : Prop where
  build : ∀ image context s, store (outside.build image context s).2 = store s
  push : ∀ image login s, store (outside.push image login s).2 = store s
  connect : ∀ kubeconfig s, store (outside.connect kubeconfig s).2 = store s
  start : ∀ r s, store (outside.start r s) = store s
  finish : ∀ r s, Answered r (store s) (store (outside.finish r s).2) (outside.finish r s).1

variable {σ : Type} {outside : Outside σ} {store : σ → ClusterStore} {options : RunOptions}
variable {p q : Progress σ} {tier : List Resource} {tiers : List (List Resource)}
variable {failure : Option RemoteError} {origin now after : ClusterStore}
variable {events : List RunEvent} {r : Resource} {s : σ}

-- What the events of a run say of the store at its beginning and now.
structure Reconciled (origin : ClusterStore) (events : List RunEvent) (now : ClusterStore) :
    Prop where
  untouched : ∀ key, (∀ r x, .ended r x ∈ events → r.key ≠ key) → now key = origin key
  unchanged : ∀ r, .ended r (.ok .unchanged) ∈ events →
    origin r.key = some r.body ∧ now r.key = some r.body
  applied : ∀ r, .ended r (.ok .applied) ∈ events →
    origin r.key ≠ some r.body ∧ now r.key = some r.body

theorem Reconciled.refl : Reconciled origin [] origin where
  untouched := fun _ _ => rfl
  unchanged := fun _ none => by cases none
  applied := fun _ none => by cases none

theorem Reconciled.other {event : RunEvent} (silent : endings [event] = [])
    (known : Reconciled origin events now) : Reconciled origin (events ++ [event]) now := by
  have same : ∀ r x, .ended r x ∈ events ++ [event] ↔ .ended r x ∈ events := by
    intro r x
    rw [← mem_endings, ← mem_endings, endings_append, silent, List.append_nil]
  refine ⟨?_, ?_, ?_⟩
  · exact fun key apart => known.untouched key fun r x ended => apart r x ((same r x).mpr ended)
  · exact fun r ended => known.unchanged r ((same r _).mp ended)
  · exact fun r ended => known.applied r ((same r _).mp ended)

theorem Reconciled.ended {answer : Answer ApplyOutcome} {limit : Duration}
    (known : Reconciled origin events now)
    (fresh : ∀ t x, .ended t x ∈ events → t.key ≠ r.key) (answered : Answered r now after answer) :
    Reconciled origin (events ++ [.ended r (answer.within limit)]) after := by
  have asBefore : now r.key = origin r.key := known.untouched r.key fresh
  have others : ∀ key, key ≠ r.key → after key = now key := by
    intro key apart
    cases answered with
    | unchanged held same => rw [same]
    | applied differs stored => exact stored.2 key apart
    | rejected same => rw [same]
    | lost either =>
      rcases either with same | stored
      · rw [same]
      · exact stored.2 key apart
  refine ⟨?_, ?_, ?_⟩
  · intro key apart
    have differs := apart r _ (List.mem_append_right _ (List.mem_singleton.mpr rfl))
    rw [others key differs.symm]
    exact known.untouched key fun t x ended => apart t x (List.mem_append_left _ ended)
  · intro t ended
    rcases List.mem_append.mp ended with old | new
    · rw [others t.key (fresh t _ old)]
      exact known.unchanged t old
    · obtain ⟨rfl, told⟩ := RunEvent.ended.inj (List.mem_singleton.mp new)
      cases answered with
      | unchanged held same => exact ⟨asBefore ▸ held, by rw [same, held]⟩
      | _ => cases told
  · intro t ended
    rcases List.mem_append.mp ended with old | new
    · rw [others t.key (fresh t _ old)]
      exact known.applied t old
    · obtain ⟨rfl, told⟩ := RunEvent.ended.inj (List.mem_singleton.mp new)
      cases answered with
      | applied differs stored => exact ⟨asBefore ▸ differs, stored.1⟩
      | _ => cases told

-- The induction is on the history. It tells of each key once, so that an answer compares with the
-- body that was held at the beginning.
theorem Replayed.reconciled {t : σ} (keeps : Keeps outside store)
    (replayed : Replayed outside options s events t)
    (distinct : ((endings events).map fun call => call.1.key).Nodup) :
    Reconciled (store s) events (store t) := by
  induction replayed with
  | nil => exact .refl
  | @step events event t prior told ih =>
    rw [endings_append, List.map_append] at distinct
    obtain ⟨earlier, -, apart⟩ := List.nodup_append.mp distinct
    have known := ih earlier
    cases event with
    | built image context result =>
      rw [after, keeps.build]
      exact known.other rfl
    | pushed image login result =>
      rw [after, keeps.push]
      exact known.other rfl
    | connected kubeconfig result =>
      rw [after, keeps.connect]
      exact known.other rfl
    | started r =>
      rw [after, keeps.start]
      exact known.other rfl
    | ended r result =>
      obtain rfl : result = _ := told
      refine known.ended (fun t' x ended => ?_) (keeps.finish r t)
      exact apart _ (List.mem_map_of_mem (mem_endings.mpr ended)) _ (by simp)

theorem TierRun.recorded (run : TierRun outside options tier p failure q) {key : ResourceKey}
    {outcome : ApplyOutcome} (recorded : (key, outcome) ∈ q.report.applied) :
    (key, outcome) ∈ p.report.applied ∨
      ∃ r ∈ tier, r.key = key ∧ .ended r (.ok outcome) ∈ q.events := by
  obtain ⟨stand, -, -, completed, -, rfl⟩ := run
  rcases List.mem_append.mp recorded with old | new
  · exact .inl old
  · obtain ⟨⟨r, answer⟩, member, told⟩ := List.mem_filterMap.mp new
    obtain ⟨x, rfl, ended | ⟨rfl, -⟩⟩ := completed.answered r answer member
    · cases x with
      | error cause => cases told
      | ok outcome =>
        obtain ⟨rfl, rfl⟩ := Prod.mk.inj (Option.some.inj told)
        refine .inr ⟨r, ?_, rfl, List.mem_append_right _ ended⟩
        rw [← completed.listed]
        exact List.mem_map_of_mem member
    · cases told

theorem TiersRun.recorded (run : TiersRun outside options tiers p failure q) {key : ResourceKey}
    {outcome : ApplyOutcome} (recorded : (key, outcome) ∈ q.report.applied) :
    (key, outcome) ∈ p.report.applied ∨
      ∃ r ∈ tiers.flatten, r.key = key ∧ .ended r (.ok outcome) ∈ q.events := by
  induction run with
  | done => exact .inl recorded
  | stop first =>
    refine (first.recorded recorded).imp_right ?_
    rintro ⟨r, member, found⟩
    exact ⟨r, by simp [member], found⟩
  | next first later ih =>
    rcases ih recorded with here | ⟨r, member, found⟩
    · refine (first.recorded here).imp_right ?_
      rintro ⟨r, member, same, ended⟩
      exact ⟨r, by simp [member], same, later.events_prefix.subset ended⟩
    · exact .inr ⟨r, List.mem_append_right _ member, found⟩

end Rollout.Run
