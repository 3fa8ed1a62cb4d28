import Rollout.Proofs.Manifest.Merge
import Rollout.Proofs.Run.Stages

namespace Rollout.Run

open Pool

variable {σ : Type} {outside : Outside σ} {options : RunOptions}
variable {p q q' : Progress σ} {failure : Option RemoteError} {tier : List Resource}
variable {tiers : List (List Resource)} {result : Resource → ApplyResult}

def TierRun (outside : Outside σ) (options : RunOptions) (tier : List Resource) (p : Progress σ)
    (failure : Option RemoteError) (q : Progress σ) : Prop :=
  ∃ stand : Stand σ,
    Reached outside (max 1 options.concurrency) options.applyTimeout
      ⟨ofTier tier, [], p.outside⟩ stand ∧
    stand.pool.pending = 0 ∧
    Completed outside (max 1 options.concurrency) tier (resultsOf tier stand) stand.events ∧
    failure = firstFailure? (resultsOf tier stand) ∧
    q = ⟨{ p.report with applied := p.report.applied ++ accepted (resultsOf tier stand) },
      p.events ++ stand.events, stand.outside⟩

theorem applyTier_run (outside : Outside σ) (turns : Nat → Turn) (options : RunOptions)
    (tier : List Resource) (p : Progress σ) :
    TierRun outside options tier p (applyTier outside turns options tier p).1
      (applyTier outside turns options tier p).2 := by
  obtain ⟨stand, ran, path, done, completed⟩ := run_completed outside
    options.applyTimeout turns (Nat.le_max_left 1 options.concurrency) tier p.outside
  refine ⟨stand, path, done, completed, ?_, ?_⟩ <;> simp only [applyTier, ran]

inductive TiersRun (outside : Outside σ) (options : RunOptions) :
    List (List Resource) → Progress σ → Option RemoteError → Progress σ → Prop where
  | done {p : Progress σ} : TiersRun outside options [] p none p
  | stop {tier : List Resource} {rest : List (List Resource)} {p q : Progress σ}
      {cause : RemoteError} (first : TierRun outside options tier p (some cause) q) :
      TiersRun outside options (tier :: rest) p (some cause) q
  | next {tier : List Resource} {rest : List (List Resource)} {p q q' : Progress σ}
      {failure : Option RemoteError} (first : TierRun outside options tier p none q)
      (later : TiersRun outside options rest q failure q') :
      TiersRun outside options (tier :: rest) p failure q'

theorem applyTiers_run (outside : Outside σ) (schedule : Schedule) (options : RunOptions)
    (n : Nat) (tiers : List (List Resource)) (p : Progress σ) :
    TiersRun outside options tiers p (applyTiers outside schedule options n tiers p).1
      (applyTiers outside schedule options n tiers p).2 := by
  induction tiers generalizing n p with
  | nil => exact .done
  | cons tier rest ih =>
    have first := applyTier_run outside (schedule n) options tier p
    rcases ran : applyTier outside (schedule n) options tier p with ⟨_ | cause, q⟩ <;>
      rw [ran] at first <;> simp only [applyTiers, ran]
    · exact .next first (ih (n + 1) q)
    · exact .stop first

inductive DriveRun (outside : Outside σ) (options : RunOptions) (env : Environment)
    (resolved : Resolved) (p : Progress σ) : Progress σ → Prop where
  | unpublished {q : Progress σ}
      (published : publish outside options env resolved.image p = .error q) :
      DriveRun outside options env resolved p q
  | unconnected {cause : RemoteError} {q q' : Progress σ}
      (published : publish outside options env resolved.image p = .ok q)
      (connected : connect outside options resolved.kubeconfig
        (enter outside (.working .applying) q) = (.error cause, q')) :
      DriveRun outside options env resolved p (fail outside .applying cause q')
  | applied {q q' last : Progress σ} {failure : Option RemoteError}
      (published : publish outside options env resolved.image p = .ok q)
      (connected : connect outside options resolved.kubeconfig
        (enter outside (.working .applying) q) = (.ok (), q'))
      (run : TiersRun outside options resolved.manifest.tiers q' failure last) :
      DriveRun outside options env resolved p (conclude outside (failure, last))

theorem drive_run (outside : Outside σ) (schedule : Schedule) (options : RunOptions)
    (env : Environment) (resolved : Resolved) (p : Progress σ) :
    DriveRun outside options env resolved p
      (drive outside schedule options env resolved p) := by
  have driven := drive_driven outside schedule options env resolved p
  generalize drive outside schedule options env resolved p = final at driven
  cases driven with
  | unpublished published => exact .unpublished published
  | unconnected published connected => exact .unconnected published connected
  | connected published connected => exact .applied published connected (applyTiers_run ..)

theorem TiersRun.events_prefix (run : TiersRun outside options tiers p failure q) :
    p.events <+: q.events := by
  induction run with
  | done => exact List.prefix_rfl
  | stop first =>
    obtain ⟨stand, -, -, -, -, rfl⟩ := first
    exact List.prefix_append _ _
  | next first later ih =>
    obtain ⟨stand, -, -, -, -, rfl⟩ := first
    exact (List.prefix_append _ _).trans ih

theorem proceed_connects {env : Environment} {resolved : Resolved} {schedule : Schedule}
    {runId : String} {s : σ}
    (published : publish outside options env resolved.image (ready outside runId env resolved s) =
      .ok q)
    (connected : connect outside options resolved.kubeconfig
      (enter outside (.working .applying) q) = (.ok (), q')) :
    .connected resolved.kubeconfig (.ok ()) ∈
      (proceed outside schedule options runId env s (.ready resolved)).events := by
  have last : .connected resolved.kubeconfig (.ok ()) ∈ q'.events := by
    rw [connect_parts connected]; simp
  have run := applyTiers_run outside schedule options 0 resolved.manifest.tiers q'
  rw [proceed_ready, drive_connected published connected]
  change _ ∈ (conclude outside (_, _)).events
  rw [conclude_events]
  exact run.events_prefix.subset last

-- What the report takes of a resource, and what it holds against it.
def acceptance (result : Resource → ApplyResult) (r : Resource) :
    Option (ResourceKey × ApplyOutcome) :=
  match result r with
  | .ok outcome => some (r.key, outcome)
  | .error _ => none

def objection (result : Resource → ApplyResult) (r : Resource) : Option RemoteError :=
  match result r with
  | .ok _ => none
  | .error cause => some cause

theorem objection_eq_none {r : Resource} : objection result r = none ↔ ∃ o, result r = .ok o := by
  unfold objection
  cases result r <;> simp

theorem objection_eq_some {r : Resource} {cause : RemoteError} :
    objection result r = some cause ↔ result r = .error cause := by
  unfold objection
  cases result r <;> simp

theorem accepted_map (result : Resource → ApplyResult) (tier : List Resource) :
    accepted (tier.map fun r => (r, some (result r))) = tier.filterMap (acceptance result) := by
  simp only [accepted, List.filterMap_map]
  congr 1
  funext r
  simp only [Function.comp, acceptance]
  cases result r <;> rfl

theorem firstFailure?_map (result : Resource → ApplyResult) (tier : List Resource) :
    firstFailure? (tier.map fun r => (r, some (result r))) =
      tier.findSome? (objection result) := by
  simp only [firstFailure?, List.findSome?_map]
  congr 1
  funext r
  simp only [Function.comp, objection]
  cases result r <;> rfl

-- Where nobody asks to stop, each call of a tier has the result that its event tells.
theorem resultsOf_told {stand : Stand σ} {limit : Nat} (calm : ∀ t, outside.cancelled t = false)
    (completed : Completed outside limit tier (resultsOf tier stand) stand.events)
    (told : ∀ r x, .ended r x ∈ stand.events → x = result r) :
    resultsOf tier stand = tier.map fun r => (r, some (result r)) := by
  have entries : ∀ entry ∈ resultsOf tier stand, entry = (entry.1, some (result entry.1)) := by
    rintro ⟨r, answer⟩ member
    obtain ⟨x, rfl, ended | ⟨-, t, stopped⟩⟩ := completed.answered r answer member
    · rw [told r x ended]
    · rw [calm t] at stopped; cases stopped
  calc resultsOf tier stand
      = (resultsOf tier stand).map fun entry => (entry.1, some (result entry.1)) := by
        conv_lhs => rw [← List.map_id (resultsOf tier stand)]
        exact List.map_congr_left entries
    _ = ((resultsOf tier stand).map Prod.fst).map fun r => (r, some (result r)) := by
        simp [List.map_map, Function.comp_def]
    _ = tier.map fun r => (r, some (result r)) := by rw [completed.listed]

-- One tier, as far as the results of its calls decide it: every call is made, and told of.
structure TierRolled (limit : Nat) (result : Resource → ApplyResult) (tier : List Resource)
    (events : List RunEvent) : Prop where
  whole : starts events = tier
  bounded : Bounded limit events
  matched : ((endings events).map Prod.fst).Perm (starts events)
  ended : ∀ r ∈ tier, .ended r (result r) ∈ events
  known : ∀ r x, .ended r x ∈ events → r ∈ tier ∧ x = result r

theorem tier_rolled {stand : Stand σ} {limit : Nat} {timeLimit : Duration} {s : σ}
    (calm : ∀ t, outside.cancelled t = false)
    (path : Reached outside limit timeLimit ⟨ofTier tier, [], s⟩ stand)
    (done : stand.pool.pending = 0)
    (completed : Completed outside limit tier (resultsOf tier stand) stand.events)
    (told : ∀ r x, .ended r x ∈ stand.events → x = result r) :
    TierRolled limit result tier stand.events := by
  have results := resultsOf_told calm completed told
  have whole : starts stand.events = tier := by
    have all := reached_starts calm path
    simpa [(pending_eq_zero done).1, ofTier_resources] using all
  refine ⟨whole, completed.bounded, ?_, ?_, ?_⟩
  · have even := completed.even
    rw [whole] at even ⊢
    exact completed.once.perm_of_length_le (by simp [even])
  · intro r member
    have entry : (r, some (result r)) ∈ resultsOf tier stand := by
      rw [results]
      exact List.mem_map_of_mem member
    obtain ⟨x, same, ended | ⟨-, t, stopped⟩⟩ := completed.answered r _ entry
    · rwa [← Option.some.inj same] at ended
    · rw [calm t] at stopped; cases stopped
  · intro r x ended
    exact ⟨completed.mem_tier ended, told r x ended⟩

-- What applying tiers attempts: whole tiers, up to the first one with a failure.
def attempted (result : Resource → ApplyResult) : List (List Resource) → List Resource
  | [] => []
  | tier :: rest =>
    match tier.findSome? (objection result) with
    | none => tier ++ attempted result rest
    | some _ => tier

theorem attempted_pass {rest : List (List Resource)}
    (passing : tier.findSome? (objection result) = none) :
    attempted result (tier :: rest) = tier ++ attempted result rest := by
  simp [attempted, passing]

theorem attempted_fail {rest : List (List Resource)} {cause : RemoteError}
    (failing : tier.findSome? (objection result) = some cause) :
    attempted result (tier :: rest) = tier := by
  simp [attempted, failing]

theorem attempted_take (result : Resource → ApplyResult) (tiers : List (List Resource)) :
    ∃ k, attempted result tiers = (tiers.take k).flatten := by
  induction tiers with
  | nil => exact ⟨0, rfl⟩
  | cons tier rest ih =>
    obtain ⟨k, same⟩ := ih
    cases fate : tier.findSome? (objection result) with
    | none => exact ⟨k + 1, by simp [attempted_pass fate, same]⟩
    | some cause => exact ⟨1, by simp [attempted_fail fate]⟩

theorem attempted_prefix (result : Resource → ApplyResult) (tiers : List (List Resource)) :
    attempted result tiers <+: tiers.flatten := by
  obtain ⟨k, same⟩ := attempted_take result tiers
  exact ⟨(tiers.drop k).flatten, by rw [same, ← List.flatten_append, List.take_append_drop]⟩

-- The first failure of all tiers is one of what is attempted.
theorem attempted_objection (result : Resource → ApplyResult) (tiers : List (List Resource)) :
    (attempted result tiers).findSome? (objection result) =
      tiers.flatten.findSome? (objection result) := by
  induction tiers with
  | nil => rfl
  | cons tier rest ih =>
    cases fate : tier.findSome? (objection result) with
    | none => simp [attempted_pass fate, fate, ih]
    | some cause => simp [attempted_fail fate, fate]

theorem attempted_all (passing : tiers.flatten.findSome? (objection result) = none) :
    attempted result tiers = tiers.flatten := by
  induction tiers with
  | nil => rfl
  | cons tier rest ih =>
    rw [List.flatten_cons, List.findSome?_append, Option.or_eq_none_iff] at passing
    rw [attempted_pass passing.1, ih passing.2, List.flatten_cons]

-- What applying tiers comes to, as far as the results of the calls decide it; a tier waits for the
-- ones below it.
structure Rolled (limit : Nat) (result : Resource → ApplyResult) (tiers : List (List Resource))
    (failure : Option RemoteError) (events : List RunEvent) : Prop where
  started : starts events = attempted result tiers
  bounded : Bounded limit events
  matched : ((endings events).map Prod.fst).Perm (starts events)
  ended : ∀ r ∈ starts events, .ended r (result r) ∈ events
  known : ∀ r x, .ended r x ∈ events → r ∈ starts events ∧ x = result r
  cause : failure = tiers.flatten.findSome? (objection result)
  barrier : ∀ before r after, events = before ++ .started r :: after →
    ∀ t ∈ tiers.flatten, t.precedence < r.precedence →
      .ended t (result t) ∈ before ∧ objection result t = none

-- Resources of a tier are level, and lie below those of every later tier.
def Tiered (tiers : List (List Resource)) : Prop :=
  (∀ tier ∈ tiers, ∀ r ∈ tier, ∀ s ∈ tier, Manifest.Level r s) ∧
    tiers.Pairwise fun a b => ∀ r ∈ a, ∀ s ∈ b, r.precedence < s.precedence

theorem Tiered.first {rest : List (List Resource)} {r t : Resource}
    (tiered : Tiered (tier :: rest)) (inTier : r ∈ tier)
    (present : t ∈ (tier :: rest).flatten) : r.precedence ≤ t.precedence := by
  rcases List.mem_append.mp (List.flatten_cons ▸ present) with same | later
  · exact Nat.le_of_eq (tiered.1 tier (by simp) r inTier t same)
  · obtain ⟨b, member, inB⟩ := List.mem_flatten.mp later
    exact Nat.le_of_lt ((List.pairwise_cons.mp tiered.2).1 b member r inTier t inB)

theorem Tiered.rest {rest : List (List Resource)} (tiered : Tiered (tier :: rest)) :
    Tiered rest :=
  ⟨fun b member => tiered.1 b (List.mem_cons_of_mem _ member), (List.pairwise_cons.mp tiered.2).2⟩

theorem Rolled.nil (limit : Nat) (result : Resource → ApplyResult) :
    Rolled limit result [] none [] where
  started := rfl
  bounded := .still rfl
  matched := .nil
  ended := by simp
  known := by simp
  cause := rfl
  barrier := by simp

theorem Rolled.stop {limit : Nat} {rest : List (List Resource)} {events : List RunEvent}
    {cause : RemoteError} (tiered : Tiered (tier :: rest))
    (first : TierRolled limit result tier events)
    (failing : tier.findSome? (objection result) = some cause) :
    Rolled limit result (tier :: rest) (some cause) events where
  started := by rw [first.whole, attempted_fail failing]
  bounded := first.bounded
  matched := first.matched
  ended := by rw [first.whole]; exact first.ended
  known := by rw [first.whole]; exact first.known
  cause := by simp [failing]
  barrier := by
    intro before r after split t present below
    have inTier : r ∈ tier := by rw [← first.whole, mem_starts, split]; simp
    have above := tiered.first inTier present
    omega

theorem Rolled.next {limit : Nat} {rest : List (List Resource)} {a b : List RunEvent}
    {failure : Option RemoteError} (tiered : Tiered (tier :: rest))
    (first : TierRolled limit result tier a)
    (passing : tier.findSome? (objection result) = none)
    (later : Rolled limit result rest failure b) :
    Rolled limit result (tier :: rest) failure (a ++ b) where
  started := by rw [starts_append, first.whole, later.started, attempted_pass passing]
  bounded := first.bounded.append (by simpa using first.matched.length_eq.symm) later.bounded
  matched := by simpa using first.matched.append later.matched
  ended := by
    intro r started
    rw [starts_append, List.mem_append, first.whole] at started
    rw [List.mem_append]
    exact started.imp (first.ended r) (later.ended r)
  known := by
    intro r x ended
    rw [starts_append, List.mem_append, first.whole]
    rcases List.mem_append.mp ended with inA | inB
    · exact ⟨.inl (first.known r x inA).1, (first.known r x inA).2⟩
    · exact ⟨.inr (later.known r x inB).1, (later.known r x inB).2⟩
  cause := by simp [passing, later.cause]
  barrier := by
    intro before r after split t present below
    rcases List.append_eq_append_iff.mp split with ⟨middle, rfl, tail⟩ | ⟨middle, rfl, tail⟩
    · -- The call belongs to a later tier, so that all of this one is over.
      rcases List.mem_append.mp (List.flatten_cons ▸ present) with inTier | inRest
      · exact ⟨List.mem_append_left _ (first.ended t inTier),
          List.findSome?_eq_none_iff.mp passing t inTier⟩
      · obtain ⟨ended, accepted⟩ := later.barrier middle r after tail t inRest below
        exact ⟨List.mem_append_right _ ended, accepted⟩
    · cases middle with
      | nil =>
        rcases List.mem_append.mp (List.flatten_cons ▸ present) with inTier | inRest
        · exact ⟨by simpa using first.ended t inTier,
            List.findSome?_eq_none_iff.mp passing t inTier⟩
        · obtain ⟨ended, -⟩ := later.barrier [] r after (by simpa using tail.symm) t inRest below
          cases ended
      | cons event middle =>
        obtain ⟨rfl, -⟩ := List.cons.inj tail
        have inTier : r ∈ tier := by rw [← first.whole, mem_starts]; simp
        have above := tiered.first inTier present
        omega

theorem Rolled.lead {limit : Nat} {a b : List RunEvent} (still : starts a = [])
    (silent : endings a = []) (rolled : Rolled limit result tiers failure b) :
    Rolled limit result tiers failure (a ++ b) where
  started := by rw [starts_append, still, List.nil_append, rolled.started]
  bounded := (Bounded.still still).append (by rw [still, silent]; rfl) rolled.bounded
  matched := by simpa [still, silent] using rolled.matched
  ended := by
    intro r started
    rw [starts_append, still] at started
    exact List.mem_append_right _ (rolled.ended r started)
  known := by
    intro r x ended
    rw [← mem_endings, endings_append, silent, List.nil_append, mem_endings] at ended
    rw [starts_append, still]
    exact rolled.known r x ended
  cause := rolled.cause
  barrier := by
    intro before r after split t present below
    have inB : ∃ middle, before = a ++ middle ∧ b = middle ++ .started r :: after := by
      rcases List.append_eq_append_iff.mp split with ⟨middle, same, tail⟩ | ⟨middle, rfl, tail⟩
      · exact ⟨middle, same, tail⟩
      · cases middle with
        | nil => exact ⟨[], by simp, by simpa using tail.symm⟩
        | cons event middle =>
          obtain ⟨rfl, -⟩ := List.cons.inj tail
          simp [starts] at still
    obtain ⟨middle, rfl, tail⟩ := inB
    obtain ⟨ended, accepted⟩ := rolled.barrier middle r after tail t present below
    exact ⟨List.mem_append_right _ ended, accepted⟩

theorem tiersRun_rolled (calm : ∀ t, outside.cancelled t = false) (tiered : Tiered tiers)
    (run : TiersRun outside options tiers p failure q)
    (told : ∀ r x, .ended r x ∈ q.events → x = result r) :
    ∃ events, q.events = p.events ++ events ∧
      q.report = { p.report with
        applied := p.report.applied ++ (starts events).filterMap (acceptance result) } ∧
      Rolled (max 1 options.concurrency) result tiers failure events := by
  induction run with
  | done => exact ⟨[], by simp, by simp, .nil _ _⟩
  | stop first =>
    obtain ⟨stand, path, done, completed, failed, rfl⟩ := first
    have toldHere := fun r x ended => told r x (List.mem_append_right _ ended)
    have results := resultsOf_told calm completed toldHere
    have rolled := tier_rolled calm path done completed toldHere
    rw [results, firstFailure?_map] at failed
    exact ⟨stand.events, rfl, by rw [results, accepted_map, rolled.whole],
      .stop tiered rolled failed.symm⟩
  | next first later ih =>
    obtain ⟨events, extended, report, rest⟩ := ih tiered.rest told
    obtain ⟨stand, path, done, completed, passed, rfl⟩ := first
    have toldHere := fun r x ended => told r x (by
      rw [extended]; exact List.mem_append_left _ (List.mem_append_right _ ended))
    have results := resultsOf_told calm completed toldHere
    have rolled := tier_rolled calm path done completed toldHere
    rw [results, firstFailure?_map] at passed
    refine ⟨stand.events ++ events, by rw [extended, List.append_assoc], ?_,
      .next tiered rolled passed.symm rest⟩
    rw [report, results, accepted_map, starts_append, List.filterMap_append, rolled.whole,
      List.append_assoc]

end Rollout.Run
