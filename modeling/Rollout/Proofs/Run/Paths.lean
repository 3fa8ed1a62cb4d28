import Mathlib.Data.List.Chain
import Mathlib.Data.List.Nodup
import Mathlib.Data.List.Perm.Subperm
import Rollout.Run.State

namespace Rollout.RunState

variable {a b s : RunState} {states lead again rest : List RunState}

-- How far a run has come. Both ends are equally far.
def progress : RunState → Nat
  | .idle => 0
  | .working .resolving => 1
  | .working .building => 2
  | .working .pushing => 3
  | .working .applying => 4
  | .done => 5
  | .failed _ _ => 5

theorem progress_le (s : RunState) : s.progress ≤ 5 := by
  cases s with
  | idle => decide
  | working stage => cases stage <;> decide
  | done => exact Nat.le_refl 5
  | failed stage cause => exact Nat.le_refl 5

theorem progress_terminal (terminal : s.isTerminal = true) : s.progress = 5 := by
  cases s with
  | idle => cases terminal
  | working stage => cases terminal
  | done => rfl
  | failed stage cause => rfl

-- All that the rules allow: a step forward, or one more failure of the stage that has failed.
theorem mayEnter_cases (step : a.mayEnter b = true) : a.progress < b.progress ∨
    ∃ stage cause cause', a = .failed stage cause ∧ b = .failed stage cause' := by
  cases b with
  | failed stage cause' =>
    cases a with
    | idle => cases step
    | working here => exact .inl (by cases here <;> simp [progress])
    | done => cases step
    | failed here cause =>
      obtain rfl : here = stage := by simpa [mayEnter, stage?] using step
      exact .inr ⟨here, cause, cause', rfl, rfl⟩
  | idle =>
    left
    revert step
    cases a with
    | working here => cases here <;> decide
    | _ => exact fun step => by cases step
  | working next =>
    left
    revert step
    cases a with
    | idle => cases next <;> decide
    | working here => cases here <;> cases next <;> decide
    | _ => exact fun step => by cases step
  | done =>
    left
    revert step
    cases a with
    | working here => cases here <;> decide
    | _ => exact fun step => by cases step

structure Settled (states : List RunState) : Prop where
  last : ∀ before s after, states = before ++ s :: after → s.isTerminal = true → after = []
  once : ∀ stage, states.count (.working stage) ≤ 1
  short : states.length ≤ 6

-- What may follow behind `lead`: if that ends with a failure, others of the same stage.
def FailsOn (lead again : List RunState) : Prop :=
  again = [] ∨ ∃ stage cause, lead.getLast? = some (.failed stage cause) ∧
    ∀ s ∈ again, ∃ cause', s = .failed stage cause'

theorem FailsOn.cons (more : FailsOn (b :: rest) again) : FailsOn (a :: b :: rest) again := by
  rcases more with none | ⟨stage, cause, failed, more⟩
  · exact .inl none
  · exact .inr ⟨stage, cause, by rwa [List.getLast?_cons_cons], more⟩

-- Of the two things that a first step can be, a repeated failure leaves no room for steps forward.
theorem path_parts (steps : (a :: rest).IsChain fun a b => a.mayEnter b = true) :
    ∃ lead again, a :: rest = a :: lead ++ again ∧
      (a :: lead).Pairwise (fun a b => a.progress < b.progress) ∧ FailsOn (a :: lead) again := by
  induction rest generalizing a with
  | nil => exact ⟨[], [], rfl, List.pairwise_singleton _ _, .inl rfl⟩
  | cons b rest ih =>
    obtain ⟨step, later⟩ := List.isChain_cons_cons.mp steps
    obtain ⟨lead, again, split, forward, more⟩ := ih later
    rcases mayEnter_cases step with ahead | ⟨stage, cause, cause', rfl, rfl⟩
    · refine ⟨b :: lead, again, by rw [split]; rfl, List.pairwise_cons.mpr ⟨?_, forward⟩, more.cons⟩
      intro s member
      rcases List.mem_cons.mp member with rfl | behind
      · exact ahead
      · exact ahead.trans ((List.pairwise_cons.mp forward).1 s behind)
    · have last : lead = [] := by
        refine List.eq_nil_iff_forall_not_mem.mpr fun s member => ?_
        exact Nat.not_lt.mpr (progress_le s) ((List.pairwise_cons.mp forward).1 s member)
      subst last
      refine ⟨[], .failed stage cause' :: again, by rw [split]; rfl, List.pairwise_singleton _ _,
        .inr ⟨stage, cause, rfl, ?_⟩⟩
      intro s member
      rcases List.mem_cons.mp member with rfl | behind
      · exact ⟨cause', rfl⟩
      · rcases more with rfl | ⟨stage', _, failed, more⟩
        · cases behind
        · obtain ⟨rfl, -⟩ := RunState.failed.inj (Option.some.inj failed)
          exact more s behind

theorem forward_settled (forward : lead.Pairwise fun a b => a.progress < b.progress) :
    Settled lead := by
  have distinct : (lead.map progress).Nodup :=
    List.pairwise_map.mpr (forward.imp Nat.ne_of_lt)
  refine ⟨?_, ?_, ?_⟩
  · rintro before s after rfl terminal
    cases after with
    | nil => rfl
    | cons t rest =>
      have behind := (List.pairwise_cons.mp (List.pairwise_append.mp forward).2.1).1 t (by simp)
      rw [progress_terminal terminal] at behind
      exact absurd (progress_le t) (Nat.not_le.mpr behind)
  · intro stage
    exact List.nodup_iff_count_le_one.mp distinct.of_map _
  · have inRange : lead.map progress ⊆ List.range 6 := by
      intro n member
      obtain ⟨s, -, rfl⟩ := List.mem_map.mp member
      exact List.mem_range.mpr (Nat.lt_succ_of_le (progress_le s))
    simpa using (distinct.subperm inRange).length_le

-- Nothing but failures can come after the end of a run, so that without them it has ended for good.
theorem path_settles (steps : states.IsChain fun a b => a.mayEnter b = true) :
    ∃ lead again, states = lead ++ again ∧
    Settled lead ∧ FailsOn lead again ∧ (∀ stage, states.count (.working stage) ≤ 1) ∧
      (Settled states ↔ again = []) := by
  obtain ⟨lead, again, rfl, forward, more⟩ : ∃ lead again, states = lead ++ again ∧
      lead.Pairwise (fun a b => a.progress < b.progress) ∧ FailsOn lead again := by
    cases states with
    | nil => exact ⟨[], [], rfl, .nil, .inl rfl⟩
    | cons a rest =>
      obtain ⟨lead, again, split, parts⟩ := path_parts steps
      exact ⟨a :: lead, again, split, parts⟩
  have settled := forward_settled forward
  have idle : ∀ stage, again.count (.working stage) = 0 := by
    intro stage
    rcases more with rfl | ⟨_, _, -, more⟩
    · rfl
    · refine List.count_eq_zero.mpr fun member => ?_
      obtain ⟨_, same⟩ := more _ member
      cases same
  refine ⟨lead, again, rfl, settled, more, ?_, ?_, ?_⟩
  · intro stage
    rw [List.count_append, idle stage, Nat.add_zero]
    exact settled.once stage
  · intro whole
    rcases more with none | ⟨stage, cause, failed, -⟩
    · exact none
    · obtain ⟨front, rfl⟩ := List.getLast?_eq_some_iff.mp failed
      exact whole.last front (.failed stage cause) again (by simp) rfl
  · rintro rfl
    rwa [List.append_nil]

-- A build that runs out of time, and is then told to have been cancelled as well.
def failedTwice : List RunState :=
  [.idle, .working .resolving, .working .building, .failed .building (.timeout "1h"),
    .failed .building .cancelled]

theorem failedTwice_settles : (failedTwice.IsChain fun a b => a.mayEnter b = true) ∧ ∃ lead again,
    failedTwice = lead ++ again ∧ Settled lead ∧ FailsOn lead again ∧
      (∀ stage, failedTwice.count (.working stage) ≤ 1) ∧ (Settled failedTwice ↔ again = []) := by
  have steps : failedTwice.IsChain fun a b => a.mayEnter b = true := by decide
  exact ⟨steps, path_settles steps⟩

theorem failures_repeat :
    (([.idle, .working .resolving] ++ List.replicate 5 (.failed .resolving .cancelled) :
      List RunState).IsChain fun a b => a.mayEnter b = true) ∧
    ¬ Settled ([.idle, .working .resolving] ++
      List.replicate 5 (.failed .resolving .cancelled)) := by
  refine ⟨by decide, fun settled => ?_⟩
  exact absurd settled.short (by decide)

end Rollout.RunState
