import Rollout.Proofs.Run.Order

namespace Rollout

-- Calls that are made behind a checkpoint.
def RunEvent.checked : RunEvent → Bool
  | .built _ _ _ => true
  | .pushed _ _ _ => true
  | .started _ => true
  | .connected _ _ => false
  | .ended _ _ => false

namespace Run

open Pool

variable {σ : Type} {outside : Outside σ} {schedule : Schedule} {options : RunOptions}
variable {env : Environment} {resolved : Resolved} {image : Image} {p q : Progress σ}
variable {events lead : List RunEvent} {s t : σ} {kept : List RunEvent → σ → Prop}

def after (outside : Outside σ) (t : σ) : RunEvent → σ
  | .built image context _ => (outside.build image context t).2
  | .pushed image login _ => (outside.push image login t).2
  | .connected kubeconfig _ => (outside.connect kubeconfig t).2
  | .started r => outside.start r t
  | .ended r _ => (outside.finish r t).2

-- The result in an event is what the outside answers, or that the call was given up.
def Told (outside : Outside σ) (options : RunOptions) (t : σ) : RunEvent → Prop
  | .built image context result =>
    result = (outside.build image context t).1.within options.buildTimeout
  | .pushed image login result =>
    result = (outside.push image login t).1.within options.pushTimeout
  | .connected kubeconfig result =>
    result = (outside.connect kubeconfig t).1.within options.applyTimeout
  | .started _ => True
  | .ended r result => result = (outside.finish r t).1.within options.applyTimeout

inductive Replayed (outside : Outside σ) (options : RunOptions) (s : σ) :
    List RunEvent → σ → Prop where
  | nil : Replayed outside options s [] s
  | step {events : List RunEvent} {event : RunEvent} {t : σ}
      (prior : Replayed outside options s events t) (told : Told outside options t event) :
      Replayed outside options s (events ++ [event]) (after outside t event)

theorem Replayed.told {event : RunEvent} (replayed : Replayed outside options s events t)
    (member : event ∈ events) : ∃ t, Told outside options t event := by
  induction replayed with
  | nil => cases member
  | step prior told ih =>
    rcases List.mem_append.mp member with old | new
    · exact ih old
    · exact ⟨_, List.mem_singleton.mp new ▸ told⟩

-- A call as it is made: what it tells is so, and nobody has asked to stop if there is a checkpoint.
structure Made (outside : Outside σ) (options : RunOptions) (t : σ) (event : RunEvent) : Prop where
  told : Told outside options t event
  calm : event.checked = true → outside.cancelled t = false

-- What every call keeps, of the events up to it and the state that it finds.
def Stable (outside : Outside σ) (options : RunOptions) (kept : List RunEvent → σ → Prop) : Prop :=
  ∀ events t event, kept events t → Made outside options t event →
    kept (events ++ [event]) (after outside t event)

theorem build_kept (stable : Stable outside options kept) {result : Except RemoteError Unit}
    (ran : build outside options env image p = (result, q))
    (here : kept p.events p.outside) : kept q.events q.outside := by
  unfold build at ran
  split at ran
  · cases ran
    exact here
  · rename_i going
    cases ran
    exact stable _ _ _ here ⟨rfl, fun _ => by simpa using going⟩

theorem push_kept (stable : Stable outside options kept)
    {result : Except RemoteError (Option String)}
    (ran : push outside options env image p = (result, q))
    (here : kept p.events p.outside) : kept q.events q.outside := by
  unfold push at ran
  split at ran
  · cases ran
    exact here
  · rename_i going
    cases ran
    exact stable _ _ _ here ⟨rfl, fun _ => by simpa using going⟩

theorem connect_kept (stable : Stable outside options kept) {kubeconfig : KubeConfig}
    {result : Except RemoteError Unit}
    (ran : connect outside options kubeconfig p = (result, q))
    (here : kept p.events p.outside) : kept q.events q.outside := by
  cases ran
  exact stable _ _ _ here ⟨rfl, fun none => by cases none⟩

theorem publish_kept (stable : Stable outside options kept) (env : Environment) (image : Image)
    (here : kept p.events p.outside) :
    let q := current (publish outside options env image p)
    kept q.events q.outside := by
  have published : Published outside options env image p (publish outside options env image p) :=
    publish_published
  generalize publish outside options env image p = r at published
  cases published with
  | skipped skip => exact here
  | unbuilt full built =>
    have first := build_kept stable built here
    exact first
  | unpushed full built pushed =>
    have first := build_kept stable built here
    have second := push_kept stable pushed first
    exact second
  | pushed full built pushed =>
    have first := build_kept stable built here
    have second := push_kept stable pushed first
    exact second

theorem reached_kept (stable : Stable outside options kept) {limit : Nat} {origin stand : Stand σ}
    (path : Reached outside limit options.applyTimeout origin stand)
    (here : kept (lead ++ origin.events) origin.outside) :
    kept (lead ++ stand.events) stand.outside := by
  induction path with
  | refl => exact here
  | @step here there prior move ih =>
    cases move with
    | @start i r rest waits room calm =>
      have made : Made outside options here.outside (.started r) := ⟨trivial, fun _ => calm⟩
      rw [← List.append_assoc]
      exact stable _ _ _ ih made
    | withdraw waits stopped => exact ih
    | @finish i r position flies =>
      have made : Made outside options here.outside (.ended r _) := ⟨rfl, fun none => by cases none⟩
      rw [← List.append_assoc]
      exact stable _ _ _ ih made

theorem tiersRun_kept (stable : Stable outside options kept) {tiers : List (List Resource)}
    {failure : Option RemoteError} (run : TiersRun outside options tiers p failure q)
    (here : kept p.events p.outside) : kept q.events q.outside := by
  induction run with
  | done => exact here
  | stop first =>
    obtain ⟨stand, path, -, -, -, rfl⟩ := first
    exact reached_kept stable path (by simpa using here)
  | next first later ih =>
    obtain ⟨stand, path, -, -, -, rfl⟩ := first
    exact ih (reached_kept stable path (by simpa using here))

theorem drive_kept (stable : Stable outside options kept) (here : kept p.events p.outside) :
    let q := drive outside schedule options env resolved p
    kept q.events q.outside := by
  have published := publish_kept stable env resolved.image here
  have driven := drive_run outside schedule options env resolved p
  generalize drive outside schedule options env resolved p = final at driven
  cases driven with
  | unpublished ran => rwa [ran] at published
  | unconnected ran connected =>
    rw [ran] at published
    have called := connect_kept stable connected published
    exact called
  | applied ran connected run =>
    rw [ran] at published
    have applied := tiersRun_kept stable run (connect_kept stable connected published)
    simpa using applied

theorem proceed_kept (stable : Stable outside options kept) (fresh : kept [] s)
    (schedule : Schedule) (runId : String) (env : Environment) (resolution : Resolution) :
    let finish := proceed outside schedule options runId env s resolution
    kept finish.events finish.outside := by
  cases resolution with
  | refused e => exact fresh
  | failed image cause => exact fresh
  | ready resolved => exact drive_kept (p := ready outside runId env resolved s) stable fresh

theorem proceed_replayed (outside : Outside σ) (schedule : Schedule) (options : RunOptions)
    (runId : String) (env : Environment) (s : σ) (resolution : Resolution) :
    let finish := proceed outside schedule options runId env s resolution
    Replayed outside options s finish.events finish.outside :=
  proceed_kept (fun _ _ _ prior made => prior.step made.told) .nil schedule runId env resolution

-- A run with all that it depends on, apart from the definition.
structure Launch (σ : Type) where
  outside : Outside σ
  schedule : Schedule
  options : RunOptions
  host : Host
  runId : String
  wire : Http.Wire
  start : σ

namespace Launch

def resolve (registries : Registries) (env : Environment) (l : Launch σ) : Resolution :=
  (Run.resolve registries l.host l.options env l.wire).1

def finish (registries : Registries) (env : Environment) (l : Launch σ) : Finish σ :=
  (run registries l.outside l.schedule l.options l.host l.runId env l.wire l.start).1

theorem finish_proceed (registries : Registries) (env : Environment) (l : Launch σ) :
    l.finish registries env =
      proceed l.outside l.schedule l.options l.runId env l.start (l.resolve registries env) :=
  rfl

theorem replayed (registries : Registries) (env : Environment) (l : Launch σ) :
    Replayed l.outside l.options l.start (l.finish registries env).events
      (l.finish registries env).outside :=
  proceed_replayed ..

end Launch

end Run

end Rollout
