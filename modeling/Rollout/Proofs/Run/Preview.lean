import Rollout.Outcome
import Rollout.Proofs.Assembly.Secrecy
import Rollout.Proofs.Run.Cancellation
import Rollout.Proofs.Yaml.Documents

namespace Rollout

namespace Pool

open Run

variable {σ : Type} {outside : Outside σ} {limit : Nat} {timeLimit : Duration}
variable {tier : List Resource} {origin : σ} {s : Stand σ}

-- Calls are withdrawn only behind the signal, and none begins behind a withdrawn one.
theorem reached_skips (latched : Latched outside)
    (path : Reached outside limit timeLimit ⟨ofTier tier, [], origin⟩ s) :
    ∃ skipped, starts s.events ++ (skipped ++ s.pool.waiting.map Prod.snd) = tier ∧
      (skipped ≠ [] → outside.cancelled s.outside = true) := by
  induction path with
  | refl => exact ⟨[], ofTier_resources tier, fun some => absurd rfl some⟩
  | step prior move ih =>
    obtain ⟨skipped, split, signal⟩ := ih
    cases move with
    | @start i r rest waits room calm =>
      have none : skipped = [] := by
        by_contra some
        rw [signal some] at calm
        cases calm
      subst none
      refine ⟨[], ?_, fun some => absurd rfl some⟩
      simpa [waits] using split
    | @withdraw i r rest waits stopped =>
      refine ⟨skipped ++ [r], ?_, fun _ => stopped⟩
      simpa [waits] using split
    | @finish i r position flies =>
      refine ⟨skipped, by simpa using split, fun some => ?_⟩
      exact latched _ (.ended r (.error .cancelled)) (signal some)

-- A tier without a failure has no withdrawn call, so that each of its calls began.
theorem reached_count (path : Reached outside limit timeLimit ⟨ofTier tier, [], origin⟩ s)
    (done : s.pool.pending = 0) (passing : firstFailure? (resultsOf tier s) = none) :
    (starts s.events).length = tier.length := by
  obtain ⟨past, books⟩ := reached_books (books_open outside limit tier origin) path
  have kept : past.filter Over.began = past := by
    refine List.filter_eq_self.mpr fun c isOver => ?_
    cases drawn : c.withdrawn with
    | false => simp [Over.began, drawn]
    | true =>
      have listed := (mem_resultsOf books done).mpr ⟨c, isOver, rfl, rfl⟩
      have fine := List.findSome?_eq_none_iff.mp passing _ listed
      rw [(books.withdrawn c isOver drawn).1] at fine
      cases fine
  calc (starts s.events).length
      = (endings s.events).length := (completed_of_books books done).even
    _ = past.length := by rw [books.ended, kept, List.length_map]
    _ = tier.length := by simpa [ofTier] using (calls_over books done).length_eq.symm

end Pool

namespace Run

open Pool Assembly

variable {σ : Type} {outside : Outside σ} {schedule : Schedule} {options : RunOptions}
variable {env : Environment} {resolved : Resolved} {p q : Progress σ}
variable {tier : List Resource} {tiers : List (List Resource)} {failure : Option RemoteError}

theorem TierRun.opens (latched : Latched outside) (run : TierRun outside options tier p failure q) :
    ∃ begun, starts q.events = starts p.events ++ begun ∧ begun <+: tier ∧
      (failure = none → begun = tier) := by
  obtain ⟨stand, path, done, -, failed, rfl⟩ := run
  obtain ⟨skipped, split, -⟩ := reached_skips latched path
  rw [(pending_eq_zero done).1, List.map_nil, List.append_nil] at split
  have initial : starts stand.events <+: tier := ⟨skipped, split⟩
  refine ⟨starts stand.events, starts_append _ _, initial, fun passing => ?_⟩
  exact initial.eq_of_length (reached_count path done (failed.symm.trans passing))

theorem TiersRun.opens (latched : Latched outside)
    (run : TiersRun outside options tiers p failure q) :
    ∃ begun, starts q.events = starts p.events ++ begun ∧ begun <+: tiers.flatten ∧
      (failure = none → begun = tiers.flatten) := by
  induction run with
  | done => exact ⟨[], (List.append_nil _).symm, List.prefix_rfl, fun _ => rfl⟩
  | stop first =>
    obtain ⟨begun, grown, initial, -⟩ := first.opens latched
    exact ⟨begun, grown, initial.trans (List.prefix_append _ _), fun passing => (nomatch passing)⟩
  | @next tier rest _ _ _ _ first later ih =>
    obtain ⟨here, grown, -, whole⟩ := first.opens latched
    obtain rfl := whole rfl
    obtain ⟨further, grown', initial, all⟩ := ih
    refine ⟨here ++ further, ?_, ?_, fun passing => ?_⟩
    · rw [grown', grown, List.append_assoc]
    · exact (List.prefix_append_right_inj _).mpr initial
    · rw [all passing, List.flatten_cons]

theorem drive_opens (latched : Latched outside) (fresh : p.events = []) :
    let final := drive outside schedule options env resolved p
    starts final.events <+: resolved.manifest.resources ∧
      (final.report.state = .done → starts final.events = resolved.manifest.resources) := by
  intro final
  have owes : final.report.state = .done →
    ∀ stage, ¬ Owes options.skipBuild resolved.manifest final.events stage := drive_owes fresh
  obtain ⟨still, -⟩ | ⟨q, failure, last, still, -, run, same⟩ :
    _ ∨ ∃ q failure last, _ ∧ _ ∧ _ ∧ final = _ :=
    drive_calls outside schedule options env resolved fresh
  · rw [still]
    refine ⟨List.nil_prefix, fun done => (List.eq_nil_iff_forall_not_mem.mpr ?_).symm⟩
    intro r member
    refine owes done .applying ⟨r, member, fun started => ?_⟩
    rw [← mem_starts, still] at started
    cases started
  · obtain ⟨begun, grown, initial, whole⟩ := run.opens latched
    rw [still, List.nil_append] at grown
    rw [Manifest.flatten_tiers] at initial whole
    rw [same, conclude_events, conclude_state, grown]
    exact ⟨initial, fun done => whole (verdict_eq_done.mp done)⟩

theorem drive_past (cause : RemoteError) :
    (drive outside schedule options env resolved p).report.state ≠ .failed .resolving cause := by
  have driven := drive_run outside schedule options env resolved p
  generalize drive outside schedule options env resolved p = final at driven
  cases driven with
  | unpublished ran =>
    obtain ⟨stage, cause', later, state⟩ := publish_failed ran
    rw [state]
    exact fun same => later (RunState.failed.inj same).1
  | unconnected ran connected => exact fun same => by cases same
  | @applied _ _ _ failure ran connected run =>
    rw [conclude_state]
    cases failure <;> exact fun same => by cases same

theorem Launch.ready_of_past {registries : Registries} {l : Launch σ} {report : RunReport}
    (ran : (l.finish registries env).answer = .ok report)
    (past : ∀ cause, report.state ≠ .failed .resolving cause) :
    ∃ resolved, l.resolve registries env = .ready resolved := by
  rw [finish_proceed] at ran
  cases found : l.resolve registries env with
  | refused e => rw [found] at ran; cases ran
  | failed image cause =>
    rw [found] at ran
    obtain rfl := Except.ok.inj ran
    exact absurd rfl (past cause)
  | ready resolved => exact ⟨resolved, rfl⟩

theorem imageFor_map (host : Host) (options : RunOptions) (env : Environment) :
    imageFor host options env = Except.map env.docker.image.withTag
      (match options.tag with
      | some tag => .ok tag
      | none => Fingerprint.defaultTag host env options.projectRoot) := by
  unfold imageFor
  cases options.tag with
  | some tag => rfl
  | none => cases Fingerprint.defaultTag host env options.projectRoot <;> rfl

end Run

namespace Session

variable {σ : Type}

def launch (session : Session) (outside : Outside σ) (schedule : Schedule) (options : RunOptions)
    (runId : String) (wire : Http.Wire) (start : σ) : Run.Launch σ :=
  ⟨outside, schedule, { options with root := some session.root }, session.host, runId, wire, start⟩

def deployment (session : Session) (means : Means σ) (options : RunOptions) (world : World σ) :
    Run.Launch (Workplace σ) :=
  session.launch (Workplace.outside means.clock ⟨"docker"⟩ ⟨"kubectl"⟩ means.tools) Schedule.eager
    options means.runId world.wire (Workplace.start world.tools)

end Session

namespace Outcome

variable {σ : Type} {output : Output} {session : Session} {env : Environment} {world : World σ}
variable {options : RunOptions} {means : Means σ} {report : RunReport}

theorem deploy_reports
    (ran : ((session.deployment means options world).finish Registries.builtin env).answer =
      .ok report) :
    (deploy means output session env options world).out ++
        (deploy means output session env options world).err = line (output.report report) ∧
      ((deploy means output session env options world).code = 0 ↔ report.isSuccess = true) := by
  let l := session.deployment means options world
  let finish := l.finish Registries.builtin env
  let after : World σ := ⟨world.host,
    (Run.resolve Registries.builtin l.host l.options env l.wire).2, finish.outside.tools⟩
  have launched : deploy means output session env options world =
      andThen output finish.answer after fun report =>
        if report.isSuccess then printed (line (output.report report)) after
        else ⟨1, "", line (output.report report), after⟩ := rfl
  rw [launched, show finish.answer = .ok report from ran, andThen]
  split
  · next done => exact ⟨String.append_empty, iff_of_true rfl done⟩
  · next failed => exact ⟨String.empty_append, iff_of_false (Nat.succ_ne_zero 0) failed⟩

theorem exitCode_ne_zero (e : Error) : exitCode e ≠ 0 := by
  unfold exitCode
  split
  · decide
  · split <;> decide

theorem andThen_succeeds {α : Type} {result : Except Error α} {next : α → Outcome σ}
    (succeeds : (andThen output result world next).code = 0) :
    ∃ value, result = .ok value ∧ andThen output result world next = next value := by
  cases result with
  | error e => exact absurd succeeds (exitCode_ne_zero e)
  | ok value => exact ⟨value, rfl, rfl⟩

theorem inquire_succeeds {α : Type} {inquiry : Inquiry α} {host : Host} {text : α → String}
    (succeeds : (inquire output inquiry host world text).code = 0) :
    ∃ value, (inquiry host world.wire).1 = .ok value ∧
      (inquire output inquiry host world text).out = text value := by
  obtain ⟨value, answer, same⟩ := andThen_succeeds succeeds
  refine ⟨value, answer, ?_⟩
  change (andThen _ _ _ _).out = _
  rw [same]
  rfl

theorem manifest_succeeds
    (succeeds : (manifest output session env options.tag world).code = 0) :
    ∃ image resolved,
      Run.imageFor session.host { options with root := some session.root } env = .ok image ∧
      (Assembly.build Registries.builtin env image session.host world.wire).1 = .ok resolved ∧
      (manifest output session env options.tag world).out =
        manifestText output resolved.manifest := by
  obtain ⟨tag, chosen, same⟩ := andThen_succeeds succeeds
  have printed : manifest output session env options.tag world = _ := same
  rw [printed] at succeeds ⊢
  obtain ⟨resolved, built, out⟩ := inquire_succeeds succeeds
  refine ⟨env.docker.image.withTag tag, resolved, ?_, built, out⟩
  rw [Run.imageFor_map]
  exact congrArg (Except.map _) chosen

end Outcome

-- A run that does what was printed before it.
structure Foreseen (shown : Resolved) (text : String) (report : RunReport)
    (events : List RunEvent) : Prop where
  printed : text = String.join (shown.manifest.resources.map fun r => "---\n" ++ Yaml.render r.body)
  documents : Yaml.Outline.documents? text =
    some (shown.manifest.resources.map fun r => Yaml.Outline.ofJson r.body)
  image : report.image = some shown.image.render
  digest : report.manifestDigest = some (Sha256.hexDigest (Utf8.encode text))
  order : starts events <+: shown.manifest.resources
  whole : report.state = .done → starts events = shown.manifest.resources

namespace Session

open Run Assembly

variable {σ τ υ : Type} {outside : Outside σ} {schedule : Schedule} {options : RunOptions}
variable {output : Output} {session : Session} {env : Environment} {world : World τ}
variable {runId : String} {wire wire' : Http.Wire} {start : σ} {report : RunReport}
variable {image : Image} {shown : Resolved} {means : Means υ} {later : World υ}

theorem foreseen_of_past (latched : Latched outside)
    (chosen : imageFor session.host { options with root := some session.root } env = .ok image)
    (built : (build Registries.builtin env image session.host wire').1 = .ok shown)
    (ran : ((session.launch outside schedule options runId wire start).finish
      Registries.builtin env).answer = .ok report)
    (past : ∀ cause, report.state ≠ .failed .resolving cause) :
    Foreseen shown shown.manifest.toYaml report
      ((session.launch outside schedule options runId wire start).finish
        Registries.builtin env).events := by
  obtain ⟨prepared, checked, assembled⟩ := build_accepted built
  obtain ⟨-, composed, imaged⟩ := assemble_parts assembled
  obtain ⟨resolved, found⟩ := Launch.ready_of_past ran past
  obtain ⟨prepared', checked', chosen', assembled'⟩ := resolve_ready found
  obtain rfl := Except.ok.inj (checked.symm.trans checked')
  obtain rfl := Except.ok.inj (chosen'.symm.trans chosen)
  have same : resolved.manifest = shown.manifest :=
    Except.ok.inj ((assemble_parts assembled').2.1.symm.trans composed)
  let begun := ready outside runId env resolved start
  let final := drive outside schedule { options with root := some session.root } env resolved begun
  rw [Launch.finish_proceed, found] at ran ⊢
  obtain rfl : final.report = report := Except.ok.inj ran
  obtain ⟨recorded, digest⟩ : final.report.image = begun.report.image ∧
    final.report.manifestDigest = begun.report.manifestDigest := drive_report ..
  obtain ⟨order, whole⟩ : starts final.events <+: resolved.manifest.resources ∧
    (final.report.state = .done → starts final.events = resolved.manifest.resources) :=
    drive_opens latched rfl
  rw [same] at order whole
  have documents := Yaml.Outline.documents_joined (shown.manifest.resources.map Resource.body)
  rw [List.map_map, List.map_map] at documents
  refine ⟨rfl, documents, ?_, ?_, order, whole⟩
  · rw [recorded, imaged]; rfl
  · rw [digest, ← same]; rfl

-- What is printed foresees every run of the session with the same tag, whatever its outside is, and
-- so every deployment.
theorem deployment_foreseen (format : output.format = .text)
    (succeeds : (Outcome.manifest output session env options.tag world).code = 0) :
    ∃ image shown, (build Registries.builtin env image session.host world.wire).1 = .ok shown ∧
      (Latched outside → ∀ report,
        ((session.launch outside schedule options runId wire start).finish
          Registries.builtin env).answer = .ok report →
        (∀ cause, report.state ≠ .failed .resolving cause) →
        Foreseen shown (Outcome.manifest output session env options.tag world).out report
          ((session.launch outside schedule options runId wire start).finish
            Registries.builtin env).events) ∧
      ∀ (told : Output) report,
        ((session.deployment means options later).finish Registries.builtin env).answer =
          .ok report →
        (∀ cause, report.state ≠ .failed .resolving cause) →
        Foreseen shown (Outcome.manifest output session env options.tag world).out report
            ((session.deployment means options later).finish Registries.builtin env).events ∧
          (Outcome.deploy means told session env options later).out ++
            (Outcome.deploy means told session env options later).err =
              Outcome.line (told.report report) ∧
          ((Outcome.deploy means told session env options later).code = 0 ↔
            report.isSuccess = true) := by
  obtain ⟨image, shown, chosen, built, out⟩ := Outcome.manifest_succeeds succeeds
  have text : (Outcome.manifest output session env options.tag world).out =
      shown.manifest.toYaml := by
    rw [out, Outcome.manifestText, format]
  rw [text]
  refine ⟨_, shown, built, ?_, ?_⟩
  · intro latched report ran past
    exact foreseen_of_past latched chosen built ran past
  · intro told report ran past
    have latched : Latched
        (Workplace.outside means.clock ⟨"docker"⟩ ⟨"kubectl"⟩ means.tools) :=
      fun _ _ stopped => by cases stopped
    exact ⟨foreseen_of_past latched chosen built ran past, Outcome.deploy_reports ran⟩

def store : Session := ⟨⟨"store", [("staging", storeEnvironment)]⟩, ".", storeHost⟩

def storeOptions : RunOptions := { RunOptions.default with tag := some "v1", skipBuild := true }

def storeLaunch : Launch ClusterStore :=
  store.launch (Launch.cluster fun _ => false) Schedule.eager storeOptions "run" storeWire
    fun _ => none

def storeMeans : Means Unit :=
  ⟨fun _ => ⟨0, 0⟩, fun call s => (.notStarted call.program, s), "run", ⟨[], []⟩, false⟩

def storeWorld : World Unit := ⟨storeHost, storeWire, ()⟩

def storePreview : Outcome Unit :=
  Outcome.manifest ⟨.text, false⟩ store storeEnvironment storeOptions.tag storeWorld

theorem store_resolved : ∃ resolved,
    storeLaunch.resolve Registries.builtin storeEnvironment = .ready resolved := by
  obtain ⟨prepared, resolved, checked, assembled⟩ :=
    built_of_accepted storeEnvironment storeImage storeHost storeWire (by decide +kernel)
  have chosen : imageFor storeLaunch.host storeLaunch.options storeEnvironment =
    .ok storeImage := rfl
  refine ⟨resolved, ?_⟩
  rw [Launch.resolve, resolve_settles, checked, chosen]
  exact settle_ready.mpr assembled

theorem storeLaunch_done : ∃ report,
    (storeLaunch.finish Registries.builtin storeEnvironment).answer = .ok report ∧
      report.state = .done := by
  obtain ⟨resolved, found⟩ := store_resolved
  obtain ⟨declared, manifest⟩ := resolve_manifest found
  have smooth : Smooth storeLaunch.outside storeLaunch.options
    (storeLaunch.finish Registries.builtin storeEnvironment) := Launch.accepting_smooth rfl rfl
  rw [Launch.finish_proceed, found] at smooth
  obtain ⟨report, upkept⟩ := smooth_run (Launch.cluster_keeps _) manifest smooth
  refine ⟨report, ?_, upkept.done⟩
  rw [Launch.finish_proceed, found]
  exact upkept.answer

theorem store_deployed : ∃ report,
    ((store.deployment storeMeans storeOptions storeWorld).finish Registries.builtin
      storeEnvironment).answer = .ok report ∧
      ∀ cause, report.state ≠ .failed .resolving cause := by
  obtain ⟨resolved, found⟩ := store_resolved
  have same : (store.deployment storeMeans storeOptions storeWorld).resolve Registries.builtin
    storeEnvironment = .ready resolved := found
  rw [Launch.finish_proceed, same]
  exact ⟨_, rfl, fun cause => drive_past cause⟩

theorem store_foreseen : ∃ image shown,
    (build Registries.builtin storeEnvironment image storeHost storeWire).1 = .ok shown ∧
      (∃ report, (storeLaunch.finish Registries.builtin storeEnvironment).answer = .ok report ∧
        report.state = .done ∧
        Foreseen shown storePreview.out report
          (storeLaunch.finish Registries.builtin storeEnvironment).events) ∧
      ∃ report, ((store.deployment storeMeans storeOptions storeWorld).finish Registries.builtin
          storeEnvironment).answer = .ok report ∧
        Foreseen shown storePreview.out report
          ((store.deployment storeMeans storeOptions storeWorld).finish Registries.builtin
            storeEnvironment).events := by
  obtain ⟨report, ran, done⟩ := storeLaunch_done
  obtain ⟨report', ran', past⟩ := store_deployed
  have latched : Latched storeLaunch.outside := fun _ _ stopped => by cases stopped
  have succeeds : storePreview.code = 0 := by decide +kernel
  obtain ⟨image, shown, built, foreseen, deployed⟩ :=
    deployment_foreseen rfl succeeds
  exact ⟨image, shown, built, ⟨report, ran, done, foreseen latched report ran (by simp [done])⟩,
    report', ran', (deployed ⟨.text, false⟩ report' ran' past).1⟩

end Session

end Rollout
