import Rollout.Proofs.Assembly.Images
import Rollout.Proofs.Run.Replay

namespace Rollout.Run

open Assembly

variable {σ : Type} {registries : Registries} {host : Host} {options : RunOptions}
variable {env : Environment} {wire : Http.Wire} {image : Image}
variable {other : PluginContext → Except Error Contribution}

theorem resolve_onlyFor (chosen : imageFor host options env = .ok image) :
    resolve (registries.onlyFor image other) host options env wire =
      resolve registries host options env wire := by
  simp only [resolve, prepare_onlyFor, chosen]
  cases prepare registries env with
  | error e => rfl
  | ok prepared => simp only [Except.map, assemble_onlyFor]

structure Grounds (registries : Registries) (env : Environment) (l : Launch σ) (image : Image)
    (report : RunReport) (prepared : Prepared) (resolved : Resolved) : Prop where
  checked : prepare registries env = .ok prepared
  assembled : (assemble env image prepared l.host l.wire).1 = .ok resolved
  digest : report.manifestDigest = some resolved.manifest.digest
  applied : ∀ r, .started r ∈ (l.finish registries env).events → r ∈ resolved.manifest.resources
  deployed : registries = .builtin → ∀ r ∈ resolved.manifest.resources, r.kind = "Deployment" →
    r.Runs image

-- A run that ends in a report: one image for the tools, the plugins and the record, and no call
-- before its time.
structure Orderly (registries : Registries) (env : Environment) (l : Launch σ) (image : Image)
    (report : RunReport) : Prop where
  chosen : imageFor l.host l.options env = .ok image
  tagged : ∃ tag, image = env.docker.image.withTag tag
  recorded : report.image = some image.render
  shown : ∀ other, l.finish (registries.onlyFor image other) env = l.finish registries env
  ordered : Ordered l.options.skipBuild image (l.finish registries env).events
  replayed : Replayed l.outside l.options l.start (l.finish registries env).events
    (l.finish registries env).outside
  grounded : (l.finish registries env).events ≠ [] →
    ∃ prepared resolved, Grounds registries env l image report prepared resolved

namespace Launch

variable {l : Launch σ} {resolved : Resolved} {cause : RemoteError}

theorem finish_onlyFor (chosen : imageFor l.host l.options env = .ok image) :
    l.finish (registries.onlyFor image other) env = l.finish registries env := by
  rw [finish_proceed, finish_proceed, resolve, resolve, resolve_onlyFor chosen]

theorem failed_orderly (failed : l.resolve registries env = .failed image cause) :
    ∃ report, (l.finish registries env).answer = .ok report ∧
      Orderly registries env l image report := by
  obtain ⟨-, chosen⟩ := resolve_failed failed
  have still : (l.finish registries env).events = [] := by rw [finish_proceed, failed]; rfl
  refine ⟨_, by rw [finish_proceed, failed]; rfl, chosen, imageFor_tagged chosen, rfl,
    fun other => finish_onlyFor chosen, ?_, l.replayed registries env,
    fun called => absurd still called⟩
  rw [still]
  exact .nil

theorem ready_orderly (found : l.resolve registries env = .ready resolved) :
    ∃ report, (l.finish registries env).answer = .ok report ∧
      Orderly registries env l resolved.image report := by
  obtain ⟨prepared, checked, chosen, assembled⟩ := resolve_ready found
  have here : l.finish registries env = (drive l.outside l.schedule l.options env resolved
      (ready l.outside l.runId env resolved l.start)).finish := by
    rw [finish_proceed, found, proceed_ready]
  obtain ⟨image, digest⟩ := drive_report l.outside l.schedule l.options env resolved
    (ready l.outside l.runId env resolved l.start)
  refine ⟨_, by rw [here]; rfl, chosen, imageFor_tagged chosen, image,
    fun other => finish_onlyFor chosen, ?_, l.replayed registries env, fun _ =>
    ⟨prepared, resolved, checked, assembled, digest, ?_, ?_⟩⟩
  · rw [here]
    exact drive_ordered rfl
  · intro r started
    rw [here] at started
    exact drive_started rfl started
  · rintro rfl
    exact compose_runs (prepare_builtin checked) (assemble_parts assembled).2.1

theorem calls_in_order (registries : Registries) (env : Environment) (l : Launch σ) :
    match (l.finish registries env).answer with
    | .error _ => (l.finish registries env).events = [] ∧
        (l.finish registries env).outside = l.start
    | .ok report => ∃ image, Orderly registries env l image report := by
  cases found : l.resolve registries env with
  | refused e =>
    have here : l.finish registries env = ⟨.error e, [], l.start⟩ := by
      rw [finish_proceed, found]; rfl
    rw [here]
    exact ⟨rfl, rfl⟩
  | failed image cause =>
    obtain ⟨report, answer, orderly⟩ := failed_orderly found
    rw [answer]
    exact ⟨image, orderly⟩
  | ready resolved =>
    obtain ⟨report, answer, orderly⟩ := ready_orderly found
    rw [answer]
    exact ⟨resolved.image, orderly⟩

end Launch

end Rollout.Run
