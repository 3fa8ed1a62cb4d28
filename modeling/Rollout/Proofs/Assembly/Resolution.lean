import Rollout.Proofs.Except
import Rollout.Run

namespace Rollout

namespace Assembly

variable {env : Environment} {image : Image} {prepared : Prepared} {resolved : Resolved}
variable {host : Host} {wire : Http.Wire} {plugins : List Plugin} {m : Manifest}

theorem buildPlugins_made {registries : Registries} {blocks : List (String × Settings)}
    (built : buildPlugins registries blocks = .ok plugins) :
    ∀ p ∈ plugins, ∃ id settings, registries.plugin id settings = .ok p := by
  induction blocks generalizing plugins with
  | nil =>
    obtain rfl := Except.ok.inj built
    simp
  | cons block rest ih =>
    obtain ⟨id, settings⟩ := block
    obtain ⟨plugin, made, built⟩ := bind_eq_ok.mp built
    obtain ⟨later, builtLater, built⟩ := bind_eq_ok.mp built
    obtain rfl := Except.ok.inj built
    intro p member
    rcases List.mem_cons.mp member with rfl | further
    · exact ⟨id, settings, made⟩
    · exact ih builtLater p further

theorem prepare_accepted {registries : Registries}
    (checked : prepare registries env = .ok prepared) :
    (∃ id settings, env.kubernetes.provider? = some (id, settings) ∧
      registries.provider id settings = .ok prepared.provider) ∧
      buildPlugins registries env.kubernetes.plugins = .ok prepared.plugins ∧
      (allViolations env prepared.provider prepared.plugins).violations = [] ∧
      Plugin.checkOrder prepared.plugins = .ok () := by
  unfold prepare at checked
  split at checked
  · cases checked
  · rename_i id settings active
    obtain ⟨provider, made, checked⟩ := bind_eq_ok.mp checked
    obtain ⟨plugins, built, checked⟩ := bind_eq_ok.mp checked
    obtain ⟨warnings, accepted, checked⟩ := bind_eq_ok.mp checked
    have clean : (allViolations env provider plugins).violations = [] := by
      unfold Findings.accept at accepted
      split at accepted
      · rename_i none
        exact List.isEmpty_iff.mp none
      · cases accepted
    split at checked
    · rename_i ordered
      obtain rfl := Except.ok.inj checked
      exact ⟨⟨id, settings, active, made⟩, built, clean, ordered⟩
    · cases checked

theorem prepare_parts {registries : Registries} (checked : prepare registries env = .ok prepared) :
    buildPlugins registries env.kubernetes.plugins = .ok prepared.plugins ∧
      env.findings.violations = [] ∧ Plugin.checkOrder prepared.plugins = .ok () := by
  obtain ⟨-, built, clean, ordered⟩ := prepare_accepted checked
  simp only [allViolations, List.append_eq_nil_iff] at clean
  exact ⟨built, clean.1.1, ordered⟩

def access (provider : Provider) (host : Host) (wire : Http.Wire) :
    Except Error (KubeConfig × ClusterInfo) :=
  match provider.kubeconfig host wire with
  | (.error e, _) => .error e
  | (.ok kubeconfig, wire) =>
    match provider.describe host wire with
    | (.error e, _) => .error e
    | (.ok cluster, _) => .ok (kubeconfig, cluster)

theorem assemble_access : (assemble env image prepared host wire).1 =
    access prepared.provider host wire >>= fun (kubeconfig, cluster) =>
      compose env image prepared.plugins >>= fun manifest =>
        .ok ⟨manifest, image, kubeconfig, cluster⟩ := by
  unfold assemble access
  rcases asked : prepared.provider.kubeconfig host wire with ⟨e | kubeconfig, wire'⟩
  · rfl
  · rcases described : prepared.provider.describe host wire' with ⟨e | cluster, _⟩ <;>
      simp only [described] <;> rfl

theorem assemble_parts (assembled : (assemble env image prepared host wire).1 = .ok resolved) :
    access prepared.provider host wire = .ok (resolved.kubeconfig, resolved.cluster) ∧
      compose env image prepared.plugins = .ok resolved.manifest ∧ resolved.image = image := by
  rw [assemble_access] at assembled
  obtain ⟨⟨kubeconfig, cluster⟩, asked, assembled⟩ := bind_eq_ok.mp assembled
  obtain ⟨manifest, composed, assembled⟩ := bind_eq_ok.mp assembled
  obtain rfl := Except.ok.inj assembled
  exact ⟨asked, composed, rfl⟩

theorem build_accepted {registries : Registries}
    (built : (build registries env image host wire).1 = .ok resolved) :
    ∃ prepared, prepare registries env = .ok prepared ∧
      (assemble env image prepared host wire).1 = .ok resolved := by
  unfold build at built
  cases checked : prepare registries env with
  | error e => rw [checked] at built; cases built
  | ok prepared =>
    rw [checked] at built
    exact ⟨prepared, rfl, built⟩

theorem built_of_accepted (env : Environment) (image : Image) (host : Host) (wire : Http.Wire)
    (accepted : (build Registries.builtin env image host wire).1.isOk = true) :
    ∃ prepared resolved, prepare Registries.builtin env = .ok prepared ∧
      (assemble env image prepared host wire).1 = .ok resolved := by
  cases built : (build Registries.builtin env image host wire).1 with
  | error e => rw [built] at accepted; cases accepted
  | ok resolved =>
    obtain ⟨prepared, checked, assembled⟩ := build_accepted built
    exact ⟨prepared, resolved, checked, assembled⟩

-- The manifest of a resolution to which the provider adds its answers alone.
theorem manifest_of_map {answer : Except Error (KubeConfig × ClusterInfo)}
    (resolves : answer.map (fun (kubeconfig, cluster) => Resolved.mk m image kubeconfig cluster) =
      .ok resolved) : resolved.manifest = m := by
  cases answer with
  | error e => cases resolves
  | ok found =>
    obtain rfl := Except.ok.inj resolves
    rfl

theorem compose_parts (composed : compose env image plugins = .ok m) :
    ∃ base parts, baseResources env = .ok base ∧ contributions env image [] plugins = .ok parts ∧
      m = .ofResources ((base ++ parts).map fun r => r.withLabels (standardLabels env)) := by
  obtain ⟨base, based, composed⟩ := bind_eq_ok.mp composed
  obtain ⟨parts, contributed, composed⟩ := bind_eq_ok.mp composed
  exact ⟨base, parts, based, contributed, (Except.ok.inj composed).symm⟩

end Assembly

namespace Run

open Assembly

variable {registries : Registries} {host host' : Host} {options options' : RunOptions}
variable {env : Environment} {wire wire' : Http.Wire} {resolved : Resolved} {image : Image}
variable {cause : RemoteError}

theorem imageFor_tagged (chosen : imageFor host options env = .ok image) :
    ∃ tag, image = env.docker.image.withTag tag := by
  unfold imageFor at chosen
  cases given : options.tag with
  | some tag =>
    simp only [given] at chosen
    exact ⟨tag, (Except.ok.inj chosen).symm⟩
  | none =>
    simp only [given] at chosen
    obtain ⟨tag, -, chosen⟩ := bind_eq_ok.mp chosen
    exact ⟨tag, (Except.ok.inj chosen).symm⟩

def settle (image : Image) : Except Error Resolved → Resolution
  | .ok resolved => .ready resolved
  | .error e => if e.isUserFixable then .refused e else .failed image (.remote e.message)

theorem resolve_settles : (resolve registries host options env wire).1 =
    match prepare registries env with
    | .error e => .refused e
    | .ok prepared =>
      match imageFor host options env with
      | .error e => .refused e
      | .ok image => settle image (assemble env image prepared host wire).1 := by
  unfold resolve
  rcases prepare registries env with e | prepared
  · rfl
  · rcases imageFor host options env with e | image
    · rfl
    · rcases assembled : assemble env image prepared host wire with ⟨e | found, wire'⟩
      · simp only [assembled, settle]
        split <;> rfl
      · simp only [assembled, settle]

theorem settle_ready {answer : Except Error Resolved} :
    settle image answer = .ready resolved ↔ answer = .ok resolved := by
  rcases answer with e | found
  · simp only [settle]
    split <;> simp
  · simp [settle]

theorem resolve_ready (ready : (resolve registries host options env wire).1 = .ready resolved) :
    ∃ prepared, prepare registries env = .ok prepared ∧
      imageFor host options env = .ok resolved.image ∧
      (assemble env resolved.image prepared host wire).1 = .ok resolved := by
  rw [resolve_settles] at ready
  split at ready
  · cases ready
  · rename_i prepared checked
    split at ready
    · cases ready
    · rename_i image chosen
      have assembled := settle_ready.mp ready
      obtain rfl := (assemble_parts assembled).2.2
      exact ⟨prepared, checked, chosen, assembled⟩

theorem resolve_failed
    (failed : (resolve registries host options env wire).1 = .failed image cause) :
    (∃ prepared, prepare registries env = .ok prepared) ∧
      imageFor host options env = .ok image := by
  rw [resolve_settles] at failed
  split at failed
  · cases failed
  · rename_i prepared checked
    split at failed
    · cases failed
    · rename_i image' chosen
      unfold settle at failed
      split at failed
      · cases failed
      · split at failed <;> cases failed
        exact ⟨⟨prepared, checked⟩, chosen⟩

theorem resolve_manifest (ready : (resolve registries host options env wire).1 = .ready resolved) :
    ∃ declared, resolved.manifest = Manifest.ofResources declared := by
  obtain ⟨prepared, -, -, assembled⟩ := resolve_ready ready
  obtain ⟨-, composed, -⟩ := assemble_parts assembled
  obtain ⟨base, parts, -, -, same⟩ := compose_parts composed
  exact ⟨_, same⟩

theorem resolve_same (image : imageFor host' options' env = imageFor host options env)
    (answers : ∀ prepared, prepare registries env = .ok prepared →
      access prepared.provider host' wire' = access prepared.provider host wire) :
    (resolve registries host' options' env wire').1 =
      (resolve registries host options env wire).1 := by
  rw [resolve_settles, resolve_settles, image]
  split
  · rfl
  · rename_i prepared checked
    split
    · rfl
    · rw [assemble_access, assemble_access, answers prepared checked]

end Run

end Rollout
