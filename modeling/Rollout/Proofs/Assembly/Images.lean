import Rollout.Proofs.Assembly.Closure

namespace Rollout

-- A plugin that works as it does for one image, and in any way at all for others.
def Plugin.onlyFor (image : Image) (other : PluginContext → Except Error Contribution)
    (p : Plugin) : Plugin :=
  { p with contribute := fun ctx => if ctx.image = image then p.contribute ctx else other ctx }

def Registries.onlyFor (image : Image) (other : PluginContext → Except Error Contribution)
    (r : Registries) : Registries :=
  { r with plugins := r.plugins.map fun (id, make) =>
      (id, fun settings => (make settings).onlyFor image other) }

def Resource.Runs (r : Resource) (image : Image) : Prop :=
  ∃ container, r.body.at? ["spec", "template", "spec", "containers"] = some (.array [container]) ∧
    container.field? "image" = some (.string image.render)

namespace Assembly

variable {registries : Registries} {env : Environment} {image : Image} {m : Manifest}
variable {other : PluginContext → Except Error Contribution} {plugins : List Plugin}

theorem plugin_onlyFor (id : String) (settings : Settings) :
    (registries.onlyFor image other).plugin id settings =
      (registries.plugin id settings).map (Plugin.onlyFor image other) := by
  have found : ∀ plugins : Registry Plugin, (plugins.map fun (id, make) =>
      (id, fun settings => (make settings : Plugin).onlyFor image other)).lookup id =
        (plugins.lookup id).map fun make settings => (make settings).onlyFor image other := by
    intro plugins
    induction plugins with
    | nil => rfl
    | cons entry rest ih =>
      obtain ⟨name, make⟩ := entry
      simp only [List.map_cons, List.lookup_cons]
      cases id == name
      · exact ih
      · rfl
  have listed : (registries.onlyFor image other).plugins.listed = registries.plugins.listed := by
    simp [Registry.listed, Registry.ids, Registries.onlyFor, Function.comp_def]
  unfold Registries.plugin
  rw [listed]
  simp only [Registry.build?, Registries.onlyFor, found]
  cases registries.plugins.lookup id <;> rfl

theorem buildPlugins_onlyFor (blocks : List (String × Settings)) :
    buildPlugins (registries.onlyFor image other) blocks =
      (buildPlugins registries blocks).map (List.map (Plugin.onlyFor image other)) := by
  induction blocks with
  | nil => rfl
  | cons block rest ih =>
    obtain ⟨id, settings⟩ := block
    simp only [buildPlugins, plugin_onlyFor, ih]
    cases registries.plugin id settings
    · rfl
    · cases buildPlugins registries rest <;> rfl

theorem checkOrderFrom_onlyFor (all earlier : List String) :
    Plugin.checkOrderFrom all earlier (plugins.map (Plugin.onlyFor image other)) =
      Plugin.checkOrderFrom all earlier plugins := by
  induction plugins generalizing earlier with
  | nil => rfl
  | cons p rest ih =>
    simp only [List.map_cons, Plugin.checkOrderFrom, ih]
    rfl

theorem allViolations_onlyFor (provider : Provider) :
    allViolations env provider (plugins.map (Plugin.onlyFor image other)) =
      allViolations env provider plugins := by
  simp only [allViolations, List.flatMap_map]
  rfl

theorem checkOrder_onlyFor :
    Plugin.checkOrder (plugins.map (Plugin.onlyFor image other)) = Plugin.checkOrder plugins := by
  have ids : (plugins.map (Plugin.onlyFor image other)).map Plugin.id = plugins.map Plugin.id := by
    rw [List.map_map]
    rfl
  rw [Plugin.checkOrder, ids, checkOrderFrom_onlyFor, Plugin.checkOrder]

-- No check looks at what a plugin contributes.
theorem prepare_onlyFor : prepare (registries.onlyFor image other) env =
    (prepare registries env).map fun prepared =>
      { prepared with plugins := prepared.plugins.map (Plugin.onlyFor image other) } := by
  unfold prepare
  cases env.kubernetes.provider? with
  | none => rfl
  | some block =>
    obtain ⟨id, settings⟩ := block
    have provider : (registries.onlyFor image other).provider id settings =
      registries.provider id settings := rfl
    simp only [provider, buildPlugins_onlyFor]
    rcases registries.provider id settings with e | provider
    · rfl
    rcases buildPlugins registries env.kubernetes.plugins with e | plugins
    · rfl
    simp only [bind, Except.bind, Except.map, allViolations_onlyFor, checkOrder_onlyFor]
    rcases (allViolations env provider plugins).accept with e | warnings
    · rfl
    · cases Plugin.checkOrder plugins <;> rfl

-- Every plugin is shown the image of the run and no other.
theorem contributions_onlyFor (exports : Declared Exports) :
    contributions env image exports (plugins.map (Plugin.onlyFor image other)) =
      contributions env image exports plugins := by
  induction plugins generalizing exports with
  | nil => rfl
  | cons p rest ih =>
    have shown : (p.onlyFor image other).contribute (context env image exports) =
      p.contribute (context env image exports) := if_pos rfl
    simp only [List.map_cons, contributions, shown, ih]
    rfl

theorem assemble_onlyFor (prepared : Prepared) :
    assemble env image
        { prepared with plugins := prepared.plugins.map (Plugin.onlyFor image other) } =
      assemble env image prepared := by
  funext host wire
  simp only [assemble, compose, contributions_onlyFor]

theorem compose_runs (builtin : ∀ p ∈ plugins, Builtin p)
    (composed : compose env image plugins = .ok m) :
    ∀ r ∈ m.resources, r.kind = "Deployment" → r.Runs image := by
  obtain ⟨base, pieces, based, -, rfl⟩ := compose_pieces builtin composed
  intro r member isDeployment
  obtain ⟨d, made, rfl⟩ := made_of_manifest based member
  have kind : d.key.kind = "Deployment" := Resource.withLabels_kind.symm.trans isDeployment
  obtain ⟨app, vars, -, rfl⟩ := made_deployment made kind
  exact ⟨_, (Resource.withLabels_at? (by decide)).trans deployment_containers, rfl⟩

end Assembly

end Rollout
