import Rollout.Proofs.Definition.LastDeclaration

namespace Rollout

open Scope

def Value.references : Value → List (String × Secret)
  | .secret key value => [(key, value)]
  | _ => []

namespace Setting

mutual
def references : Setting → List (String × Secret)
  | .value v => v.references
  | .block entries => entriesReferences entries
def entriesReferences : List (String × Setting) → List (String × Secret)
  | [] => []
  | (_, setting) :: rest => references setting ++ entriesReferences rest
end

end Setting

def RegistryLogin.references (login : RegistryLogin) : List (String × Secret) :=
  login.username.references ++ login.password.references ++ login.email.references

def blocksReferences (blocks : Declared Settings) : List (String × Secret) :=
  blocks.flatMap fun (_, settings) => Setting.entriesReferences settings

def DockerConfig.references (docker : DockerConfig) : List (String × Secret) :=
  docker.login.toList.flatMap RegistryLogin.references

def KubernetesConfig.references (k : KubernetesConfig) : List (String × Secret) :=
  blocksReferences k.providers ++ blocksReferences k.plugins

def Environment.references (env : Environment) : List (String × Secret) :=
  env.docker.references ++ env.kubernetes.references

def Definition.references (d : Definition) : List (String × Secret) :=
  d.environments.flatMap fun (_, env) => env.references

def Answered (lookup : SecretLookup) (references : List (String × Secret)) : Prop :=
  ∀ r ∈ references, lookup r.1 = .ok r.2

theorem Answered.append {lookup : SecretLookup} {first second : List (String × Secret)}
    (here : Answered lookup first) (there : Answered lookup second) :
    Answered lookup (first ++ second) := by
  intro r member
  rcases List.mem_append.mp member with first | second
  · exact here r first
  · exact there r second

theorem Answered.nil (lookup : SecretLookup) : Answered lookup [] := by
  intro r member
  cases member

variable {lookup : SecretLookup} {scope : Scope} {node : Kdl.Node} {nodes : List Kdl.Node}

namespace Declared

variable {α : Type} {name : String} {value : α} {entries : Declared α} {entry : String × α}

theorem mem_put (member : entry ∈ put name value entries) :
    entry = (name, value) ∨ entry ∈ entries := by
  induction entries with
  | nil => exact .inl (List.mem_singleton.mp member)
  | cons first rest ih =>
    obtain ⟨k, v⟩ := first
    unfold put at member
    split at member
    · rcases List.mem_cons.mp member with rfl | later
      · exact .inl rfl
      · exact .inr (List.mem_cons_of_mem _ later)
    · rcases List.mem_cons.mp member with rfl | later
      · exact .inr List.mem_cons_self
      · exact (ih later).imp_right (List.mem_cons_of_mem _)

theorem mem_putLast (member : entry ∈ putLast name value entries) :
    entry = (name, value) ∨ entry ∈ entries := by
  rcases List.mem_append.mp member with kept | last
  · exact .inr (List.mem_filter.mp kept).1
  · exact .inl (List.mem_singleton.mp last)

end Declared

theorem Setting.entriesReferences_eq (entries : List (String × Setting)) :
    entriesReferences entries = entries.flatMap fun (_, setting) => references setting := by
  induction entries with
  | nil => rfl
  | cons entry rest ih =>
    rw [entriesReferences, ih]
    rfl

theorem Answered.put {name : String} {setting : Setting} {entries : Declared Setting}
    (here : Answered lookup setting.references)
    (there : Answered lookup (Setting.entriesReferences entries)) :
    Answered lookup (Setting.entriesReferences (Declared.put name setting entries)) := by
  rw [Setting.entriesReferences_eq] at there ⊢
  intro r member
  obtain ⟨entry, inEntries, inEntry⟩ := List.mem_flatMap.mp member
  rcases Declared.mem_put inEntries with rfl | old
  · exact here r inEntry
  · exact there r (List.mem_flatMap.mpr ⟨entry, old, inEntry⟩)

theorem Answered.putLast {id : String} {settings : Settings} {blocks : Declared Settings}
    (here : Answered lookup (Setting.entriesReferences settings))
    (there : Answered lookup (blocksReferences blocks)) :
    Answered lookup (blocksReferences (Declared.putLast id settings blocks)) := by
  intro r member
  obtain ⟨block, inBlocks, inBlock⟩ := List.mem_flatMap.mp member
  rcases Declared.mem_putLast inBlocks with rfl | old
  · exact here r inBlock
  · exact there r (List.mem_flatMap.mpr ⟨block, old, inBlock⟩)

theorem value_answered {entry : Kdl.Entry} {v : Value} (read : scope.value node entry = .ok v) :
    Answered scope.lookup v.references := by
  unfold Scope.value at read
  split at read
  · split at read
    · split at read
      · rename_i key _
        cases found : scope.lookup key with
        | error e => rw [found] at read; cases read
        | ok secret =>
          rw [found] at read
          obtain rfl := Except.ok.inj read
          intro r member
          obtain rfl := List.mem_singleton.mp member
          exact found
      · cases read
    · cases read
  · split at read
    · obtain rfl := Except.ok.inj read
      exact .nil _
    · obtain rfl := Except.ok.inj read
      exact .nil _
    · split at read
      · obtain rfl := Except.ok.inj read
        exact .nil _
      · cases read
    · cases read

theorem scalar_answered {v : Value} (read : scope.scalar node = .ok v) :
    Answered scope.lookup v.references := by
  obtain ⟨entry, -, read⟩ := bind_eq_ok.mp read
  exact value_answered read

mutual
theorem setting_answered : ∀ {scope : Scope} (node : Kdl.Node) {entry : Setting},
    setting scope node = .ok entry → Answered scope.lookup entry.references
  | scope, ⟨offset, name, entries, some nodes⟩, entry, read => by
    unfold setting at read
    dsimp only at read
    split at read
    · cases inner : settings (scope.within name) [] nodes with
      | error e => rw [inner] at read; cases read
      | ok block =>
        rw [inner] at read
        obtain rfl := Except.ok.inj read
        have answered : Answered (scope.within name).lookup (Setting.entriesReferences block) :=
          settings_answered nodes inner (.nil _)
        exact answered
    · cases read
  | scope, ⟨offset, name, entries, none⟩, entry, read => by
    unfold setting at read
    cases leaf : scope.scalar ⟨offset, name, entries, none⟩ with
    | error e => rw [leaf] at read; cases read
    | ok v =>
      rw [leaf] at read
      obtain rfl := Except.ok.inj read
      exact scalar_answered leaf
theorem settings_answered : ∀ {scope : Scope} (nodes : List Kdl.Node) {before after : Settings},
    settings scope before nodes = .ok after →
      Answered scope.lookup (Setting.entriesReferences before) →
        Answered scope.lookup (Setting.entriesReferences after)
  | _, [], _, _, read, answered => by
    unfold settings at read
    obtain rfl := Except.ok.inj read
    exact answered
  | scope, node :: rest, before, after, read, answered => by
    unfold settings at read
    obtain ⟨entry, first, read⟩ := bind_eq_ok.mp read
    exact settings_answered rest read ((setting_answered node first).put answered)
end

def draftReferences (draft : LoginDraft) : List (String × Secret) :=
  (draft.username.toList ++ draft.password.toList ++ draft.email.toList).flatMap Value.references

theorem loginField_answered {before after : LoginDraft}
    (read : scope.loginField before node = .ok after)
    (answered : Answered scope.lookup (draftReferences before)) :
    Answered scope.lookup (draftReferences after) := by
  obtain ⟨username, password, email⟩ := before
  simp only [draftReferences, List.flatMap_append] at answered ⊢
  have first : Answered scope.lookup (username.toList.flatMap Value.references) := by
    intro r member
    exact answered r (by simp [member])
  have second : Answered scope.lookup (password.toList.flatMap Value.references) := by
    intro r member
    exact answered r (by simp [member])
  have third : Answered scope.lookup (email.toList.flatMap Value.references) := by
    intro r member
    exact answered r (by simp [member])
  have alone : ∀ v : Value, scope.scalar node = .ok v →
      Answered scope.lookup ((some v).toList.flatMap Value.references) := by
    intro v told
    simpa using scalar_answered told
  unfold loginField at read
  split at read
  · obtain ⟨v, told, read⟩ := bind_eq_ok.mp read
    obtain rfl := Except.ok.inj read
    exact ((alone v told).append second).append third
  · obtain ⟨v, told, read⟩ := bind_eq_ok.mp read
    obtain rfl := Except.ok.inj read
    exact (first.append (alone v told)).append third
  · obtain ⟨v, told, read⟩ := bind_eq_ok.mp read
    obtain rfl := Except.ok.inj read
    exact (first.append second).append (alone v told)
  · cases read

theorem login_answered {login : RegistryLogin} (read : scope.login node = .ok login) :
    Answered scope.lookup login.references := by
  obtain ⟨draft, fields, read⟩ := bind_eq_ok.mp read
  obtain ⟨username, first, read⟩ := bind_eq_ok.mp read
  obtain ⟨password, second, read⟩ := bind_eq_ok.mp read
  obtain ⟨email, third, read⟩ := bind_eq_ok.mp read
  obtain rfl := Except.ok.inj read
  have answered : Answered scope.lookup (draftReferences draft) :=
    foldlM_invariant (P := fun _ draft => Answered scope.lookup (draftReferences draft)) (.nil _)
      (fun _ _ _ _ before read => loginField_answered read before) fields
  simpa [draftReferences, required_ok first, required_ok second, required_ok third,
    RegistryLogin.references] using answered

-- An image block was read: its image from a text, its login with a lookup.
structure DockerConfig.Sourced (lookup : SecretLookup) (docker : DockerConfig) : Prop where
  image : ∃ text, Image.parse text = .ok docker.image
  answered : Answered lookup docker.references

-- The parts of an image block that were read so far.
structure DockerPart (lookup : SecretLookup) (draft : DockerDraft) : Prop where
  image : ∀ image, draft.image = some image → ∃ text, Image.parse text = .ok image
  answered : Answered lookup (draft.login.toList.flatMap RegistryLogin.references)

theorem dockerField_part {before after : DockerDraft}
    (read : scope.dockerField before node = .ok after) (part : DockerPart scope.lookup before) :
    DockerPart scope.lookup after := by
  unfold dockerField at read
  split at read
  · obtain ⟨text, -, read⟩ := bind_eq_ok.mp read
    split at read
    · rename_i image parsed
      obtain rfl := Except.ok.inj read
      refine ⟨?_, part.answered⟩
      intro same told
      obtain rfl := Option.some.inj told
      exact ⟨text, parsed⟩
    · cases read
  · obtain ⟨login, told, read⟩ := bind_eq_ok.mp read
    obtain rfl := Except.ok.inj read
    refine ⟨part.image, ?_⟩
    have answered : Answered (scope.within "credentials").lookup login.references :=
      login_answered told
    change Answered scope.lookup ((some login).toList.flatMap RegistryLogin.references)
    rw [Option.toList_some, List.flatMap_singleton]
    exact answered
  · obtain ⟨text, -, read⟩ := bind_eq_ok.mp read
    obtain rfl := Except.ok.inj read
    exact ⟨part.image, part.answered⟩
  · obtain ⟨text, -, read⟩ := bind_eq_ok.mp read
    obtain rfl := Except.ok.inj read
    exact ⟨part.image, part.answered⟩
  · cases read

theorem docker_sourced {docker : DockerConfig} (read : scope.docker node = .ok docker) :
    docker.Sourced scope.lookup := by
  obtain ⟨draft, fields, read⟩ := bind_eq_ok.mp read
  obtain ⟨image, found, read⟩ := bind_eq_ok.mp read
  obtain rfl := Except.ok.inj read
  have nothing : DockerPart scope.lookup ⟨none, none, defaultDockerfile, defaultBuildContext⟩ :=
    ⟨by simp, .nil _⟩
  have part : DockerPart scope.lookup draft :=
    foldlM_invariant (P := fun _ draft => DockerPart scope.lookup draft) nothing
      (fun _ _ _ _ before read => dockerField_part read before) fields
  exact ⟨part.image image (required_ok found), part.answered⟩

theorem block_answered {label : String} {settings : Settings}
    (read : (scope.within label).settings [] nodes = .ok settings) :
    Answered scope.lookup (Setting.entriesReferences settings) := by
  have answered : Answered (scope.within label).lookup (Setting.entriesReferences settings) :=
    settings_answered nodes read (.nil _)
  exact answered

theorem kubernetesField_answered {before after : KubernetesConfig}
    (read : scope.kubernetesField before node = .ok after)
    (answered : Answered scope.lookup before.references) :
    Answered scope.lookup after.references := by
  have providers : Answered scope.lookup (blocksReferences before.providers) :=
    fun r member => answered r (List.mem_append_left _ member)
  have plugins : Answered scope.lookup (blocksReferences before.plugins) :=
    fun r member => answered r (List.mem_append_right _ member)
  unfold kubernetesField at read
  split at read
  · obtain ⟨text, -, read⟩ := bind_eq_ok.mp read
    obtain rfl := Except.ok.inj read
    exact answered
  · obtain ⟨id, -, read⟩ := bind_eq_ok.mp read
    obtain ⟨block, told, read⟩ := bind_eq_ok.mp read
    obtain rfl := Except.ok.inj read
    exact (Answered.putLast (block_answered told) providers).append plugins
  · obtain ⟨id, -, read⟩ := bind_eq_ok.mp read
    obtain ⟨block, told, read⟩ := bind_eq_ok.mp read
    obtain rfl := Except.ok.inj read
    exact providers.append (Answered.putLast (block_answered told) plugins)
  · cases read

theorem kubernetes_answered {k : KubernetesConfig} (read : scope.kubernetes node = .ok k) :
    Answered scope.lookup k.references :=
  foldlM_invariant (P := fun _ k => Answered scope.lookup k.references) (.nil _)
    (fun _ _ _ _ before read => kubernetesField_answered read before) read

-- The image of an environment was read from a text, and its secrets are the lookup's answers.
structure Environment.Sourced (lookup : SecretLookup) (env : Environment) : Prop where
  docker : env.docker.Sourced lookup
  kubernetes : Answered lookup env.kubernetes.references

theorem Environment.Sourced.answered {env : Environment} (sourced : env.Sourced lookup) :
    Answered lookup env.references :=
  sourced.docker.answered.append sourced.kubernetes

def Scope.Draft.Sourced (lookup : SecretLookup) (draft : Draft) : Prop :=
  ∀ entry ∈ draft.environments, ∀ app, (deployed app entry.2).Sourced lookup

theorem topField_sourced {before after : Draft} (read : scope.topField before node = .ok after)
    (sourced : before.Sourced scope.lookup) : after.Sourced scope.lookup := by
  obtain ⟨-, text, -, rfl⟩ | ⟨-, entry, -, told, rfl⟩ := topField_cases read
  · exact sourced
  · intro other member app
    rcases Declared.mem_put member with rfl | old
    · obtain ⟨-, docker, kubernetes⟩ := environment_read told
      obtain ⟨block, -, docker⟩ := docker.found
      obtain ⟨block', -, kubernetes⟩ := kubernetes.found
      have first : entry.2.docker.Sourced (plain scope.lookup).lookup := docker_sourced docker
      have second : Answered (plain scope.lookup).lookup entry.2.kubernetes.references :=
        kubernetes_answered kubernetes
      exact ⟨first, second⟩
    · exact sourced other old app

theorem document_sourced {before after : Draft} (read : scope.document before nodes = .ok after)
    (sourced : before.Sourced scope.lookup) : after.Sourced scope.lookup :=
  foldlM_invariant (P := fun _ draft => draft.Sourced scope.lookup) sourced
    (fun _ _ _ _ before read => topField_sourced read before) read

namespace Definition

variable {d : Definition} {before after : Draft}

-- A definition whose every environment was read with one lookup.
def Sourced (lookup : SecretLookup) (d : Definition) : Prop :=
  ∀ entry ∈ d.environments, entry.2.Sourced lookup

theorem Sourced.answered (sourced : d.Sourced lookup) : Answered lookup d.references := by
  intro r member
  obtain ⟨entry, inDefinition, inEntry⟩ := List.mem_flatMap.mp member
  exact (sourced entry inDefinition).answered r inEntry

theorem addSource_sourced {source : Source} (added : addSource lookup before source = .ok after)
    (sourced : before.Sourced lookup) : after.Sourced lookup := by
  unfold addSource at added
  split at added
  · cases added
  · exact document_sourced added sourced

theorem addFile_sourced {host : Host} {path : String}
    (added : addFile lookup host before path = .ok after) (sourced : before.Sourced lookup) :
    after.Sourced lookup := by
  unfold addFile at added
  split at added
  · split at added
    · exact addSource_sourced added sourced
    · cases added
  · cases added

theorem empty_sourced (lookup : SecretLookup) : Draft.empty.Sourced lookup := by
  intro entry member
  cases member

theorem finish_sourced {draft : Draft} (finished : draft.finish = .ok d)
    (sourced : draft.Sourced lookup) : d.Sourced lookup := by
  intro entry member
  rw [(finish_parts finished).2] at member
  obtain ⟨drafted, inDraft, rfl⟩ := List.mem_map.mp member
  exact sourced drafted inDraft d.app

theorem ofSources_sourced {sources : List Source} (evaluated : ofSources lookup sources = .ok d) :
    d.Sourced lookup := by
  obtain ⟨draft, added, finished⟩ := bind_eq_ok.mp evaluated
  exact finish_sourced finished
    (foldlM_invariant (P := fun _ draft => draft.Sourced lookup) (empty_sourced lookup)
      (fun _ _ _ _ before added => addSource_sourced added before) added)

theorem ofFiles_sourced {host : Host} {paths : List String}
    (evaluated : ofFiles lookup host paths = .ok d) : d.Sourced lookup := by
  obtain ⟨draft, added, finished⟩ := bind_eq_ok.mp evaluated
  exact finish_sourced finished
    (foldlM_invariant (P := fun _ draft => draft.Sourced lookup) (empty_sourced lookup)
      (fun _ _ _ _ before added => addFile_sourced added before) added)

end Definition

end Rollout
