import Rollout.Proofs.Definition.LastDeclaration

namespace Rollout

open Scope

namespace Kdl.Node

variable {node : Node}

def Leaf (node : Node) : Prop :=
  (∃ type value, node.entries = [⟨none, type, value⟩]) ∧ node.children = none

def Titled (node : Node) : Prop := ∃ id, id ≠ "" ∧ node.entries = [⟨none, none, .string id⟩]

def Bare (node : Node) : Prop := node.entries = []

inductive StrictSetting : Node → Prop where
  | value {node : Node} (leaf : node.Leaf) : StrictSetting node
  | block {node : Node} {nodes : List Node} (children : node.children = some nodes)
      (bare : node.Bare) (inside : ∀ n ∈ nodes, StrictSetting n) : StrictSetting node

def loginFields : List String := ["username", "password", "email"]

structure StrictLogin (node : Node) : Prop where
  bare : node.Bare
  inside : ∀ n ∈ node.nodes, n.name ∈ loginFields ∧ n.Leaf

def dockerFields : List String := ["image_url", "dockerfile", "build_context"]

inductive StrictDockerField (node : Node) : Prop where
  | field (name : node.name ∈ dockerFields) (leaf : node.Leaf)
  | login (name : node.name = "credentials") (login : node.StrictLogin)

structure StrictDocker (node : Node) : Prop where
  bare : node.Bare
  inside : ∀ n ∈ node.nodes, n.StrictDockerField

inductive StrictKubernetesField (node : Node) : Prop where
  | field (name : node.name = "namespace") (leaf : node.Leaf)
  | block (name : node.name = "provider" ∨ node.name = "add_plugin") (titled : node.Titled)
      (inside : ∀ n ∈ node.nodes, n.StrictSetting)

structure StrictKubernetes (node : Node) : Prop where
  bare : node.Bare
  inside : ∀ n ∈ node.nodes, n.StrictKubernetesField

inductive StrictEnvironmentField (node : Node) : Prop where
  | docker (name : node.name = "docker") (docker : node.StrictDocker)
  | kubernetes (name : node.name = "kubernetes") (kubernetes : node.StrictKubernetes)

-- A node of a document of which every part is one that an evaluation looks at.
inductive Strict (node : Node) : Prop where
  | app (name : node.name = "app") (leaf : node.Leaf)
  | environment (name : node.name = "environment") (titled : node.Titled)
      (inside : ∀ n ∈ node.nodes, n.StrictEnvironmentField)

def withoutBlock (node : Node) : Node := { node with children := none }

def withoutEntries (node : Node) : Node := { node with entries := [] }

def mapNodes (f : Node → Node) (node : Node) : Node :=
  { node with children := node.children.map (List.map f) }

@[simp] theorem nodes_mapNodes (f : Node → Node) (node : Node) :
    (node.mapNodes f).nodes = node.nodes.map f := by
  unfold nodes mapNodes
  cases node.children <;> rfl

mutual
-- A block of settings without its properties.
def seenSetting : Node → Node
  | ⟨offset, name, entries, some nodes⟩ =>
    ⟨offset, name, entries.filter fun e => e.name.isNone, some (seenSettings nodes)⟩
  | ⟨offset, name, entries, none⟩ => ⟨offset, name, entries, none⟩
def seenSettings : List Node → List Node
  | [] => []
  | node :: rest => seenSetting node :: seenSettings rest
end

def seenLogin (node : Node) : Node := (node.mapNodes withoutBlock).withoutEntries

def seenDockerField (node : Node) : Node :=
  if node.name = "credentials" then node.seenLogin else node.withoutBlock

def seenDocker (node : Node) : Node := (node.mapNodes seenDockerField).withoutEntries

def seenKubernetesField (node : Node) : Node :=
  if node.name = "namespace" then node.withoutBlock else node.mapNodes seenSetting

def seenKubernetes (node : Node) : Node := (node.mapNodes seenKubernetesField).withoutEntries

def seenEnvironmentField (node : Node) : Node :=
  if node.name = "docker" then node.seenDocker else node.seenKubernetes

-- The part of a node of a document that an evaluation looks at.
def seen (node : Node) : Node :=
  if node.name = "app" then node.withoutBlock else node.mapNodes seenEnvironmentField

theorem seenSettings_map (nodes : List Node) : seenSettings nodes = nodes.map seenSetting := by
  induction nodes with
  | nil => rfl
  | cons node rest ih => rw [seenSettings, ih, List.map_cons]

end Kdl.Node

open Kdl.Node

variable {scope : Scope} {node : Kdl.Node} {nodes : List Kdl.Node}

-- Fields of which only a part is looked at, one after the other.
theorem foldlM_seen {ε β : Type} {f : β → Kdl.Node → Except ε β} {part : Kdl.Node → Kdl.Node}
    (same : ∀ before node, f before (part node) = f before node) (nodes : List Kdl.Node)
    (before : β) : (nodes.map part).foldlM f before = nodes.foldlM f before := by
  rw [List.foldlM_map]
  congr
  funext before node
  exact same before node

mutual
theorem setting_seen : ∀ (scope : Scope) (node : Kdl.Node),
    setting scope (seenSetting node) = setting scope node
  | scope, ⟨offset, name, entries, some nodes⟩ => by
    simp only [seenSetting, setting, Kdl.Node.arguments, List.filter_filter, Bool.and_self,
      settings_seen (scope.within name) [] nodes]
    rfl
  | scope, ⟨offset, name, entries, none⟩ => rfl
theorem settings_seen : ∀ (scope : Scope) (before : Settings) (nodes : List Kdl.Node),
    settings scope before (seenSettings nodes) = settings scope before nodes
  | _, _, [] => rfl
  | scope, before, node :: rest => by
    have name : (seenSetting node).name = node.name := by
      obtain ⟨offset, name, entries, children⟩ := node
      cases children <;> rfl
    simp only [seenSettings, settings, setting_seen scope node, name]
    congr
    funext entry
    exact settings_seen scope _ rest
end

theorem login_seen (scope : Scope) (node : Kdl.Node) :
    scope.login (seenLogin node) = scope.login node := by
  have same : ∀ before field, scope.loginField before (withoutBlock field) =
      scope.loginField before field := fun _ _ => rfl
  have fields := foldlM_seen same node.nodes ⟨none, none, none⟩
  rw [← nodes_mapNodes] at fields
  exact congrArg (· >>= _) fields

theorem dockerField_seen (draft : DockerDraft) (node : Kdl.Node) :
    scope.dockerField draft (seenDockerField node) = scope.dockerField draft node := by
  unfold seenDockerField
  split
  · rename_i name
    have same : (seenLogin node).name = "credentials" := name
    simp only [dockerField, name, same, login_seen]
  · rename_i other
    have same : node.withoutBlock.name = node.name := rfl
    unfold dockerField
    rw [same]
    split
    · rfl
    · rename_i name
      exact absurd name other
    · rfl
    · rfl
    · rfl

theorem docker_seen (scope : Scope) (node : Kdl.Node) :
    scope.docker (seenDocker node) = scope.docker node := by
  have fields := foldlM_seen (f := scope.dockerField) dockerField_seen node.nodes
    ⟨none, none, defaultDockerfile, defaultBuildContext⟩
  rw [← nodes_mapNodes] at fields
  exact congrArg (· >>= _) fields

theorem kubernetesField_seen (draft : KubernetesConfig) (node : Kdl.Node) :
    scope.kubernetesField draft (seenKubernetesField node) = scope.kubernetesField draft node := by
  unfold seenKubernetesField
  split
  · rename_i name
    have same : node.withoutBlock.name = "namespace" := name
    simp only [kubernetesField, name, same]
    rfl
  · have block : ∀ label, (scope.within label).settings [] (node.mapNodes seenSetting).nodes =
        (scope.within label).settings [] node.nodes := by
      intro label
      rw [nodes_mapNodes, ← seenSettings_map, settings_seen]
    simp only [kubernetesField, block]
    rfl

theorem kubernetes_seen (scope : Scope) (node : Kdl.Node) :
    scope.kubernetes (seenKubernetes node) = scope.kubernetes node := by
  have fields := foldlM_seen (f := scope.kubernetesField) kubernetesField_seen node.nodes ⟨none, [], []⟩
  rwa [← nodes_mapNodes] at fields

theorem environmentField_seen (found : Option DockerConfig × Option KubernetesConfig)
    (node : Kdl.Node) :
    scope.environmentField found (seenEnvironmentField node) = scope.environmentField found node := by
  unfold seenEnvironmentField
  split
  · rename_i name
    have same : (seenDocker node).name = "docker" := name
    simp only [environmentField, name, same, docker_seen]
  · rename_i other
    have same : (seenKubernetes node).name = node.name := rfl
    unfold environmentField
    rw [same]
    split
    · rename_i name
      exact absurd name other
    · rw [kubernetes_seen]
    · rfl

theorem environment_seen (scope : Scope) (name : String) (node : Kdl.Node) :
    scope.environment name (node.mapNodes seenEnvironmentField) = scope.environment name node := by
  have fields := foldlM_seen (f := scope.environmentField) environmentField_seen node.nodes (none, none)
  rw [← nodes_mapNodes] at fields
  exact congrArg (· >>= _) fields

theorem topField_seen (draft : Draft) (node : Kdl.Node) :
    scope.topField draft (seen node) = scope.topField draft node := by
  unfold seen
  split
  · rename_i name
    have same : node.withoutBlock.name = "app" := name
    simp only [topField, name, same]
    rfl
  · simp only [topField, environment_seen]
    rfl

theorem document_seen (scope : Scope) (draft : Draft) (nodes : List Kdl.Node) :
    scope.document draft (nodes.map seen) = scope.document draft nodes :=
  foldlM_seen topField_seen nodes draft

theorem foldlM_each {ε β : Type} {f : β → Kdl.Node → Except ε β} {start final : β}
    (ran : nodes.foldlM f start = .ok final) :
    ∀ node ∈ nodes, ∃ before after, f before node = .ok after := by
  refine foldlM_invariant (P := fun nodes _ => ∀ node ∈ nodes, ∃ before after,
    f before node = .ok after) (by simp) ?_ ran
  intro earlier node middle after all read other member
  rcases List.mem_append.mp member with old | new
  · exact all other old
  · obtain rfl := List.mem_singleton.mp new
    exact ⟨middle, after, read⟩

theorem inside_seen {P : Kdl.Node → Prop} (part : Kdl.Node → Kdl.Node)
    (each : ∀ n ∈ node.nodes, P (part n)) : ∀ n ∈ (node.mapNodes part).nodes, P n := by
  rw [nodes_mapNodes]
  exact List.forall_mem_map.mpr each

theorem argument_only {entry : Kdl.Entry} (read : scope.argument node = .ok entry) :
    node.entries = [entry] ∧ entry.name = none := by
  unfold argument at read
  split at read
  · rename_i plain
    have all : node.entries = node.arguments := by
      refine (List.filter_eq_self.mpr fun e member => ?_).symm
      simpa using List.filter_eq_nil_iff.mp (List.isEmpty_iff.mp plain) e member
    split at read
    · rename_i found only
      obtain rfl := Except.ok.inj read
      refine ⟨all.trans only, ?_⟩
      have member : found ∈ node.arguments := by simp [only]
      simpa using (List.mem_filter.mp member).2
    · cases read
    · cases read
  · cases read

theorem scalar_leaf {value : Value} (read : scope.scalar node = .ok value) :
    node.withoutBlock.Leaf := by
  obtain ⟨⟨name, type, value⟩, told, -⟩ := bind_eq_ok.mp read
  obtain ⟨only, rfl⟩ := argument_only told
  exact ⟨⟨type, value, only⟩, rfl⟩

theorem string_leaf {text : String} (read : scope.string node = .ok text) :
    node.withoutBlock.Leaf := by
  obtain ⟨value, told, -⟩ := bind_eq_ok.mp read
  exact scalar_leaf told

theorem identifier_titled {id : String} (read : scope.identifier node = .ok id) :
    node.Titled := by
  obtain ⟨⟨name, type, value⟩, told, read⟩ := bind_eq_ok.mp read
  obtain ⟨only, rfl⟩ := argument_only told
  dsimp only at read
  split at read
  · rename_i text
    split at read
    · cases read
    · rename_i some
      exact ⟨text, fun empty => some (by rw [empty]; rfl), only⟩
  · cases read

mutual
theorem setting_strict : ∀ {scope : Scope} (node : Kdl.Node) {entry : Setting},
    setting scope node = .ok entry → (seenSetting node).StrictSetting
  | scope, ⟨offset, name, entries, some nodes⟩, entry, read => by
    unfold setting at read
    dsimp only at read
    split at read
    · rename_i bare
      cases inner : settings (scope.within name) [] nodes with
      | error e => rw [inner] at read; cases read
      | ok block =>
        exact .block rfl (List.isEmpty_iff.mp bare) (settings_strict nodes inner)
    · cases read
  | scope, ⟨offset, name, entries, none⟩, entry, read => by
    unfold setting at read
    cases leaf : scope.scalar ⟨offset, name, entries, none⟩ with
    | error e => rw [leaf] at read; cases read
    | ok value => exact .value (scalar_leaf leaf)
theorem settings_strict : ∀ {scope : Scope} (nodes : List Kdl.Node) {before after : Settings},
    settings scope before nodes = .ok after → ∀ n ∈ seenSettings nodes, n.StrictSetting
  | _, [], _, _, _ => fun _ member => by cases member
  | scope, node :: rest, before, after, read => by
    unfold settings at read
    obtain ⟨entry, first, read⟩ := bind_eq_ok.mp read
    intro n member
    rcases List.mem_cons.mp member with rfl | later
    · exact setting_strict node first
    · exact settings_strict rest read n later
end

theorem login_strict {login : RegistryLogin} (read : scope.login node = .ok login) :
    (seenLogin node).StrictLogin := by
  obtain ⟨draft, fields, -⟩ := bind_eq_ok.mp read
  refine ⟨rfl, inside_seen withoutBlock fun field inside => ?_⟩
  obtain ⟨before, after, read⟩ := foldlM_each fields field inside
  unfold loginField at read
  split at read
  · rename_i name
    obtain ⟨value, told, -⟩ := bind_eq_ok.mp read
    exact ⟨name ▸ by decide, scalar_leaf told⟩
  · rename_i name
    obtain ⟨value, told, -⟩ := bind_eq_ok.mp read
    exact ⟨name ▸ by decide, scalar_leaf told⟩
  · rename_i name
    obtain ⟨value, told, -⟩ := bind_eq_ok.mp read
    exact ⟨name ▸ by decide, scalar_leaf told⟩
  · cases read

theorem dockerField_strict {before after : DockerDraft}
    (read : scope.dockerField before node = .ok after) :
    (seenDockerField node).StrictDockerField := by
  unfold dockerField at read
  split at read
  · rename_i name
    obtain ⟨text, told, -⟩ := bind_eq_ok.mp read
    rw [seenDockerField, if_neg (by rw [name]; decide)]
    exact .field (name ▸ by decide) (string_leaf told)
  · rename_i name
    obtain ⟨login, told, -⟩ := bind_eq_ok.mp read
    rw [seenDockerField, if_pos name]
    exact .login name (login_strict told)
  · rename_i name
    obtain ⟨text, told, -⟩ := bind_eq_ok.mp read
    rw [seenDockerField, if_neg (by rw [name]; decide)]
    exact .field (name ▸ by decide) (string_leaf told)
  · rename_i name
    obtain ⟨text, told, -⟩ := bind_eq_ok.mp read
    rw [seenDockerField, if_neg (by rw [name]; decide)]
    exact .field (name ▸ by decide) (string_leaf told)
  · cases read

theorem docker_strict {docker : DockerConfig} (read : scope.docker node = .ok docker) :
    (seenDocker node).StrictDocker := by
  obtain ⟨draft, fields, -⟩ := bind_eq_ok.mp read
  refine ⟨rfl, inside_seen seenDockerField fun field inside => ?_⟩
  obtain ⟨before, after, read⟩ := foldlM_each fields field inside
  exact dockerField_strict read

theorem block_strict {label : String} {settings : Settings}
    (read : (scope.within label).settings [] node.nodes = .ok settings) :
    ∀ n ∈ (node.mapNodes seenSetting).nodes, n.StrictSetting := by
  rw [nodes_mapNodes, ← seenSettings_map]
  exact settings_strict node.nodes read

theorem kubernetesField_strict {before after : KubernetesConfig}
    (read : scope.kubernetesField before node = .ok after) :
    (seenKubernetesField node).StrictKubernetesField := by
  unfold kubernetesField at read
  split at read
  · rename_i name
    obtain ⟨text, told, -⟩ := bind_eq_ok.mp read
    rw [seenKubernetesField, if_pos name]
    exact .field name (string_leaf told)
  · rename_i name
    obtain ⟨id, called, read⟩ := bind_eq_ok.mp read
    obtain ⟨block, told, -⟩ := bind_eq_ok.mp read
    rw [seenKubernetesField, if_neg (by rw [name]; decide)]
    exact .block (.inl name) (identifier_titled called) (block_strict told)
  · rename_i name
    obtain ⟨id, called, read⟩ := bind_eq_ok.mp read
    obtain ⟨block, told, -⟩ := bind_eq_ok.mp read
    rw [seenKubernetesField, if_neg (by rw [name]; decide)]
    exact .block (.inr name) (identifier_titled called) (block_strict told)
  · cases read

theorem kubernetes_strict {k : KubernetesConfig} (read : scope.kubernetes node = .ok k) :
    (seenKubernetes node).StrictKubernetes := by
  refine ⟨rfl, inside_seen seenKubernetesField fun field inside => ?_⟩
  obtain ⟨before, after, read⟩ := foldlM_each read field inside
  exact kubernetesField_strict read

theorem environmentField_strict {before after : Option DockerConfig × Option KubernetesConfig}
    (read : scope.environmentField before node = .ok after) :
    (seenEnvironmentField node).StrictEnvironmentField := by
  unfold environmentField at read
  split at read
  · rename_i name
    obtain ⟨docker, told, -⟩ := bind_eq_ok.mp read
    rw [seenEnvironmentField, if_pos name]
    exact .docker name (docker_strict told)
  · rename_i name
    obtain ⟨k, told, -⟩ := bind_eq_ok.mp read
    rw [seenEnvironmentField, if_neg (by rw [name]; decide)]
    exact .kubernetes name (kubernetes_strict told)
  · cases read

theorem topField_strict {before after : Draft} (read : scope.topField before node = .ok after) :
    (seen node).Strict := by
  unfold topField at read
  split at read
  · rename_i name
    obtain ⟨text, told, -⟩ := bind_eq_ok.mp read
    rw [seen, if_pos name]
    exact .app name (string_leaf told)
  · rename_i name
    obtain ⟨id, called, read⟩ := bind_eq_ok.mp read
    obtain ⟨draft, told, -⟩ := bind_eq_ok.mp read
    obtain ⟨found, fields, -⟩ := bind_eq_ok.mp told
    rw [seen, if_neg (by rw [name]; decide)]
    refine .environment name (identifier_titled called)
      (inside_seen seenEnvironmentField fun field inside => ?_)
    obtain ⟨before, after, read⟩ := foldlM_each fields field inside
    exact environmentField_strict read
  · split at read <;> cases read

theorem document_strict {before after : Draft} (read : scope.document before nodes = .ok after) :
    ∀ node ∈ nodes, (seen node).Strict := by
  intro node member
  obtain ⟨before, after, read⟩ := foldlM_each read node member
  exact topField_strict read

namespace Kdl.Node

theorem Leaf.whole (leaf : node.Leaf) : node.withoutBlock = node := by
  obtain ⟨offset, name, entries, children⟩ := node
  obtain ⟨-, rfl⟩ := leaf
  rfl

theorem Bare.whole (bare : node.Bare) : node.withoutEntries = node := by
  obtain ⟨offset, name, entries, children⟩ := node
  obtain rfl : entries = [] := bare
  rfl

theorem mapNodes_whole {part : Node → Node} (each : ∀ n ∈ node.nodes, part n = n) :
    node.mapNodes part = node := by
  obtain ⟨offset, name, entries, children⟩ := node
  cases children with
  | none => rfl
  | some nodes =>
    have same : nodes.map part = nodes := (List.map_congr_left each).trans (List.map_id nodes)
    simp [mapNodes, same]

theorem StrictSetting.whole (strict : node.StrictSetting) : node.seenSetting = node := by
  induction strict with
  | @value node leaf =>
    obtain ⟨offset, name, entries, children⟩ := node
    obtain ⟨-, rfl⟩ := leaf
    rfl
  | @block node nodes children bare inside ih =>
    obtain ⟨offset, name, entries, _⟩ := node
    obtain rfl : entries = [] := bare
    obtain rfl := children
    have same : nodes.map seenSetting = nodes := (List.map_congr_left ih).trans (List.map_id nodes)
    simp [seenSetting, seenSettings_map, same]

theorem StrictLogin.whole (strict : node.StrictLogin) : node.seenLogin = node := by
  have fields : node.mapNodes withoutBlock = node :=
    mapNodes_whole fun n member => (strict.inside n member).2.whole
  rw [seenLogin, fields, strict.bare.whole]

theorem StrictDockerField.whole (strict : node.StrictDockerField) :
    node.seenDockerField = node := by
  unfold seenDockerField
  cases strict with
  | field name leaf =>
    rw [if_neg fun same => by rw [same] at name; revert name; decide]
    exact leaf.whole
  | login name login => rw [if_pos name, login.whole]

theorem StrictDocker.whole (strict : node.StrictDocker) : node.seenDocker = node := by
  have fields : node.mapNodes seenDockerField = node :=
    mapNodes_whole fun n member => (strict.inside n member).whole
  rw [seenDocker, fields, strict.bare.whole]

theorem StrictKubernetesField.whole (strict : node.StrictKubernetesField) :
    node.seenKubernetesField = node := by
  unfold seenKubernetesField
  cases strict with
  | field name leaf => rw [if_pos name, leaf.whole]
  | block name titled inside =>
    rw [if_neg fun same => by rw [same] at name; revert name; decide]
    exact mapNodes_whole fun n member => (inside n member).whole

theorem StrictKubernetes.whole (strict : node.StrictKubernetes) : node.seenKubernetes = node := by
  have fields : node.mapNodes seenKubernetesField = node :=
    mapNodes_whole fun n member => (strict.inside n member).whole
  rw [seenKubernetes, fields, strict.bare.whole]

theorem StrictEnvironmentField.whole (strict : node.StrictEnvironmentField) :
    node.seenEnvironmentField = node := by
  unfold seenEnvironmentField
  cases strict with
  | docker name docker => rw [if_pos name, docker.whole]
  | kubernetes name kubernetes => rw [if_neg (by rw [name]; decide), kubernetes.whole]

theorem Strict.whole (strict : node.Strict) : node.seen = node := by
  unfold seen
  cases strict with
  | app name leaf => rw [if_pos name, leaf.whole]
  | environment name titled inside =>
    rw [if_neg (by rw [name]; decide)]
    exact mapNodes_whole fun n member => (inside n member).whole

end Kdl.Node

namespace Definition

variable {lookup : SecretLookup} {d : Definition}

-- A document of which only the parts that are looked at are left means the same, and they are those
-- of a strict document. So a document is strict if nothing of it is left out.
theorem ofSources_seen {sources : List Source} (evaluated : ofSources lookup sources = .ok d) :
    ∃ documents : List (List Kdl.Node),
      sources.map (fun source => Kdl.parse? source.text) = documents.map some ∧
      (∀ nodes ∈ documents, ∀ node ∈ nodes, node.seen.Strict ∧ (node.Strict ↔ node.seen = node)) ∧
      ∀ nodes ∈ documents, ∀ (scope : Scope) (draft : Draft),
        scope.document draft (nodes.map seen) = scope.document draft nodes := by
  obtain ⟨documents, draft, parsed, read, -⟩ := ofSources_document evaluated
  refine ⟨documents, parsed, ?_, fun nodes _ scope draft => document_seen scope draft nodes⟩
  intro nodes member node inside
  have strict := document_strict read node (List.mem_flatten.mpr ⟨nodes, member, inside⟩)
  exact ⟨strict, Strict.whole, fun same => same ▸ strict⟩

-- Everything that an evaluation leaves out: a block behind a field, an argument and a property of a
-- block without a title, and a property of a block of settings.
def strayText : String :=
  "app \"shop\" \x7bcolour \"blue\"\x7d
environment \"dev\" \x7bdocker \"v2\" tag=\"v2\" \x7bimage_url \"w\"\x7d
kubernetes \x7bprovider \"a\" \x7bregion kind=\"x\" \x7bzone 1\x7d\x7d\x7d\x7d"

def tidyText : String :=
  "app \"shop\"
environment \"dev\" \x7bdocker \x7bimage_url \"w\"\x7d
kubernetes \x7bprovider \"a\" \x7bregion \x7bzone 1\x7d\x7d\x7d\x7d"

-- What of a text counts for what is deployed.
def deployment (text : String) : Option (String × Declared Environment) :=
  (ofSources (fun _ => .ok ⟨""⟩) [⟨none, text⟩]).toOption.map fun d => (d.app, d.environments)

theorem tidy_seen : ∃ d, ofSources (fun _ => .ok ⟨""⟩) [⟨none, tidyText⟩] = .ok d ∧
    ∃ documents : List (List Kdl.Node), [Kdl.parse? tidyText] = documents.map some ∧
      (∀ nodes ∈ documents, ∀ node ∈ nodes, node.seen.Strict ∧ (node.Strict ↔ node.seen = node)) ∧
      ∀ nodes ∈ documents, ∀ (scope : Scope) (draft : Draft),
        scope.document draft (nodes.map seen) = scope.document draft nodes := by
  have succeeds : (deployment tidyText).isSome = true := by decide +kernel
  unfold deployment at succeeds
  cases evaluated : ofSources (fun _ => .ok ⟨""⟩) [⟨none, tidyText⟩] with
  | error e => rw [evaluated] at succeeds; cases succeeds
  | ok d => exact ⟨d, rfl, ofSources_seen evaluated⟩

theorem stray_accepted : (deployment strayText).isSome = true ∧
    deployment strayText = deployment tidyText ∧
    ∃ nodes, Kdl.parse? strayText = some nodes ∧ ¬ ∀ node ∈ nodes, node.Strict := by
  have accepted : (deployment strayText).isSome = true ∧
      deployment strayText = deployment tidyText := by decide +kernel
  refine ⟨accepted.1, accepted.2, ?_⟩
  have shape : (Kdl.parse? strayText).map (fun nodes => nodes.map fun n =>
      (n.name, n.children.isSome)) = some [("app", true), ("environment", true)] := by
    decide +kernel
  cases parsed : Kdl.parse? strayText with
  | none => rw [parsed] at shape; cases shape
  | some nodes =>
    rw [parsed] at shape
    refine ⟨nodes, rfl, fun strict => ?_⟩
    cases nodes with
    | nil => cases shape
    | cons node rest =>
      obtain ⟨named, blocked⟩ := Prod.mk.inj (List.cons.inj (Option.some.inj shape)).1
      cases strict node (by simp) with
      | app name leaf => rw [leaf.2] at blocked; cases blocked
      | environment name => rw [name] at named; revert named; decide

end Definition

end Rollout
