import Rollout.Proofs.Definition.Agreement
import Rollout.Proofs.Definition.Layers

namespace Rollout

open Scope

namespace Kdl

def named (name : String) (nodes : List Node) : List Node := nodes.filter fun node => node.name = name

def last? (name : String) (nodes : List Node) : Option Node := (named name nodes).getLast?

variable {name : String} {nodes : List Node} {node : Node}

theorem named_snoc (name : String) (nodes : List Node) (node : Node) :
    named name (nodes ++ [node]) =
      if node.name = name then named name nodes ++ [node] else named name nodes := by
  by_cases here : node.name = name <;> simp [named, here]

theorem last?_snoc (name : String) (nodes : List Node) (node : Node) :
    last? name (nodes ++ [node]) = if node.name = name then some node else last? name nodes := by
  by_cases here : node.name = name <;> simp [last?, named_snoc, here]

theorem last?_name (found : last? name nodes = some node) : node.name = name := by
  have member := List.mem_of_getLast? found
  simpa using (List.mem_filter.mp member).2

end Kdl

open Kdl

variable {lookup : SecretLookup} {scope : Scope} {node title : Kdl.Node} {nodes : List Kdl.Node}
variable {α : Type}

-- What the node that counts gives, if there is one.
inductive Reads (read : Kdl.Node → Except Error α) : Option Kdl.Node → Option α → Prop where
  | absent : Reads read none none
  | present {node : Kdl.Node} {a : α} (ok : read node = .ok a) : Reads read (some node) (some a)

mutual
-- A setting that is read from a node: in a block each name has its first place and its last value.
inductive SettingRead (lookup : SecretLookup) : Kdl.Node → Setting → Prop where
  | value {node : Kdl.Node} {v : Value} (leaf : node.children = none)
      (read : (plain lookup).scalar node = .ok v) : SettingRead lookup node (.value v)
  | block {node : Kdl.Node} {nodes : List Kdl.Node} {declared : List (String × Setting)}
      {settings : Settings} (children : node.children = some nodes) (bare : node.arguments = [])
      (read : EntriesRead lookup nodes declared)
      (layers : Layers List.eraseDups declared settings) :
      SettingRead lookup node (.block settings)
inductive EntriesRead (lookup : SecretLookup) : List Kdl.Node → List (String × Setting) → Prop where
  | nil : EntriesRead lookup [] []
  | cons {node : Kdl.Node} {nodes : List Kdl.Node} {entry : Setting}
      {declared : List (String × Setting)} (first : SettingRead lookup node entry)
      (rest : EntriesRead lookup nodes declared) :
      EntriesRead lookup (node :: nodes) ((node.name, entry) :: declared)
end

def SettingsRead (lookup : SecretLookup) (nodes : List Kdl.Node) (settings : Settings) : Prop :=
  ∃ declared, EntriesRead lookup nodes declared ∧ Layers List.eraseDups declared settings

-- A provider or plugin: its id and its settings.
structure BlockRead (lookup : SecretLookup) (node : Kdl.Node) (entry : String × Settings) :
    Prop where
  id : (plain lookup).identifier node = .ok entry.1
  settings : SettingsRead lookup node.nodes entry.2

structure KubernetesRead (lookup : SecretLookup) (nodes : List Kdl.Node) (k : KubernetesConfig) :
    Prop where
  namespaceName : Reads (plain lookup).string (last? "namespace" nodes) k.namespaceName
  providers : ∃ declared, List.Forall₂ (BlockRead lookup) (named "provider" nodes) declared ∧
    Layers List.dedup declared k.providers
  plugins : ∃ declared, List.Forall₂ (BlockRead lookup) (named "add_plugin" nodes) declared ∧
    Layers List.dedup declared k.plugins
  active : Reads (plain lookup).identifier (last? "provider" nodes)
    (k.provider?.map Prod.fst)

-- A declaration of an environment, of which its last blocks count. `title` names the application.
structure EnvironmentRead (lookup : SecretLookup) (title : Kdl.Node) (app : String)
    (node : Kdl.Node) (entry : String × Environment) : Prop where
  id : (plain lookup).identifier node = .ok entry.1
  name : entry.2.name = entry.1
  copied : entry.2.app = app
  -- Nothing but the declaration itself and the name of the application has a part in it.
  alone : ((plain lookup).document .empty [title, node] >>= Draft.finish) = .ok ⟨app, [entry]⟩
  docker : Reads (plain lookup).docker (last? "docker" node.nodes) (some entry.2.docker)
  kubernetes : ∃ block, last? "kubernetes" node.nodes = some block ∧
    (plain lookup).kubernetes block = .ok entry.2.kubernetes ∧
    KubernetesRead lookup block.nodes entry.2.kubernetes

structure Layered (lookup : SecretLookup) (nodes : List Kdl.Node) (title : Kdl.Node)
    (d : Definition) : Prop where
  titled : last? "app" nodes = some title
  app : (plain lookup).string title = .ok d.app
  copied : ∀ entry ∈ d.environments, entry.2.app = d.app
  environments : ∃ declared,
    List.Forall₂ (EnvironmentRead lookup title d.app) (named "environment" nodes) declared ∧
      Layers List.eraseDups declared d.environments

theorem plain_lookup (scope : Scope) : scope.lookup = (plain scope.lookup).lookup := rfl

theorem within_lookup (scope : Scope) (label : String) :
    (scope.within label).lookup = (plain scope.lookup).lookup := rfl

mutual
theorem setting_read : ∀ {scope : Scope} (node : Kdl.Node) {entry : Setting},
    setting scope node = .ok entry → SettingRead scope.lookup node entry
  | scope, ⟨offset, name, entries, some nodes⟩, entry, read => by
    unfold setting at read
    dsimp only at read
    split at read
    · rename_i bare
      cases inner : settings (scope.within name) [] nodes with
      | error e => rw [inner] at read; cases read
      | ok block =>
        rw [inner] at read
        obtain rfl := Except.ok.inj read
        obtain ⟨declared, told, rfl⟩ := settings_read nodes inner
        exact .block rfl (List.isEmpty_iff.mp bare) told (Declared.layers_put declared)
    · cases read
  | scope, ⟨offset, name, entries, none⟩, entry, read => by
    unfold setting at read
    cases leaf : scope.scalar ⟨offset, name, entries, none⟩ with
    | error e => rw [leaf] at read; cases read
    | ok v =>
      rw [leaf] at read
      obtain rfl := Except.ok.inj read
      exact .value rfl (scalar_agrees (plain_lookup scope) _ v leaf)
theorem settings_read : ∀ {scope : Scope} (nodes : List Kdl.Node) {before after : Settings},
    settings scope before nodes = .ok after →
      ∃ declared, EntriesRead scope.lookup nodes declared ∧
        after = declared.foldl (fun before entry => Declared.put entry.1 entry.2 before) before
  | _, [], _, _, read => by
    unfold settings at read
    obtain rfl := Except.ok.inj read
    exact ⟨[], .nil, rfl⟩
  | scope, node :: rest, before, after, read => by
    unfold settings at read
    obtain ⟨entry, first, read⟩ := bind_eq_ok.mp read
    obtain ⟨declared, told, rfl⟩ := settings_read rest read
    exact ⟨(node.name, entry) :: declared, .cons (setting_read node first) told, rfl⟩
end

theorem settings_layered {label : String} {settings : Settings}
    (read : (scope.within label).settings [] nodes = .ok settings) :
    SettingsRead scope.lookup nodes settings := by
  obtain ⟨declared, told, rfl⟩ := settings_read nodes read
  exact ⟨declared, told, Declared.layers_put declared⟩

theorem foldlM_invariant {ε β ι : Type} {P : List ι → β → Prop} {f : β → ι → Except ε β}
    {start final : β} {items : List ι} (base : P [] start)
    (step : ∀ before item middle after, P before middle → f middle item = .ok after →
      P (before ++ [item]) after)
    (ran : items.foldlM f start = .ok final) : P items final := by
  induction items using List.reverseRecOn generalizing final with
  | nil =>
    obtain rfl := Except.ok.inj ran
    exact base
  | append_singleton before item ih =>
    rw [List.foldlM_append] at ran
    obtain ⟨middle, earlier, here⟩ := bind_eq_ok.mp ran
    rw [List.foldlM_cons] at here
    obtain ⟨after, told, same⟩ := bind_eq_ok.mp here
    obtain rfl := Except.ok.inj same
    exact step before item middle after (ih earlier) told

-- Entries that were put one after the other, one for each node.
def Gathered (read : Kdl.Node → String × α → Prop)
    (put : String → α → Declared α → Declared α) (nodes : List Kdl.Node) (entries : Declared α) :
    Prop :=
  ∃ declared, List.Forall₂ read nodes declared ∧
    entries = declared.foldl (fun before entry => put entry.1 entry.2 before) []

theorem Gathered.nil (read : Kdl.Node → String × α → Prop)
    (put : String → α → Declared α → Declared α) : Gathered read put [] [] :=
  ⟨[], .nil, rfl⟩

theorem Gathered.snoc {read : Kdl.Node → String × α → Prop}
    {put : String → α → Declared α → Declared α} {entries : Declared α} {entry : String × α}
    (gathered : Gathered read put nodes entries) (told : read node entry) :
    Gathered read put (nodes ++ [node]) (put entry.1 entry.2 entries) := by
  obtain ⟨declared, all, rfl⟩ := gathered
  exact ⟨declared ++ [entry], List.rel_append all (.cons told .nil), by rw [List.foldl_append]; rfl⟩

theorem Reads.found {read : Kdl.Node → Except Error α} {node? : Option Kdl.Node} {a : α}
    (reads : Reads read node? (some a)) : ∃ node, node? = some node ∧ read node = .ok a := by
  cases reads with
  | present ok => exact ⟨_, rfl, ok⟩

theorem Reads.snoc {read : Kdl.Node → Except Error α} {name : String} {a : α}
    (here : node.name = name) (ok : read node = .ok a) :
    Reads read (last? name (nodes ++ [node])) (some a) := by
  rw [last?_snoc, if_pos here]
  exact .present ok

theorem Reads.skip {read : Kdl.Node → Except Error α} {name : String} {found : Option α}
    (reads : Reads read (last? name nodes) found) (other : node.name ≠ name) :
    Reads read (last? name (nodes ++ [node])) found := by
  rwa [last?_snoc, if_neg other]

theorem Gathered.here {read : Kdl.Node → String × α → Prop}
    {put : String → α → Declared α → Declared α} {name : String} {entries : Declared α}
    {entry : String × α} (gathered : Gathered read put (named name nodes) entries)
    (here : node.name = name) (told : read node entry) :
    Gathered read put (named name (nodes ++ [node])) (put entry.1 entry.2 entries) := by
  rw [named_snoc, if_pos here]
  exact gathered.snoc told

theorem Gathered.skip {read : Kdl.Node → String × α → Prop}
    {put : String → α → Declared α → Declared α} {name : String} {entries : Declared α}
    (gathered : Gathered read put (named name nodes) entries) (other : node.name ≠ name) :
    Gathered read put (named name (nodes ++ [node])) entries := by
  rwa [named_snoc, if_neg other]

theorem kubernetesField_cases {before after : KubernetesConfig}
    (read : scope.kubernetesField before node = .ok after) :
    (node.name = "namespace" ∧ ∃ text, (plain scope.lookup).string node = .ok text ∧
      after = { before with namespaceName := some text }) ∨
    (node.name = "provider" ∧ ∃ entry, BlockRead scope.lookup node entry ∧
      after = { before with providers := Declared.putLast entry.1 entry.2 before.providers }) ∨
    (node.name = "add_plugin" ∧ ∃ entry, BlockRead scope.lookup node entry ∧
      after = { before with plugins := Declared.putLast entry.1 entry.2 before.plugins }) := by
  unfold kubernetesField at read
  split at read
  · rename_i name
    obtain ⟨text, told, read⟩ := bind_eq_ok.mp read
    obtain rfl := Except.ok.inj read
    exact .inl ⟨name, text, string_agrees (plain_lookup scope) node text told, rfl⟩
  · rename_i name
    obtain ⟨id, called, read⟩ := bind_eq_ok.mp read
    obtain ⟨block, told, read⟩ := bind_eq_ok.mp read
    obtain rfl := Except.ok.inj read
    exact .inr (.inl ⟨name, (id, block), ⟨identifier_agrees _ _ node id called,
      settings_layered told⟩, rfl⟩)
  · rename_i name
    obtain ⟨id, called, read⟩ := bind_eq_ok.mp read
    obtain ⟨block, told, read⟩ := bind_eq_ok.mp read
    obtain rfl := Except.ok.inj read
    exact .inr (.inr ⟨name, (id, block), ⟨identifier_agrees _ _ node id called,
      settings_layered told⟩, rfl⟩)
  · cases read

-- What was read of a block up to some node.
structure KubernetesPart (lookup : SecretLookup) (nodes : List Kdl.Node) (k : KubernetesConfig) :
    Prop where
  namespaceName : Reads (plain lookup).string (last? "namespace" nodes) k.namespaceName
  providers : Gathered (BlockRead lookup) Declared.putLast (named "provider" nodes) k.providers
  plugins : Gathered (BlockRead lookup) Declared.putLast (named "add_plugin" nodes) k.plugins
  active : Reads (plain lookup).identifier (last? "provider" nodes) (k.provider?.map Prod.fst)

theorem provider?_putLast (k : KubernetesConfig) (id : String) (block : Settings) :
    { k with providers := Declared.putLast id block k.providers }.provider? = some (id, block) := by
  simp [KubernetesConfig.provider?, Declared.putLast]

theorem kubernetes_parts {k : KubernetesConfig} (read : scope.kubernetes node = .ok k) :
    KubernetesPart scope.lookup node.nodes k := by
  refine foldlM_invariant (P := KubernetesPart scope.lookup) ?_ ?_ read
  · exact ⟨.absent, .nil _ _, .nil _ _, .absent⟩
  · intro before node middle after parts read
    obtain ⟨name, text, told, rfl⟩ | ⟨name, entry, told, rfl⟩ | ⟨name, entry, told, rfl⟩ :=
      kubernetesField_cases read
    · exact ⟨.snoc name told, parts.providers.skip (by rw [name]; decide),
        parts.plugins.skip (by rw [name]; decide), parts.active.skip (by rw [name]; decide)⟩
    · refine ⟨parts.namespaceName.skip (by rw [name]; decide), parts.providers.here name told,
        parts.plugins.skip (by rw [name]; decide), ?_⟩
      rw [provider?_putLast]
      exact .snoc name told.id
    · exact ⟨parts.namespaceName.skip (by rw [name]; decide),
        parts.providers.skip (by rw [name]; decide), parts.plugins.here name told,
        parts.active.skip (by rw [name]; decide)⟩

theorem Gathered.layersLast {read : Kdl.Node → String × α → Prop} {entries : Declared α}
    (gathered : Gathered read Declared.putLast nodes entries) :
    ∃ declared, List.Forall₂ read nodes declared ∧ Layers List.dedup declared entries := by
  obtain ⟨declared, all, rfl⟩ := gathered
  exact ⟨declared, all, Declared.layers_putLast declared⟩

theorem kubernetes_read {k : KubernetesConfig} (read : scope.kubernetes node = .ok k) :
    KubernetesRead scope.lookup node.nodes k := by
  have parts := kubernetes_parts read
  exact ⟨parts.namespaceName, parts.providers.layersLast, parts.plugins.layersLast, parts.active⟩

theorem environmentField_cases {before after : Option DockerConfig × Option KubernetesConfig}
    (read : scope.environmentField before node = .ok after) :
    (node.name = "docker" ∧ ∃ docker, (plain scope.lookup).docker node = .ok docker ∧
      after = (some docker, before.2)) ∨
    (node.name = "kubernetes" ∧ ∃ k, (plain scope.lookup).kubernetes node = .ok k ∧
      after = (before.1, some k)) := by
  unfold environmentField at read
  split at read
  · rename_i name
    obtain ⟨docker, told, read⟩ := bind_eq_ok.mp read
    obtain rfl := Except.ok.inj read
    exact .inl ⟨name, docker, docker_agrees (within_lookup scope _) node docker told, rfl⟩
  · rename_i name
    obtain ⟨k, told, read⟩ := bind_eq_ok.mp read
    obtain rfl := Except.ok.inj read
    exact .inr ⟨name, k, kubernetes_agrees (within_lookup scope _) node k told, rfl⟩
  · cases read

-- The blocks that were read of an environment up to some node.
structure EnvironmentPart (lookup : SecretLookup) (nodes : List Kdl.Node)
    (found : Option DockerConfig × Option KubernetesConfig) : Prop where
  docker : Reads (plain lookup).docker (last? "docker" nodes) found.1
  kubernetes : Reads (plain lookup).kubernetes (last? "kubernetes" nodes) found.2

theorem environment_parts {found : Option DockerConfig × Option KubernetesConfig}
    (read : nodes.foldlM scope.environmentField (none, none) = .ok found) :
    EnvironmentPart scope.lookup nodes found := by
  refine foldlM_invariant (P := EnvironmentPart scope.lookup) ⟨.absent, .absent⟩ ?_ read
  intro before node middle after parts read
  obtain ⟨name, docker, told, rfl⟩ | ⟨name, k, told, rfl⟩ := environmentField_cases read
  · exact ⟨.snoc name told, parts.kubernetes.skip (by rw [name]; decide)⟩
  · exact ⟨parts.docker.skip (by rw [name]; decide), .snoc name told⟩

theorem required_ok {found : Option α} {e : Error} {a : α} (ok : required found e = .ok a) :
    found = some a := by
  cases found with
  | none => cases ok
  | some b => exact congrArg some (Except.ok.inj ok)

theorem environment_read {name : String} {draft : EnvironmentDraft}
    (read : scope.environment name node = .ok draft) :
    draft.name = name ∧
      Reads (plain scope.lookup).docker (last? "docker" node.nodes) (some draft.docker) ∧
      Reads (plain scope.lookup).kubernetes (last? "kubernetes" node.nodes)
        (some draft.kubernetes) := by
  obtain ⟨found, parts, read⟩ := bind_eq_ok.mp read
  obtain ⟨docker, dockerFound, read⟩ := bind_eq_ok.mp read
  obtain ⟨kubernetes, kubernetesFound, read⟩ := bind_eq_ok.mp read
  obtain rfl := Except.ok.inj read
  obtain ⟨first, second⟩ := environment_parts parts
  rw [required_ok dockerFound] at first
  rw [required_ok kubernetesFound] at second
  exact ⟨rfl, first, second⟩

theorem topField_cases {before after : Draft} (read : scope.topField before node = .ok after) :
    (node.name = "app" ∧ ∃ text, (plain scope.lookup).string node = .ok text ∧
      after = { before with app := some text }) ∨
    (node.name = "environment" ∧ ∃ entry : String × EnvironmentDraft,
      (plain scope.lookup).identifier node = .ok entry.1 ∧
      (plain scope.lookup).environment entry.1 node = .ok entry.2 ∧
      after = { before with
        environments := Declared.put entry.1 entry.2 before.environments }) := by
  unfold topField at read
  split at read
  · rename_i name
    obtain ⟨text, told, read⟩ := bind_eq_ok.mp read
    obtain rfl := Except.ok.inj read
    exact .inl ⟨name, text, string_agrees (plain_lookup scope) node text told, rfl⟩
  · rename_i name
    obtain ⟨id, called, read⟩ := bind_eq_ok.mp read
    obtain ⟨env, told, read⟩ := bind_eq_ok.mp read
    obtain rfl := Except.ok.inj read
    exact .inr ⟨name, (id, env), identifier_agrees _ _ node id called,
      environment_agrees (within_lookup scope _) id node env told, rfl⟩
  · split at read <;> cases read

-- A declaration of an environment, as it was drafted.
structure DraftRead (lookup : SecretLookup) (node : Kdl.Node) (entry : String × EnvironmentDraft) :
    Prop where
  name : node.name = "environment"
  id : (plain lookup).identifier node = .ok entry.1
  draft : (plain lookup).environment entry.1 node = .ok entry.2

-- What was read of a document up to some node.
structure DocumentPart (lookup : SecretLookup) (nodes : List Kdl.Node) (draft : Draft) : Prop where
  app : Reads (plain lookup).string (last? "app" nodes) draft.app
  environments : Gathered (DraftRead lookup) Declared.put (named "environment" nodes)
    draft.environments

theorem document_parts {draft : Draft} (read : scope.document .empty nodes = .ok draft) :
    DocumentPart scope.lookup nodes draft := by
  refine foldlM_invariant (P := DocumentPart scope.lookup) ⟨.absent, .nil _ _⟩ ?_ read
  intro before node middle after parts read
  obtain ⟨name, text, told, rfl⟩ | ⟨name, entry, called, told, rfl⟩ := topField_cases read
  · exact ⟨.snoc name told, parts.environments.skip (by rw [name]; decide)⟩
  · exact ⟨parts.app.skip (by rw [name]; decide), parts.environments.here name ⟨name, called, told⟩⟩

def deployed (app : String) (draft : EnvironmentDraft) : Environment :=
  ⟨draft.name, app, draft.docker, draft.kubernetes⟩

theorem finish_parts {draft : Draft} {d : Definition} (finished : draft.finish = .ok d) :
    draft.app = some d.app ∧
      d.environments = draft.environments.map fun entry => (entry.1, deployed d.app entry.2) := by
  unfold Draft.finish at finished
  split at finished
  · cases finished
  · rename_i app found
    obtain rfl := Except.ok.inj finished
    exact ⟨found, rfl⟩

theorem topField_app (name : node.name = "app") {text : String}
    (told : (plain lookup).string node = .ok text) (draft : Draft) :
    (plain lookup).topField draft node = .ok { draft with app := some text } := by
  simp only [topField, name, told]
  rfl

theorem topField_environment {entry : String × EnvironmentDraft}
    (read : DraftRead lookup node entry) (draft : Draft) :
    (plain lookup).topField draft node =
      .ok { draft with environments := Declared.put entry.1 entry.2 draft.environments } := by
  simp only [topField, read.name]
  refine bind_eq_ok.mpr ⟨entry.1, read.id, bind_eq_ok.mpr ⟨entry.2, ?_, rfl⟩⟩
  exact environment_agrees (within_lookup (plain lookup) _).symm entry.1 node entry.2 read.draft

theorem document_alone {app : String} {entry : String × EnvironmentDraft}
    (name : title.name = "app") (told : (plain lookup).string title = .ok app)
    (read : DraftRead lookup node entry) :
    ((plain lookup).document .empty [title, node] >>= Draft.finish) =
      .ok ⟨app, [(entry.1, deployed app entry.2)]⟩ := by
  unfold document
  rw [List.foldlM_cons, topField_app name told]
  change ((plain lookup).topField _ node >>= pure) >>= Draft.finish = _
  rw [topField_environment read]
  rfl

theorem DraftRead.environment {app : String} {entry : String × EnvironmentDraft}
    (name : title.name = "app") (told : (plain lookup).string title = .ok app)
    (read : DraftRead lookup node entry) :
    EnvironmentRead lookup title app node (entry.1, deployed app entry.2) := by
  obtain ⟨named, docker, kubernetes⟩ := environment_read read.draft
  refine ⟨read.id, named, rfl, document_alone name told read, docker, ?_⟩
  obtain ⟨block, found, told⟩ := kubernetes.found
  exact ⟨block, found, told, kubernetes_read told⟩

theorem document_layered {draft : Draft} {d : Definition}
    (read : (plain lookup).document .empty nodes = .ok draft) (finished : draft.finish = .ok d) :
    ∃ title, Layered lookup nodes title d := by
  obtain ⟨app, environments⟩ := document_parts read
  obtain ⟨named, copied⟩ := finish_parts finished
  rw [named] at app
  obtain ⟨title, titled, told⟩ := app.found
  obtain ⟨declared, all, gathered⟩ := environments
  refine ⟨title, titled, told, ?_, declared.map fun entry => (entry.1, deployed d.app entry.2),
    ?_, ?_⟩
  · intro entry member
    rw [copied] at member
    obtain ⟨drafted, -, rfl⟩ := List.mem_map.mp member
    rfl
  · exact List.forall₂_map_right_iff.mpr
      (all.imp fun _ _ read => read.environment (last?_name titled) told)
  · rw [copied, gathered]
    exact (Declared.layers_put declared).map (deployed d.app)

namespace Definition

variable {d : Definition}

-- What sources come to that can be evaluated, and files of the same texts.
theorem ofSources_layered {sources : List Source} (evaluated : ofSources lookup sources = .ok d) :
    (∃ (documents : List (List Kdl.Node)) (title : Kdl.Node),
      sources.map (fun source => Kdl.parse? source.text) = documents.map some ∧
        Layered lookup documents.flatten title d) ∧
    ∀ (host : Host) (paths : List String),
      (paths.map host.readText = sources.map fun source => .ok source.text) →
        ofFiles lookup host paths = .ok d := by
  obtain ⟨documents, draft, parsed, document, finished⟩ := ofSources_document evaluated
  obtain ⟨title, layered⟩ := document_layered document finished
  exact ⟨⟨documents, title, parsed, layered⟩, fun host paths read => ofFiles_sources evaluated read⟩

def shopSources : List Source :=
  [⟨none, "environment \"dev\" \x7bdocker \x7bimage_url \"w\"\x7d
kubernetes \x7bprovider \"a\"\x7d\x7d"⟩,
    ⟨none, "environment \"live\" \x7bdocker \x7bimage_url \"w\"\x7d
kubernetes \x7bprovider \"a\"; provider \"b\"; provider \"a\"\x7d\x7d"⟩,
    ⟨none, "app \"shop\""⟩,
    ⟨none, "environment \"dev\" \x7bdocker \x7bimage_url \"v\"\x7d
kubernetes \x7bprovider \"b\" \x7bn 1; n 2\x7d\x7d\x7d"⟩]

theorem shop_layered : ∃ d, ofSources (fun _ => .ok ⟨""⟩) shopSources = .ok d ∧
    Declared.names d.environments = ["dev", "live"] ∧
    ∃ (documents : List (List Kdl.Node)) (title : Kdl.Node),
      shopSources.map (fun source => Kdl.parse? source.text) = documents.map some ∧
        Layered (fun _ => .ok ⟨""⟩) documents.flatten title d := by
  have succeeds : ((ofSources (fun _ => .ok ⟨""⟩) shopSources).toOption.map
      fun d => Declared.names d.environments) = some ["dev", "live"] := by
    decide +kernel
  cases evaluated : ofSources (fun _ => .ok ⟨""⟩) shopSources with
  | error e => rw [evaluated] at succeeds; cases succeeds
  | ok d =>
    rw [evaluated] at succeeds
    exact ⟨d, rfl, Option.some.inj succeeds, (ofSources_layered evaluated).1⟩

end Definition

end Rollout
