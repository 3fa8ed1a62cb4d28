import Rollout.Proofs.Definition.Unread

namespace Rollout

def Kdl.Node.title (node : Node) : String :=
  match node.arguments with
  | [⟨_, _, .string title⟩] => title
  | _ => ""

namespace Scope

open Kdl

-- What nodes are read in: the document, or a block of some kind.
inductive Place where
  | document
  | environment
  | docker
  | credentials
  | kubernetes
  | settings
  deriving DecidableEq

namespace Place

def fields : Place → List String
  | document => ["app"]
  | docker => ["image_url", "dockerfile", "build_context"]
  | credentials => ["username", "password", "email"]
  | kubernetes => ["namespace"]
  | _ => []

-- The place in a node that opens a block. In settings this is any node with braces.
def inside? (place : Place) (node : Node) : Option Place :=
  match place with
  | document => if node.name = "environment" then some environment else none
  | environment =>
    if node.name = "docker" then some docker
    else if node.name = "kubernetes" then some kubernetes
    else none
  | docker => if node.name = "credentials" then some credentials else none
  | credentials => none
  | kubernetes =>
    if node.name = "provider" ∨ node.name = "add_plugin" then some settings else none
  | settings => if node.children.isSome then some settings else none

def Knows (place : Place) (node : Node) : Prop :=
  place = settings ∨ node.name ∈ place.fields ∨ (place.inside? node).isSome

-- The names of the nodes without which a block is not complete.
def demanded : Place → List String
  | environment => ["docker", "kubernetes"]
  | docker => ["image_url"]
  | credentials => ["username", "password", "email"]
  | _ => []

-- What an unknown node could have been.
def kind : Place → String
  | docker => "field"
  | credentials => "field"
  | _ => "block"

-- A block is called by the name of its node, an environment, a provider and a plugin by both names.
def label (place : Place) (node : Node) : String :=
  match place with
  | document => s!"{node.name} \"{node.title}\""
  | kubernetes => s!"{node.name} \"{node.title}\""
  | _ => node.name

-- The reader of the nodes of a place fails on a node.
def Fails (place : Place) (scope : Scope) (node : Node) (e : Error) : Prop :=
  match place with
  | document => ∃ before, scope.topField before node = .error e
  | environment => ∃ before, scope.environmentField before node = .error e
  | docker => ∃ before, scope.dockerField before node = .error e
  | credentials => ∃ before, scope.loginField before node = .error e
  | kubernetes => ∃ before, scope.kubernetesField before node = .error e
  | settings => scope.setting node = .error e

end Place

variable {scope : Scope} {node : Node} {e : Error} {α : Type}

inductive Unread (scope : Scope) (node : Node) : Error → Prop where
  | form (message : String) : Unread scope node (scope.invalid node message)
  | secret {key : String} {e : Error} (refused : scope.lookup key = .error e) : Unread scope node e

-- What is wrong with a node in a place. A block that lacks a node is told with its own label.
inductive Fault (place : Place) (scope : Scope) (node : Node) : Error → Prop where
  | unknown (stray : ¬ place.Knows node)
      (unlisted : ¬ (place = .document ∧ node.name ∈ environmentScoped)) :
      Fault place scope node (scope.unknown place.kind node)
  | outside (top : place = .document) (stray : ¬ place.Knows node)
      (listed : node.name ∈ environmentScoped) :
      Fault place scope node (.definition (.outsideScope node.name (scope.locate node)))
  | value {e : Error} (known : place.Knows node) (unread : Unread scope node e) :
      Fault place scope node e
  | missing {inner : Place} {field : String} (opens : place.inside? node = some inner)
      (demanded : field ∈ inner.demanded) (absent : ∀ n ∈ node.nodes, n.name ≠ field) :
      Fault place scope node ((scope.within (place.label node)).missing field node)

-- A failure at a node is one of the node itself, or of a node in the block that it opens.
inductive Blamed (place : Place) (scope : Scope) (node : Node) (e : Error) : Prop where
  | here (fault : Fault place scope node e)
  | inside {inner : Place} {child : Node} (opens : place.inside? node = some inner)
      (member : child ∈ node.nodes) (fails : inner.Fails (scope.within (place.label node)) child e)

theorem argument_unread (failed : scope.argument node = .error e) : Unread scope node e := by
  unfold argument at failed
  split at failed
  · split at failed
    · cases failed
    · exact Except.error.inj failed ▸ .form _
    · exact Except.error.inj failed ▸ .form _
  · exact Except.error.inj failed ▸ .form _

theorem value_unread {entry : Entry} (failed : scope.value node entry = .error e) :
    Unread scope node e := by
  unfold value at failed
  split at failed
  · split at failed
    · split at failed
      · exact .secret (map_eq_error.mp failed)
      · exact Except.error.inj failed ▸ .form _
    · exact Except.error.inj failed ▸ .form _
  · split at failed
    · cases failed
    · cases failed
    · split at failed
      · cases failed
      · exact Except.error.inj failed ▸ .form _
    · exact Except.error.inj failed ▸ .form _

theorem scalar_unread (failed : scope.scalar node = .error e) : Unread scope node e := by
  rcases bind_eq_error.mp failed with failed | ⟨entry, -, failed⟩
  · exact argument_unread failed
  · exact value_unread failed

theorem string_unread (failed : scope.string node = .error e) : Unread scope node e := by
  rcases bind_eq_error.mp failed with failed | ⟨value, -, failed⟩
  · exact scalar_unread failed
  · split at failed
    · cases failed
    · exact Except.error.inj failed ▸ .form _

theorem identifier_unread (failed : scope.identifier node = .error e) : Unread scope node e := by
  rcases bind_eq_error.mp failed with failed | ⟨entry, -, failed⟩
  · exact argument_unread failed
  · dsimp only at failed
    split at failed
    · split at failed
      · exact Except.error.inj failed ▸ .form _
      · cases failed
    · exact Except.error.inj failed ▸ .form _

theorem identifier_title {id : String} (read : scope.identifier node = .ok id) :
    node.title = id := by
  obtain ⟨⟨name, type, value⟩, told, read⟩ := bind_eq_ok.mp read
  obtain ⟨only, rfl⟩ := argument_only told
  dsimp only at read
  split at read
  · split at read
    · cases read
    · obtain rfl := Except.ok.inj read
      simp [Node.title, Node.arguments, only]
  · cases read

-- What is wrong in a block that a node opens: with a node in it, or one is missing.
inductive BlockFault (inner : Place) (scope : Scope) (node : Node) (e : Error) : Prop where
  | inside {child : Node} (member : child ∈ node.nodes) (fails : inner.Fails scope child e)
  | missing {field : String} (demanded : field ∈ inner.demanded)
      (absent : ∀ n ∈ node.nodes, n.name ≠ field) (told : scope.missing field node = e)

theorem BlockFault.blamed {place inner : Place} (opens : place.inside? node = some inner)
    (fault : BlockFault inner (scope.within (place.label node)) node e) :
    Blamed place scope node e := by
  cases fault with
  | inside member fails => exact .inside opens member fails
  | missing demanded absent told => exact .here (told ▸ .missing opens demanded absent)

theorem absent_of_empty {β γ : Type} (slot : β → Option γ) {read : β → Node → Except Error β}
    {name : String} {nodes : List Node} {start final : β}
    (fills : ∀ before node after, read before node = .ok after →
      (node.name = name ∨ (slot before).isSome) → (slot after).isSome)
    (ran : nodes.foldlM read start = .ok final) (empty : slot final = none) :
    ∀ node ∈ nodes, node.name ≠ name := by
  -- what holds of the nodes read so far: one of the name among them has filled the slot
  have filled : (∃ node ∈ nodes, node.name = name) → (slot final).isSome := by
    refine foldlM_invariant
      (P := fun nodes final => (∃ node ∈ nodes, node.name = name) → (slot final).isSome) ?_ ?_ ran
    · rintro ⟨node, member, -⟩
      cases member
    · rintro before node middle after kept read ⟨other, member, called⟩
      refine fills middle node after read ?_
      rcases List.mem_append.mp member with earlier | here
      · exact .inr (kept ⟨other, earlier, called⟩)
      · exact .inl (List.mem_singleton.mp here ▸ called)
  intro node member called
  have := filled ⟨node, member, called⟩
  rw [empty] at this
  cases this

theorem required_error {found : Option α} {wanting : Error}
    (failed : required found wanting = .error e) : found = none ∧ wanting = e := by
  cases found with
  | none => exact ⟨rfl, Except.error.inj failed⟩
  | some a => cases failed

theorem BlockFault.slot {β γ : Type} (slot : β → Option γ) {inner : Place}
    {read : β → Node → Except Error β} {field : String} {start final : β}
    (demanded : field ∈ inner.demanded)
    (fills : ∀ before node after, read before node = .ok after →
      (node.name = field ∨ (slot before).isSome) → (slot after).isSome)
    (ran : node.nodes.foldlM read start = .ok final)
    (failed : required (slot final) (scope.missing field node) = .error e) :
    BlockFault inner scope node e := by
  obtain ⟨empty, told⟩ := required_error failed
  exact .missing demanded (absent_of_empty slot fills ran empty) told

theorem loginField_fills {before after : LoginDraft}
    (read : scope.loginField before node = .ok after) :
    (node.name = "username" ∨ before.username.isSome → after.username.isSome) ∧
    (node.name = "password" ∨ before.password.isSome → after.password.isSome) ∧
    (node.name = "email" ∨ before.email.isSome → after.email.isSome) := by
  unfold loginField at read
  split at read
  · rename_i name
    obtain ⟨value, -, rfl⟩ := bind_pure_eq_ok.mp read
    simp [name]
  · rename_i name
    obtain ⟨value, -, rfl⟩ := bind_pure_eq_ok.mp read
    simp [name]
  · rename_i name
    obtain ⟨value, -, rfl⟩ := bind_pure_eq_ok.mp read
    simp [name]
  · cases read

theorem dockerField_fills {before after : DockerDraft}
    (read : scope.dockerField before node = .ok after)
    (filled : node.name = "image_url" ∨ before.image.isSome) : after.image.isSome := by
  unfold dockerField at read
  split at read
  · obtain ⟨text, -, read⟩ := bind_eq_ok.mp read
    split at read
    · obtain rfl := Except.ok.inj read
      rfl
    · cases read
  · rename_i name
    obtain ⟨login, -, rfl⟩ := bind_pure_eq_ok.mp read
    simpa [name] using filled
  · rename_i name
    obtain ⟨text, -, rfl⟩ := bind_pure_eq_ok.mp read
    simpa [name] using filled
  · rename_i name
    obtain ⟨text, -, rfl⟩ := bind_pure_eq_ok.mp read
    simpa [name] using filled
  · cases read

theorem environmentField_fills {before after : Option DockerConfig × Option KubernetesConfig}
    (read : scope.environmentField before node = .ok after) :
    (node.name = "docker" ∨ before.1.isSome → after.1.isSome) ∧
    (node.name = "kubernetes" ∨ before.2.isSome → after.2.isSome) := by
  unfold environmentField at read
  split at read
  · rename_i name
    obtain ⟨docker, -, rfl⟩ := bind_pure_eq_ok.mp read
    simp [name]
  · rename_i name
    obtain ⟨kubernetes, -, rfl⟩ := bind_pure_eq_ok.mp read
    simp [name]
  · cases read

theorem login_fault (failed : scope.login node = .error e) :
    BlockFault .credentials scope node e := by
  rcases bind_eq_error.mp failed with failed | ⟨draft, fields, failed⟩
  · obtain ⟨child, member, fails⟩ := foldlM_eq_error failed
    exact .inside member fails
  · rcases bind_eq_error.mp failed with failed | ⟨_, -, failed⟩
    · exact .slot LoginDraft.username (by decide)
        (fun _ _ _ read => (loginField_fills read).1) fields failed
    rcases bind_eq_error.mp failed with failed | ⟨_, -, failed⟩
    · exact .slot LoginDraft.password (by decide)
        (fun _ _ _ read => (loginField_fills read).2.1) fields failed
    rcases bind_eq_error.mp failed with failed | ⟨_, -, failed⟩
    · exact .slot LoginDraft.email (by decide)
        (fun _ _ _ read => (loginField_fills read).2.2) fields failed
    · cases failed

theorem docker_fault (failed : scope.docker node = .error e) :
    BlockFault .docker scope node e := by
  rcases bind_eq_error.mp failed with failed | ⟨draft, fields, failed⟩
  · obtain ⟨child, member, fails⟩ := foldlM_eq_error failed
    exact .inside member fails
  · rcases bind_eq_error.mp failed with failed | ⟨_, -, failed⟩
    · exact .slot DockerDraft.image (by decide) (fun _ _ _ => dockerField_fills) fields failed
    · cases failed

theorem kubernetes_fault (failed : scope.kubernetes node = .error e) :
    BlockFault .kubernetes scope node e := by
  obtain ⟨child, member, fails⟩ := foldlM_eq_error failed
  exact .inside member fails

theorem environment_fault {name : String} (failed : scope.environment name node = .error e) :
    BlockFault .environment scope node e := by
  rcases bind_eq_error.mp failed with failed | ⟨⟨docker, kubernetes⟩, fields, failed⟩
  · obtain ⟨child, member, fails⟩ := foldlM_eq_error failed
    exact .inside member fails
  · rcases bind_eq_error.mp failed with failed | ⟨_, -, failed⟩
    · exact .slot Prod.fst (by decide)
        (fun _ _ _ read => (environmentField_fills read).1) fields failed
    rcases bind_eq_error.mp failed with failed | ⟨_, -, failed⟩
    · exact .slot Prod.snd (by decide)
        (fun _ _ _ read => (environmentField_fills read).2) fields failed
    · cases failed

theorem settings_fails {nodes : List Node} {before : Settings}
    (failed : scope.settings before nodes = .error e) :
    ∃ child ∈ nodes, Place.settings.Fails scope child e := by
  induction nodes generalizing before with
  | nil => unfold settings at failed; cases failed
  | cons child others ih =>
    unfold settings at failed
    rcases bind_eq_error.mp failed with here | ⟨entry, -, later⟩
    · exact ⟨child, List.mem_cons_self, here⟩
    · obtain ⟨other, member, fails⟩ := ih later
      exact ⟨other, List.mem_cons_of_mem child member, fails⟩

theorem Blamed.field {place : Place} (known : node.name ∈ place.fields)
    (unread : Unread scope node e) : Blamed place scope node e :=
  .here (.value (.inr (.inl known)) unread)

theorem Blamed.title {place inner : Place} (opens : place.inside? node = some inner)
    (unread : Unread scope node e) : Blamed place scope node e :=
  .here (.value (.inr (.inr (by rw [opens]; rfl))) unread)

theorem loginField_blamed {before : LoginDraft}
    (failed : scope.loginField before node = .error e) :
    Blamed .credentials scope node e := by
  unfold loginField at failed
  split at failed
  · rename_i name
    exact .field (by simp [Place.fields, name]) (scalar_unread (bind_pure_eq_error.mp failed))
  · rename_i name
    exact .field (by simp [Place.fields, name]) (scalar_unread (bind_pure_eq_error.mp failed))
  · rename_i name
    exact .field (by simp [Place.fields, name]) (scalar_unread (bind_pure_eq_error.mp failed))
  · rename_i username password email
    obtain rfl := Except.error.inj failed
    refine .here (.unknown ?_ (by simp))
    simp_all [Place.Knows, Place.fields, Place.inside?]

theorem dockerField_blamed {before : DockerDraft}
    (failed : scope.dockerField before node = .error e) :
    Blamed .docker scope node e := by
  unfold dockerField at failed
  split at failed
  · rename_i name
    have known : node.name ∈ Place.docker.fields := by simp [Place.fields, name]
    rcases bind_eq_error.mp failed with failed | ⟨text, -, failed⟩
    · exact .field known (string_unread failed)
    · split at failed
      · cases failed
      · exact .field known (Except.error.inj failed ▸ .form _)
  · rename_i name
    have opens : Place.docker.inside? node = some .credentials := by simp [Place.inside?, name]
    have label : Place.docker.label node = "credentials" := name
    exact (login_fault (label ▸ bind_pure_eq_error.mp failed)).blamed opens
  · rename_i name
    exact .field (by simp [Place.fields, name]) (string_unread (bind_pure_eq_error.mp failed))
  · rename_i name
    exact .field (by simp [Place.fields, name]) (string_unread (bind_pure_eq_error.mp failed))
  · rename_i image login dockerfile context
    obtain rfl := Except.error.inj failed
    refine .here (.unknown ?_ (by simp))
    simp_all [Place.Knows, Place.fields, Place.inside?]

theorem titled_blamed {labelled : String → String}
    {next : String → Settings → Except Error KubernetesConfig}
    (opens : Place.kubernetes.inside? node = some .settings)
    (label : Place.kubernetes.label node = labelled node.title)
    (reads : ∀ id block, ∃ k, next id block = .ok k)
    (failed : (do
      let id ← scope.identifier node
      let block ← (scope.within (labelled id)).settings [] node.nodes
      next id block) = .error e) :
    Blamed .kubernetes scope node e := by
  rcases bind_eq_error.mp failed with failed | ⟨id, read, failed⟩
  · exact .title opens (identifier_unread failed)
  rw [identifier_title read] at label
  rcases bind_eq_error.mp failed with failed | ⟨block, -, failed⟩
  · obtain ⟨child, member, fails⟩ := settings_fails failed
    exact .inside opens member (label ▸ fails)
  · obtain ⟨k, passed⟩ := reads id block
    rw [passed] at failed
    cases failed

theorem kubernetesField_blamed {before : KubernetesConfig}
    (failed : scope.kubernetesField before node = .error e) :
    Blamed .kubernetes scope node e := by
  unfold kubernetesField at failed
  split at failed
  · rename_i name
    exact .field (by simp [Place.fields, name]) (string_unread (bind_pure_eq_error.mp failed))
  · rename_i name
    refine titled_blamed (by simp [Place.inside?, name]) ?_ (fun _ _ => ⟨_, rfl⟩) failed
    rw [Place.label, name]
    rfl
  · rename_i name
    refine titled_blamed (by simp [Place.inside?, name]) ?_ (fun _ _ => ⟨_, rfl⟩) failed
    rw [Place.label, name]
    rfl
  · rename_i space provider plugin
    obtain rfl := Except.error.inj failed
    refine .here (.unknown ?_ (by simp))
    simp_all [Place.Knows, Place.fields, Place.inside?]

theorem environmentField_blamed {before : Option DockerConfig × Option KubernetesConfig}
    (failed : scope.environmentField before node = .error e) :
    Blamed .environment scope node e := by
  unfold environmentField at failed
  split at failed
  · rename_i name
    have opens : Place.environment.inside? node = some .docker := by simp [Place.inside?, name]
    have label : Place.environment.label node = "docker" := name
    exact (docker_fault (label ▸ bind_pure_eq_error.mp failed)).blamed opens
  · rename_i name
    have opens : Place.environment.inside? node = some .kubernetes := by simp [Place.inside?, name]
    have label : Place.environment.label node = "kubernetes" := name
    exact (kubernetes_fault (label ▸ bind_pure_eq_error.mp failed)).blamed opens
  · rename_i docker kubernetes
    obtain rfl := Except.error.inj failed
    refine .here (.unknown ?_ (by simp))
    simp_all [Place.Knows, Place.fields, Place.inside?]

theorem setting_blamed (failed : scope.setting node = .error e) :
    Blamed .settings scope node e := by
  obtain ⟨offset, name, entries, children⟩ := node
  cases children with
  | none =>
    unfold setting at failed
    exact .here (.value (.inl rfl) (scalar_unread (map_eq_error.mp failed)))
  | some nodes =>
    unfold setting at failed
    dsimp only at failed
    split at failed
    · obtain ⟨child, member, fails⟩ := settings_fails (map_eq_error.mp failed)
      exact .inside rfl member fails
    · exact .here (.value (.inl rfl) (Except.error.inj failed ▸ .form _))

theorem topField_blamed {before : Draft} (failed : scope.topField before node = .error e) :
    Blamed .document scope node e := by
  unfold topField at failed
  split at failed
  · rename_i name
    exact .field (by simp [Place.fields, name]) (string_unread (bind_pure_eq_error.mp failed))
  · rename_i name
    have opens : Place.document.inside? node = some .environment := by simp [Place.inside?, name]
    rcases bind_eq_error.mp failed with failed | ⟨id, read, failed⟩
    · exact .title opens (identifier_unread failed)
    have label : Place.document.label node = s!"environment \"{id}\"" := by
      rw [Place.label, identifier_title read, name]
      rfl
    exact (environment_fault (label ▸ bind_pure_eq_error.mp failed)).blamed opens
  · rename_i app environment
    have stray : ¬ Place.document.Knows node := by
      simp_all [Place.Knows, Place.fields, Place.inside?]
    split at failed
    · rename_i listed
      obtain rfl := Except.error.inj failed
      exact .here (.outside rfl stray (List.contains_iff_mem.mp listed))
    · rename_i unlisted
      obtain rfl := Except.error.inj failed
      exact .here (.unknown stray fun top => unlisted (List.contains_iff_mem.mpr top.2))

-- Each reader fails with a fault of the node that it is at, or as the reader of the block does.
theorem Place.Fails.blamed {place : Place} (fails : place.Fails scope node e) :
    Blamed place scope node e := by
  cases place with
  | document =>
    obtain ⟨before, failed⟩ := fails
    exact topField_blamed failed
  | environment =>
    obtain ⟨before, failed⟩ := fails
    exact environmentField_blamed failed
  | docker =>
    obtain ⟨before, failed⟩ := fails
    exact dockerField_blamed failed
  | credentials =>
    obtain ⟨before, failed⟩ := fails
    exact loginField_blamed failed
  | kubernetes =>
    obtain ⟨before, failed⟩ := fails
    exact kubernetesField_blamed failed
  | settings => exact setting_blamed fails

end Scope

end Rollout
