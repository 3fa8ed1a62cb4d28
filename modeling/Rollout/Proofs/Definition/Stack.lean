import Rollout.Definition.Evaluation

namespace Rollout

open Scope

-- A part of an evaluation that works on the stack. An error leaves the stack of its moment.
abbrev Stacked := ExceptT Error (StateM (List String))

namespace Stacked

variable {α β ι : Type} {scope : Scope}

-- What is read without opening a block: only the labels of the stack count.
def reads (scope : Scope) (read : Scope → Except Error α) : Stacked α :=
  ExceptT.mk fun stack => (read { scope with labels := stack }, stack)

def within (label : String) (block : Stacked α) : Stacked α :=
  ExceptT.mk fun stack =>
    let (outcome, after) := block.run.run (stack ++ [label])
    (outcome, after.dropLast)

mutual
def setting (scope : Scope) : Kdl.Node → Stacked Setting
  | ⟨offset, name, entries, some nodes⟩ =>
    let node : Kdl.Node := ⟨offset, name, entries, some nodes⟩
    if node.arguments.isEmpty then do pure (.block (← within name (settings scope [] nodes)))
    else reads scope fun scope => .error (scope.invalid node "a block cannot also take a value")
  | ⟨offset, name, entries, none⟩ => do
    pure (.value (← reads scope (Scope.scalar · ⟨offset, name, entries, none⟩)))
def settings (scope : Scope) (before : Settings) : List Kdl.Node → Stacked Settings
  | [] => pure before
  | node :: rest => do
    let entry ← setting scope node
    settings scope (Declared.put node.name entry before) rest
end

def login (scope : Scope) (node : Kdl.Node) : Stacked RegistryLogin := do
  let draft ← node.nodes.foldlM (fun draft field => reads scope (Scope.loginField · draft field))
    ⟨none, none, none⟩
  let username ← reads scope fun scope => required draft.username (scope.missing "username" node)
  let password ← reads scope fun scope => required draft.password (scope.missing "password" node)
  let email ← reads scope fun scope => required draft.email (scope.missing "email" node)
  pure ⟨username, password, email⟩

-- The other fields open no block.
def dockerField (scope : Scope) (draft : DockerDraft) (node : Kdl.Node) : Stacked DockerDraft :=
  match node.name with
  | "credentials" => do
    pure { draft with login := some (← within "credentials" (login scope node)) }
  | _ => reads scope (Scope.dockerField · draft node)

def docker (scope : Scope) (node : Kdl.Node) : Stacked DockerConfig := do
  let draft ← node.nodes.foldlM (dockerField scope)
    ⟨none, none, defaultDockerfile, defaultBuildContext⟩
  let image ← reads scope fun scope => required draft.image (scope.missing "image_url" node)
  pure ⟨image, draft.login, draft.dockerfile, draft.buildContext⟩

def kubernetesField (scope : Scope) (draft : KubernetesConfig) (node : Kdl.Node) :
    Stacked KubernetesConfig :=
  match node.name with
  | "provider" => do
    let id ← reads scope (Scope.identifier · node)
    let block ← within s!"provider \"{id}\"" (settings scope [] node.nodes)
    pure { draft with providers := Declared.putLast id block draft.providers }
  | "add_plugin" => do
    let id ← reads scope (Scope.identifier · node)
    let block ← within s!"add_plugin \"{id}\"" (settings scope [] node.nodes)
    pure { draft with plugins := Declared.putLast id block draft.plugins }
  | _ => reads scope (Scope.kubernetesField · draft node)

def kubernetes (scope : Scope) (node : Kdl.Node) : Stacked KubernetesConfig :=
  node.nodes.foldlM (kubernetesField scope) ⟨none, [], []⟩

def environmentField (scope : Scope) (draft : Option DockerConfig × Option KubernetesConfig)
    (node : Kdl.Node) : Stacked (Option DockerConfig × Option KubernetesConfig) :=
  match node.name with
  | "docker" => do pure (some (← within "docker" (docker scope node)), draft.2)
  | "kubernetes" => do pure (draft.1, some (← within "kubernetes" (kubernetes scope node)))
  | _ => reads scope (Scope.environmentField · draft node)

def environment (scope : Scope) (name : String) (node : Kdl.Node) : Stacked EnvironmentDraft := do
  let (docker, kubernetes) ← node.nodes.foldlM (environmentField scope) (none, none)
  let docker ← reads scope fun scope => required docker (scope.missing "docker" node)
  let kubernetes ← reads scope fun scope => required kubernetes (scope.missing "kubernetes" node)
  pure ⟨name, docker, kubernetes⟩

def topField (scope : Scope) (draft : Draft) (node : Kdl.Node) : Stacked Draft :=
  match node.name with
  | "environment" => do
    let name ← reads scope (Scope.identifier · node)
    let env ← within s!"environment \"{name}\"" (environment scope name node)
    pure { draft with environments := Declared.put name env draft.environments }
  | _ => reads scope (Scope.topField · draft node)

def document (scope : Scope) (draft : Draft) (nodes : List Kdl.Node) : Stacked Draft :=
  nodes.foldlM (topField scope) draft

-- The evaluation gives what is read in a scope with the labels of the stack, and leaves the stack.
def Keeps (scope : Scope) (run : Stacked α) (read : Scope → Except Error α) : Prop :=
  ∀ stack, run.run.run stack = (read { scope with labels := stack }, stack)

namespace Keeps

theorem reads (read : Scope → Except Error α) : Keeps scope (Stacked.reads scope read) read :=
  fun _ => rfl

theorem pure (a : α) : Keeps scope (pure a) fun _ => .ok a := fun _ => rfl

theorem bind {run : Stacked α} {read : Scope → Except Error α} {next : α → Stacked β}
    {then_ : Scope → α → Except Error β} (first : Keeps scope run read)
    (second : ∀ a, Keeps scope (next a) (then_ · a)) :
    Keeps scope (run >>= next) fun scope => read scope >>= then_ scope := by
  intro stack
  have ran := first stack
  rw [ExceptT.run_bind, StateT.run_bind, ran]
  dsimp only
  cases read { scope with labels := stack } with
  | error e => rfl
  | ok a => exact second a stack

theorem map {run : Stacked α} {read : Scope → Except Error α} (keeps : Keeps scope run read)
    (f : α → β) :
    Keeps scope (run >>= fun a => Pure.pure (f a)) fun scope => (read scope).map f := by
  intro stack
  rw [keeps.bind (fun a => .pure (f a)) stack]
  dsimp only
  cases read { scope with labels := stack } <;> rfl

theorem within {block : Stacked α} {read : Scope → Except Error α} (label : String)
    (keeps : Keeps scope block read) :
    Keeps scope (Stacked.within label block) fun scope => read (scope.within label) := by
  intro stack
  have ran := keeps (stack ++ [label])
  show ((block.run.run (stack ++ [label])).1, (block.run.run (stack ++ [label])).2.dropLast) = _
  rw [ran, List.dropLast_concat]
  rfl

theorem foldlM {run : β → ι → Stacked β} {read : Scope → β → ι → Except Error β}
    (each : ∀ b item, Keeps scope (run b item) (read · b item)) (items : List ι) (start : β) :
    Keeps scope (items.foldlM run start) fun scope => items.foldlM (read scope) start := by
  induction items generalizing start with
  | nil => exact pure start
  | cons item items ih => exact (each start item).bind ih

end Keeps

mutual
theorem setting_keeps (scope : Scope) : ∀ node : Kdl.Node,
    Keeps scope (setting scope node) (Scope.setting · node)
  | ⟨offset, name, entries, some nodes⟩ => by
    unfold setting Scope.setting
    dsimp only
    split
    · exact ((settings_keeps scope nodes []).within name).map Setting.block
    · exact .reads _
  | ⟨offset, name, entries, none⟩ => by
    unfold setting Scope.setting
    exact (Keeps.reads _).map Setting.value
theorem settings_keeps (scope : Scope) : ∀ (nodes : List Kdl.Node) (before : Settings),
    Keeps scope (settings scope before nodes) (Scope.settings · before nodes)
  | [], before => by
    unfold settings Scope.settings
    exact .pure before
  | node :: rest, before => by
    unfold settings Scope.settings
    exact (setting_keeps scope node).bind fun entry => settings_keeps scope rest _
end

theorem login_keeps (scope : Scope) (node : Kdl.Node) :
    Keeps scope (login scope node) (Scope.login · node) := by
  refine (Keeps.foldlM (fun _ _ => .reads _) _ _).bind fun draft => ?_
  refine (Keeps.reads _).bind fun username => ?_
  refine (Keeps.reads _).bind fun password => ?_
  exact (Keeps.reads _).bind fun email => .pure _

theorem dockerField_keeps (scope : Scope) (draft : DockerDraft) (node : Kdl.Node) :
    Keeps scope (dockerField scope draft node) (Scope.dockerField · draft node) := by
  unfold dockerField
  split
  · rename_i name
    unfold Scope.dockerField
    simp only [name]
    exact ((login_keeps scope node).within "credentials").bind fun login => .pure _
  · exact .reads _

theorem docker_keeps (scope : Scope) (node : Kdl.Node) :
    Keeps scope (docker scope node) (Scope.docker · node) := by
  refine (Keeps.foldlM (dockerField_keeps scope) _ _).bind fun draft => ?_
  exact (Keeps.reads _).bind fun image => .pure _

theorem kubernetesField_keeps (scope : Scope) (draft : KubernetesConfig) (node : Kdl.Node) :
    Keeps scope (kubernetesField scope draft node) (Scope.kubernetesField · draft node) := by
  unfold kubernetesField
  split
  · rename_i name
    unfold Scope.kubernetesField
    simp only [name]
    refine (Keeps.reads _).bind fun id => ?_
    exact ((settings_keeps scope node.nodes []).within _).bind fun block => .pure _
  · rename_i name
    unfold Scope.kubernetesField
    simp only [name]
    refine (Keeps.reads _).bind fun id => ?_
    exact ((settings_keeps scope node.nodes []).within _).bind fun block => .pure _
  · exact .reads _

theorem kubernetes_keeps (scope : Scope) (node : Kdl.Node) :
    Keeps scope (kubernetes scope node) (Scope.kubernetes · node) :=
  .foldlM (kubernetesField_keeps scope) _ _

theorem environmentField_keeps (scope : Scope)
    (draft : Option DockerConfig × Option KubernetesConfig) (node : Kdl.Node) :
    Keeps scope (environmentField scope draft node) (Scope.environmentField · draft node) := by
  unfold environmentField
  split
  · rename_i name
    unfold Scope.environmentField
    simp only [name]
    exact ((docker_keeps scope node).within _).bind fun docker => .pure _
  · rename_i name
    unfold Scope.environmentField
    simp only [name]
    exact ((kubernetes_keeps scope node).within _).bind fun kubernetes => .pure _
  · exact .reads _

theorem environment_keeps (scope : Scope) (name : String) (node : Kdl.Node) :
    Keeps scope (environment scope name node) (Scope.environment · name node) := by
  refine (Keeps.foldlM (environmentField_keeps scope) _ _).bind fun found => ?_
  refine (Keeps.reads _).bind fun docker => ?_
  exact (Keeps.reads _).bind fun kubernetes => .pure _

theorem topField_keeps (scope : Scope) (draft : Draft) (node : Kdl.Node) :
    Keeps scope (topField scope draft node) (Scope.topField · draft node) := by
  unfold topField
  split
  · rename_i name
    unfold Scope.topField
    simp only [name]
    refine (Keeps.reads _).bind fun id => ?_
    exact ((environment_keeps scope id node).within _).bind fun env => .pure _
  · exact .reads _

theorem document_keeps (scope : Scope) (draft : Draft) (nodes : List Kdl.Node) :
    Keeps scope (document scope draft nodes) (Scope.document · draft nodes) :=
  .foldlM (topField_keeps scope) _ _

end Stacked

end Rollout
