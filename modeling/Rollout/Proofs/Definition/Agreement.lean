import Rollout.Definition.Evaluation
import Rollout.Proofs.Assembly.Resolution

namespace Rollout

-- A success of the first is one of the second.
def Agrees {α : Type} (first second : Except Error α) : Prop :=
  ∀ a, first = .ok a → second = .ok a

namespace Agrees

variable {α β : Type} {first second : Except Error α}

theorem refl (outcome : Except Error α) : Agrees outcome outcome := fun _ ok => ok

theorem error (e : Error) (outcome : Except Error α) : Agrees (.error e) outcome :=
  fun _ failed => nomatch failed

theorem bind {f g : α → Except Error β} (agrees : Agrees first second)
    (then_ : ∀ a, Agrees (f a) (g a)) : Agrees (first >>= f) (second >>= g) := by
  intro b ran
  cases same : first with
  | error e => rw [same] at ran; cases ran
  | ok a =>
    rw [same] at ran
    rw [agrees a same]
    exact then_ a b ran

theorem map (agrees : Agrees first second) (f : α → β) :
    Agrees (first.map f) (second.map f) := by
  intro b ran
  cases same : first with
  | error e => rw [same] at ran; cases ran
  | ok a =>
    rw [same] at ran
    rw [agrees a same]
    exact ran

theorem foldlM {f g : β → α → Except Error β} (agrees : ∀ b a, Agrees (f b a) (g b a))
    (items : List α) (b : β) : Agrees (items.foldlM f b) (items.foldlM g b) := by
  induction items generalizing b with
  | nil => exact .refl _
  | cons item rest ih =>
    rw [List.foldlM_cons, List.foldlM_cons]
    exact (agrees b item).bind ih

end Agrees

namespace Scope

variable {here there : Scope}

theorem within_same (same : here.lookup = there.lookup) (label : String) :
    (here.within label).lookup = (there.within label).lookup := same

theorem argument_agrees (here there : Scope) (node : Kdl.Node) :
    Agrees (here.argument node) (there.argument node) := by
  unfold argument
  split
  · split
    · exact .refl _
    · exact .error _ _
    · exact .error _ _
  · exact .error _ _

theorem value_agrees (same : here.lookup = there.lookup) (node : Kdl.Node) (entry : Kdl.Entry) :
    Agrees (here.value node entry) (there.value node entry) := by
  unfold value
  rw [same]
  split
  · split
    · split
      · exact .refl _
      · exact .error _ _
    · exact .error _ _
  · split
    · exact .refl _
    · exact .refl _
    · split
      · exact .refl _
      · exact .error _ _
    · exact .error _ _

theorem scalar_agrees (same : here.lookup = there.lookup) (node : Kdl.Node) :
    Agrees (here.scalar node) (there.scalar node) :=
  (argument_agrees here there node).bind (value_agrees same node)

theorem string_agrees (same : here.lookup = there.lookup) (node : Kdl.Node) :
    Agrees (here.string node) (there.string node) := by
  refine (scalar_agrees same node).bind fun read => ?_
  cases read with
  | string s => exact .refl _
  | _ => exact .error _ _

theorem identifier_agrees (here there : Scope) (node : Kdl.Node) :
    Agrees (here.identifier node) (there.identifier node) := by
  refine (argument_agrees here there node).bind fun entry => ?_
  split
  · split
    · exact .error _ _
    · exact .refl _
  · exact .error _ _

mutual
theorem setting_agrees : ∀ {here there : Scope} (_ : here.lookup = there.lookup) (node : Kdl.Node),
    Agrees (setting here node) (setting there node)
  | here, there, same, ⟨offset, name, entries, some nodes⟩ => by
    unfold setting
    dsimp only
    split
    · exact (settings_agrees (within_same same name) [] nodes).map Setting.block
    · exact .error _ _
  | _, _, same, ⟨offset, name, entries, none⟩ => by
    unfold setting
    exact (scalar_agrees same _).map Setting.value
theorem settings_agrees : ∀ {here there : Scope} (_ : here.lookup = there.lookup)
    (before : Settings) (nodes : List Kdl.Node),
    Agrees (settings here before nodes) (settings there before nodes)
  | _, _, _, _, [] => .refl _
  | _, _, same, before, node :: rest => by
    unfold settings
    exact (setting_agrees same node).bind fun entry =>
      settings_agrees same (Declared.put node.name entry before) rest
end

theorem required_agrees {α : Type} (found : Option α) (e e' : Error) :
    Agrees (required found e) (required found e') := by
  cases found with
  | none => exact .error _ _
  | some a => exact .refl _

theorem loginField_agrees (same : here.lookup = there.lookup) (draft : LoginDraft)
    (node : Kdl.Node) : Agrees (here.loginField draft node) (there.loginField draft node) := by
  unfold loginField
  split
  · exact (scalar_agrees same node).bind fun _ => .refl _
  · exact (scalar_agrees same node).bind fun _ => .refl _
  · exact (scalar_agrees same node).bind fun _ => .refl _
  · exact .error _ _

theorem login_agrees (same : here.lookup = there.lookup) (node : Kdl.Node) :
    Agrees (here.login node) (there.login node) := by
  refine (Agrees.foldlM (loginField_agrees same) node.nodes _).bind fun draft => ?_
  refine (required_agrees draft.username _ _).bind fun _ => ?_
  refine (required_agrees draft.password _ _).bind fun _ => ?_
  exact (required_agrees draft.email _ _).bind fun _ => .refl _

theorem dockerField_agrees (same : here.lookup = there.lookup) (draft : DockerDraft)
    (node : Kdl.Node) : Agrees (here.dockerField draft node) (there.dockerField draft node) := by
  unfold dockerField
  split
  · refine (string_agrees same node).bind fun text => ?_
    split
    · exact .refl _
    · exact .error _ _
  · exact (login_agrees (within_same same "credentials") node).bind fun _ => .refl _
  · exact (string_agrees same node).bind fun _ => .refl _
  · exact (string_agrees same node).bind fun _ => .refl _
  · exact .error _ _

theorem docker_agrees (same : here.lookup = there.lookup) (node : Kdl.Node) :
    Agrees (here.docker node) (there.docker node) := by
  refine (Agrees.foldlM (dockerField_agrees same) node.nodes _).bind fun draft => ?_
  exact (required_agrees draft.image _ _).bind fun _ => .refl _

theorem kubernetesField_agrees (same : here.lookup = there.lookup) (draft : KubernetesConfig)
    (node : Kdl.Node) :
    Agrees (here.kubernetesField draft node) (there.kubernetesField draft node) := by
  unfold kubernetesField
  split
  · exact (string_agrees same node).bind fun _ => .refl _
  · refine (identifier_agrees here there node).bind fun id => ?_
    exact (settings_agrees (within_same same _) [] node.nodes).bind fun _ => .refl _
  · refine (identifier_agrees here there node).bind fun id => ?_
    exact (settings_agrees (within_same same _) [] node.nodes).bind fun _ => .refl _
  · exact .error _ _

theorem kubernetes_agrees (same : here.lookup = there.lookup) (node : Kdl.Node) :
    Agrees (here.kubernetes node) (there.kubernetes node) :=
  Agrees.foldlM (kubernetesField_agrees same) node.nodes _

theorem environmentField_agrees (same : here.lookup = there.lookup)
    (draft : Option DockerConfig × Option KubernetesConfig) (node : Kdl.Node) :
    Agrees (here.environmentField draft node) (there.environmentField draft node) := by
  unfold environmentField
  split
  · exact (docker_agrees (within_same same "docker") node).bind fun _ => .refl _
  · exact (kubernetes_agrees (within_same same "kubernetes") node).bind fun _ => .refl _
  · exact .error _ _

theorem environment_agrees (same : here.lookup = there.lookup) (name : String) (node : Kdl.Node) :
    Agrees (here.environment name node) (there.environment name node) := by
  refine (Agrees.foldlM (environmentField_agrees same) node.nodes _).bind fun draft => ?_
  refine (required_agrees draft.1 _ _).bind fun _ => ?_
  exact (required_agrees draft.2 _ _).bind fun _ => .refl _

theorem topField_agrees (same : here.lookup = there.lookup) (draft : Draft) (node : Kdl.Node) :
    Agrees (here.topField draft node) (there.topField draft node) := by
  unfold topField
  split
  · exact (string_agrees same node).bind fun _ => .refl _
  · refine (identifier_agrees here there node).bind fun name => ?_
    exact (environment_agrees (within_same same _) name node).bind fun _ => .refl _
  · split
    · exact .error _ _
    · exact .error _ _

theorem document_agrees (same : here.lookup = there.lookup) (draft : Draft)
    (nodes : List Kdl.Node) : Agrees (here.document draft nodes) (there.document draft nodes) :=
  Agrees.foldlM (topField_agrees same) nodes draft

def plain (lookup : SecretLookup) : Scope := ⟨none, "", lookup, []⟩

theorem document_plain {scope : Scope} {draft final : Draft} {nodes : List Kdl.Node} :
    scope.document draft nodes = .ok final ↔
      (plain scope.lookup).document draft nodes = .ok final := by
  have same : scope.lookup = (plain scope.lookup).lookup := rfl
  exact ⟨document_agrees same draft nodes final, document_agrees same.symm draft nodes final⟩

end Scope

namespace Definition

open Scope

variable {lookup : SecretLookup} {host : Host} {documents : List (List Kdl.Node)}
variable {draft final : Draft} {d : Definition}

theorem document_append (scope : Scope) (first second : List Kdl.Node) :
    scope.document draft (first ++ second) =
      scope.document draft first >>= fun middle => scope.document middle second :=
  List.foldlM_append

theorem addSources_document {sources : List Source}
    (added : sources.foldlM (addSource lookup) draft = .ok final) :
    ∃ documents : List (List Kdl.Node), sources.map (fun source => Kdl.parse? source.text) = documents.map some ∧
      (plain lookup).document draft documents.flatten = .ok final := by
  induction sources generalizing draft with
  | nil => exact ⟨[], rfl, added⟩
  | cons source rest ih =>
    rw [List.foldlM_cons] at added
    obtain ⟨middle, first, later⟩ := bind_eq_ok.mp added
    obtain ⟨documents, parsed, read⟩ := ih later
    unfold addSource at first
    split at first
    · cases first
    · rename_i nodes found
      refine ⟨nodes :: documents, by rw [List.map_cons, List.map_cons, found, parsed], ?_⟩
      have here := document_plain.mp first
      rw [List.flatten_cons, document_append]
      exact bind_eq_ok.mpr ⟨middle, here, read⟩

theorem present_of_read {path text : String} (read : host.readText path = .ok text) :
    host.files.present path = true := by
  unfold Host.readText FileTree.read at read
  unfold FileTree.present
  cases found : host.files.node path with
  | error e => rw [found] at read; cases read
  | ok node => rfl

theorem addFiles_document {paths texts : List String}
    (read : paths.map host.readText = texts.map .ok)
    (parsed : texts.map Kdl.parse? = documents.map some)
    (evaluated : (plain lookup).document draft documents.flatten = .ok final) :
    paths.foldlM (addFile lookup host) draft = .ok final := by
  induction paths generalizing texts documents draft with
  | nil =>
    obtain rfl := List.map_eq_nil_iff.mp read.symm
    obtain rfl := List.map_eq_nil_iff.mp parsed.symm
    exact evaluated
  | cons path rest ih =>
    cases texts with
    | nil => cases read
    | cons text texts =>
      cases documents with
      | nil => cases parsed
      | cons nodes documents =>
        obtain ⟨here, read⟩ := List.cons.inj read
        obtain ⟨found, parsed⟩ := List.cons.inj parsed
        rw [List.flatten_cons, document_append] at evaluated
        obtain ⟨middle, first, later⟩ := bind_eq_ok.mp evaluated
        rw [List.foldlM_cons]
        refine bind_eq_ok.mpr ⟨middle, ?_, ih read parsed later⟩
        simp only [addFile, present_of_read here, here, addSource, found, if_true]
        exact document_plain.mpr first

theorem ofSources_document {sources : List Source} (evaluated : ofSources lookup sources = .ok d) :
    ∃ (documents : List (List Kdl.Node)) (draft : Draft),
      sources.map (fun source => Kdl.parse? source.text) = documents.map some ∧
      (plain lookup).document .empty documents.flatten = .ok draft ∧ draft.finish = .ok d := by
  obtain ⟨draft, added, finished⟩ := bind_eq_ok.mp evaluated
  obtain ⟨documents, parsed, read⟩ := addSources_document added
  exact ⟨documents, draft, parsed, read, finished⟩

theorem ofFiles_sources {sources : List Source} (evaluated : ofSources lookup sources = .ok d)
    {paths : List String}
    (read : paths.map host.readText = sources.map fun source => .ok source.text) :
    ofFiles lookup host paths = .ok d := by
  obtain ⟨documents, draft, parsed, document, finished⟩ := ofSources_document evaluated
  have texts : paths.map host.readText = (sources.map Source.text).map .ok := by
    rw [read, List.map_map]; rfl
  have found : (sources.map Source.text).map Kdl.parse? = documents.map some := by
    rw [← parsed, List.map_map]; rfl
  exact bind_eq_ok.mpr ⟨draft, addFiles_document texts found document, finished⟩

end Definition

end Rollout
