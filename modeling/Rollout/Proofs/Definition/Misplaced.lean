import Rollout.Definition.Evaluation
import Rollout.Proofs.Except

namespace Rollout

open Scope

variable {α : Type} {scope : Scope} {node : Kdl.Node} {name : String}

-- A reader of the nodes of a block takes a name if it passes some node that is called so.
def Takes (read : Scope → α → Kdl.Node → Except Error α) (name : String) : Prop :=
  ∃ scope before node after, node.name = name ∧ read scope before node = .ok after

theorem takes_of_isOk {read : Scope → α → Kdl.Node → Except Error α} {before : α}
    (called : node.name = name) (passed : (read scope before node).isOk = true) :
    Takes read name := by
  cases outcome : read scope before node with
  | error e => rw [outcome] at passed; cases passed
  | ok after => exact ⟨scope, before, node, after, called, outcome⟩

-- The names that a reader knows: it takes each of them, and any node of another name is unknown.
structure Knows (read : Scope → α → Kdl.Node → Except Error α) (kind : String)
    (names : List String) : Prop where
  taken : ∀ name ∈ names, Takes read name
  others : ∀ scope before node, node.name ∉ names →
    read scope before node = .error (scope.unknown kind node)

theorem Knows.takes_iff {read : Scope → α → Kdl.Node → Except Error α} {kind : String}
    {names : List String} (knows : Knows read kind names) : Takes read name ↔ name ∈ names := by
  refine ⟨fun ⟨scope, before, node, after, called, passed⟩ => ?_, knows.taken name⟩
  by_cases known : name ∈ names
  · exact known
  · rw [knows.others scope before node (called ▸ known)] at passed
    cases passed

def fieldNode (text name : String) : Kdl.Node := ⟨0, name, [⟨none, none, .string text⟩], none⟩

def blockNode (name : String) (nodes : List Kdl.Node) : Kdl.Node := ⟨0, name, [], some nodes⟩

def bareScope : Scope := ⟨none, "", fun _ => .ok ⟨""⟩, []⟩

theorem environment_knows : Knows environmentField "block" ["docker", "kubernetes"] where
  taken := by
    have passed : ∀ name ∈ ["docker", "kubernetes"],
        (bareScope.environmentField (none, none)
          (blockNode name (if name = "docker" then [fieldNode "shop" "image_url"] else []))).isOk =
            true := by
      decide +kernel
    exact fun name known => takes_of_isOk rfl (passed name known)
  others scope before node other := by
    unfold environmentField
    split <;> simp_all

theorem docker_knows :
    Knows dockerField "field" ["image_url", "credentials", "dockerfile", "build_context"] where
  taken := by
    have passed : ∀ name ∈ ["image_url", "credentials", "dockerfile", "build_context"],
        (bareScope.dockerField ⟨none, none, "", ""⟩ (if name = "credentials"
          then blockNode name (["username", "password", "email"].map (fieldNode "x"))
          else fieldNode "shop" name)).isOk = true := by
      decide +kernel
    intro name known
    refine takes_of_isOk ?_ (passed name known)
    split <;> rfl
  others scope before node other := by
    unfold dockerField
    split <;> simp_all

theorem credentials_knows : Knows loginField "field" ["username", "password", "email"] where
  taken := by
    have passed : ∀ name ∈ ["username", "password", "email"],
        (bareScope.loginField ⟨none, none, none⟩ (fieldNode "x" name)).isOk = true := by
      decide +kernel
    exact fun name known => takes_of_isOk rfl (passed name known)
  others scope before node other := by
    unfold loginField
    split <;> simp_all

theorem kubernetes_knows :
    Knows kubernetesField "block" ["namespace", "provider", "add_plugin"] where
  taken := by
    have passed : ∀ name ∈ ["namespace", "provider", "add_plugin"],
        (bareScope.kubernetesField ⟨none, [], []⟩ (fieldNode "x" name)).isOk = true := by
      decide +kernel
    exact fun name known => takes_of_isOk rfl (passed name known)
  others scope before node other := by
    unfold kubernetesField
    split <;> simp_all

-- The names that are taken in an environment: by itself, or by a block in it.
inductive Inside (name : String) : Prop where
  | environment (takes : Takes environmentField name)
  | docker (takes : Takes dockerField name)
  | credentials (takes : Takes loginField name)
  | kubernetes (takes : Takes kubernetesField name)

theorem inside_iff : Inside name ↔ name ∈ ["docker", "kubernetes"] ∨
    name ∈ ["image_url", "credentials", "dockerfile", "build_context"] ∨
    name ∈ ["username", "password", "email"] ∨ name ∈ ["namespace", "provider", "add_plugin"] := by
  rw [← environment_knows.takes_iff, ← docker_knows.takes_iff, ← credentials_knows.takes_iff,
    ← kubernetes_knows.takes_iff]
  constructor
  · rintro (takes | takes | takes | takes)
    · exact .inl takes
    · exact .inr (.inl takes)
    · exact .inr (.inr (.inl takes))
    · exact .inr (.inr (.inr takes))
  · rintro (takes | takes | takes | takes)
    · exact .environment takes
    · exact .docker takes
    · exact .credentials takes
    · exact .kubernetes takes

-- The fields that are taken inside and that the table does not have.
def overlooked : List String := ["dockerfile", "build_context"]

theorem scoped_iff : name ∈ environmentScoped ↔ Inside name ∧ name ∉ overlooked := by
  rw [inside_iff]
  simp only [environmentScoped, overlooked, List.mem_cons, List.not_mem_nil, or_false]
  constructor
  · rintro (rfl | rfl | rfl | rfl | rfl | rfl | rfl | rfl | rfl | rfl) <;> simp
  · rintro ⟨(rfl | rfl) | (rfl | rfl | rfl | rfl) | (rfl | rfl | rfl) | rfl | rfl | rfl, listed⟩ <;>
      simp at listed ⊢

theorem topField_stray {before : Draft} (app : node.name ≠ "app")
    (environment : node.name ≠ "environment") :
    scope.topField before node = .error (.definition
      (if node.name ∈ environmentScoped then .outsideScope node.name (scope.locate node)
      else .unknownNode "block" node.name (scope.locate node))) := by
  unfold topField
  split
  next here => exact absurd here app
  next here => exact absurd here environment
  next =>
    by_cases listed : node.name ∈ environmentScoped
    · rw [if_pos (List.contains_iff_mem.mpr listed), if_pos listed]
    · rw [if_neg (mt List.contains_iff_mem.mp listed), if_neg listed]
      rfl

namespace Definition

variable {lookup : SecretLookup} {source : Source} {draft : Draft}

def Source.outermost (source : Source) (lookup : SecretLookup) : Scope :=
  ⟨source.file, source.text, lookup, []⟩

-- The message for a stray node `node` at the top level, for the names of the table and for others.
structure Diagnosed (lookup : SecretLookup) (source : Source) (draft : Draft) (node : Kdl.Node) :
    Prop where
  table : ∀ name, name ∈ environmentScoped ↔ Inside name ∧ name ∉ overlooked
  misplaced : Inside node.name → node.name ∉ overlooked →
    addSource lookup draft source = .error (.definition
      (.outsideScope node.name ((source.outermost lookup).locate node)))
  stray : (¬ Inside node.name ∨ node.name ∈ overlooked) →
    addSource lookup draft source = .error (.definition
      (.unknownNode "block" node.name ((source.outermost lookup).locate node)))

-- The first node that fails is a stray one: all nodes before it were read.
theorem addSource_diagnosed {before after : List Kdl.Node} {node : Kdl.Node} {read : Draft}
    (parsed : Kdl.parse? source.text = some (before ++ node :: after))
    (passed : (source.outermost lookup).document draft before = .ok read)
    (app : node.name ≠ "app") (environment : node.name ≠ "environment") :
    Diagnosed lookup source draft node := by
  have failed : addSource lookup draft source =
      (source.outermost lookup).topField read node >>= fun next =>
        (source.outermost lookup).document next after := by
    unfold addSource
    rw [parsed]
    show (source.outermost lookup).document draft (before ++ node :: after) = _
    unfold document at passed ⊢
    rw [List.foldlM_append, passed]
    rfl
  rw [topField_stray app environment] at failed
  refine ⟨fun _ => scoped_iff, fun inside kept => ?_, fun not => ?_⟩
  · rw [failed, if_pos (scoped_iff.mpr ⟨inside, kept⟩)]
    rfl
  · have unlisted : node.name ∉ environmentScoped := fun listed =>
      have ⟨inside, kept⟩ := scoped_iff.mp listed
      not.elim (fun outside => outside inside) kept
    rw [failed, if_neg unlisted]
    rfl

def strayDocker : Source :=
  ⟨none, "app \"shop\"\ndocker \x7b\n  image_url \"shop\"\n\x7d\n"⟩

theorem strayDocker_diagnosed : ∃ before node after read,
    Kdl.parse? strayDocker.text = some (before ++ node :: after) ∧
    (strayDocker.outermost bareScope.lookup).document .empty before = .ok read ∧
    node.name = "docker" ∧ Diagnosed bareScope.lookup strayDocker .empty node := by
  have shape : (Kdl.parse? strayDocker.text).map (fun nodes => (nodes.map Kdl.Node.name,
      ((strayDocker.outermost bareScope.lookup).document .empty (nodes.take 1)).isOk)) =
        some (["app", "docker"], true) := by
    decide +kernel
  obtain ⟨nodes, parsed, same⟩ := Option.map_eq_some_iff.mp shape
  obtain ⟨names, passed⟩ := Prod.mk.inj same
  obtain ⟨title, others, rfl, -, names⟩ := List.map_eq_cons_iff.mp names
  obtain ⟨node, rest, rfl, called, -⟩ := List.map_eq_cons_iff.mp names
  cases read : (strayDocker.outermost bareScope.lookup).document .empty [title] with
  | error e =>
    simp only [List.take_succ_cons, List.take_zero, read] at passed
    cases passed
  | ok draft =>
    exact ⟨[title], node, rest, draft, parsed, read, called,
      addSource_diagnosed parsed read (by rw [called]; decide) (by rw [called]; decide)⟩

def strayDockerfile : Source := ⟨none, "app \"shop\"\ndockerfile \"Dockerfile.web\"\n"⟩

theorem strayDockerfile_unknown : Inside "dockerfile" ∧ "dockerfile" ∉ environmentScoped ∧
    error? (addSource bareScope.lookup .empty strayDockerfile) =
      some (.definition (.unknownNode "block" "dockerfile" ⟨none, 2, 1, []⟩)) :=
  ⟨.docker (docker_knows.taken _ (by decide)), by decide, by decide +kernel⟩

end Definition

end Rollout
