import Rollout.Proofs.Credential.Unlocking
import Rollout.Proofs.Definition.Places
import Rollout.Proofs.Definition.Positions
import Rollout.Proofs.Definition.Stack

namespace Rollout

open Kdl

def DefinitionError.location? : DefinitionError → Option Location
  | .unknownNode _ _ location => some location
  | .missingField _ location => some location
  | .outsideScope _ location => some location
  | .invalidValue _ _ location => some location
  | _ => none

def Error.location? : Error → Option Location
  | .definition e => e.location?
  | _ => none

-- An outcome that tells of no place of a definition.
def Silent {α : Type} (outcome : Except Error α) : Prop :=
  ∀ e, outcome = .error e → e.location? = none

namespace Scope

variable {scope : Scope} {labels : List String} {place : Place} {node : Node} {document : List Node}
variable {e : Error} {location : Location}

-- A node stands in a place of a document, in the blocks that are called `labels`, the outermost one
-- first.
inductive Stands (document : List Node) : List String → Place → Node → Prop where
  | top {node : Node} (member : node ∈ document) : Stands document [] .document node
  | inside {labels : List String} {place inner : Place} {node child : Node}
      (outer : Stands document labels place node) (opens : place.inside? node = some inner)
      (member : child ∈ node.nodes) : Stands document (labels ++ [place.label node]) inner child

theorem Stands.all (stands : Stands document labels place node) : node.all ⊆ allOf document := by
  induction stands with
  | top member => exact all_subset member
  | @inside labels place inner node child outer opens member ih =>
    refine List.Subset.trans (List.Subset.trans (all_subset member) ?_) ih
    rw [node.all_eq]
    exact List.subset_cons_self _ _

theorem Stands.member (stands : Stands document labels place node) : node ∈ allOf document := by
  refine stands.all ?_
  rw [node.all_eq]
  exact List.mem_cons_self

-- An evaluation is blocked at a node: its reader fails there, and the fault is one of this node.
structure Blocked (scope : Scope) (document : List Node) (e : Error) (labels : List String)
    (place : Place) (node : Node) : Prop where
  stands : Stands document labels place node
  fails : place.Fails { scope with labels := labels } node e
  fault : Fault place { scope with labels := labels } node e

theorem sizeOf_child {child : Node} (member : child ∈ node.nodes) : sizeOf child < sizeOf node := by
  obtain ⟨offset, name, entries, children⟩ := node
  cases children with
  | none => cases member
  | some nodes =>
    have := List.sizeOf_lt_of_mem member
    simp only [Node.nodes, Option.getD_some, Node.mk.sizeOf_spec, Option.some.sizeOf_spec] at *
    omega

-- From a node whose reader fails down to the one that has the fault.
theorem exists_blocked (scope : Scope) (document : List Node) (e : Error) (labels : List String)
    (place : Place) (node : Node) (stands : Stands document labels place node)
    (fails : place.Fails { scope with labels := labels } node e) :
    ∃ labels place node, Blocked scope document e labels place node := by
  cases fails.blamed with
  | here fault => exact ⟨labels, place, node, stands, fails, fault⟩
  | @inside inner child opens member failed =>
    exact exists_blocked scope document e _ inner child (stands.inside opens member) failed
termination_by sizeOf node
decreasing_by exact sizeOf_child member

theorem document_blocked {draft : Draft} {nodes : List Node} (outermost : scope.labels = [])
    (failed : scope.document draft nodes = .error e) :
    ∃ labels place node, Blocked scope nodes e labels place node := by
  obtain ⟨node, member, before, failed⟩ := foldlM_eq_error failed
  refine exists_blocked scope nodes e [] .document node (.top member) ⟨before, ?_⟩
  rw [← outermost]
  exact failed

theorem Fault.told (fault : Fault place scope node e) (located : e.location? = some location)
    (silent : ∀ key, Silent (scope.lookup key)) :
    (location = scope.locate node ∧ ∀ field, e ≠ .definition (.missingField field location)) ∨
    (∃ inner field, place.inside? node = some inner ∧
      location = (scope.within (place.label node)).locate node ∧
      e = .definition (.missingField field location)) := by
  cases fault with
  | unknown =>
    obtain rfl := Option.some.inj located
    exact .inl ⟨rfl, fun _ => nofun⟩
  | outside =>
    obtain rfl := Option.some.inj located
    exact .inl ⟨rfl, fun _ => nofun⟩
  | value known unread =>
    cases unread with
    | form message =>
      obtain rfl := Option.some.inj located
      exact .inl ⟨rfl, fun _ => nofun⟩
    | secret refused =>
      rw [silent _ _ refused] at located
      cases located
  | @missing inner field opens demanded absent =>
    obtain rfl := Option.some.inj located
    exact .inr ⟨inner, field, opens, rfl, rfl⟩

end Scope

theorem Silent.ok {α : Type} (a : α) : Silent (.ok a) := fun _ failed => nomatch failed

theorem Silent.error {α : Type} {e : Error} (nowhere : e.location? = none) :
    Silent (.error e : Except Error α) := fun _ failed => Except.error.inj failed ▸ nowhere

theorem Silent.bind {α β : Type} {x : Except Error α} {f : α → Except Error β} (first : Silent x)
    (then_ : ∀ a, Silent (f a)) : Silent (x >>= f) := by
  intro e failed
  rcases bind_eq_error.mp failed with failed | ⟨a, -, failed⟩
  · exact first e failed
  · exact then_ a e failed

theorem readKey_silent (source : CredentialSource) (host : Host) :
    Silent (source.readKey host) := by
  rcases CredentialSource.unset_or_set host source.envKey with unset | ⟨value, there, filled⟩
  · rw [CredentialSource.readKey_unset unset]
    split
    · split
      · exact .ok _
      · exact .error rfl
    · exact .ok _
  · rw [CredentialSource.readKey_set there filled]
    exact .ok _

theorem decrypt_silent (source : CredentialSource) (host : Host) :
    Silent (source.decrypt host) := by
  refine (readKey_silent source host).bind fun key => ?_
  dsimp only
  split
  · split
    · exact .error rfl
    · exact .ok _
  · split
    · split
      · exact .error rfl
      · split
        · exact .error rfl
        · split
          · exact .error rfl
          · exact .ok _
    · split
      · exact .error rfl
      · exact .ok _

theorem Resolver.resolve_silent (resolver : Resolver) (host : Host) (key : String) :
    Silent (resolver.resolve host key).1 := by
  have unlocked : Silent (resolver.unlock host).1 := by
    unfold Resolver.unlock
    split
    · exact .ok _
    · split
      · exact .ok _
      · rename_i failed
        exact .error (decrypt_silent resolver.source host _ failed)
  refine unlocked.bind fun table => ?_
  unfold Resolver.lookup
  split
  · exact .ok _
  · exact .error rfl

namespace Definition

open Scope

-- What the location of an error tells: the node with the fault, where it begins in the text and in
-- which blocks it stands, with its own block if that is where something is missing.
structure Located (lookup : SecretLookup) (source : Source) (document : List Node) (e : Error)
    (location : Location) (labels : List String) (place : Place) (node : Node) : Prop
    extends Blocked ⟨source.file, source.text, lookup, []⟩ document e labels place node where
  file : location.file = source.file
  exact : ∃ lines inLine behind, Exact source.text.toList node.offset location.line location.column
    lines inLine behind
  around : (∀ field, e ≠ .definition (.missingField field location)) → location.scope = labels
  own : ∀ field, e = .definition (.missingField field location) →
    (place.inside? node).isSome ∧ location.scope = labels ++ [place.label node]

structure Traceable (lookup : SecretLookup) (draft : Draft) (source : Source) : Prop where
  located : ∀ e location, addSource lookup draft source = .error e →
    e.location? = some location → ∃ document, Kdl.parse? source.text = some document ∧
      ∃ labels place node, Located lookup source document e location labels place node
  apart : ∀ document, Kdl.parse? source.text = some document → Apart source.text document
  -- the evaluation with a stack of the open blocks, from any stack on
  kept : ∀ document, Kdl.parse? source.text = some document → ∀ stack,
    (Stacked.document ⟨source.file, source.text, lookup, []⟩ draft document).run.run stack =
      (Scope.document ⟨source.file, source.text, lookup, stack⟩ draft document, stack)

theorem blocked_located {lookup : SecretLookup} {source : Source} {document : List Node} {e : Error}
    {location : Location} {labels : List String} {place : Place} {node : Node}
    (silent : ∀ key, Silent (lookup key)) (parsed : Kdl.parse? source.text = some document)
    (located : e.location? = some location)
    (blocked : Blocked ⟨source.file, source.text, lookup, []⟩ document e labels place node) :
    Located lookup source document e location labels place node := by
  have exact := (parse?_apart parsed).exact node blocked.stands.member
  rcases blocked.fault.told located silent with ⟨rfl, other⟩ | ⟨inner, field, opens, rfl, rfl⟩
  · exact ⟨blocked, rfl, exact, fun _ => rfl, fun field same => absurd same (other field)⟩
  · exact ⟨blocked, rfl, exact, fun other => absurd rfl (other field),
      fun _ _ => ⟨by rw [opens]; rfl, rfl⟩⟩

theorem addSource_traceable (resolver : Resolver) (host : Host) (draft : Draft) (source : Source) :
    Traceable (fun key => (resolver.resolve host key).1) draft source := by
  refine ⟨fun e location failed located => ?_, fun document => parse?_apart,
    fun document _ stack => Stacked.document_keeps _ draft document stack⟩
  unfold addSource at failed
  split at failed
  · obtain rfl := Except.error.inj failed
    cases located
  · rename_i document parsed
    obtain ⟨labels, place, node, blocked⟩ := document_blocked rfl failed
    exact ⟨document, parsed, labels, place, node,
      blocked_located (resolver.resolve_silent host) parsed located blocked⟩

-- A number with a fraction three blocks and a block of settings down.
example :
    let text := "app \"shop\"\nenvironment \"dev\" \x7b\n  kubernetes \x7b\n    provider \"a\" " ++
      "\x7b\n      region \x7b\n        zone 1.5\n\x7d\x7d\x7d\x7d\n"
    error? (addSource (fun _ => .ok ⟨""⟩) .empty ⟨none, text⟩) =
      some (.definition (.invalidValue "zone" "unsupported value 1.5" ⟨none, 6, 9,
        ["environment \"dev\"", "kubernetes", "provider \"a\"", "region"]⟩)) := by
  decide +kernel

end Definition

end Rollout
