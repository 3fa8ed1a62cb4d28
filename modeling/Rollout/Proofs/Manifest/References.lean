import Rollout.Proofs.Manifest.Bodies
import Rollout.Proofs.Manifest.Merge

namespace Rollout

namespace Resource

-- Everything that is named in the specification. Data of users lies elsewhere in the body.
def entries (r : Resource) : List (String × Json) :=
  ((r.body.field? "spec").map Json.entries).getD []

def isWorkload (r : Resource) : Bool := r.kind == "Deployment" || r.kind == "StatefulSet"

def Exposes (r : Resource) (port : Json) : Prop :=
  ∃ containers c exposed e,
    r.body.at? ["spec", "template", "spec", "containers"] = some (.array containers) ∧
      c ∈ containers ∧ c.field? "ports" = some (.array exposed) ∧ e ∈ exposed ∧
      e.field? "containerPort" = some port

end Resource

namespace Manifest

-- A resource of a kind that is named, and that is applied in an earlier tier.
structure Target (m : Manifest) (r : Resource) (kind : String) (name : Option Json)
    (t : Resource) : Prop where
  earlier : m.Earlier t r
  kind : t.kind = kind
  space : t.namespaceName = r.namespaceName
  name : name = some (.string t.name)

def Refers (m : Manifest) (r : Resource) (kind : String) (name : Option Json) : Prop :=
  ∃ t, m.Target r kind name t

-- What a named value of a specification has to find in the manifest.
def Resolves (m : Manifest) (r : Resource) (field : String) (value : Json) : Prop :=
  match field with
  | "configMapRef" => m.Refers r "ConfigMap" (value.field? "name")
  | "secretRef" => m.Refers r "Secret" (value.field? "name")
  | "secretKeyRef" => ∃ t key text, m.Target r "Secret" (value.field? "name") t ∧
      value.field? "key" = some (.string key) ∧
      t.body.at? ["stringData", key] = some (.string text)
  | "imagePullSecrets" => ∃ items, value = .array items ∧
      ∀ item ∈ items, m.Refers r "Secret" (item.field? "name")
  | "serviceName" => m.Refers r "Service" (some value)
  | "backend" => ∃ t ports p port, m.Target r "Service" (value.at? ["service", "name"]) t ∧
      t.body.at? ["spec", "ports"] = some (.array ports) ∧ p ∈ ports ∧
      p.field? "port" = some port ∧ value.at? ["service", "port", "number"] = some port
  | _ => True

def referenceFields : List String :=
  ["configMapRef", "secretRef", "secretKeyRef", "imagePullSecrets", "serviceName", "backend"]

-- A workload whose pods a service selects, and which listens where the service sends to.
def Serves (m : Manifest) (s w : Resource) : Prop :=
  w ∈ m.resources ∧ w.isWorkload = true ∧ w.namespaceName = s.namespaceName ∧
    (∃ labels, s.body.at? ["spec", "selector"] = some labels ∧
      w.body.at? ["spec", "template", "metadata", "labels"] = some labels) ∧
    ∃ ports, s.body.at? ["spec", "ports"] = some (.array ports) ∧
      ∀ p ∈ ports, ∃ port, p.field? "targetPort" = some port ∧ w.Exposes port

structure Closed (m : Manifest) (space : String) : Prop where
  placed : ∃ first rest, m.resources = first :: rest ∧ first.kind = "Namespace" ∧
    first.name = space ∧ ∀ r ∈ rest, r.kind ≠ "Namespace" ∧ r.namespaceName = some space
  resolved : ∀ r ∈ m.resources, ∀ field value, (field, value) ∈ r.entries →
    m.Resolves r field value
  served : ∀ s ∈ m.resources, s.kind = "Service" → ∃ w, m.Serves s w

variable {m : Manifest} {r : Resource}

def Sound (m : Manifest) (r : Resource) (j : Json) : Prop :=
  ∀ field value, (field, value) ∈ j.entries → m.Resolves r field value

@[simp] theorem resolves_plain {field : String} {value : Json}
    (plain : referenceFields.contains field = false) : m.Resolves r field value := by
  unfold Resolves
  split
  all_goals first
    | exact trivial
    | simp [referenceFields] at plain

@[simp] theorem sound_object {fields : List (String × Json)} : m.Sound r (.object fields) ↔
    ∀ f ∈ fields, m.Resolves r f.1 f.2 ∧ m.Sound r f.2 := by
  simp only [Sound, Json.entries, Json.mem_fieldEntries]
  constructor
  · intro sound f member
    exact ⟨sound f.1 f.2 ⟨f, member, .inl rfl⟩,
      fun field value inside => sound field value ⟨f, member, .inr inside⟩⟩
  · rintro sound field value ⟨f, member, rfl | inside⟩
    · exact (sound _ member).1
    · exact (sound f member).2 field value inside

@[simp] theorem sound_array {items : List Json} : m.Sound r (.array items) ↔
    ∀ j ∈ items, m.Sound r j := by
  simp only [Sound, Json.entries, Json.mem_itemEntries]
  exact ⟨fun sound j member field value inside => sound field value ⟨j, member, inside⟩,
    fun sound field value ⟨j, member, inside⟩ => sound j member field value inside⟩

@[simp] theorem sound_string {s : String} : m.Sound r (.string s) :=
  fun _ _ none => by cases none
@[simp] theorem sound_number {n : Json.Number} : m.Sound r (.number n) :=
  fun _ _ none => by cases none

end Manifest

end Rollout
