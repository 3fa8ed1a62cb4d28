import Rollout.Manifest

namespace Rollout

namespace Json

variable {j value : Json} {name other : String}

theorem field?_set_other (apart : other ≠ name) :
    (j.set name value).field? other = j.field? other := by
  cases j <;> simp [set, field?, Sorted.lookup_put, apart]

theorem field?_set_self (fields : List (String × Json)) :
    ((Json.object fields).set name value).field? name = some value := by
  simp [set, field?, Sorted.lookup_put]

mutual
def entries : Json → List (String × Json)
  | .array items => itemEntries items
  | .object fields => fieldEntries fields
  | _ => []
def itemEntries : List Json → List (String × Json)
  | [] => []
  | j :: rest => entries j ++ itemEntries rest
def fieldEntries : List (String × Json) → List (String × Json)
  | [] => []
  | (name, j) :: rest => (name, j) :: (entries j ++ fieldEntries rest)
end

theorem mem_itemEntries {items : List Json} {entry : String × Json} :
    entry ∈ itemEntries items ↔ ∃ j ∈ items, entry ∈ entries j := by
  induction items with
  | nil => simp [itemEntries]
  | cons j rest ih => simp [itemEntries, ih]

theorem mem_fieldEntries {fields : List (String × Json)} {entry : String × Json} :
    entry ∈ fieldEntries fields ↔ ∃ f ∈ fields, entry = f ∨ entry ∈ entries f.2 := by
  induction fields with
  | nil => simp [fieldEntries]
  | cons f rest ih => simp [fieldEntries, ih, or_assoc]

end Json

namespace Resource

variable {r : Resource} {field other : String} {value : Json} {labels : List (String × String)}

@[simp] theorem withField_key : (r.withField field value).key = r.key := by
  unfold withField; split <;> rfl
@[simp] theorem new_key {apiVersion kind name : String} {namespaceName : Option String} :
    (Resource.new apiVersion kind name namespaceName).key = ⟨kind, namespaceName, name⟩ := rfl

theorem withLabels_parts (r : Resource) (labels : List (String × String)) :
    ∃ body, r.withLabels labels = { r with body } ∧
      ∀ field, field ≠ "metadata" → body.field? field = r.body.field? field := by
  unfold withLabels
  split
  · split
    · exact ⟨_, rfl, fun field apart => Json.field?_set_other apart⟩
    · exact ⟨r.body, rfl, fun _ _ => rfl⟩
  · exact ⟨r.body, rfl, fun _ _ => rfl⟩

@[simp] theorem withLabels_kind : (r.withLabels labels).kind = r.kind := by
  obtain ⟨body, same, -⟩ := withLabels_parts r labels
  rw [same]
@[simp] theorem withLabels_key : (r.withLabels labels).key = r.key := by
  obtain ⟨body, same, -⟩ := withLabels_parts r labels
  rw [same]; rfl

theorem withLabels_field? (apart : field ≠ "metadata") :
    (r.withLabels labels).body.field? field = r.body.field? field := by
  obtain ⟨body, same, others⟩ := withLabels_parts r labels
  rw [same]
  exact others field apart

theorem withField_other (apart : other ≠ field) :
    (r.withField field value).body.field? other = r.body.field? other := by
  unfold withField
  split
  · rfl
  · exact Json.field?_set_other apart

def IsObject (r : Resource) : Prop := ∃ fields, r.body = .object fields

theorem new_isObject {apiVersion kind name : String} {namespaceName : Option String} :
    (Resource.new apiVersion kind name namespaceName).IsObject := ⟨_, rfl⟩

theorem withField_isObject (whole : r.IsObject) : (r.withField field value).IsObject := by
  obtain ⟨fields, same⟩ := whole
  unfold withField
  split
  · exact ⟨fields, same⟩
  · exact ⟨Sorted.put field value fields, by simp [same, Json.set]⟩

theorem withField_self (whole : r.IsObject) (free : identityFields.contains field = false) :
    (r.withField field value).body.field? field = some value := by
  obtain ⟨fields, same⟩ := whole
  simp only [withField, free, Bool.false_eq_true, if_false, same]
  exact Json.field?_set_self fields

theorem withLabels_at? {path : List String} (apart : field ≠ "metadata") :
    (r.withLabels labels).body.at? (field :: path) = r.body.at? (field :: path) := by
  simp only [Json.at?, withLabels_field? apart]

theorem withField_at? {path : List String} (whole : r.IsObject)
    (free : identityFields.contains field = false) :
    (r.withField field value).body.at? (field :: path) = value.at? path := by
  simp only [Json.at?, withField_self whole free, Option.bind_some]

end Resource

end Rollout
