import Mathlib.Data.List.Induction
import Rollout.Proofs.Manifest.Bodies
import Rollout.Proofs.Sorted

namespace Rollout

def Json.identity? (body : Json) : Option ResourceKey :=
  match body.field? "kind", body.at? ["metadata", "namespace"], body.at? ["metadata", "name"] with
  | some (.string kind), none, some (.string name) => some ⟨kind, none, name⟩
  | some (.string kind), some (.string space), some (.string name) => some ⟨kind, some space, name⟩
  | _, _, _ => none

namespace Resource

inductive Edit where
  | field (name : String) (value : Json)
  | labels (labels : List (String × String))

namespace Edit

def value? (field : String) : Edit → Option Json
  | .field name value => if name = field then some value else none
  | .labels _ => none

def label? (label : String) : Edit → Option String
  | .field _ _ => none
  | .labels added => added.lookup label

end Edit

def edit (r : Resource) : Edit → Resource
  | .field name value => r.withField name value
  | .labels labels => r.withLabels labels

def edited (r : Resource) (edits : List Edit) : Resource := edits.foldl edit r

variable {r : Resource} {edits : List Edit} {fields metadata labels : List (String × Json)}

theorem lookup_addLabel (labels : List (String × Json)) (label : String × String) (name : String) :
    (addLabel labels label).lookup name =
      (labels.lookup name).or (if name = label.1 then some (.string label.2) else none) := by
  unfold addLabel
  cases there : labels.lookup label.1 with
  | some value =>
    by_cases same : name = label.1
    · simp [same, there]
    · simp [same]
  | none =>
    by_cases same : name = label.1
    · simp [same, there, Sorted.lookup_put]
    · simp [same, Sorted.lookup_put]

-- A label that is there stays, and of several new ones the first counts.
theorem lookup_addLabels (added : List (String × String)) (labels : List (String × Json))
    (name : String) : (added.foldl addLabel labels).lookup name =
      (labels.lookup name).or ((added.lookup name).map .string) := by
  induction added generalizing labels with
  | nil => simp
  | cons label rest ih =>
    obtain ⟨key, text⟩ := label
    rw [List.foldl_cons, ih, lookup_addLabel, Option.or_assoc]
    by_cases same : name = key
    · simp [same]
    · simp [same, List.lookup_cons, beq_eq_false_iff_ne.mpr same]

theorem addLabels_ascending (added : List (String × String))
    (ascending : (labels.map Prod.fst).Pairwise (· < ·)) :
    ((added.foldl addLabel labels).map Prod.fst).Pairwise (· < ·) := by
  induction added generalizing labels with
  | nil => exact ascending
  | cons label rest ih =>
    refine ih ?_
    unfold addLabel
    split
    · exact ascending
    · exact Sorted.put_ascending ascending

-- The object of a resource after some edits, by the fields of the object, of its metadata and of
-- its labels. All three are maps: their names are sorted, and each occurs once.
structure Written (edits : List Edit) (r : Resource)
    (fields metadata labels : List (String × Json)) : Prop where
  body : r.body = .object fields
  inBody : fields.lookup "metadata" = some (.object metadata)
  inMetadata : (metadata.lookup "labels").getD (.object []) = .object labels
  apiVersion : fields.lookup "apiVersion" = some (.string r.apiVersion)
  kind : fields.lookup "kind" = some (.string r.kind)
  name : metadata.lookup "name" = some (.string r.name)
  space : metadata.lookup "namespace" = r.namespaceName.map .string
  -- The last edit of a field counts, and the first one that gives a label.
  value : ∀ field ∉ identityFields,
    fields.lookup field = edits.reverse.findSome? (Edit.value? field)
  label : ∀ name, labels.lookup name = (edits.findSome? (Edit.label? name)).map .string
  others : ∀ field ∉ ["labels", "name", "namespace"], metadata.lookup field = none
  ascending : (fields.map Prod.fst).Pairwise (· < ·)
  metadataAscending : (metadata.map Prod.fst).Pairwise (· < ·)
  labelsAscending : (labels.map Prod.fst).Pairwise (· < ·)

theorem identity_other {field : String} (other : field ∉ identityFields) :
    field ≠ "apiVersion" ∧ field ≠ "kind" ∧ field ≠ "metadata" := by
  simpa [identityFields] using other

theorem values_snoc (edits : List Edit) (last : Edit) (field : String) :
    (edits ++ [last]).reverse.findSome? (Edit.value? field) =
      (last.value? field).or (edits.reverse.findSome? (Edit.value? field)) := by
  cases found : last.value? field <;> simp [found]

theorem labels_snoc (edits : List Edit) (last : Edit) (label : String) :
    (edits ++ [last]).findSome? (Edit.label? label) =
      (edits.findSome? (Edit.label? label)).or (last.label? label) := by
  cases found : last.label? label <;> simp [List.findSome?_append, found]

theorem new_written (apiVersion kind name : String) (space : Option String) :
    ∃ fields metadata, Written [] (.new apiVersion kind name space) fields metadata [] := by
  have plain : ∀ field ∉ identityFields, ∀ a k m : Json,
      [("apiVersion", a), ("kind", k), ("metadata", m)].lookup field = none := by
    intro field other a k m
    obtain ⟨version, kind, metadata⟩ := identity_other other
    simp [List.lookup_cons, beq_eq_false_iff_ne.mpr version, beq_eq_false_iff_ne.mpr kind,
      beq_eq_false_iff_ne.mpr metadata]
  have names : ["apiVersion", "kind", "metadata"].Pairwise (· < ·) := by decide
  cases space with
  | none =>
    refine ⟨_, _, rfl, rfl, rfl, rfl, rfl, rfl, rfl, fun field other => plain field other _ _ _,
      fun _ => rfl, fun field other => ?_, names, List.pairwise_singleton _ _, .nil⟩
    have apart : field ≠ "name" := by simp at other; exact other.2.1
    simp [List.lookup_cons, beq_eq_false_iff_ne.mpr apart]
  | some space =>
    have inside : ["name", "namespace"].Pairwise (· < ·) := by decide
    refine ⟨_, _, rfl, rfl, rfl, rfl, rfl, rfl, rfl, fun field other => plain field other _ _ _,
      fun _ => rfl, fun field other => ?_, names, inside, .nil⟩
    have apart : field ≠ "name" ∧ field ≠ "namespace" := by simp at other; exact other.2
    simp [List.lookup_cons, beq_eq_false_iff_ne.mpr apart.1, beq_eq_false_iff_ne.mpr apart.2]

theorem Written.withField (written : Written edits r fields metadata labels) (field : String)
    (value : Json) : ∃ fields', Written (edits ++ [Edit.field field value])
      (r.withField field value) fields' metadata labels := by
  have label : ∀ name, labels.lookup name =
      ((edits ++ [Edit.field field value]).findSome? (Edit.label? name)).map .string := fun name => by
    rw [labels_snoc, written.label, Edit.label?, Option.or_none]
  by_cases identity : identityFields.contains field
  · rw [Resource.withField, if_pos identity]
    refine ⟨fields, { written with label, value := fun other free => ?_ }⟩
    have apart : field ≠ other := fun same => free (by simpa [same] using identity)
    rw [values_snoc, written.value other free, Edit.value?, if_neg apart, Option.none_or]
  · have free : field ∉ identityFields := by simpa using identity
    obtain ⟨version, kind, inBody⟩ := identity_other free
    rw [Resource.withField, if_neg identity, written.body]
    refine ⟨Sorted.put field value fields, {
      written with
      label
      body := rfl
      inBody := ?_
      apiVersion := ?_
      kind := ?_
      value := fun other free => ?_
      ascending := Sorted.put_ascending written.ascending }⟩
    · rw [Sorted.lookup_put, if_neg inBody.symm, written.inBody]
    · rw [Sorted.lookup_put, if_neg version.symm, written.apiVersion]
    · rw [Sorted.lookup_put, if_neg kind.symm, written.kind]
    · rw [Sorted.lookup_put, values_snoc, Edit.value?, written.value other free]
      by_cases same : field = other
      · rw [if_pos same, if_pos same.symm, Option.some_or]
      · rw [if_neg same, if_neg (Ne.symm same), Option.none_or]

theorem Written.withLabels (written : Written edits r fields metadata labels)
    (added : List (String × String)) : ∃ fields' metadata' labels',
      Written (edits ++ [Edit.labels added]) (r.withLabels added) fields' metadata' labels' := by
  have labelled : r.withLabels added = { r with
      body := .object (Sorted.put "metadata" (.object (Sorted.put "labels"
        (.object (added.foldl addLabel labels)) metadata)) fields) } := by
    simp only [Resource.withLabels, written.body, Json.field?, written.inBody, written.inMetadata,
      Json.set]
  rw [labelled]
  refine ⟨_, _, _, {
    body := rfl
    inBody := by rw [Sorted.lookup_put, if_pos rfl]
    inMetadata := by rw [Sorted.lookup_put, if_pos rfl, Option.getD_some]
    apiVersion := by rw [Sorted.lookup_put, if_neg (by decide), written.apiVersion]
    kind := by rw [Sorted.lookup_put, if_neg (by decide), written.kind]
    name := by rw [Sorted.lookup_put, if_neg (by decide), written.name]
    space := by rw [Sorted.lookup_put, if_neg (by decide), written.space]
    value := fun field free => ?_
    label := fun name => ?_
    others := fun field other => ?_
    ascending := Sorted.put_ascending written.ascending
    metadataAscending := Sorted.put_ascending written.metadataAscending
    labelsAscending := addLabels_ascending added written.labelsAscending }⟩
  · rw [Sorted.lookup_put, if_neg (identity_other free).2.2, values_snoc, written.value field free,
      Edit.value?, Option.none_or]
  · rw [lookup_addLabels, labels_snoc, written.label, Edit.label?, Option.map_or]
  · have apart : field ≠ "labels" := fun same => other (by simp [same])
    rw [Sorted.lookup_put, if_neg apart, written.others field other]

theorem Written.identity (written : Written edits r fields metadata labels) :
    r.body.identity? = some r.key := by
  simp only [Json.identity?, Json.at?, Json.field?, written.body, written.kind, written.inBody,
    Option.bind_some, written.name, written.space]
  cases space : r.namespaceName with
  | none => simp [key, space]
  | some space' => simp [key, space]

theorem edited_snoc (r : Resource) (edits : List Edit) (last : Edit) :
    r.edited (edits ++ [last]) = (r.edited edits).edit last := by
  rw [edited, List.foldl_append]
  rfl

theorem edit_parts (r : Resource) (e : Edit) : ∃ body, r.edit e = { r with body } := by
  cases e with
  | field name value =>
    rw [edit, Resource.withField]
    split
    · exact ⟨r.body, rfl⟩
    · exact ⟨_, rfl⟩
  | labels added =>
    obtain ⟨body, same, -⟩ := withLabels_parts r added
    exact ⟨body, same⟩

theorem edited_parts (r : Resource) (edits : List Edit) :
    ∃ body, r.edited edits = { r with body } := by
  induction edits using List.reverseRecOn with
  | nil => exact ⟨r.body, rfl⟩
  | append_singleton earlier last ih =>
    obtain ⟨before, same⟩ := ih
    obtain ⟨body, step⟩ := edit_parts (r.edited earlier) last
    exact ⟨body, by rw [edited_snoc, step, same]⟩

theorem edited_written (apiVersion kind name : String) (space : Option String)
    (edits : List Edit) : ∃ fields metadata labels,
      Written edits ((Resource.new apiVersion kind name space).edited edits) fields metadata labels := by
  induction edits using List.reverseRecOn with
  | nil =>
    obtain ⟨fields, metadata, written⟩ := new_written apiVersion kind name space
    exact ⟨fields, metadata, [], written⟩
  | append_singleton earlier last ih =>
    obtain ⟨fields, metadata, labels, written⟩ := ih
    rw [edited_snoc]
    cases last with
    | field name value =>
      obtain ⟨fields', written⟩ := written.withField name value
      exact ⟨fields', metadata, labels, written⟩
    | labels added => exact written.withLabels added

-- Whatever is done to a resource, its object keeps the identity with which it was made, and holds
-- besides what the edits gave it.
theorem edited_identity (apiVersion kind name : String) (space : Option String)
    (edits : List Edit) :
    let r := (Resource.new apiVersion kind name space).edited edits
    r.apiVersion = apiVersion ∧ r.key = ⟨kind, space, name⟩ ∧ r.body.identity? = some r.key ∧
      ∃ fields metadata labels, Written edits r fields metadata labels := by
  intro r
  obtain ⟨body, same⟩ := edited_parts (.new apiVersion kind name space) edits
  obtain ⟨fields, metadata, labels, written⟩ := edited_written apiVersion kind name space edits
  have kept : r = { Resource.new apiVersion kind name space with body } := same
  exact ⟨by rw [kept]; rfl, by rw [kept]; rfl, written.identity, fields, metadata, labels, written⟩

end Resource

end Rollout
