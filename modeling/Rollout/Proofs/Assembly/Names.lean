import Rollout.Proofs.Assembly.Closure

namespace Rollout

def isObjectName (name : String) : Bool :=
  isValidName name && decide (name.utf8ByteSize ≤ maxNameLength)

def isLabelText (text : String) : Bool :=
  decide (text.utf8ByteSize ≤ maxNameLength) && text.toList.all isNameChar

namespace Resource

variable {r : Resource}

def isCompliant (r : Resource) : Bool :=
  match r.body.at? ["metadata", "name"], r.body.at? ["metadata", "labels"] with
  | some (.string name), some (.object labels) =>
    isObjectName name && labels.all fun label => label.2.asString?.any isLabelText
  | _, _ => false

-- A resource with its own name in its metadata, and no labels yet.
def Unlabelled (r : Resource) : Prop :=
  ∃ metadata, r.body.field? "metadata" = some (.object metadata) ∧
    metadata.lookup "name" = some (.string r.name) ∧ metadata.lookup "labels" = none

theorem new_unlabelled {apiVersion kind name : String} {namespaceName : Option String} :
    (Resource.new apiVersion kind name namespaceName).Unlabelled := by
  cases namespaceName with
  | none => exact ⟨_, rfl, rfl, rfl⟩
  | some space => exact ⟨_, rfl, rfl, rfl⟩

theorem withField_unlabelled {field : String} {value : Json} (plain : r.Unlabelled) :
    (r.withField field value).Unlabelled := by
  obtain ⟨metadata, found, name, labels⟩ := plain
  have sameName : (r.withField field value).name = r.name :=
    congrArg ResourceKey.name withField_key
  refine ⟨metadata, ?_, sameName ▸ name, labels⟩
  by_cases identity : identityFields.contains field
  · rwa [withField, if_pos identity]
  · have apart : "metadata" ≠ field := fun same => identity (same ▸ by decide)
    rwa [withField_other apart]

theorem withLabels_metadata (labels : List (String × String)) (plain : r.Unlabelled) :
    (r.withLabels labels).body.at? ["metadata", "name"] = some (.string r.name) ∧
      (r.withLabels labels).body.at? ["metadata", "labels"] =
        some (.object (labels.foldl addLabel [])) := by
  obtain ⟨metadata, found, name, none⟩ := plain
  have labelled : (r.withLabels labels).body = r.body.set "metadata"
      (.object (Sorted.put "labels" (.object (labels.foldl addLabel [])) metadata)) := by
    simp only [withLabels, found, none, Option.getD_none]
  obtain ⟨fields, whole⟩ : ∃ fields, r.body = .object fields := by
    cases body : r.body with
    | object fields => exact ⟨fields, rfl⟩
    | _ => rw [body] at found; cases found
  simp only [labelled, whole, Json.at?, Json.field?_set_self, Option.bind_some]
  exact ⟨by simp [Json.field?, Sorted.lookup_put, name], by simp [Json.field?, Sorted.lookup_put]⟩

theorem labels_added {labels : List (String × String)}
    (ascending : (labels.map Prod.fst).Pairwise fun a b => b ≠ a ∧ ¬ b < a) :
    labels.foldl addLabel [] = labels.map fun (label, text) => (label, .string text) := by
  induction labels using List.reverseRecOn with
  | nil => rfl
  | append_singleton earlier last ih =>
    rw [List.map_append] at ascending
    obtain ⟨before, -, behind⟩ := List.pairwise_append.mp ascending
    have apart : ∀ entry ∈ earlier.map fun (label, text) => (label, Json.string text),
        last.1 ≠ entry.1 ∧ ¬ last.1 < entry.1 := by
      intro entry member
      obtain ⟨label, inside, rfl⟩ := List.mem_map.mp member
      exact behind label.1 (List.mem_map_of_mem inside) last.1 (by simp)
    have absent : (earlier.map fun (label, text) => (label, Json.string text)).lookup last.1 = none :=
      List.lookup_eq_none_iff.mpr fun entry member => by simpa using (apart entry member).1
    rw [List.foldl_append, ih before, List.foldl_cons, List.foldl_nil, addLabel, absent,
      Sorted.put_behind apart, List.map_append]
    rfl

end Resource

namespace Assembly

open Resource Manifest

variable {env : Environment} {image : Image} {prepared : Prepared} {ctx : PluginContext}
variable {pieces : List Piece} {base : List Resource} {m : Manifest} {r d : Resource}

def objectSuffixes : List String := ["registry", "postgres", "config", "secrets", "web"]

theorem isValidName_suffix {name suffix : String} (valid : isValidName name = true)
    (listed : suffix ∈ objectSuffixes) : isValidName (name ++ "-" ++ suffix) = true := by
  have shape : ∀ s ∈ objectSuffixes, s.toList.all isNameChar = true ∧
      ∃ c, s.toList.getLast? = some c ∧ c ≠ '-' := by
    intro s member
    simp only [objectSuffixes, List.mem_cons, List.not_mem_nil, or_false] at member
    rcases member with rfl | rfl | rfl | rfl | rfl <;> exact ⟨by decide, _, rfl, by decide⟩
  obtain ⟨chars, last, ends, noHyphen⟩ := shape suffix listed
  unfold isValidName at valid ⊢
  rw [String.toList_append, String.toList_append]
  cases letters : name.toList with
  | nil => rw [letters] at valid; cases valid
  | cons first rest =>
    simp only [letters, Bool.and_eq_true] at valid
    obtain ⟨⟨lower, inner⟩, -⟩ := valid
    have hyphen : "-".toList.all isNameChar = true := by decide
    have ending : (first :: (rest ++ "-".toList ++ suffix.toList)).getLast? = some last := by
      rw [← List.cons_append, List.getLast?_append, ends, Option.some_or]
    simp only [List.cons_append, List.all_append, lower, inner, hyphen, chars, ending,
      Bool.and_self, Bool.true_and]
    simpa using noHyphen

def Named (env : Environment) (r : Resource) : Prop :=
  (r.kind = "Namespace" ∧ r.name = env.namespaceOf) ∨
    ∃ suffix ∈ objectSuffixes, r.name = env.app ++ "-" ++ suffix

theorem Made.named (made : Made env (context env image []) pieces d) : Named env d := by
  have suffixed : ∀ {key : ResourceKey} {suffix : String}, d.key = key →
      key.name = env.app ++ "-" ++ suffix → suffix ∈ objectSuffixes → Named env d :=
    fun same name listed => .inr ⟨_, listed, (congrArg ResourceKey.name same).trans name⟩
  cases made with
  | space => exact .inl ⟨rfl, rfl⟩
  | pullSecret login key plain =>
    obtain ⟨_, -, rfl⟩ := Option.map_eq_some_iff.mp login
    exact suffixed key (registry_name env) (by decide)
  | databaseSecret server => exact suffixed databaseSecret_key rfl (by decide)
  | databaseService server => exact suffixed databaseService_key rfl (by decide)
  | database server => exact suffixed database_key rfl (by decide)
  | config web => exact suffixed config_key rfl (by decide)
  | secrets web member => exact suffixed (secrets_key member) rfl (by decide)
  | deployment web => exact suffixed deployment_key rfl (by decide)
  | service web => exact suffixed service_key rfl (by decide)
  | ingress web => exact suffixed ingress_key rfl (by decide)

-- With the application and the namespace every name is valid, and only the suffix adds to its length.
theorem Named.valid (named : Named env r) (app : isValidName env.app = true)
    (space : isValidName env.namespaceOf = true) : isValidName r.name = true := by
  rcases named with ⟨-, same⟩ | ⟨suffix, listed, same⟩
  · rwa [same]
  · rw [same]
    exact isValidName_suffix app listed

theorem Named.short (named : Named env r) (room : env.app.utf8ByteSize + 9 ≤ maxNameLength)
    (space : env.namespaceOf.utf8ByteSize ≤ maxNameLength) :
    r.name.utf8ByteSize ≤ maxNameLength := by
  rcases named with ⟨-, same⟩ | ⟨suffix, listed, same⟩
  · rwa [same]
  · have size : ∀ s ∈ objectSuffixes, s.utf8ByteSize ≤ 8 := by decide
    have hyphen : "-".utf8ByteSize = 1 := by decide
    have := size suffix listed
    rw [same, String.utf8ByteSize_append, String.utf8ByteSize_append]
    omega

theorem base_unlabelled (based : baseResources env = .ok base) : ∀ d ∈ base, d.Unlabelled := by
  unfold baseResources at based
  split at based
  · obtain ⟨secret, made, based⟩ := bind_eq_ok.mp based
    obtain ⟨username, -, made⟩ := bind_eq_ok.mp made
    obtain ⟨password, -, made⟩ := bind_eq_ok.mp made
    obtain ⟨email, -, made⟩ := bind_eq_ok.mp made
    obtain rfl := Except.ok.inj made
    obtain rfl := Except.ok.inj based
    intro d member
    rcases List.mem_pair.mp member with rfl | rfl
    · exact new_unlabelled
    · exact withField_unlabelled (withField_unlabelled new_unlabelled)
  · obtain rfl := Except.ok.inj based
    intro d member
    rw [List.mem_singleton.mp member]
    exact new_unlabelled

theorem piece_unlabelled {piece : Piece} (inside : d ∈ piece.resources ctx) : d.Unlabelled := by
  cases piece with
  | server p =>
    simp only [Piece.resources, List.mem_cons, List.not_mem_nil, or_false] at inside
    rcases inside with rfl | rfl | rfl
    · exact withField_unlabelled (withField_unlabelled new_unlabelled)
    · exact withField_unlabelled new_unlabelled
    · exact withField_unlabelled new_unlabelled
  | web app vars =>
    simp only [Piece.resources, List.mem_append, List.mem_cons, List.not_mem_nil, or_false]
      at inside
    rcases inside with (rfl | inSecret) | rfl | rfl | rfl
    · exact withField_unlabelled new_unlabelled
    · unfold RailsApp.secret at inSecret
      split at inSecret
      · cases inSecret
      · rw [List.mem_singleton.mp inSecret]
        exact withField_unlabelled (withField_unlabelled new_unlabelled)
    · exact withField_unlabelled new_unlabelled
    · exact withField_unlabelled new_unlabelled
    · exact withField_unlabelled new_unlabelled

-- What is written into the metadata of a generated resource.
structure Inscribed (env : Environment) (r : Resource) : Prop where
  named : Named env r
  name : r.body.at? ["metadata", "name"] = some (.string r.name)
  labels : r.body.at? ["metadata", "labels"] =
    some (.object ((standardLabels env).map fun (label, text) => (label, .string text)))

theorem standardLabels_added (env : Environment) : (standardLabels env).foldl addLabel [] =
    (standardLabels env).map fun (label, text) => (label, .string text) := by
  have names : (standardLabels env).map Prod.fst = ["app.kubernetes.io/instance",
    "app.kubernetes.io/managed-by", "app.kubernetes.io/name"] := rfl
  exact labels_added (by rw [names]; decide)

theorem manifest_inscribed (image : Image) (pieces : List Piece)
    (based : baseResources env = .ok base) :
    ∀ r ∈ (Manifest.ofResources (declared env (context env image []) base pieces)).resources,
      Inscribed env r := by
  intro r member
  obtain ⟨d, present, rfl⟩ := List.mem_map.mp (mem_of_last (mem_ofResources.mp member))
  have plain : d.Unlabelled := by
    rcases List.mem_append.mp present with inBase | inPieces
    · exact base_unlabelled based d inBase
    · obtain ⟨piece, -, inside⟩ := List.mem_flatMap.mp inPieces
      exact piece_unlabelled inside
  obtain ⟨name, labels⟩ := withLabels_metadata (standardLabels env) plain
  have same : (d.withLabels (standardLabels env)).name = d.name :=
    congrArg ResourceKey.name withLabels_key
  refine ⟨?_, by rw [same]; exact name, labels.trans (by rw [standardLabels_added])⟩
  have named := (made_of_mem based present).named
  rwa [Named, same, withLabels_kind]

-- The name has to be short, and so have the labels. Nothing else can be wrong.
theorem Inscribed.compliant (inscribed : Inscribed env r) (app : isValidName env.app = true)
    (space : isValidName env.namespaceOf = true) :
    r.isCompliant = true ↔ r.name.utf8ByteSize ≤ maxNameLength ∧
      env.app.utf8ByteSize ≤ maxNameLength ∧ isLabelText (env.app ++ "-" ++ env.name) = true := by
  have valid := inscribed.named.valid app space
  have label : isLabelText env.app = decide (env.app.utf8ByteSize ≤ maxNameLength) := by
    rw [isLabelText, isNameChar_of_isValidName app, Bool.and_true]
  have fixed : isLabelText "berth" = true := by decide
  simp only [isCompliant, inscribed.name, inscribed.labels, isObjectName, valid, standardLabels,
    List.map_cons, List.map_nil, List.all_cons, List.all_nil, Json.asString?, Option.any_some,
    label, fixed, Bool.and_eq_true, decide_eq_true_eq]
  tauto

-- Without a namespace of its own, an environment has its labels checked along with the namespace.
theorem labels_of_namespace (own : env.kubernetes.namespaceName = none)
    (space : isValidName env.namespaceOf = true)
    (short : env.namespaceOf.utf8ByteSize ≤ maxNameLength) :
    env.app.utf8ByteSize ≤ maxNameLength ∧ isLabelText (env.app ++ "-" ++ env.name) = true := by
  have same : env.namespaceOf = env.app ++ "-" ++ env.name := by
    rw [Environment.namespaceOf, own, Option.getD_none]
  rw [same] at space short
  refine ⟨?_, by rw [isLabelText, isNameChar_of_isValidName space, decide_eq_true short]; rfl⟩
  rw [String.utf8ByteSize_append, String.utf8ByteSize_append] at short
  omega

theorem checked_names (checked : prepare Registries.builtin env = .ok prepared) :
    isValidName env.app = true ∧ isValidName env.namespaceOf = true ∧
      env.namespaceOf.utf8ByteSize ≤ maxNameLength := by
  obtain ⟨-, clean, -⟩ := prepare_parts checked
  simp only [Environment.findings, List.append_eq_nil_iff] at clean
  obtain ⟨⟨⟨app, space⟩, -⟩, -⟩ := clean
  unfold Environment.appViolations at app
  unfold Environment.namespaceViolations at space
  dsimp only at space
  split at app
  · rename_i valid
    split at space
    · rename_i both
      simp only [Bool.and_eq_true, decide_eq_true_eq] at both
      exact ⟨valid, both.1, both.2⟩
    · cases space
  · cases app

-- The names and labels in the manifest of an environment behind its checks.
structure WellNamed (env : Environment) (m : Manifest) : Prop where
  inscribed : ∀ r ∈ m.resources, Inscribed env r
  valid : ∀ r ∈ m.resources, isValidName r.name = true
  -- What can be wrong: the length of the name, and the two labels that are made for the environment.
  compliant : ∀ r ∈ m.resources, r.isCompliant = true ↔ r.name.utf8ByteSize ≤ maxNameLength ∧
    env.app.utf8ByteSize ≤ maxNameLength ∧ isLabelText (env.app ++ "-" ++ env.name) = true
  -- Without a namespace of its own, only an application too long for a suffix.
  named : env.kubernetes.namespaceName = none →
    ∀ r ∈ m.resources, r.isCompliant = true ↔ r.name.utf8ByteSize ≤ maxNameLength
  roomy : env.app.utf8ByteSize + 9 ≤ maxNameLength →
    ∀ r ∈ m.resources, r.name.utf8ByteSize ≤ maxNameLength

theorem composed_wellNamed (checked : prepare Registries.builtin env = .ok prepared)
    (composed : compose env image prepared.plugins = .ok m) : WellNamed env m := by
  obtain ⟨app, space, short⟩ := checked_names checked
  obtain ⟨base, pieces, based, -, rfl⟩ := compose_pieces (prepare_builtin checked) composed
  have inscribed := manifest_inscribed image pieces based
  refine ⟨inscribed, fun r member => (inscribed r member).named.valid app space,
    fun r member => (inscribed r member).compliant app space, fun own r member => ?_,
    fun room r member => (inscribed r member).named.short room short⟩
  rw [(inscribed r member).compliant app space]
  exact and_iff_left (labels_of_namespace own space short)

-- An environment that was checked has a manifest with valid names, of which the cluster takes all
-- that are short enough. Only its provider can fail.
theorem assembled_named (checked : prepare Registries.builtin env = .ok prepared) (image : Image) :
    ∃ m : Manifest, WellNamed env m ∧ ∀ host wire,
      (assemble env image prepared host wire).1 =
        (access prepared.provider host wire).map fun (kubeconfig, cluster) =>
          ⟨m, image, kubeconfig, cluster⟩ := by
  obtain ⟨m, composed⟩ := compose_made checked image
  refine ⟨m, composed_wellNamed checked composed, fun host wire => ?_⟩
  rw [assemble_access, composed]
  rfl

theorem store_named : ∃ prepared resolved,
    prepare Registries.builtin storeEnvironment = .ok prepared ∧
      (assemble storeEnvironment storeImage prepared storeHost storeWire).1 = .ok resolved ∧
      ∀ r ∈ resolved.manifest.resources, r.isCompliant = true := by
  obtain ⟨prepared, resolved, checked, assembled⟩ :=
    built_of_accepted storeEnvironment storeImage storeHost storeWire (by decide +kernel)
  obtain ⟨m, names, all⟩ := assembled_named checked storeImage
  obtain rfl := manifest_of_map ((all storeHost storeWire).symm.trans assembled)
  refine ⟨prepared, resolved, checked, assembled, fun r member => ?_⟩
  exact (names.named rfl r member).mpr (names.roomy (by decide) r member)

def archiveEnvironment : Environment :=
  ⟨"EU 1", "state-archives-digital-collections-and-reading-room-portal",
    ⟨⟨"docker.io", "archives/web", none⟩,
      some ⟨.string "robot", .secret "REGISTRY" ⟨"s3cret"⟩, .string "ops@archives.example"⟩,
      "Dockerfile", "."⟩,
    ⟨some "archives", [("docker_desktop", [("kubeconfig", .value (.string "/kubeconfig"))])], []⟩⟩

-- Both its namespace and the application are valid, but a secret gets a name of 67 letters, and
-- all resources get a label with a space in it.
theorem archive_accepted : ∃ prepared resolved,
    prepare Registries.builtin archiveEnvironment = .ok prepared ∧
      (assemble archiveEnvironment storeImage prepared storeHost storeWire).1 = .ok resolved ∧
      (∃ r ∈ resolved.manifest.resources, r.body.at? ["metadata", "name"] =
          some (.string "state-archives-digital-collections-and-reading-room-portal-registry") ∧
        r.name.utf8ByteSize = 67) ∧
      ∀ r ∈ resolved.manifest.resources, r.isCompliant = false ∧
        r.body.at? ["metadata", "labels"] = some (.object [
          ("app.kubernetes.io/instance",
            .string "state-archives-digital-collections-and-reading-room-portal-EU 1"),
          ("app.kubernetes.io/managed-by", .string "berth"),
          ("app.kubernetes.io/name",
            .string "state-archives-digital-collections-and-reading-room-portal")]) := by
  obtain ⟨prepared, resolved, checked, assembled⟩ :=
    built_of_accepted archiveEnvironment storeImage storeHost storeWire (by decide +kernel)
  obtain ⟨-, composed, -⟩ := assemble_parts assembled
  have names := composed_wellNamed checked composed
  obtain ⟨base, pieces, based, -, same⟩ := compose_pieces (prepare_builtin checked) composed
  obtain ⟨secret, inBase, key⟩ := pullSecret_present based (rfl : _ = some
    "state-archives-digital-collections-and-reading-room-portal-registry")
  obtain ⟨r, present, own⟩ : ∃ r ∈ resolved.manifest.resources, r.key = secret.key := by
    rw [same]
    exact present_of_declared archiveEnvironment (List.mem_append_left _ inBase)
  have name : r.name = _ := congrArg ResourceKey.name (own.trans key)
  refine ⟨prepared, resolved, checked, assembled, ⟨r, present, ?_, ?_⟩, fun r member => ⟨?_, ?_⟩⟩
  · rw [(names.inscribed r present).name, name]
  · rw [name]
    decide
  · have spaced : isLabelText (archiveEnvironment.app ++ "-" ++ archiveEnvironment.name) =
        false := by decide
    refine Bool.eq_false_iff.mpr fun taken => ?_
    have label := ((names.compliant r member).mp taken).2.2
    rw [spaced] at label
    cases label
  · exact (names.inscribed r member).labels

end Assembly

end Rollout
