import Rollout.Proofs.Assembly.Closure
import Rollout.Proofs.Json.Reading
import Rollout.Proofs.Text.Base64

namespace Rollout

structure LoginTexts where
  username : String
  password : String
  email : String

def RegistryLogin.texts? (login : RegistryLogin) : Option LoginTexts := do
  some ⟨← login.username.text?, ← login.password.text?, ← login.email.text?⟩

theorem RegistryLogin.texts?_parts {login : RegistryLogin} {t : LoginTexts}
    (texts : login.texts? = some t) : login.username.text? = some t.username ∧
      login.password.text? = some t.password ∧ login.email.text? = some t.email := by
  unfold texts? at texts
  obtain ⟨username, user, texts⟩ := Option.bind_eq_some_iff.mp texts
  obtain ⟨password, pass, texts⟩ := Option.bind_eq_some_iff.mp texts
  obtain ⟨email, mail, texts⟩ := Option.bind_eq_some_iff.mp texts
  obtain rfl := Option.some.inj texts
  exact ⟨user, pass, mail⟩

def Environment.loginTexts? (env : Environment) : Option LoginTexts :=
  env.docker.login.bind RegistryLogin.texts?

namespace Assembly

open Resource Manifest

variable {env : Environment} {image : Image} {plugins : List Plugin} {base : List Resource}
variable {pieces : List Piece} {m : Manifest} {r d : Resource} {t : LoginTexts}

def Decodes (code text : String) : Prop :=
  ∃ bytes, Base64.decode (Utf8.encode code) = .ok bytes ∧ Utf8.decode bytes = .ok text

theorem encoded_decodes (text : String) : Decodes (Base64.encode (Utf8.encode text)) text :=
  ⟨_, Base64.decode_encode _, Utf8.decode_encode _⟩

structure HoldsEntry (t : LoginTexts) (entry : Json) : Prop where
  username : entry.field? "username" = some (.string t.username)
  password : entry.field? "password" = some (.string t.password)
  email : entry.field? "email" = some (.string t.email)
  auth : ∃ code, entry.field? "auth" = some (.string code) ∧
    Decodes code (t.username ++ ":" ++ t.password)

def loginKey (registry : String) : String :=
  if registry = "docker.io" then "https://index.docker.io/v1/" else registry

-- A secret of a registry's login: a document in it has one entry, for the registry.
structure HoldsTexts (registry : String) (t : LoginTexts) (r : Resource) : Prop where
  type : r.body.field? "type" = some (.string "kubernetes.io/dockerconfigjson")
  config : ∃ code document json entry,
    r.body.at? ["data", ".dockerconfigjson"] = some (.string code) ∧ Decodes code document ∧
    Json.parse? document = some json ∧
    json.field? "auths" = some (.object [(loginKey registry, entry)]) ∧ HoldsEntry t entry

theorem dockerConfig_read (image : Image) (username password email : String) :
    Json.parse? (dockerConfig image username password email).render =
      some (dockerConfig image username password email) :=
  Json.parse?_render rfl (by decide : 3 ≤ Json.depthLimit)

def loginSecret (env : Environment) (t : LoginTexts) : Resource :=
  ((Resource.new "v1" "Secret" (env.app ++ "-registry") (some env.namespaceOf)).withField "type"
    (.string "kubernetes.io/dockerconfigjson")).withField "data"
    (.object [(".dockerconfigjson", .string (Base64.encode (Utf8.encode
      (dockerConfig env.docker.image t.username t.password t.email).render)))])

theorem loginSecret_holds (env : Environment) (t : LoginTexts) :
    HoldsTexts env.docker.image.registry t (loginSecret env t) := by
  refine ⟨?_, _, _, _, _, ?_, encoded_decodes _, dockerConfig_read _ _ _ _, rfl,
    rfl, rfl, rfl, _, rfl, encoded_decodes _⟩
  · rw [loginSecret, withField_other (by decide), withField_self new_isObject (by decide)]
  · rw [loginSecret, withField_at? (withField_isObject new_isObject) (by decide)]
    rfl

theorem loginText_eq_ok {field text : String} {value : Value} :
    loginText field value = .ok text ↔ value.text? = some text := by
  unfold loginText
  cases value.text? <;> simp

theorem base_login (based : baseResources env = .ok base) :
    (env.docker.login = none ∧ base = [.new "v1" "Namespace" env.namespaceOf none]) ∨
      ∃ t, env.loginTexts? = some t ∧
        base = [.new "v1" "Namespace" env.namespaceOf none, loginSecret env t] := by
  unfold baseResources Environment.registrySecret? at based
  unfold Environment.loginTexts?
  cases declared : env.docker.login with
  | none =>
    rw [declared] at based
    exact .inl ⟨rfl, (Except.ok.inj based).symm⟩
  | some login =>
    rw [declared] at based
    obtain ⟨secret, made, based⟩ := bind_eq_ok.mp based
    obtain ⟨username, user, made⟩ := bind_eq_ok.mp made
    obtain ⟨password, pass, made⟩ := bind_eq_ok.mp made
    obtain ⟨email, mail, made⟩ := bind_eq_ok.mp made
    obtain rfl := Except.ok.inj made
    refine .inr ⟨⟨username, password, email⟩, ?_, (Except.ok.inj based).symm⟩
    simp [RegistryLogin.texts?, loginText_eq_ok.mp user, loginText_eq_ok.mp pass,
      loginText_eq_ok.mp mail]

def pullKey (env : Environment) : ResourceKey :=
  ⟨"Secret", some env.namespaceOf, env.app ++ "-registry"⟩

theorem field_untyped {apiVersion kind name field : String} {space : Option String} {value : Json}
    (apart : "type" ≠ field) :
    ((Resource.new apiVersion kind name space).withField field value).body.field? "type" =
      none := by
  rw [withField_other apart]
  rfl

theorem field_typed {name field type : String} {space : Option String} {value : Json}
    (apart : "type" ≠ field) :
    (((Resource.new "v1" "Secret" name space).withField "type" (.string type)).withField field
      value).body.field? "type" = some (.string type) := by
  rw [withField_other apart, withField_self new_isObject (by decide)]

theorem space_apart : (Resource.new "v1" "Namespace" env.namespaceOf none).key ≠ pullKey env ∧
    (Resource.new "v1" "Namespace" env.namespaceOf none).body.field? "type" ≠
      some (.string "kubernetes.io/dockerconfigjson") := by
  refine ⟨fun same => ?_, (Option.some_ne_none _).symm⟩
  have kinds : "Namespace" = "Secret" := (ResourceKey.mk.inj same).1
  exact absurd kinds (by decide)

theorem piece_apart {piece : Piece} (inside : d ∈ piece.resources (context env image [])) :
    d.key ≠ pullKey env ∧
      d.body.field? "type" ≠ some (.string "kubernetes.io/dockerconfigjson") := by
  have untyped : (none : Option Json) ≠ some (.string "kubernetes.io/dockerconfigjson") :=
    (Option.some_ne_none _).symm
  have plain : (some (.string "Opaque") : Option Json) ≠
      some (.string "kubernetes.io/dockerconfigjson") := by decide
  have other {kind name : String} (apart : kind ≠ "Secret") {r : Resource}
      (key : r.key = ⟨kind, some env.namespaceOf, name⟩) : r.key ≠ pullKey env := by
    rw [key]
    exact fun same => apart (ResourceKey.mk.inj same).1
  cases piece with
  | server p =>
    simp only [Piece.resources, List.mem_cons, List.not_mem_nil, or_false] at inside
    rcases inside with rfl | rfl | rfl
    · refine ⟨?_, (field_typed (by decide)).trans_ne plain⟩
      simp [databaseSecret_key, pullKey, Postgres.name, PluginContext.objectName, context,
        String.append_assoc]
    · exact ⟨other (by decide) databaseService_key, (field_untyped (by decide)).trans_ne untyped⟩
    · exact ⟨other (by decide) database_key, (field_untyped (by decide)).trans_ne untyped⟩
  | web app vars =>
    simp only [Piece.resources, List.mem_append, List.mem_cons, List.not_mem_nil, or_false]
      at inside
    rcases inside with (rfl | inSecret) | rfl | rfl | rfl
    · exact ⟨other (by decide) config_key, (field_untyped (by decide)).trans_ne untyped⟩
    · refine ⟨?_, ?_⟩
      · simp [secrets_key inSecret, pullKey, RailsApp.secretName, PluginContext.objectName, context,
          String.append_assoc]
      · unfold RailsApp.secret at inSecret
        split at inSecret
        · cases inSecret
        · rw [List.mem_singleton.mp inSecret]
          exact (field_typed (by decide)).trans_ne plain
    · exact ⟨other (by decide) deployment_key, (field_untyped (by decide)).trans_ne untyped⟩
    · exact ⟨other (by decide) service_key, (field_untyped (by decide)).trans_ne untyped⟩
    · exact ⟨other (by decide) ingress_key, (field_untyped (by decide)).trans_ne untyped⟩

-- How a manifest lets images be pulled: with a login, or without one.
structure Pulls (env : Environment) (login : Option LoginTexts) (m : Manifest) : Prop where
  -- all that is named or typed as the secret of a login is the secret of this one
  secrets : ∀ r ∈ m.resources, r.key = pullKey env ∨
    r.body.field? "type" = some (.string "kubernetes.io/dockerconfigjson") →
      r.key = pullKey env ∧ ∃ t, login = some t ∧ HoldsTexts env.docker.image.registry t r
  present : ∀ t, login = some t → ∃ r ∈ m.resources, r.key = pullKey env
  pods : ∀ r ∈ m.resources, r.kind = "Deployment" →
    r.body.at? ["spec", "template", "spec", "imagePullSecrets"] =
      login.map fun _ => .array [.object [("name", .string (env.app ++ "-registry"))]]

theorem HoldsTexts.labelled {registry : String} (holds : HoldsTexts registry t d)
    (labels : List (String × String)) : HoldsTexts registry t (d.withLabels labels) := by
  obtain ⟨type, code, document, json, entry, data, rest⟩ := holds
  refine ⟨?_, code, document, json, entry, ?_, rest⟩
  · rw [withLabels_field? (by decide), type]
  · rw [withLabels_at? (by decide), data]

theorem registrySecret_texts (based : baseResources env = .ok base) :
    env.registrySecret? = env.loginTexts?.map fun _ => env.app ++ "-registry" := by
  unfold Environment.registrySecret?
  obtain ⟨declared, -⟩ | ⟨t, texts, -⟩ := base_login based
  · simp [Environment.loginTexts?, declared]
  · obtain ⟨login, declared, -⟩ := Option.bind_eq_some_iff.mp texts
    rw [texts, declared]
    rfl

theorem compose_pulls (builtin : ∀ p ∈ plugins, Builtin p)
    (composed : compose env image plugins = .ok m) : Pulls env env.loginTexts? m := by
  obtain ⟨base, pieces, based, -, rfl⟩ := compose_pieces builtin composed
  refine ⟨?_, ?_, ?_⟩
  · intro r member named
    obtain ⟨d, present, rfl⟩ := List.mem_map.mp (mem_of_last (mem_ofResources.mp member))
    rw [withLabels_key, withLabels_field? (by decide)] at named
    rw [withLabels_key]
    rcases List.mem_append.mp present with inBase | inPieces
    · obtain ⟨-, rfl⟩ | ⟨t, texts, rfl⟩ := base_login based
      · rw [List.mem_singleton.mp inBase] at named
        exact absurd named (not_or.mpr space_apart)
      · rcases List.mem_pair.mp inBase with rfl | rfl
        · exact absurd named (not_or.mpr space_apart)
        · exact ⟨by simp [loginSecret, pullKey], t, texts, (loginSecret_holds env t).labelled _⟩
    · obtain ⟨piece, -, inside⟩ := List.mem_flatMap.mp inPieces
      exact absurd named (not_or.mpr (piece_apart inside))
  · intro t texts
    obtain ⟨declared, -⟩ | ⟨t, -, rfl⟩ := base_login based
    · simp [Environment.loginTexts?, declared] at texts
    · obtain ⟨r, member, key⟩ := present_of_declared env
        (List.mem_append_left _ (List.mem_cons_of_mem _ List.mem_cons_self))
      exact ⟨r, member, key.trans (by simp [loginSecret, pullKey])⟩
  · intro r member isDeployment
    obtain ⟨d, made, rfl⟩ := made_of_manifest based member
    have kind : d.key.kind = "Deployment" := withLabels_kind.symm.trans isDeployment
    obtain ⟨app, vars, -, rfl⟩ := made_deployment made kind
    rw [withLabels_at? (by decide), deployment_pull]
    change env.registrySecret?.map _ = _
    rw [registrySecret_texts based, Option.map_map]
    rfl

end Assembly

end Rollout
