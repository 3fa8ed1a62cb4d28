import Rollout.Definition.Fingerprint
import Rollout.Output

namespace Rollout

-- The places whose secrets are veiled, by the names that lead to them.
abbrev Places := List String → Bool

def Places.all : Places := fun _ => true

def Places.none : Places := fun _ => false

def Places.below (places : Places) (name : String) : Places := fun path => places (name :: path)

def Value.veil (hidden : Bool) : Value → Value
  | .secret key value => .secret key (if hidden then ⟨Secret.redacted⟩ else value)
  | other => other

theorem Value.veil_false (v : Value) : v.veil false = v := by
  cases v <;> rfl

-- Behind a veil values are alike if they are the same, or secrets that were looked up under one key.
theorem Value.veil_eq_iff {hidden : Bool} {v w : Value} :
    v.veil hidden = w.veil hidden ↔
      v = w ∨ hidden = true ∧ ∃ key x y, v = .secret key x ∧ w = .secret key y := by
  constructor
  · intro alike
    cases hidden with
    | false => exact .inl (by rwa [veil_false, veil_false] at alike)
    | true => cases v <;> cases w <;> simp_all [veil]
  · rintro (rfl | ⟨rfl, key, x, y, rfl, rfl⟩)
    · rfl
    · rfl

namespace Setting

mutual
def veil (places : Places) : Setting → Setting
  | .value v => .value (v.veil (places []))
  | .block entries => .block (veilEntries places entries)
def veilEntries (places : Places) : List (String × Setting) → List (String × Setting)
  | [] => []
  | (name, setting) :: rest =>
    (name, veil (places.below name) setting) :: veilEntries places rest
end

end Setting

mutual
theorem Setting.veil_none : ∀ setting : Setting, setting.veil .none = setting
  | .value v => congrArg Setting.value (Value.veil_false v)
  | .block entries => congrArg Setting.block (Setting.veilEntries_none entries)
theorem Setting.veilEntries_none : ∀ entries : List (String × Setting),
    Setting.veilEntries .none entries = entries
  | [] => rfl
  | (name, setting) :: rest => by
    unfold Setting.veilEntries
    change (name, setting.veil .none) :: _ = _
    rw [Setting.veil_none setting, Setting.veilEntries_none rest]
end

def Settings.veil (places : Places) (settings : Settings) : Settings :=
  Setting.veilEntries places settings

def RegistryLogin.veil (places : Places) (login : RegistryLogin) : RegistryLogin :=
  ⟨login.username.veil (places ["username"]), login.password.veil (places ["password"]),
    login.email.veil (places ["email"])⟩

def DockerConfig.veil (places : Places) (docker : DockerConfig) : DockerConfig :=
  { docker with login := docker.login.map (RegistryLogin.veil (places.below "credentials")) }

def veilBlocks (places : Places) (blocks : Declared Settings) : Declared Settings :=
  blocks.map fun (id, settings) => (id, settings.veil (places.below id))

def KubernetesConfig.veil (places : Places) (k : KubernetesConfig) : KubernetesConfig :=
  { k with
    providers := veilBlocks (places.below "provider") k.providers
    plugins := veilBlocks (places.below "plugin") k.plugins }

def Environment.veil (places : Places) (env : Environment) : Environment :=
  { env with
    docker := env.docker.veil (places.below "docker")
    kubernetes := env.kubernetes.veil places }

section Read

variable {places : Places} {a b : Settings}

theorem Settings.lookup_veil (places : Places) (settings : Settings) (name : String) :
    (settings.veil places).lookup name =
      (settings.lookup name).map (Setting.veil (places.below name)) := by
  induction settings with
  | nil => rfl
  | cons entry rest ih =>
    obtain ⟨k, setting⟩ := entry
    simp only [Settings.veil, Setting.veilEntries, List.lookup_cons] at ih ⊢
    cases same : name == k with
    | true =>
      obtain rfl := beq_iff_eq.mp same
      rfl
    | false => exact ih

theorem Settings.lookup_alike (alike : a.veil places = b.veil places) (name : String) :
    (a.lookup name).map (Setting.veil (places.below name)) =
      (b.lookup name).map (Setting.veil (places.below name)) := by
  rw [← lookup_veil, alike, lookup_veil]

theorem Settings.lookup_seen (alike : a.veil places = b.veil places) {name : String}
    (seen : places.below name = .none) : a.lookup name = b.lookup name := by
  have same := lookup_alike alike name
  rw [seen] at same
  simpa only [funext Setting.veil_none, Option.map_id'] using same

end Read

section Shown

variable (places : Places)

@[simp] theorem Value.veil_toJson (hidden : Bool) (v : Value) :
    (v.veil hidden).toJson = v.toJson := by
  cases v <;> rfl

@[simp] theorem Value.veil_debug (hidden : Bool) (v : Value) : (v.veil hidden).debug = v.debug := by
  cases v <;> rfl

namespace Setting

mutual
theorem veil_toJson : ∀ (places : Places) (setting : Setting),
    (setting.veil places).toJson = setting.toJson
  | _, .value v => Value.veil_toJson _ v
  | places, .block entries => congrArg Json.object (veilEntries_toJson places entries)
theorem veilEntries_toJson : ∀ (places : Places) (entries : List (String × Setting)),
    entriesToJson (veilEntries places entries) = entriesToJson entries
  | _, [] => rfl
  | places, (name, setting) :: rest => by
    unfold veilEntries entriesToJson
    rw [veil_toJson (places.below name) setting, veilEntries_toJson places rest]
end

mutual
theorem veil_debug : ∀ (places : Places) (setting : Setting),
    (setting.veil places).debug = setting.debug
  | _, .value v => congrArg (Text.wrapped "Value") (Value.veil_debug _ v)
  | places, .block entries =>
    congrArg (fun texts => Text.wrapped "Block" (Text.wrapped "Settings" (Text.mapping texts)))
      (veilEntries_debug places entries)
theorem veilEntries_debug : ∀ (places : Places) (entries : List (String × Setting)),
    debugEntries (veilEntries places entries) = debugEntries entries
  | _, [] => rfl
  | places, (name, setting) :: rest => by
    unfold veilEntries debugEntries
    rw [veil_debug (places.below name) setting, veilEntries_debug places rest]
end

end Setting

@[simp] theorem Settings.veil_toJson (settings : Settings) :
    (settings.veil places).toJson = settings.toJson :=
  congrArg Json.object (Setting.veilEntries_toJson places settings)

@[simp] theorem Settings.veil_debug (settings : Settings) :
    (settings.veil places).debug = settings.debug :=
  congrArg (fun texts => Text.wrapped "Settings" (Text.mapping texts))
    (Setting.veilEntries_debug places settings)

@[simp] theorem RegistryLogin.veil_toJson (login : RegistryLogin) :
    (login.veil places).toJson = login.toJson := by
  simp [RegistryLogin.veil, RegistryLogin.toJson]

@[simp] theorem RegistryLogin.veil_debug (login : RegistryLogin) :
    (login.veil places).debug = login.debug := by
  simp [RegistryLogin.veil, RegistryLogin.debug]

@[simp] theorem DockerConfig.veil_toJson (docker : DockerConfig) :
    (docker.veil places).toJson = docker.toJson := by
  simp [DockerConfig.veil, DockerConfig.toJson, Function.comp_def]

@[simp] theorem DockerConfig.veil_debug (docker : DockerConfig) :
    (docker.veil places).debug = docker.debug := by
  simp [DockerConfig.veil, DockerConfig.debug, Function.comp_def]

@[simp] theorem blocksToJson_veil (blocks : Declared Settings) :
    blocksToJson (veilBlocks places blocks) = blocksToJson blocks := by
  simp [veilBlocks, blocksToJson]

@[simp] theorem blocksDebug_veil (blocks : Declared Settings) :
    blocksDebug (veilBlocks places blocks) = blocksDebug blocks := by
  simp [veilBlocks, blocksDebug, Function.comp_def]

namespace Environment

theorem veil_toJson (env : Environment) : (env.veil places).toJson = env.toJson := by
  simp [veil, KubernetesConfig.veil, toJson, KubernetesConfig.toJson]

theorem veil_debug (env : Environment) : (env.veil places).debug = env.debug := by
  simp [veil, KubernetesConfig.veil, debug, KubernetesConfig.debug]

end Environment

end Shown

namespace Environment

-- Two environments that nothing printed or hashed of them tells apart.
structure Indistinct (a b : Environment) : Prop where
  serialized : a.toJson.render = b.toJson.render ∧ a.toJson.renderPretty = b.toJson.renderPretty
  described : a.debug = b.debug
  shown : ∀ out : Output, out.environment a = out.environment b
  hashed : Fingerprint.ofEnvironment a = Fingerprint.ofEnvironment b
  tagged : ∀ (host : Host) (root : String),
    Fingerprint.defaultTag host a root = Fingerprint.defaultTag host b root
  -- a context may lie elsewhere, as long as it hashes to the same
  moved : ∀ (host host' : Host) (root root' : String),
    Fingerprint.ofContext host (Path.join root a.docker.buildContext) =
      Fingerprint.ofContext host' (Path.join root' b.docker.buildContext) →
    Fingerprint.defaultTag host a root = Fingerprint.defaultTag host' b root'

theorem secrets_indistinct {a b : Environment} (alike : a.veil .all = b.veil .all) :
    Indistinct a b := by
  have json : a.toJson = b.toJson := by rw [← veil_toJson .all a, alike, veil_toJson]
  have debug : a.debug = b.debug := by rw [← veil_debug .all a, alike, veil_debug]
  have hash : Fingerprint.ofEnvironment a = Fingerprint.ofEnvironment b := by
    unfold Fingerprint.ofEnvironment
    rw [json]
  have context : a.docker.buildContext = b.docker.buildContext := by
    change (a.veil .all).docker.buildContext = (b.veil .all).docker.buildContext
    rw [alike]
  have moved : ∀ (host host' : Host) (root root' : String),
      Fingerprint.ofContext host (Path.join root a.docker.buildContext) =
        Fingerprint.ofContext host' (Path.join root' b.docker.buildContext) →
      Fingerprint.defaultTag host a root = Fingerprint.defaultTag host' b root' := by
    intro host host' root root' same
    unfold Fingerprint.defaultTag Fingerprint.tagInput
    rw [same, hash]
  refine ⟨?_, debug, ?_, hash, ?_, moved⟩
  · rw [json]
    exact ⟨rfl, rfl⟩
  · intro out
    unfold Output.environment
    rw [json]
  · intro host root
    exact moved host host root root (by rw [context])

def vaultEnvironment (text : String) : Environment :=
  ⟨"live", "vault",
    ⟨⟨"docker.io", "vault/web", none⟩,
      some ⟨.string "robot", .secret "REGISTRY" ⟨text⟩, .string "ops@vault.example"⟩,
      "Dockerfile", "."⟩,
    ⟨none, [("digitalocean", [("access_token", .value (.secret "DO" ⟨text⟩))])],
      [("rails_app", [("hostname", .value (.string "vault.example")),
        ("env", .block [("API", .block [("KEY", .value (.secret "API" ⟨text⟩))])])])]⟩⟩

theorem vault_indistinct :
    (vaultEnvironment "first").docker.login ≠ (vaultEnvironment "second").docker.login ∧
      Indistinct (vaultEnvironment "first") (vaultEnvironment "second") :=
  ⟨by decide, secrets_indistinct rfl⟩

end Environment

end Rollout
