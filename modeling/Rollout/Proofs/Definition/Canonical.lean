import Rollout.Proofs.Definition.Origins
import Rollout.Proofs.Definition.Secrets
import Rollout.Proofs.Image.Reference

namespace Rollout

open Scope

-- The key of the secret that an object's fields read as.
def Json.secretKey? : List (String × Json) → Option String
  | [(name, .string key)] => if name = "secret" then some key else none
  | _ => none

theorem Json.secretKey?_some {fields : List (String × Json)} {key : String}
    (reads : secretKey? fields = some key) : fields = [("secret", .string key)] := by
  unfold secretKey? at reads
  split at reads
  · split at reads
    · next named =>
      obtain rfl := Option.some.inj reads
      rw [named]
    · cases reads
  · cases reads

namespace Setting

mutual
-- A setting as its text reads: secrets by their keys, and a block with one string under `secret` as
-- the secret of that key.
def asRead : Setting → Setting
  | .value v => .value (v.veil true)
  | .block entries =>
    match Json.secretKey? (entriesToJson entries) with
    | some key => .value (.secret key ⟨Secret.redacted⟩)
    | none => .block (entriesAsRead entries)
def entriesAsRead : List (String × Setting) → List (String × Setting)
  | [] => []
  | (name, setting) :: rest => (name, asRead setting) :: entriesAsRead rest
end

mutual
-- A setting none of whose blocks reads as a secret.
def candid : Setting → Bool
  | .value _ => true
  | .block entries =>
    (Json.secretKey? (entriesToJson entries)).isNone && candidEntries entries
def candidEntries : List (String × Setting) → Bool
  | [] => true
  | (_, setting) :: rest => candid setting && candidEntries rest
end

mutual
theorem asRead_toJson : ∀ setting : Setting, setting.asRead.toJson = setting.toJson
  | .value v => Value.veil_toJson true v
  | .block entries => by
    unfold asRead
    split
    · next key reads =>
      rw [toJson, toJson, Json.secretKey?_some reads]
      rfl
    · rw [toJson, toJson, entriesAsRead_toJson entries]
theorem entriesAsRead_toJson : ∀ entries : List (String × Setting),
    entriesToJson (entriesAsRead entries) = entriesToJson entries
  | [] => rfl
  | (name, setting) :: rest => by
    rw [entriesAsRead, entriesToJson, entriesToJson, asRead_toJson setting,
      entriesAsRead_toJson rest]
end

mutual
theorem asRead_candid : ∀ {setting : Setting}, setting.candid = true →
    setting.asRead = setting.veil .all
  | .value v, _ => rfl
  | .block entries, candid => by
    unfold Setting.candid at candid
    rw [Bool.and_eq_true, Option.isNone_iff_eq_none] at candid
    rw [asRead, candid.1, veil, entriesAsRead_candid candid.2]
theorem entriesAsRead_candid : ∀ {entries : List (String × Setting)},
    candidEntries entries = true → entriesAsRead entries = veilEntries .all entries
  | [], _ => rfl
  | (name, setting) :: rest, candid => by
    rw [candidEntries, Bool.and_eq_true] at candid
    rw [entriesAsRead, veilEntries, asRead_candid candid.1, entriesAsRead_candid candid.2]
    rfl
end

theorem value_toJson_inj {v w : Value} (same : v.toJson = w.toJson) :
    v.veil true = w.veil true := by
  cases v <;> cases w <;> simp_all [Value.toJson, Value.veil, Json.int]

theorem value_toJson_object {v : Value} {fields : List (String × Json)}
    (same : v.toJson = .object fields) :
    ∃ key, Json.secretKey? fields = some key ∧
      v.veil true = .secret key ⟨Secret.redacted⟩ := by
  cases v with
  | secret key text =>
    obtain rfl := Json.object.inj same
    exact ⟨key, rfl, rfl⟩
  | _ => cases same

mutual
-- By recursion on the first setting: what one text can be written for reads alike.
theorem asRead_eq : ∀ {a b : Setting}, a.toJson = b.toJson → a.asRead = b.asRead
  | .value v, .value w, same => congrArg Setting.value (value_toJson_inj same)
  | .value v, .block entries, same => by
    obtain ⟨key, reads, veiled⟩ := value_toJson_object same
    rw [asRead, asRead, reads, veiled]
  | .block entries, .value w, same => by
    obtain ⟨key, reads, veiled⟩ := value_toJson_object same.symm
    rw [asRead, asRead, reads, veiled]
  | .block entries, .block others, same => by
    have fields : entriesToJson entries = entriesToJson others := Json.object.inj same
    rw [asRead, asRead, fields, entriesAsRead_eq fields]
theorem entriesAsRead_eq : ∀ {a b : List (String × Setting)},
    entriesToJson a = entriesToJson b → entriesAsRead a = entriesAsRead b
  | [], [], _ => rfl
  | [], _ :: _, same => by cases same
  | _ :: _, [], same => by cases same
  | (name, x) :: a, (name', y) :: b, same => by
    obtain ⟨first, later⟩ := List.cons.inj same
    obtain ⟨rfl, value⟩ := Prod.mk.inj first
    rw [entriesAsRead, entriesAsRead, asRead_eq value, entriesAsRead_eq later]
end

end Setting

def blocksAsRead (blocks : Declared Settings) : Declared Settings :=
  blocks.map fun (id, settings) => (id, Setting.entriesAsRead settings)

def candidBlocks (blocks : Declared Settings) : Bool :=
  blocks.all fun (_, settings) => Setting.candidEntries settings

theorem blocksAsRead_toJson (blocks : Declared Settings) :
    blocksToJson (blocksAsRead blocks) = blocksToJson blocks := by
  simp [blocksAsRead, blocksToJson, Settings.toJson, Setting.entriesAsRead_toJson]

theorem blocksAsRead_candid {blocks : Declared Settings} (candid : candidBlocks blocks = true) :
    blocksAsRead blocks = veilBlocks .all blocks := by
  refine List.map_congr_left ?_
  rintro ⟨id, settings⟩ member
  have inside : Setting.candidEntries settings = true := List.all_eq_true.mp candid _ member
  exact congrArg (Prod.mk id) (Setting.entriesAsRead_candid inside)

theorem blocksAsRead_eq : ∀ {a b : Declared Settings}, blocksToJson a = blocksToJson b →
    blocksAsRead a = blocksAsRead b := by
  intro a
  induction a with
  | nil =>
    intro b same
    cases b with
    | nil => rfl
    | cons block rest => cases same
  | cons block rest ih =>
    intro b same
    cases b with
    | nil => cases same
    | cons block' rest' =>
      obtain ⟨id, settings⟩ := block
      obtain ⟨id', settings'⟩ := block'
      obtain ⟨first, later⟩ := List.cons.inj (Json.object.inj same)
      obtain ⟨rfl, fields⟩ := Prod.mk.inj first
      have behind : blocksAsRead rest = blocksAsRead rest' := ih (congrArg Json.object later)
      have here : Setting.entriesAsRead settings = Setting.entriesAsRead settings' :=
        Setting.entriesAsRead_eq (Json.object.inj fields)
      change (id, Setting.entriesAsRead settings) :: blocksAsRead rest =
        (id, Setting.entriesAsRead settings') :: blocksAsRead rest'
      rw [behind, here]

theorem RegistryLogin.toJson_inj {a b : RegistryLogin} (same : a.toJson = b.toJson) :
    a.veil .all = b.veil .all := by
  simp only [RegistryLogin.toJson, Json.object.injEq, List.cons.injEq, Prod.mk.injEq, true_and,
    and_true] at same
  obtain ⟨username, password, email⟩ := same
  unfold RegistryLogin.veil
  rw [show Places.all ["username"] = true from rfl, show Places.all ["password"] = true from rfl,
    show Places.all ["email"] = true from rfl, Setting.value_toJson_inj username,
    Setting.value_toJson_inj password, Setting.value_toJson_inj email]

theorem DockerConfig.toJson_inj {a b : DockerConfig} (legible : a.image.Legible)
    (legible' : b.image.Legible) (same : a.toJson = b.toJson) : a.veil .all = b.veil .all := by
  obtain ⟨image, login, dockerfile, context⟩ := a
  obtain ⟨image', login', dockerfile', context'⟩ := b
  simp only [DockerConfig.toJson, Json.object.injEq, List.cons.injEq, Prod.mk.injEq, true_and,
    and_true, Json.string.injEq] at same
  obtain ⟨images, logins, rfl, rfl⟩ := same
  obtain rfl := Image.render_inj legible legible' images
  cases login with
  | none =>
    cases login' with
    | none => rfl
    | some _ => cases logins
  | some login =>
    cases login' with
    | none => cases logins
    | some login' =>
      have veiled : login.veil .all = login'.veil .all := RegistryLogin.toJson_inj logins
      exact congrArg (fun login => DockerConfig.mk image (some login) dockerfile context) veiled

theorem optional_inj {a b : Option String} (same : optional a = optional b) : a = b := by
  cases a with
  | none =>
    cases b with
    | none => rfl
    | some _ => cases same
  | some _ =>
    cases b with
    | none => cases same
    | some _ => exact congrArg some (Json.string.inj same)

namespace Environment

-- An environment as its text reads.
def asRead (env : Environment) : Environment :=
  { env with
    docker := env.docker.veil .all
    kubernetes := { env.kubernetes with
      providers := blocksAsRead env.kubernetes.providers
      plugins := blocksAsRead env.kubernetes.plugins } }

-- No block of an environment reads as a secret.
def Candid (env : Environment) : Prop :=
  candidBlocks env.kubernetes.providers = true ∧ candidBlocks env.kubernetes.plugins = true

instance (env : Environment) : Decidable env.Candid :=
  inferInstanceAs (Decidable (_ ∧ _))

theorem asRead_toJson (env : Environment) : env.asRead.toJson = env.toJson := by
  simp [asRead, toJson, KubernetesConfig.toJson, blocksAsRead_toJson]

theorem Candid.asRead {env : Environment} (candid : env.Candid) : env.asRead = env.veil .all := by
  unfold Environment.asRead
  rw [blocksAsRead_candid candid.1, blocksAsRead_candid candid.2]
  rfl

theorem asRead_eq {a b : Environment} (legible : a.docker.image.Legible)
    (legible' : b.docker.image.Legible) (same : a.toJson = b.toJson) : a.asRead = b.asRead := by
  obtain ⟨name, app, docker, ⟨namespaceName, providers, plugins⟩⟩ := a
  obtain ⟨name', app', docker', ⟨namespaceName', providers', plugins'⟩⟩ := b
  simp only [toJson, KubernetesConfig.toJson, Json.object.injEq, List.cons.injEq, Prod.mk.injEq,
    true_and, and_true, Json.string.injEq] at same
  obtain ⟨rfl, rfl, dockers, namespaces, first, second⟩ := same
  obtain rfl := optional_inj namespaces
  unfold asRead
  dsimp only
  rw [DockerConfig.toJson_inj legible legible' dockers, blocksAsRead_eq first,
    blocksAsRead_eq second]

end Environment

theorem Value.toJson_exact (v : Value) : v.toJson.exact = true := by
  cases v <;> rfl

namespace Setting

mutual
theorem toJson_exact : ∀ setting : Setting, setting.toJson.exact = true
  | .value v => Value.toJson_exact v
  | .block entries => entriesToJson_exact entries
theorem entriesToJson_exact : ∀ entries : List (String × Setting),
    Json.exactFields (entriesToJson entries) = true
  | [] => rfl
  | (name, setting) :: rest => by
    rw [entriesToJson, Json.exactFields, toJson_exact setting, entriesToJson_exact rest]
    rfl
end

end Setting

theorem blocksToJson_exact (blocks : Declared Settings) : (blocksToJson blocks).exact = true := by
  induction blocks with
  | nil => rfl
  | cons block rest ih =>
    have here : block.2.toJson.exact = true := Setting.entriesToJson_exact block.2
    have later : Json.exactFields (rest.map fun (id, settings) => (id, settings.toJson)) = true := ih
    change (block.2.toJson.exact && Json.exactFields _) = true
    rw [here, later]
    rfl

theorem optional_exact (value : Option String) : (optional value).exact = true := by
  cases value <;> rfl

theorem DockerConfig.toJson_exact (docker : DockerConfig) : docker.toJson.exact = true := by
  obtain ⟨image, login, dockerfile, context⟩ := docker
  cases login with
  | none => rfl
  | some login =>
    simp [DockerConfig.toJson, RegistryLogin.toJson, Json.exact, Json.exactFields,
      Value.toJson_exact]

namespace Environment

theorem toJson_exact (env : Environment) : env.toJson.exact = true := by
  simp [toJson, KubernetesConfig.toJson, Json.exact, Json.exactFields, DockerConfig.toJson_exact,
    blocksToJson_exact, optional_exact]

def Produced (env : Environment) : Prop :=
  ∃ lookup d name, ((∃ sources, Definition.ofSources lookup sources = .ok d) ∨
    ∃ host paths, Definition.ofFiles lookup host paths = .ok d) ∧ (name, env) ∈ d.environments

theorem Produced.legible {env : Environment} (produced : env.Produced) :
    env.docker.image.Legible := by
  obtain ⟨lookup, d, name, evaluated, member⟩ := produced
  have sourced : d.Sourced lookup := by
    rcases evaluated with ⟨sources, read⟩ | ⟨host, paths, read⟩
    · exact Definition.ofSources_sourced read
    · exact Definition.ofFiles_sourced read
  obtain ⟨text, parsed⟩ := (sourced _ member).docker.image
  exact Image.parse_legible parsed

-- Two environments with one text read alike, and are the same but for the texts of secrets unless a
-- block of theirs reads as a secret.
theorem canonical_recovered {a b : Environment} (produced : a.Produced) (produced' : b.Produced) :
    (a.toJson.render = b.toJson.render ↔ a.asRead = b.asRead) ∧
      (a.Candid → b.Candid →
        (a.toJson.render = b.toJson.render ↔ a.veil .all = b.veil .all)) := by
  have recovered : a.toJson.render = b.toJson.render ↔ a.asRead = b.asRead := by
    constructor
    · intro same
      exact asRead_eq produced.legible produced'.legible
        (Json.render_inj a.toJson_exact b.toJson_exact same)
    · intro alike
      rw [← asRead_toJson a, alike, asRead_toJson]
  refine ⟨recovered, ?_⟩
  intro candid candid'
  rw [recovered, candid.asRead, candid'.asRead]

theorem Produced.ofSources {lookup : SecretLookup} {sources : List Definition.Source}
    {name : String} {env : Environment}
    (evaluated : (Definition.ofSources lookup sources).toOption.map Definition.environments =
      some [(name, env)]) : env.Produced := by
  cases read : Definition.ofSources lookup sources with
  | error e => rw [read] at evaluated; cases evaluated
  | ok d =>
    rw [read] at evaluated
    have environments : d.environments = [(name, env)] := Option.some.inj evaluated
    exact ⟨lookup, d, name, .inl ⟨sources, read⟩, environments ▸ List.mem_singleton_self _⟩

def tokenSources (token : String) : List Definition.Source :=
  [⟨none, "app \"shop\"; environment \"live\" \x7bdocker \x7bimage_url \"w\"\x7d
kubernetes \x7bprovider \"p\" \x7b" ++ token ++ "\x7d\x7d\x7d"⟩]

def tokenEnvironment (token : Setting) : Environment :=
  ⟨"live", "shop", ⟨⟨"docker.io", "w", none⟩, none, "Dockerfile", "."⟩,
    ⟨none, [("p", [("token", token)])], []⟩⟩

def tokenReference : Environment := tokenEnvironment (.value (.secret "DB" ⟨"hidden"⟩))

theorem tokenReference_produced : tokenReference.Produced := by
  have evaluated : (Definition.ofSources (fun _ => .ok ⟨"hidden"⟩)
      (tokenSources "token (secret)\"DB\"")).toOption.map Definition.environments =
        some [("live", tokenReference)] := by
    decide +kernel
  exact .ofSources evaluated

def tokenText : Environment := tokenEnvironment (.value (.string "DB"))

theorem tokenText_produced : tokenText.Produced := by
  have evaluated : (Definition.ofSources (fun _ => .ok ⟨"hidden"⟩)
      (tokenSources "token \"DB\"")).toOption.map Definition.environments =
        some [("live", tokenText)] := by
    decide +kernel
  exact .ofSources evaluated

theorem token_recovered :
    (tokenReference.Candid ∧ tokenText.Candid) ∧
      tokenReference.toJson.render ≠ tokenText.toJson.render := by
  have candid : tokenReference.Candid := by decide
  have candid' : tokenText.Candid := by decide
  refine ⟨⟨candid, candid'⟩, ?_⟩
  intro same
  have recovered := canonical_recovered tokenReference_produced tokenText_produced
  exact absurd ((recovered.2 candid candid').mp same) (by decide)

def tokenBlock : Environment :=
  tokenEnvironment (.block [("secret", .value (.string "DB"))])

theorem tokenBlock_produced : tokenBlock.Produced := by
  have evaluated : (Definition.ofSources (fun _ => .ok ⟨"hidden"⟩)
      (tokenSources "token \x7bsecret \"DB\"\x7d")).toOption.map Definition.environments =
        some [("live", tokenBlock)] := by
    decide +kernel
  exact .ofSources evaluated

-- A block and a reference of one text, which no text of a secret sets apart.
theorem token_block_same_text :
    tokenReference.Produced ∧ tokenBlock.Produced ∧
      tokenReference.toJson.render = tokenBlock.toJson.render ∧
      tokenReference.veil .all ≠ tokenBlock.veil .all :=
  ⟨tokenReference_produced, tokenBlock_produced, rfl, by decide⟩

end Environment

end Rollout
