import Rollout.Proofs.Assembly.Twins

namespace Rollout

-- The places of credentials in an environment: the login of the registry, and what plugins take.
def Places.credentials : Places
  | "docker" :: "credentials" :: _ => true
  | "plugin" :: id :: path => pluginCredentials id path
  | _ => false

def serverUsers (blocks : Declared Settings) : List (Option String) :=
  blocks.map fun (id, settings) => serverUser? id settings

theorem veilBlocks_none (blocks : Declared Settings) : veilBlocks .none blocks = blocks := by
  unfold veilBlocks
  conv_rhs => rw [← List.map_id blocks]
  refine List.map_congr_left fun block _ => ?_
  exact congrArg (Prod.mk block.1) (Setting.veilEntries_none block.2)

namespace Assembly

variable {a b : Environment} {image : Image} {hidden : List String}
variable {plugins plugins' : List Plugin} {blocks blocks' : Declared Settings}

-- What environments have in common that differ in credentials only.
structure Common (a b : Environment) : Prop where
  name : a.name = b.name
  app : a.app = b.app
  space : a.namespaceOf = b.namespaceOf
  image : a.docker.image = b.docker.image
  login : a.docker.login.map (RegistryLogin.veil .all) = b.docker.login.map (RegistryLogin.veil .all)
  provider : a.kubernetes.provider? = b.kubernetes.provider?
  plugins : veilBlocks (Places.credentials.below "plugin") a.kubernetes.plugins =
    veilBlocks (Places.credentials.below "plugin") b.kubernetes.plugins

theorem common (alike : a.veil .credentials = b.veil .credentials) : Common a b := by
  obtain ⟨name, app, docker, kubernetes⟩ := Environment.mk.inj alike
  obtain ⟨image, login, -, -⟩ := DockerConfig.mk.inj docker
  obtain ⟨space, providers, plugins⟩ := KubernetesConfig.mk.inj kubernetes
  have unveiled : Places.credentials.below "provider" = .none := by funext path; rfl
  rw [unveiled, veilBlocks_none, veilBlocks_none] at providers
  refine ⟨name, app, ?_, image, login, ?_, plugins⟩
  · unfold Environment.namespaceOf
    rw [space, app, name]
  · unfold KubernetesConfig.provider?
    rw [providers]

theorem Common.registrySecret (common : Common a b) : a.registrySecret? = b.registrySecret? := by
  unfold Environment.registrySecret?
  rw [common.app]
  have named := congrArg (Option.map fun _ => b.app ++ "-registry") common.login
  rwa [Option.map_map, Option.map_map] at named

theorem Common.context (common : Common a b) (image : Image) (exports : Declared Exports) :
    context a image exports = context b image exports := by
  unfold Assembly.context
  rw [common.app, common.name, common.space, common.registrySecret]

theorem loginText_alike {v w : Value} (alike : v.veil true = w.veil true) (field : String) :
    (loginText field v).map (fun _ => ()) = (loginText field w).map fun _ => () := by
  rcases Value.veil_eq_iff.mp alike with rfl | ⟨-, key, x, y, rfl, rfl⟩
  · rfl
  · rfl

theorem pullSecret_alike (common : Common a b) (unseen : hidden.contains "Secret" = true)
    (name : String) {login login' : RegistryLogin} (alike : login.veil .all = login'.veil .all) :
    (pullSecret a name login).map (Resource.veil hidden) =
      (pullSecret b name login').map (Resource.veil hidden) := by
  obtain ⟨username, password, email⟩ := RegistryLogin.mk.inj alike
  refine bind_alike (loginText_alike username "username") fun user user' _ => ?_
  refine bind_alike (loginText_alike password "password") fun word word' _ => ?_
  refine bind_alike (loginText_alike email "email") fun mail mail' _ => ?_
  rw [← common.space]
  exact congrArg Except.ok (Resource.secrets_alike unseen "data" _ _)

theorem baseResources_alike (common : Common a b) (unseen : hidden.contains "Secret" = true) :
    (baseResources a).map (List.map (Resource.veil hidden)) =
      (baseResources b).map (List.map (Resource.veil hidden)) := by
  unfold baseResources
  rw [common.space, common.registrySecret]
  rcases option_alike common.login with ⟨none, none'⟩ | ⟨own, own', given, given', login⟩
  · rw [none, none']
  · rw [given, given']
    cases b.registrySecret? with
    | none => rfl
    | some name =>
      refine bind_alike (pullSecret_alike common unseen name login) ?_
      intro secret secret' same
      exact congrArg (fun r => Except.ok [Resource.veil hidden _, r]) same

-- The induction is on the blocks of the plugins; each of them was accepted on its own.
theorem plugins_twins (unseen : hidden.contains "Secret" = true)
    (alike : veilBlocks (Places.credentials.below "plugin") blocks =
      veilBlocks (Places.credentials.below "plugin") blocks')
    (built : buildPlugins Registries.builtin blocks = .ok plugins)
    (built' : buildPlugins Registries.builtin blocks' = .ok plugins')
    (clean : plugins.flatMap Plugin.violations = [])
    (clean' : plugins'.flatMap Plugin.violations = [])
    (probed : hidden.contains "StatefulSet" = true ∨ serverUsers blocks = serverUsers blocks') :
    List.Forall₂ (Plugin.Twin hidden) plugins plugins' := by
  induction blocks generalizing blocks' plugins plugins' with
  | nil =>
    cases blocks' with
    | nil =>
      obtain rfl := Except.ok.inj built
      obtain rfl := Except.ok.inj built'
      exact .nil
    | cons block rest => cases alike
  | cons block rest ih =>
    cases blocks' with
    | nil => cases alike
    | cons block' rest' =>
      obtain ⟨id, settings⟩ := block
      obtain ⟨id', settings'⟩ := block'
      obtain ⟨first, alikeRest⟩ := List.cons.inj alike
      obtain ⟨sameId, sameSettings⟩ := Prod.mk.inj first
      obtain rfl : id = id' := sameId
      obtain ⟨p, made, built⟩ := bind_eq_ok.mp built
      obtain ⟨later, builtRest, built⟩ := bind_eq_ok.mp built
      obtain ⟨q, made', built'⟩ := bind_eq_ok.mp built'
      obtain ⟨later', builtRest', built'⟩ := bind_eq_ok.mp built'
      obtain rfl := Except.ok.inj built
      obtain rfl := Except.ok.inj built'
      obtain ⟨cleanFirst, cleanRest⟩ := List.append_eq_nil_iff.mp clean
      obtain ⟨cleanFirst', cleanRest'⟩ := List.append_eq_nil_iff.mp clean'
      have users := probed.imp_right List.cons.inj
      refine .cons ?_ ?_
      · exact builtin_twin unseen sameSettings made made' cleanFirst cleanFirst'
          (users.imp_right And.left)
      · exact ih alikeRest builtRest builtRest' cleanRest cleanRest' (users.imp_right And.right)

theorem contributions_alike (common : Common a b)
    (twins : List.Forall₂ (Plugin.Twin hidden) plugins plugins') (exports : Declared Exports) :
    (contributions a image exports plugins).map (List.map (Resource.veil hidden)) =
      (contributions b image exports plugins').map (List.map (Resource.veil hidden)) := by
  induction twins generalizing exports with
  | nil => rfl
  | @cons p q rest rest' twin _ ih =>
    unfold contributions
    rw [common.context, twin.id]
    refine bind_alike (twin.contribute _) fun part part' same => ?_
    obtain ⟨resources, exported⟩ := Contribution.mk.inj same
    rw [exported]
    refine bind_alike (ih _) fun more more' later => ?_
    have all : (part.resources ++ more).map (Resource.veil hidden) =
        (part'.resources ++ more').map (Resource.veil hidden) := by
      rw [List.map_append, List.map_append, resources, later]
    exact congrArg Except.ok all

theorem compose_alike (common : Common a b) (unseen : hidden.contains "Secret" = true)
    (twins : List.Forall₂ (Plugin.Twin hidden) plugins plugins') :
    (compose a image plugins).map (fun m => m.resources.map (Resource.veil hidden)) =
      (compose b image plugins').map fun m => m.resources.map (Resource.veil hidden) := by
  have labels : standardLabels a = standardLabels b := by
    unfold standardLabels
    rw [common.app, common.name]
  unfold compose
  refine bind_alike (baseResources_alike common unseen) fun base base' first => ?_
  refine bind_alike (contributions_alike common twins []) fun parts parts' later => ?_
  have all : (base ++ parts).map (Resource.veil hidden) =
      (base' ++ parts').map (Resource.veil hidden) := by
    rw [List.map_append, List.map_append, first, later]
  rw [labels]
  exact congrArg Except.ok (Manifest.ofResources_alike (Resource.labelled_alike all _))

-- What two manifests say under one key: the same, outside secrets. Of the pods of a server this is
-- so if the servers have the same users.
structure Confined (a b : Environment) (r s : Resource) : Prop where
  key : r.key = s.key
  seen : r.kind ≠ "Secret" →
    (r.kind = "StatefulSet" →
      serverUsers a.kubernetes.plugins = serverUsers b.kubernetes.plugins) → r = s

variable {prepared prepared' : Prepared} {resolved : Resolved} {host : Host} {wire : Http.Wire}

-- Behind the checks environments compose alike, wherever the users of servers are not looked at.
theorem prepared_alike (hidden : List String) (alike : a.veil .credentials = b.veil .credentials)
    (checked : prepare Registries.builtin a = .ok prepared)
    (checked' : prepare Registries.builtin b = .ok prepared')
    (unseen : hidden.contains "Secret" = true)
    (probed : hidden.contains "StatefulSet" = true ∨
      serverUsers a.kubernetes.plugins = serverUsers b.kubernetes.plugins) (image : Image) :
    (compose a image prepared.plugins).map (fun m => m.resources.map (Resource.veil hidden)) =
      (compose b image prepared'.plugins).map fun m => m.resources.map (Resource.veil hidden) := by
  obtain ⟨-, built, clean, -⟩ := prepare_accepted checked
  obtain ⟨-, built', clean', -⟩ := prepare_accepted checked'
  have clean := (List.append_eq_nil_iff.mp clean).2
  have clean' := (List.append_eq_nil_iff.mp clean').2
  have twins := plugins_twins unseen (common alike).plugins built built' clean clean' probed
  exact compose_alike (common alike) unseen twins

theorem prepared_provider (alike : a.veil .credentials = b.veil .credentials)
    (checked : prepare Registries.builtin a = .ok prepared)
    (checked' : prepare Registries.builtin b = .ok prepared') :
    prepared.provider = prepared'.provider := by
  obtain ⟨⟨id, settings, active, made⟩, -⟩ := prepare_accepted checked
  obtain ⟨⟨id', settings', active', made'⟩, -⟩ := prepare_accepted checked'
  rw [(common alike).provider, active'] at active
  obtain ⟨rfl, rfl⟩ := Prod.mk.inj (Option.some.inj active)
  exact Except.ok.inj (made.symm.trans made')

theorem confined_of_veils {rs rs' : List Resource}
    (logins : rs.map (Resource.veil ["Secret", "StatefulSet"]) =
      rs'.map (Resource.veil ["Secret", "StatefulSet"]))
    (users : serverUsers a.kubernetes.plugins = serverUsers b.kubernetes.plugins →
      rs.map (Resource.veil ["Secret"]) = rs'.map (Resource.veil ["Secret"])) :
    List.Forall₂ (Confined a b) rs rs' := by
  by_cases same : serverUsers a.kubernetes.plugins = serverUsers b.kubernetes.plugins
  · refine (Resource.veils_eq_iff.mp (users same)).imp fun r s alike => ?_
    refine ⟨Resource.key_of_veil alike, fun open_ _ => Resource.eq_of_veil alike ?_⟩
    simpa using open_
  · refine (Resource.veils_eq_iff.mp logins).imp fun r s alike => ?_
    refine ⟨Resource.key_of_veil alike, fun open_ server => Resource.eq_of_veil alike ?_⟩
    have other : r.kind ≠ "StatefulSet" := fun kind => same (server kind)
    simpa using And.intro open_ other

theorem credentials_confined (alike : a.veil .credentials = b.veil .credentials)
    (checked : prepare Registries.builtin a = .ok prepared)
    (checked' : prepare Registries.builtin b = .ok prepared')
    (assembled : (assemble a image prepared host wire).1 = .ok resolved) :
    ∃ resolved', (assemble b image prepared' host wire).1 = .ok resolved' ∧
      List.Forall₂ (Confined a b) resolved.manifest.resources resolved'.manifest.resources := by
  obtain ⟨asked, composed, -⟩ := assemble_parts assembled
  have logins := prepared_alike ["Secret", "StatefulSet"] alike checked checked' (by decide)
    (.inl (by decide)) image
  rw [composed] at logins
  cases composed' : compose b image prepared'.plugins with
  | error e => rw [composed'] at logins; cases logins
  | ok m =>
    rw [composed'] at logins
    refine ⟨⟨m, image, resolved.kubeconfig, resolved.cluster⟩, ?_, ?_⟩
    · rw [assemble_access, ← prepared_provider alike checked checked', asked, composed']
      rfl
    · refine confined_of_veils (Except.ok.inj logins) fun same => ?_
      have users := prepared_alike ["Secret"] alike checked checked' (by decide) (.inr same) image
      rw [composed, composed'] at users
      exact Except.ok.inj users

def sealedEnvironment (text : String) : Environment :=
  ⟨"staging", "store",
    ⟨⟨"docker.io", "store/web", none⟩,
      some ⟨.string "robot", .secret "REGISTRY" ⟨text⟩, .string "ops@store.example"⟩,
      "Dockerfile", "."⟩,
    ⟨none, [("docker_desktop", [("kubeconfig", .value (.string "/kubeconfig"))])],
      [("postgres", [("user", .value (.string "store")), ("password", .value (.secret "DB" ⟨text⟩))]),
        ("rails_app", [("hostname", .value (.string "store.example.com")),
          ("database", .block [("user", .value (.secret "USER" ⟨text⟩)),
            ("password", .value (.secret "OTHER" ⟨text⟩)), ("host", .value (.string "db.example"))]),
          ("env", .block [("API_KEY", .value (.secret "API" ⟨text⟩))])])]⟩⟩

theorem sealed_confined : ∃ prepared prepared' resolved resolved',
    prepare Registries.builtin (sealedEnvironment "first") = .ok prepared ∧
      prepare Registries.builtin (sealedEnvironment "second") = .ok prepared' ∧
      (assemble (sealedEnvironment "first") storeImage prepared storeHost storeWire).1 =
        .ok resolved ∧
      (assemble (sealedEnvironment "second") storeImage prepared' storeHost storeWire).1 =
        .ok resolved' ∧
      List.Forall₂ (Confined (sealedEnvironment "first") (sealedEnvironment "second"))
        resolved.manifest.resources resolved'.manifest.resources := by
  obtain ⟨prepared, resolved, checked, assembled⟩ :=
    built_of_accepted (sealedEnvironment "first") storeImage storeHost storeWire (by decide +kernel)
  obtain ⟨prepared', -, checked', -⟩ :=
    built_of_accepted (sealedEnvironment "second") storeImage storeHost storeWire (by decide +kernel)
  have alike : (sealedEnvironment "first").veil .credentials =
      (sealedEnvironment "second").veil .credentials := by decide +kernel
  obtain ⟨resolved', assembled', confined⟩ := credentials_confined alike checked checked' assembled
  exact ⟨prepared, prepared', resolved, resolved', checked, checked', assembled, assembled', confined⟩

def probedSettings (user : String) : Settings :=
  [("user", .value (.secret "USER" ⟨user⟩)), ("password", .value (.secret "DB" ⟨"hunter2"⟩))]

def probedEnvironment (user : String) : Environment :=
  ⟨"staging", "store",
    ⟨⟨"docker.io", "store/web", none⟩, none, "Dockerfile", "."⟩,
    ⟨none, [("docker_desktop", [("kubeconfig", .value (.string "/kubeconfig"))])],
      [("postgres", probedSettings user)]⟩⟩

def probedPods (user : String) : Resource :=
  ((Postgres.ofSettings (probedSettings user)).1.statefulSet
    (context (probedEnvironment user) storeImage [])).withLabels
      (standardLabels (probedEnvironment user))

theorem server_declared (env : Environment) (image : Image) (settings : Settings) :
    contributions env image [] [Postgres.plugin settings] =
      .ok [(Postgres.ofSettings settings).1.secret (context env image []),
        Postgres.service (context env image []),
        (Postgres.ofSettings settings).1.statefulSet (context env image [])] := rfl

theorem probedPods_present {user : String}
    (checked : prepare Registries.builtin (probedEnvironment user) = .ok prepared)
    (assembled : (assemble (probedEnvironment user) storeImage prepared host wire).1 =
      .ok resolved) : probedPods user ∈ resolved.manifest.resources := by
  obtain ⟨-, composed, -⟩ := assemble_parts assembled
  obtain ⟨base, parts, -, contributed, same⟩ := compose_parts composed
  have built : buildPlugins Registries.builtin (probedEnvironment user).kubernetes.plugins =
    .ok [Postgres.plugin (probedSettings user)] := rfl
  have plugins := Except.ok.inj (built.symm.trans (prepare_parts checked).1)
  rw [← plugins, server_declared] at contributed
  obtain rfl := Except.ok.inj contributed
  rw [same, Manifest.mem_ofResources, List.append_cons, List.append_cons, List.map_append]
  exact Manifest.last_snoc.mpr (.inl rfl)

theorem probe_names_user : ∃ prepared prepared' resolved resolved',
    (probedEnvironment "alice").veil .credentials = (probedEnvironment "bob").veil .credentials ∧
      prepare Registries.builtin (probedEnvironment "alice") = .ok prepared ∧
      prepare Registries.builtin (probedEnvironment "bob") = .ok prepared' ∧
      (assemble (probedEnvironment "alice") storeImage prepared storeHost storeWire).1 =
        .ok resolved ∧
      (assemble (probedEnvironment "bob") storeImage prepared' storeHost storeWire).1 =
        .ok resolved' ∧
      ∃ r ∈ resolved.manifest.resources, ∃ s ∈ resolved'.manifest.resources,
        r.key = s.key ∧ r.kind = "StatefulSet" ∧ r ≠ s := by
  obtain ⟨prepared, resolved, checked, assembled⟩ :=
    built_of_accepted (probedEnvironment "alice") storeImage storeHost storeWire (by decide +kernel)
  obtain ⟨prepared', resolved', checked', assembled'⟩ :=
    built_of_accepted (probedEnvironment "bob") storeImage storeHost storeWire (by decide +kernel)
  refine ⟨prepared, prepared', resolved, resolved', by decide +kernel, checked, checked', assembled,
    assembled', probedPods "alice", probedPods_present checked assembled, probedPods "bob",
    probedPods_present checked' assembled', ?_⟩
  decide +kernel

end Assembly

end Rollout
