import Rollout.Proofs.Assembly.Pieces
import Rollout.Proofs.Manifest.References

namespace Rollout.Assembly

open Resource Manifest

variable {env : Environment} {ctx : PluginContext} {base : List Resource} {m : Manifest}
variable {r d : Resource} {p : Postgres} {app : RailsApp} {vars : List Json}

theorem base_parts (based : baseResources env = .ok base) :
    (env.registrySecret? = none ∧ base = [.new "v1" "Namespace" env.namespaceOf none]) ∨
      ∃ name secret, env.registrySecret? = some name ∧
        base = [.new "v1" "Namespace" env.namespaceOf none, secret] ∧
        secret.key = ⟨"Secret", some env.namespaceOf, name⟩ ∧ secret.body.field? "spec" = none := by
  unfold baseResources at based
  cases login : env.docker.login with
  | none =>
    have unnamed : env.registrySecret? = none := by simp [Environment.registrySecret?, login]
    simp only [login, unnamed] at based
    exact .inl ⟨unnamed, (Except.ok.inj based).symm⟩
  | some login' =>
    have named : env.registrySecret? = some (env.app ++ "-registry") := by
      simp [Environment.registrySecret?, login]
    simp only [login, named] at based
    obtain ⟨secret, made, based⟩ := bind_eq_ok.mp based
    obtain ⟨username, -, made⟩ := bind_eq_ok.mp made
    obtain ⟨password, -, made⟩ := bind_eq_ok.mp made
    obtain ⟨email, -, made⟩ := bind_eq_ok.mp made
    obtain rfl := Except.ok.inj made
    refine .inr ⟨_, _, named, (Except.ok.inj based).symm, by simp, ?_⟩
    rw [withField_other (by decide), withField_other (by decide)]
    rfl

theorem registry_name (env : Environment) :
    env.app ++ "-registry" = env.app ++ "-" ++ "registry" := by
  rw [String.append_assoc]
  rfl

theorem loginText_made {field : String} {value : Value}
    (clean : env.loginPart field value = []) : ∃ text, loginText field value = .ok text := by
  unfold Environment.loginPart at clean
  unfold loginText
  cases given : value.text? with
  | some text => exact ⟨text, rfl⟩
  | none => simp [given] at clean

theorem base_made (clean : env.findings.violations = []) :
    ∃ base, baseResources env = .ok base := by
  simp only [Environment.findings, List.append_eq_nil_iff] at clean
  obtain ⟨⟨-, clean⟩, -⟩ := clean
  unfold baseResources
  cases login : env.docker.login with
  | none => exact ⟨_, rfl⟩
  | some login' =>
    simp only [Environment.loginViolations, login, List.append_eq_nil_iff] at clean
    obtain ⟨⟨username, password⟩, email⟩ := clean
    obtain ⟨_, username⟩ := loginText_made username
    obtain ⟨_, password⟩ := loginText_made password
    obtain ⟨_, email⟩ := loginText_made email
    have made : ∃ secret, pullSecret env (env.app ++ "-registry") login' = .ok secret :=
      ⟨_, bind_eq_ok.mpr ⟨_, username, bind_eq_ok.mpr ⟨_, password,
        bind_eq_ok.mpr ⟨_, email, rfl⟩⟩⟩⟩
    obtain ⟨secret, made⟩ := made
    simp only [Environment.registrySecret?, login, Option.map_some]
    exact ⟨_, bind_eq_ok.mpr ⟨secret, made, rfl⟩⟩

theorem databaseSecret_key :
    (p.secret ctx).key = ⟨"Secret", some ctx.namespaceName, Postgres.name ctx⟩ := by
  simp [Postgres.secret]
theorem databaseService_key :
    (Postgres.service ctx).key = ⟨"Service", some ctx.namespaceName, Postgres.name ctx⟩ := by
  simp [Postgres.service]
theorem database_key :
    (p.statefulSet ctx).key = ⟨"StatefulSet", some ctx.namespaceName, Postgres.name ctx⟩ := by
  simp [Postgres.statefulSet]
theorem config_key :
    (app.config ctx).key = ⟨"ConfigMap", some ctx.namespaceName, RailsApp.configName ctx⟩ := by
  simp [RailsApp.config]
theorem deployment_key : (app.deployment ctx vars).key =
    ⟨"Deployment", some ctx.namespaceName, RailsApp.webName ctx⟩ := by
  simp [RailsApp.deployment]
theorem service_key :
    (app.service ctx).key = ⟨"Service", some ctx.namespaceName, RailsApp.webName ctx⟩ := by
  simp [RailsApp.service]
theorem ingress_key :
    (app.ingress ctx).key = ⟨"Ingress", some ctx.namespaceName, RailsApp.webName ctx⟩ := by
  simp [RailsApp.ingress]
theorem secrets_key {secret : Resource} (member : secret ∈ app.secret ctx) :
    secret.key = ⟨"Secret", some ctx.namespaceName, RailsApp.secretName ctx⟩ := by
  unfold RailsApp.secret at member
  split at member
  · cases member
  · rw [List.mem_singleton.mp member]; simp

def keysOfServer (ctx : PluginContext) : List ResourceKey :=
  ["Secret", "Service", "StatefulSet"].map fun kind =>
    ⟨kind, some ctx.namespaceName, ctx.objectName "postgres"⟩

def keysOfWeb (ctx : PluginContext) : List ResourceKey :=
  [("ConfigMap", "config"), ("Secret", "secrets"), ("Deployment", "web"), ("Service", "web"),
    ("Ingress", "web")].map fun (kind, suffix) =>
    ⟨kind, some ctx.namespaceName, ctx.objectName suffix⟩

theorem server_takes : ((Piece.server p).resources ctx).map Resource.key = keysOfServer ctx := by
  simp only [Piece.resources, List.map_cons, List.map_nil, databaseSecret_key, databaseService_key,
    database_key]
  rfl

theorem web_takes :
    (((Piece.web app vars).resources ctx).map Resource.key).Sublist (keysOfWeb ctx) := by
  have secrets : ((app.secret ctx).map Resource.key).Sublist
      [⟨"Secret", some ctx.namespaceName, RailsApp.secretName ctx⟩] := by
    unfold RailsApp.secret
    split
    · exact List.nil_sublist _
    · exact List.Sublist.refl _
  simp only [Piece.resources, List.map_append, List.map_cons, List.map_nil, config_key,
    deployment_key, service_key, ingress_key, List.cons_append]
  exact (secrets.append_right _).cons_cons _

theorem server_beside_web (ctx : PluginContext) : (keysOfServer ctx ++ keysOfWeb ctx).Nodup := by
  simp [keysOfServer, keysOfWeb, PluginContext.objectName]

theorem server_name (server : d ∈ (Piece.server p).resources ctx) :
    d.key.name = Postgres.name ctx := by
  simp only [Piece.resources, List.mem_cons, List.not_mem_nil, or_false] at server
  rcases server with rfl | rfl | rfl
  · rw [databaseSecret_key]
  · rw [databaseService_key]
  · rw [database_key]

theorem web_service (inside : d ∈ (Piece.web app vars).resources ctx)
    (kind : d.key.kind = "Service") : d = app.service ctx := by
  simp only [Piece.resources, List.mem_append, List.mem_cons, List.not_mem_nil, or_false] at inside
  rcases inside with (rfl | member) | rfl | rfl | rfl
  · simp [config_key] at kind
  · simp [secrets_key member] at kind
  · simp [deployment_key] at kind
  · rfl
  · simp [ingress_key] at kind

theorem web_deployment (inside : d ∈ (Piece.web app vars).resources ctx)
    (kind : d.key.kind = "Deployment") : d = app.deployment ctx vars := by
  simp only [Piece.resources, List.mem_append, List.mem_cons, List.not_mem_nil, or_false] at inside
  rcases inside with (rfl | member) | rfl | rfl | rfl
  · simp [config_key] at kind
  · simp [secrets_key member] at kind
  · rfl
  · simp [service_key] at kind
  · simp [ingress_key] at kind

-- Secrets, the configuration and the services refer to nothing.
theorem databaseSecret_plain : (p.secret ctx).body.field? "spec" = none := by
  rw [Postgres.secret, withField_other (by decide), withField_other (by decide)]
  rfl
theorem config_plain : (app.config ctx).body.field? "spec" = none := by
  rw [RailsApp.config, withField_other (by decide)]
  rfl
theorem secrets_plain {secret : Resource} (member : secret ∈ app.secret ctx) :
    secret.body.field? "spec" = none := by
  unfold RailsApp.secret at member
  split at member
  · cases member
  · rw [List.mem_singleton.mp member, withField_other (by decide), withField_other (by decide)]
    rfl
theorem databaseService_sound {spec : Json}
    (found : (Postgres.service ctx).body.field? "spec" = some spec) : m.Sound r spec := by
  rw [Postgres.service, withField_self new_isObject (by decide)] at found
  obtain rfl := Option.some.inj found
  simp (disch := decide) [Json.nat, PluginContext.selector]
theorem service_sound {spec : Json}
    (found : (app.service ctx).body.field? "spec" = some spec) : m.Sound r spec := by
  rw [RailsApp.service, withField_self new_isObject (by decide)] at found
  obtain rfl := Option.some.inj found
  simp (disch := decide) [Json.nat, Json.int, PluginContext.selector]

theorem database_sound
    (secret : m.Refers r "Secret" (some (.string (Postgres.name ctx))))
    (service : m.Refers r "Service" (some (.string (Postgres.name ctx)))) {spec : Json}
    (found : (p.statefulSet ctx).body.field? "spec" = some spec) : m.Sound r spec := by
  have source : m.Resolves r "secretRef" (.object [("name", .string (Postgres.name ctx))]) := secret
  have owner : m.Resolves r "serviceName" (.string (Postgres.name ctx)) := service
  rw [Postgres.statefulSet, withField_self new_isObject (by decide)] at found
  obtain rfl := Option.some.inj found
  simp (disch := decide) [Json.nat, PluginContext.selector, Postgres.container,
    Postgres.volumeClaim, source, owner]

structure HoldsLogin (m : Manifest) (r : Resource) (ctx : PluginContext) (t : Resource) : Prop where
  target : m.Target r "Secret" (some (.string (Postgres.name ctx))) t
  keys : ∀ key ∈ [Postgres.userKey, Postgres.passwordKey, Postgres.urlKey],
    ∃ text, t.body.at? ["stringData", key] = some (.string text)

theorem loginVariables_sound {t : Resource} (login : HoldsLogin m r ctx t) :
    ∀ j ∈ loginVariables ctx, m.Sound r j := by
  have reads : ∀ key ∈ [Postgres.userKey, Postgres.passwordKey, Postgres.urlKey],
      m.Resolves r "secretKeyRef"
        (.object [("key", .string key), ("name", .string (Postgres.name ctx))]) := by
    intro key listed
    obtain ⟨text, held⟩ := login.keys key listed
    exact ⟨t, key, text, login.target, rfl, held⟩
  have variable_sound : ∀ name, ∀ key ∈ [Postgres.userKey, Postgres.passwordKey, Postgres.urlKey],
      m.Sound r (RailsApp.fromSecret name (Postgres.name ctx) key) := by
    intro name key listed
    simp (disch := decide) [RailsApp.fromSecret, reads key listed]
  intro j member
  simp only [loginVariables, List.mem_cons, List.not_mem_nil, or_false] at member
  rcases member with rfl | rfl | rfl
  · exact variable_sound _ _ (by simp)
  · exact variable_sound _ _ (by simp)
  · exact variable_sound _ _ (by simp)

theorem deployment_sound
    (config : m.Refers r "ConfigMap" (some (.string (RailsApp.configName ctx))))
    (secrets : (app.allSecrets ctx).isEmpty = false →
      m.Refers r "Secret" (some (.string (RailsApp.secretName ctx))))
    (pull : ∀ name, ctx.registrySecret = some name → m.Refers r "Secret" (some (.string name)))
    (reads : ∀ j ∈ vars, m.Sound r j) {spec : Json}
    (found : (app.deployment ctx vars).body.field? "spec" = some spec) : m.Sound r spec := by
  have fromConfig : m.Resolves r "configMapRef"
      (.object [("name", .string (RailsApp.configName ctx))]) := config
  have fromSecrets : (app.allSecrets ctx).isEmpty = false → m.Resolves r "secretRef"
      (.object [("name", .string (RailsApp.secretName ctx))]) := secrets
  have sources : ∀ j ∈ app.variableSources ctx, m.Sound r j := by
    unfold RailsApp.variableSources
    split
    · simp (disch := decide) [fromConfig]
    · rename_i some
      simp (disch := decide) [fromConfig, fromSecrets (by simpa using some)]
  have container : m.Sound r (app.container ctx vars) := by
    simpa (disch := decide) [RailsApp.container, Json.nat, Json.int] using And.intro reads sources
  have pod : m.Sound r (app.podSpec ctx vars) := by
    unfold RailsApp.podSpec
    split
    · rename_i name named
      have pulled : m.Resolves r "imagePullSecrets" (.array [.object [("name", .string name)]]) :=
        ⟨_, rfl, by simpa [Json.field?] using pull name named⟩
      simp (disch := decide) [container, pulled]
    · simp (disch := decide) [container]
  rw [RailsApp.deployment, withField_self new_isObject (by decide)] at found
  obtain rfl := Option.some.inj found
  simp (disch := decide) [Json.int, PluginContext.selector, pod]

theorem ingress_sound {t : Resource} {ports : List Json} {port : Json}
    (target : m.Target r "Service" (some (.string (RailsApp.webName ctx))) t)
    (offered : t.body.at? ["spec", "ports"] = some (.array ports)) (member : port ∈ ports)
    (number : port.field? "port" = some (.nat 80)) {spec : Json}
    (found : (app.ingress ctx).body.field? "spec" = some spec) : m.Sound r spec := by
  have backend : m.Resolves r "backend" (.object [("service", .object [
      ("name", .string (RailsApp.webName ctx)), ("port", .object [("number", .nat 80)])])]) :=
    ⟨t, ports, port, .nat 80, target, offered, member, number, rfl⟩
  rw [RailsApp.ingress, withField_self new_isObject (by decide)] at found
  obtain rfl := Option.some.inj found
  simpa (disch := decide) [Json.nat] using backend

theorem databaseSecret_login :
    ∀ key ∈ [Postgres.userKey, Postgres.passwordKey, Postgres.urlKey],
      ∃ text, (p.secret ctx).body.at? ["stringData", key] = some (.string text) := by
  intro key listed
  rw [Postgres.secret, withField_at? (withField_isObject new_isObject) (by decide)]
  simp only [List.mem_cons, List.not_mem_nil, or_false] at listed
  rcases listed with rfl | rfl | rfl <;> exact ⟨_, rfl⟩

theorem databaseService_selector :
    (Postgres.service ctx).body.at? ["spec", "selector"] = some (ctx.selector "database") := by
  rw [Postgres.service, withField_at? new_isObject (by decide)]
  rfl

theorem databaseService_ports : (Postgres.service ctx).body.at? ["spec", "ports"] =
    some (.array [.object [("name", .string "postgres"), ("port", .nat Postgres.port),
      ("targetPort", .nat Postgres.port)]]) := by
  rw [Postgres.service, withField_at? new_isObject (by decide)]
  rfl

theorem database_labels : (p.statefulSet ctx).body.at? ["spec", "template", "metadata", "labels"] =
    some (ctx.selector "database") := by
  rw [Postgres.statefulSet, withField_at? new_isObject (by decide)]
  rfl

theorem database_containers :
    (p.statefulSet ctx).body.at? ["spec", "template", "spec", "containers"] =
      some (.array [p.container ctx]) := by
  rw [Postgres.statefulSet, withField_at? new_isObject (by decide)]
  rfl

theorem service_selector :
    (app.service ctx).body.at? ["spec", "selector"] = some (ctx.selector "web") := by
  rw [RailsApp.service, withField_at? new_isObject (by decide)]
  rfl

theorem service_ports : (app.service ctx).body.at? ["spec", "ports"] =
    some (.array [.object [("name", .string "http"), ("port", .nat 80),
      ("targetPort", .int app.port)]]) := by
  rw [RailsApp.service, withField_at? new_isObject (by decide)]
  rfl

theorem deployment_labels :
    (app.deployment ctx vars).body.at? ["spec", "template", "metadata", "labels"] =
      some (ctx.selector "web") := by
  rw [RailsApp.deployment, withField_at? new_isObject (by decide)]
  rfl

theorem deployment_containers :
    (app.deployment ctx vars).body.at? ["spec", "template", "spec", "containers"] =
      some (.array [app.container ctx vars]) := by
  rw [RailsApp.deployment, withField_at? new_isObject (by decide)]
  simp only [Json.at?, Json.field?, RailsApp.podSpec]
  cases ctx.registrySecret <;> rfl

theorem deployment_pull :
    (app.deployment ctx vars).body.at? ["spec", "template", "spec", "imagePullSecrets"] =
      ctx.registrySecret.map fun secret => .array [.object [("name", .string secret)]] := by
  rw [RailsApp.deployment, withField_at? new_isObject (by decide)]
  simp only [Json.at?, Json.field?, RailsApp.podSpec]
  cases ctx.registrySecret <;> rfl

theorem serves_of_parts {s w : Resource} {kind space name : String}
    {labels port container exposed : Json} {service : List (String × Json)}
    {tags : List (String × String)} (present : w.withLabels tags ∈ m.resources)
    (own : s.key = ⟨"Service", some space, name⟩) (key : w.key = ⟨kind, some space, name⟩)
    (workload : kind = "Deployment" ∨ kind = "StatefulSet")
    (selector : s.body.at? ["spec", "selector"] = some labels)
    (ports : s.body.at? ["spec", "ports"] = some (.array [.object service]))
    (target : (Json.object service).field? "targetPort" = some port)
    (labelled : w.body.at? ["spec", "template", "metadata", "labels"] = some labels)
    (containers : w.body.at? ["spec", "template", "spec", "containers"] =
      some (.array [container]))
    (listens : container.field? "ports" = some (.array [exposed]))
    (exposes : exposed.field? "containerPort" = some port) :
    m.Serves (s.withLabels tags) (w.withLabels tags) := by
  have home : (s.withLabels tags).key = _ := withLabels_key.trans own
  have place : (w.withLabels tags).key = _ := withLabels_key.trans key
  obtain ⟨isKind, there, -⟩ := ResourceKey.mk.inj place
  obtain ⟨-, here, -⟩ := ResourceKey.mk.inj home
  refine ⟨present, ?_, there.trans here.symm, ⟨labels, ?_, ?_⟩, [.object service], ?_, ?_⟩
  · rcases workload with rfl | rfl <;> rw [Resource.isWorkload, isKind] <;> rfl
  · rwa [withLabels_at? (by decide)]
  · rwa [withLabels_at? (by decide)]
  · rwa [withLabels_at? (by decide)]
  · intro p member
    rw [List.mem_singleton.mp member]
    refine ⟨port, target, [container], container, [exposed], exposed, ?_, by simp, listens, by simp,
      exposes⟩
    rwa [withLabels_at? (by decide)]

end Rollout.Assembly
