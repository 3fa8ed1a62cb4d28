import Rollout.Proofs.Assembly.Contents

namespace Rollout.Assembly

open Resource Manifest

variable {env : Environment} {image : Image} {plugins : List Plugin} {ctx : PluginContext}
variable {pieces : List Piece} {base : List Resource} {m : Manifest} {r d : Resource}
variable {p : Postgres} {app : RailsApp} {vars : List Json}

inductive Made (env : Environment) (ctx : PluginContext) (pieces : List Piece) :
    Resource → Prop where
  | space : Made env ctx pieces (.new "v1" "Namespace" env.namespaceOf none)
  | pullSecret {name : String} {secret : Resource} (login : env.registrySecret? = some name)
      (key : secret.key = ⟨"Secret", some env.namespaceOf, name⟩)
      (plain : secret.body.field? "spec" = none) : Made env ctx pieces secret
  | databaseSecret {p : Postgres} (server : .server p ∈ pieces) : Made env ctx pieces (p.secret ctx)
  | databaseService {p : Postgres} (server : .server p ∈ pieces) :
      Made env ctx pieces (Postgres.service ctx)
  | database {p : Postgres} (server : .server p ∈ pieces) : Made env ctx pieces (p.statefulSet ctx)
  | config {app : RailsApp} {vars : List Json} (web : .web app vars ∈ pieces) :
      Made env ctx pieces (app.config ctx)
  | secrets {app : RailsApp} {vars : List Json} {secret : Resource} (web : .web app vars ∈ pieces)
      (member : secret ∈ app.secret ctx) : Made env ctx pieces secret
  | deployment {app : RailsApp} {vars : List Json} (web : .web app vars ∈ pieces) :
      Made env ctx pieces (app.deployment ctx vars)
  | service {app : RailsApp} {vars : List Json} (web : .web app vars ∈ pieces) :
      Made env ctx pieces (app.service ctx)
  | ingress {app : RailsApp} {vars : List Json} (web : .web app vars ∈ pieces) :
      Made env ctx pieces (app.ingress ctx)

theorem made_of_mem (based : baseResources env = .ok base)
    (member : d ∈ base ++ pieces.flatMap (Piece.resources ctx)) : Made env ctx pieces d := by
  rcases List.mem_append.mp member with inBase | inPieces
  · obtain ⟨-, rfl⟩ | ⟨name, secret, named, rfl, key, plain⟩ := base_parts based
    · rw [List.mem_singleton.mp inBase]
      exact .space
    · rcases List.mem_pair.mp inBase with rfl | rfl
      · exact .space
      · exact .pullSecret named key plain
  · obtain ⟨piece, present, member⟩ := List.mem_flatMap.mp inPieces
    cases piece with
    | server p =>
      simp only [Piece.resources, List.mem_cons, List.not_mem_nil, or_false] at member
      rcases member with rfl | rfl | rfl
      · exact .databaseSecret present
      · exact .databaseService present
      · exact .database present
    | web app vars =>
      simp only [Piece.resources, List.mem_append, List.mem_cons, List.not_mem_nil, or_false]
        at member
      rcases member with (rfl | inSecret) | rfl | rfl | rfl
      · exact .config present
      · exact .secrets present inSecret
      · exact .deployment present
      · exact .service present
      · exact .ingress present

def declared (env : Environment) (ctx : PluginContext) (base : List Resource)
    (pieces : List Piece) : List Resource :=
  (base ++ pieces.flatMap (Piece.resources ctx)).map fun r => r.withLabels (standardLabels env)

theorem compose_pieces (builtin : ∀ p ∈ plugins, Builtin p)
    (composed : compose env image plugins = .ok m) : ∃ base pieces,
      baseResources env = .ok base ∧ Grounded (context env image []) pieces pieces ∧
        m = .ofResources (declared env (context env image []) base pieces) := by
  obtain ⟨base, parts, based, contributed, rfl⟩ := compose_parts composed
  have nothing : Known (context env image []) [] [] := fun es offered => by cases offered
  obtain ⟨pieces, rfl, grounded⟩ := contributions_pieces builtin nothing contributed
  exact ⟨base, pieces, based, grounded, rfl⟩

theorem made_of_manifest (based : baseResources env = .ok base)
    (member : r ∈ (Manifest.ofResources (declared env ctx base pieces)).resources) :
    ∃ d, Made env ctx pieces d ∧ r = d.withLabels (standardLabels env) := by
  obtain ⟨d, present, rfl⟩ := List.mem_map.mp (mem_of_last (mem_ofResources.mp member))
  exact ⟨d, made_of_mem based present, rfl⟩

theorem present_of_declared (env : Environment)
    (present : d ∈ base ++ pieces.flatMap (Piece.resources ctx)) :
    ∃ t ∈ (Manifest.ofResources (declared env ctx base pieces)).resources, t.key = d.key := by
  obtain ⟨t, last, key⟩ := exists_last (List.mem_map_of_mem present)
  exact ⟨t, mem_ofResources.mpr last, key.trans withLabels_key⟩

theorem target_of_declared {kind name own ownName space : String} {s : Resource}
    (member : s.withLabels (standardLabels env) ∈
      (Manifest.ofResources (declared env ctx base pieces)).resources)
    (source : s.key = ⟨own, some space, ownName⟩)
    (present : d ∈ base ++ pieces.flatMap (Piece.resources ctx))
    (key : d.key = ⟨kind, some space, name⟩) (below : precedenceOf kind < precedenceOf own) :
    ∃ t ∈ (Manifest.ofResources (declared env ctx base pieces)).resources,
      t.key = ⟨kind, some space, name⟩ ∧
      (Manifest.ofResources (declared env ctx base pieces)).Target
        (s.withLabels (standardLabels env)) kind (some (.string name)) t := by
  obtain ⟨t, found, same⟩ := present_of_declared env present
  obtain ⟨rfl, place, rfl⟩ := ResourceKey.mk.inj (same.trans key)
  have home : (s.withLabels (standardLabels env)).key = _ := withLabels_key.trans source
  obtain ⟨rfl, home, -⟩ := ResourceKey.mk.inj home
  refine ⟨t, found, same.trans key, ?_, rfl, place.trans home.symm, rfl⟩
  exact earlier_of_precedence (ofResources_sorted _) found member below

theorem last_web (some : ∃ app vars, .web app vars ∈ pieces) : ∃ front app vars back,
    pieces = front ++ .web app vars :: back ∧ ∀ app vars, .web app vars ∉ back := by
  induction pieces with
  | nil => simp at some
  | cons piece rest ih =>
    by_cases later : ∃ app vars, .web app vars ∈ rest
    · obtain ⟨front, app, vars, back, rfl, none⟩ := ih later
      exact ⟨piece :: front, app, vars, back, rfl, none⟩
    · obtain ⟨app, vars, member⟩ := some
      obtain rfl | further := List.mem_cons.mp member
      · exact ⟨[], app, vars, rest, rfl, fun app vars inside => later ⟨app, vars, inside⟩⟩
      · exact absurd ⟨app, vars, further⟩ later

theorem web_resources (env : Environment) (ctx : PluginContext) (base : List Resource)
    (some : ∃ app vars, .web app vars ∈ pieces) :
    ∃ app vars, .web app vars ∈ pieces ∧
    ∀ r ∈ (Manifest.ofResources (declared env ctx base pieces)).resources,
      r.key.name = RailsApp.webName ctx →
      (∃ d ∈ (Piece.web app vars).resources ctx, d.key = r.key) →
      ∃ d ∈ (Piece.web app vars).resources ctx, r = d.withLabels (standardLabels env) := by
  obtain ⟨front, app, vars, back, rfl, none⟩ := last_web some
  refine ⟨app, vars, by simp, fun r member named covered => ?_⟩
  have last := mem_ofResources.mp member
  have blocks : declared env ctx base (front ++ .web app vars :: back) =
      declared env ctx base front ++
        (declared env ctx [] [.web app vars] ++ declared env ctx [] back) := by simp [declared]
  rw [blocks] at last
  have behind : ∀ s ∈ declared env ctx [] back, s.key ≠ r.key := by
    intro s behind same
    obtain ⟨d, inside, rfl⟩ := List.mem_map.mp behind
    obtain ⟨piece, present, inside⟩ := List.mem_flatMap.mp inside
    cases piece with
    | server p =>
      rw [← same, withLabels_key, server_name inside] at named
      simp [Postgres.name, RailsApp.webName, PluginContext.objectName] at named
    | web app vars => exact none app vars present
  have inBlock := last_in_block last behind (by
    obtain ⟨d, inside, same⟩ := covered
    exact ⟨_, List.mem_map_of_mem (by simpa using inside), withLabels_key.trans same⟩)
  obtain ⟨d, inside, rfl⟩ := List.mem_map.mp inBlock
  exact ⟨d, by simpa using inside, rfl⟩

-- The namespace, or a resource that lies in it and is applied later.
def Placed (env : Environment) (key : ResourceKey) : Prop :=
  key = ⟨"Namespace", none, env.namespaceOf⟩ ∨
    (key.kind ≠ "Namespace" ∧ key.namespaceName = some env.namespaceOf ∧
      0 < precedenceOf key.kind)

theorem placed_inside {kind name : String} (other : kind ≠ "Namespace")
    (later : 0 < precedenceOf kind) : Placed env ⟨kind, some env.namespaceOf, name⟩ :=
  .inr ⟨other, rfl, later⟩

theorem Made.placed (made : Made env (context env image []) pieces d) : Placed env d.key := by
  cases made with
  | space => exact .inl rfl
  | pullSecret login key plain => rw [key]; exact placed_inside (by decide) (by decide)
  | databaseSecret server => rw [databaseSecret_key]; exact placed_inside (by decide) (by decide)
  | databaseService server => rw [databaseService_key]; exact placed_inside (by decide) (by decide)
  | database server => rw [database_key]; exact placed_inside (by decide) (by decide)
  | config web => rw [config_key]; exact placed_inside (by decide) (by decide)
  | secrets web member => rw [secrets_key member]; exact placed_inside (by decide) (by decide)
  | deployment web => rw [deployment_key]; exact placed_inside (by decide) (by decide)
  | service web => rw [service_key]; exact placed_inside (by decide) (by decide)
  | ingress web => rw [ingress_key]; exact placed_inside (by decide) (by decide)

theorem placed_first {rs : List Resource} (placed : ∀ r ∈ rs, Placed env r.key)
    (sorted : rs.Pairwise fun a b => a.precedence ≤ b.precedence)
    (distinct : (rs.map Resource.key).Nodup)
    (space : ∃ t ∈ rs, t.key = ⟨"Namespace", none, env.namespaceOf⟩) :
    ∃ first rest, rs = first :: rest ∧ first.kind = "Namespace" ∧ first.name = env.namespaceOf ∧
      ∀ r ∈ rest, r.kind ≠ "Namespace" ∧ r.namespaceName = some env.namespaceOf := by
  obtain ⟨t, member, key⟩ := space
  cases rs with
  | nil => cases member
  | cons first rest =>
    obtain ⟨apart, -⟩ := List.nodup_cons.mp distinct
    have isSpace : first.key = ⟨"Namespace", none, env.namespaceOf⟩ := by
      rcases placed first (by simp) with here | ⟨-, -, above⟩
      · exact here
      · rcases List.mem_cons.mp member with rfl | behind
        · exact key
        · have order : first.precedence ≤ t.precedence := (List.pairwise_cons.mp sorted).1 t behind
          have bottom : t.precedence = 0 := by
            change precedenceOf t.key.kind = 0
            rw [key]
            exact (by decide : precedenceOf "Namespace" = 0)
          have above : 0 < first.precedence := above
          omega
    obtain ⟨kind, -, name⟩ := ResourceKey.mk.inj isSpace
    refine ⟨first, rest, rfl, kind, name, fun r behind => ?_⟩
    rcases placed r (List.mem_cons_of_mem _ behind) with again | ⟨other, inside, -⟩
    · exact absurd (List.mem_map.mpr ⟨r, behind, again.trans isSpace.symm⟩) apart
    · exact ⟨other, inside⟩

theorem manifest_placed (based : baseResources env = .ok base)
    (manifest : m = .ofResources (declared env (context env image []) base pieces)) :
    ∃ first rest, m.resources = first :: rest ∧ first.kind = "Namespace" ∧
      first.name = env.namespaceOf ∧
      ∀ r ∈ rest, r.kind ≠ "Namespace" ∧ r.namespaceName = some env.namespaceOf := by
  subst manifest
  refine placed_first ?_ (ofResources_sorted _) (ofResources_distinct _) ?_
  · intro r member
    obtain ⟨d, made, rfl⟩ := made_of_manifest based member
    exact withLabels_key.symm ▸ made.placed
  · obtain ⟨-, rfl⟩ | ⟨name, secret, -, rfl, -⟩ := base_parts based
    · exact present_of_declared env (List.mem_append_left _ (List.mem_singleton.mpr rfl))
    · exact present_of_declared env (List.mem_append_left _ List.mem_cons_self)

-- Whatever secret of a server's name is in the manifest holds a server's login.
theorem manifest_login {t : Resource} (based : baseResources env = .ok base)
    (member : t ∈ (Manifest.ofResources
      (declared env (context env image []) base pieces)).resources)
    (key : t.key = ⟨"Secret", some env.namespaceOf, Postgres.name (context env image [])⟩) :
    ∀ key ∈ [Postgres.userKey, Postgres.passwordKey, Postgres.urlKey],
      ∃ text, t.body.at? ["stringData", key] = some (.string text) := by
  obtain ⟨d, made, rfl⟩ := made_of_manifest based member
  rw [withLabels_key] at key
  cases made with
  | databaseSecret server =>
    intro name listed
    rw [withLabels_at? (by decide)]
    exact databaseSecret_login name listed
  | space => simp at key
  | pullSecret login own plain =>
    rw [own] at key
    obtain ⟨login', -, rfl⟩ := Option.map_eq_some_iff.mp login
    simp [Postgres.name, PluginContext.objectName, context, String.append_assoc] at key
  | databaseService server => simp [databaseService_key] at key
  | database server => simp [database_key] at key
  | config web => simp [config_key] at key
  | secrets web own =>
    simp [secrets_key own, RailsApp.secretName, Postgres.name, PluginContext.objectName] at key
  | deployment web => simp [deployment_key] at key
  | service web => simp [service_key] at key
  | ingress web => simp [ingress_key] at key

theorem server_present (server : .server p ∈ pieces) : ∀ d ∈ (Piece.server p).resources ctx,
    d ∈ base ++ pieces.flatMap (Piece.resources ctx) := fun _ member =>
  List.mem_append_right _ (List.mem_flatMap.mpr ⟨_, server, member⟩)

theorem web_present (web : .web app vars ∈ pieces) : ∀ d ∈ (Piece.web app vars).resources ctx,
    d ∈ base ++ pieces.flatMap (Piece.resources ctx) := fun _ member =>
  List.mem_append_right _ (List.mem_flatMap.mpr ⟨_, web, member⟩)

theorem made_service (made : Made env ctx pieces d) (kind : d.key.kind = "Service") :
    ((∃ p, .server p ∈ pieces) ∧ d = Postgres.service ctx) ∨
      ∃ app vars, .web app vars ∈ pieces ∧ d = app.service ctx := by
  cases made with
  | databaseService server => exact .inl ⟨⟨_, server⟩, rfl⟩
  | service web => exact .inr ⟨_, _, web, rfl⟩
  | space => simp at kind
  | pullSecret login own plain => simp [own] at kind
  | databaseSecret server => simp [databaseSecret_key] at kind
  | database server => simp [database_key] at kind
  | config web => simp [config_key] at kind
  | secrets web own => simp [secrets_key own] at kind
  | deployment web => simp [deployment_key] at kind
  | ingress web => simp [ingress_key] at kind

theorem made_deployment (made : Made env ctx pieces d) (kind : d.key.kind = "Deployment") :
    ∃ app vars, .web app vars ∈ pieces ∧ d = app.deployment ctx vars := by
  cases made with
  | deployment web => exact ⟨_, _, web, rfl⟩
  | space => simp at kind
  | pullSecret login own plain => simp [own] at kind
  | databaseSecret server => simp [databaseSecret_key] at kind
  | databaseService server => simp [databaseService_key] at kind
  | database server => simp [database_key] at kind
  | config web => simp [config_key] at kind
  | secrets web own => simp [secrets_key own] at kind
  | service web => simp [service_key] at kind
  | ingress web => simp [ingress_key] at kind

theorem manifest_webPorts {t : Resource} (based : baseResources env = .ok base)
    (member : t ∈ (Manifest.ofResources (declared env ctx base pieces)).resources)
    (key : t.key = ⟨"Service", some ctx.namespaceName, RailsApp.webName ctx⟩) :
    ∃ ports port, t.body.at? ["spec", "ports"] = some (.array ports) ∧ port ∈ ports ∧
      port.field? "port" = some (.nat 80) := by
  obtain ⟨d, made, rfl⟩ := made_of_manifest based member
  rw [withLabels_key] at key
  obtain ⟨-, rfl⟩ | ⟨app, vars, web, rfl⟩ := made_service made (by rw [key])
  · simp [databaseService_key, RailsApp.webName, Postgres.name, PluginContext.objectName] at key
  · rw [withLabels_at? (by decide), service_ports]
    exact ⟨_, _, rfl, List.mem_singleton.mpr rfl, rfl⟩

theorem pullSecret_present {name : String} (based : baseResources env = .ok base)
    (named : env.registrySecret? = some name) : ∃ secret ∈ base,
    secret.key = ⟨"Secret", some env.namespaceOf, name⟩ := by
  obtain ⟨unnamed, -⟩ | ⟨name', secret, named', rfl, key, -⟩ := base_parts based
  · rw [unnamed] at named; cases named
  · obtain rfl := Option.some.inj (named.symm.trans named')
    exact ⟨secret, by simp, key⟩

theorem manifest_resolved (based : baseResources env = .ok base)
    (grounded : Grounded (context env image []) pieces pieces)
    (manifest : m = .ofResources (declared env (context env image []) base pieces)) :
    ∀ r ∈ m.resources, ∀ field value, (field, value) ∈ r.entries → m.Resolves r field value := by
  subst manifest
  intro r member
  obtain ⟨d, made, rfl⟩ := made_of_manifest based member
  suffices sound : ∀ spec, d.body.field? "spec" = some spec →
      (Manifest.ofResources (declared env (context env image []) base pieces)).Sound
        (d.withLabels (standardLabels env)) spec by
    intro field value inside
    rw [Resource.entries, withLabels_field? (by decide)] at inside
    cases found : d.body.field? "spec" with
    | none => rw [found] at inside; cases inside
    | some spec => rw [found] at inside; exact sound spec found field value inside
  intro spec found
  cases made with
  | space => cases found
  | pullSecret login key plain => rw [plain] at found; cases found
  | databaseSecret server => rw [databaseSecret_plain] at found; cases found
  | databaseService server => exact databaseService_sound found
  | @database p server =>
    obtain ⟨_, -, -, secret⟩ := target_of_declared member database_key
      (server_present server (p.secret _) (by simp [Piece.resources])) databaseSecret_key
      (by decide)
    obtain ⟨_, -, -, service⟩ := target_of_declared member database_key
      (server_present server (Postgres.service _) (by simp [Piece.resources])) databaseService_key
      (by decide)
    exact database_sound ⟨_, secret⟩ ⟨_, service⟩ found
  | config web => rw [config_plain] at found; cases found
  | secrets web inside => rw [secrets_plain inside] at found; cases found
  | @deployment app vars web =>
    refine deployment_sound ?_ ?_ ?_ ?_ found
    · obtain ⟨_, -, -, config⟩ := target_of_declared member deployment_key
        (web_present web (app.config _) (by simp [Piece.resources])) config_key (by decide)
      exact ⟨_, config⟩
    · intro some
      have one : ∃ secret, secret ∈ app.secret (context env image []) := by
        simp [RailsApp.secret, some]
      obtain ⟨secret, inside⟩ := one
      obtain ⟨_, -, -, secrets⟩ := target_of_declared member deployment_key
        (web_present web secret (by simp [Piece.resources, inside])) (secrets_key inside)
        (by decide)
      exact ⟨_, secrets⟩
    · intro name named
      obtain ⟨secret, inBase, key⟩ := pullSecret_present based named
      obtain ⟨_, -, -, pull⟩ := target_of_declared member deployment_key
        (List.mem_append_left _ inBase) key (by decide)
      exact ⟨_, pull⟩
    · rcases grounded app vars web with rfl | ⟨rfl, p, server⟩
      · simp
      · obtain ⟨t, held, key, login⟩ := target_of_declared member deployment_key
          (server_present server (p.secret _) (by simp [Piece.resources])) databaseSecret_key
          (by decide)
        exact loginVariables_sound ⟨login, manifest_login based held key⟩
  | service web => exact service_sound found
  | @ingress app vars web =>
    obtain ⟨t, held, key, service⟩ := target_of_declared member ingress_key
      (web_present web (app.service _) (by simp [Piece.resources])) service_key (by decide)
    obtain ⟨ports, port, offered, inside, number⟩ := manifest_webPorts based held key
    exact ingress_sound service offered inside number found

theorem made_database (made : Made env ctx pieces d) (kind : d.key.kind = "StatefulSet") :
    ∃ p, d = Postgres.statefulSet p ctx := by
  cases made with
  | database server => exact ⟨_, rfl⟩
  | space => simp at kind
  | pullSecret login own plain => simp [own] at kind
  | databaseSecret server => simp [databaseSecret_key] at kind
  | databaseService server => simp [databaseService_key] at kind
  | config web => simp [config_key] at kind
  | secrets web own => simp [secrets_key own] at kind
  | deployment web => simp [deployment_key] at kind
  | service web => simp [service_key] at kind
  | ingress web => simp [ingress_key] at kind

theorem databaseService_served (based : baseResources env = .ok base)
    (server : .server p ∈ pieces) : ∃ w,
    (Manifest.ofResources (declared env ctx base pieces)).Serves
      ((Postgres.service ctx).withLabels (standardLabels env)) w := by
  obtain ⟨w, present, key⟩ : ∃ w ∈ (Manifest.ofResources (declared env ctx base pieces)).resources,
      w.key = (p.statefulSet ctx).key :=
    present_of_declared env (server_present server _ (by simp [Piece.resources]))
  obtain ⟨d, made, rfl⟩ := made_of_manifest based present
  rw [withLabels_key] at key
  obtain ⟨p', rfl⟩ := made_database made (by rw [key, database_key])
  exact ⟨_, serves_of_parts present databaseService_key database_key (.inr rfl)
    databaseService_selector databaseService_ports rfl database_labels database_containers
    rfl rfl⟩

theorem service_served {s : Resource}
    (member : s ∈ (Manifest.ofResources (declared env ctx base pieces)).resources)
    (web : ∃ app vars, .web app vars ∈ pieces)
    (key : s.key = ⟨"Service", some ctx.namespaceName, RailsApp.webName ctx⟩) :
    ∃ w, (Manifest.ofResources (declared env ctx base pieces)).Serves s w := by
  obtain ⟨app, vars, present, last⟩ := web_resources env ctx base web
  obtain ⟨d, inside, rfl⟩ := last s member (by rw [key])
    ⟨app.service ctx, by simp [Piece.resources], by rw [key, service_key]⟩
  obtain rfl := web_service inside (by rw [← withLabels_key, key])
  obtain ⟨w, held, same⟩ : ∃ w ∈ (Manifest.ofResources (declared env ctx base pieces)).resources,
      w.key = (app.deployment ctx vars).key :=
    present_of_declared env (web_present present _ (by simp [Piece.resources]))
  obtain ⟨d, inside', rfl⟩ := last w held (by rw [same, deployment_key])
    ⟨app.deployment ctx vars, by simp [Piece.resources], same.symm⟩
  obtain rfl := web_deployment inside' (by rw [← withLabels_key, same, deployment_key])
  exact ⟨_, serves_of_parts held service_key deployment_key (.inl rfl) service_selector
    service_ports rfl deployment_labels deployment_containers rfl rfl⟩

theorem manifest_served (based : baseResources env = .ok base)
    (manifest : m = .ofResources (declared env ctx base pieces)) :
    ∀ s ∈ m.resources, s.kind = "Service" → ∃ w, m.Serves s w := by
  subst manifest
  intro s member isService
  obtain ⟨d, made, rfl⟩ := made_of_manifest based member
  have kind : d.key.kind = "Service" := withLabels_kind.symm.trans isService
  obtain ⟨⟨p, server⟩, rfl⟩ | ⟨app, vars, web, rfl⟩ := made_service made kind
  · exact databaseService_served based server
  · exact service_served member ⟨app, vars, web⟩ (withLabels_key.trans service_key)

theorem compose_closed (builtin : ∀ p ∈ plugins, Builtin p)
    (composed : compose env image plugins = .ok m) : m.Closed env.namespaceOf := by
  obtain ⟨base, pieces, based, grounded, manifest⟩ := compose_pieces builtin composed
  exact ⟨manifest_placed based manifest, manifest_resolved based grounded manifest,
    manifest_served based manifest⟩

theorem compose_made {prepared : Prepared} (checked : prepare Registries.builtin env = .ok prepared)
    (image : Image) : ∃ m, compose env image prepared.plugins = .ok m := by
  obtain ⟨-, clean, order⟩ := prepare_parts checked
  obtain ⟨base, based⟩ := base_made clean
  have nothing : Known (context env image []) [] [] := fun es offered => by cases offered
  obtain ⟨parts, made⟩ := contributions_made (prepare_builtin checked) nothing
    (fun id none => by cases none) order
  exact ⟨_, bind_eq_ok.mpr ⟨base, based, bind_eq_ok.mpr ⟨parts, made, rfl⟩⟩⟩

-- An environment that was checked has a closed manifest. Only its provider can fail.
theorem assembled_closed {prepared : Prepared}
    (checked : prepare Registries.builtin env = .ok prepared) (image : Image) :
    ∃ m : Manifest, m.Closed env.namespaceOf ∧ ∀ host wire,
      (assemble env image prepared host wire).1 =
        (access prepared.provider host wire).map fun (kubeconfig, cluster) =>
          ⟨m, image, kubeconfig, cluster⟩ := by
  obtain ⟨m, composed⟩ := compose_made checked image
  refine ⟨m, compose_closed (prepare_builtin checked) composed, fun host wire => ?_⟩
  rw [assemble_access, composed]
  rfl

def storeEnvironment : Environment :=
  ⟨"staging", "store",
    ⟨⟨"docker.io", "store/web", none⟩,
      some ⟨.string "robot", .secret "REGISTRY" ⟨"s3cret"⟩, .string "ops@store.example"⟩,
      "Dockerfile", "."⟩,
    ⟨none, [("docker_desktop", [("kubeconfig", .value (.string "/kubeconfig"))])],
      [("postgres", [("user", .value (.string "store")),
          ("password", .value (.secret "DB" ⟨"hunter2"⟩))]),
        ("rails_app", [("hostname", .value (.string "store.example.com")),
          ("manage_database", .value (.bool true)),
          ("env", .block [("API_KEY", .value (.secret "API" ⟨"key"⟩))])])]⟩⟩

def storeImage : Image := ⟨"docker.io", "store/web", some "v1"⟩

def storeHost : Host :=
  ⟨[], ⟨.dir [("kubeconfig", .file (Utf8.encode
    "contexts: [{name: docker-desktop, context: {cluster: local}}]\nclusters: []\n"))], [], []⟩⟩

def storeWire : Http.Wire := ⟨"", fun _ => .dropped, []⟩

theorem store_closed : ∃ prepared resolved,
    prepare Registries.builtin storeEnvironment = .ok prepared ∧
      (assemble storeEnvironment storeImage prepared storeHost storeWire).1 = .ok resolved ∧
      resolved.manifest.Closed "store-staging" := by
  have accepted : (prepare Registries.builtin storeEnvironment).isOk = true := by decide +kernel
  have built : (build Registries.builtin storeEnvironment storeImage storeHost storeWire).1.isOk =
      true := by decide +kernel
  cases checked : prepare Registries.builtin storeEnvironment with
  | error e => rw [checked] at accepted; cases accepted
  | ok prepared =>
    obtain ⟨m, closed, assembled⟩ := assembled_closed checked storeImage
    have answer := assembled storeHost storeWire
    simp only [build, checked, answer] at built
    cases asked : access prepared.provider storeHost storeWire with
    | error e => rw [asked] at built; cases built
    | ok found =>
      rw [asked] at answer
      exact ⟨prepared, _, rfl, answer, closed⟩

end Rollout.Assembly
