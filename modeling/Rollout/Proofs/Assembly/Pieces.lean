import Rollout.Proofs.Assembly.Resolution
import Rollout.Proofs.Manifest.Bodies

namespace Rollout.Assembly

-- A database server, or a web application with the variables that lead to its database.
inductive Piece where
  | server (p : Postgres)
  | web (app : RailsApp) (vars : List Json)

def Piece.resources (ctx : PluginContext) : Piece → List Resource
  | .server p => [p.secret ctx, Postgres.service ctx, p.statefulSet ctx]
  | .web app vars => app.config ctx :: app.secret ctx ++
      [app.deployment ctx vars, app.service ctx, app.ingress ctx]

def loginVariables (ctx : PluginContext) : List Json :=
  [RailsApp.fromSecret "DATABASE_USER" (Postgres.name ctx) Postgres.userKey,
    RailsApp.fromSecret "DATABASE_PASSWORD" (Postgres.name ctx) Postgres.passwordKey,
    RailsApp.fromSecret "DATABASE_URL" (Postgres.name ctx) Postgres.urlKey]

-- Every web application among the pieces that reads a server's login finds a server around.
def Grounded (ctx : PluginContext) (around pieces : List Piece) : Prop :=
  ∀ app vars, .web app vars ∈ pieces →
    vars = [] ∨ (vars = loginVariables ctx ∧ ∃ p, .server p ∈ around)

variable {env : Environment} {image : Image} {exports : Declared Exports} {plugins : List Plugin}
variable {ctx : PluginContext} {earlier : List Piece} {app : RailsApp}

theorem Grounded.append {around a b : List Piece} (first : Grounded ctx around a)
    (second : Grounded ctx around b) : Grounded ctx around (a ++ b) := by
  intro app vars member
  exact (List.mem_append.mp member).elim (first app vars) (second app vars)

theorem Grounded.mono {around wider pieces : List Piece} (grounded : Grounded ctx around pieces)
    (subset : around ⊆ wider) : Grounded ctx wider pieces := by
  intro app vars member
  exact (grounded app vars member).imp_right fun ⟨same, p, found⟩ => ⟨same, p, subset found⟩

theorem databaseVariables_exports (p : Postgres) (ctx : PluginContext) :
    RailsApp.databaseVariables (some (p.exports ctx)) = .ok (loginVariables ctx) := rfl

-- What a web application knows of a server by the exports of the plugins before it.
def Known (ctx : PluginContext) (earlier : List Piece) (exports : Declared Exports) : Prop :=
  ∀ es, exports.lookup Postgres.pluginId = some es →
    ∃ p, es = Postgres.exports p ctx ∧ .server p ∈ earlier

theorem databaseParts_made {servers : List Resource} {vars : List Json}
    (found : app.databaseParts ctx = .ok (servers, vars)) :
    match app.database with
    | .owned server => servers = (Piece.server server).resources ctx ∧ vars = loginVariables ctx
    | .managed => servers = [] ∧
        RailsApp.databaseVariables (ctx.exports.lookup Postgres.pluginId) = .ok vars
    | _ => servers = [] ∧ vars = [] := by
  unfold RailsApp.databaseParts at found
  cases database : app.database with
  | owned server =>
    simp only [database] at found
    obtain ⟨login, read, found⟩ := bind_eq_ok.mp found
    obtain ⟨rfl, rfl⟩ := Prod.mk.inj (Except.ok.inj found)
    exact ⟨rfl, (Except.ok.inj ((databaseVariables_exports server _).symm.trans read)).symm⟩
  | managed =>
    simp only [database] at found
    obtain ⟨login, read, found⟩ := bind_eq_ok.mp found
    obtain ⟨rfl, rfl⟩ := Prod.mk.inj (Except.ok.inj found)
    exact ⟨rfl, read⟩
  | external user password host port name =>
    simp only [database] at found
    obtain ⟨rfl, rfl⟩ := Prod.mk.inj (Except.ok.inj found)
    exact ⟨rfl, rfl⟩
  | none =>
    simp only [database] at found
    obtain ⟨rfl, rfl⟩ := Prod.mk.inj (Except.ok.inj found)
    exact ⟨rfl, rfl⟩

theorem databaseParts_pieces {resources : List Resource} {vars : List Json}
    (known : Known (context env image []) earlier exports)
    (found : app.databaseParts (context env image exports) = .ok (resources, vars)) :
    ∃ servers : List Postgres,
      resources = (servers.map Piece.server).flatMap (Piece.resources (context env image [])) ∧
      (vars = [] ∨ (vars = loginVariables (context env image []) ∧
        ∃ p, .server p ∈ earlier ++ servers.map Piece.server)) := by
  have made := databaseParts_made found
  split at made
  · next server _ =>
    obtain ⟨rfl, rfl⟩ := made
    exact ⟨[server], rfl, .inr ⟨rfl, server, by simp⟩⟩
  · obtain ⟨rfl, read⟩ := made
    change RailsApp.databaseVariables (exports.lookup Postgres.pluginId) = _ at read
    cases offered : exports.lookup Postgres.pluginId with
    | none => rw [offered] at read; cases read
    | some es =>
      obtain ⟨p, rfl, member⟩ := known es offered
      rw [offered, databaseVariables_exports] at read
      exact ⟨[], rfl, .inr ⟨(Except.ok.inj read).symm, p, by simpa using member⟩⟩
  · obtain ⟨rfl, rfl⟩ := made
    exact ⟨[], rfl, .inl rfl⟩

theorem rails_pieces {part : Contribution}
    (known : Known (context env image []) earlier exports)
    (ran : app.contribution (context env image exports) = .ok part) :
    ∃ own : List Piece, part.resources = own.flatMap (Piece.resources (context env image [])) ∧
      Grounded (context env image []) (earlier ++ own) own := by
  obtain ⟨⟨resources, vars⟩, found, ran⟩ := bind_eq_ok.mp ran
  obtain rfl := Except.ok.inj ran
  obtain ⟨servers, rfl, fed⟩ := databaseParts_pieces known found
  refine ⟨servers.map Piece.server ++ [.web app vars], ?_, ?_⟩
  · rw [List.flatMap_append, List.flatMap_singleton, List.append_assoc]
    rfl
  · intro other vars' member
    have same : Piece.web other vars' = .web app vars := by simpa using member
    obtain ⟨rfl, rfl⟩ := Piece.web.inj same
    refine fed.imp_right fun ⟨login, p, present⟩ => ⟨login, p, ?_⟩
    rw [← List.append_assoc]
    exact List.mem_append_left _ present

inductive Builtin : Plugin → Prop where
  | postgres (settings : Settings) : Builtin (Postgres.plugin settings)
  | railsApp (settings : Settings) : Builtin (RailsApp.plugin settings)

theorem builtin_made {id : String} {settings : Settings} {p : Plugin}
    (made : Registries.builtin.plugin id settings = .ok p) :
    (id = Postgres.pluginId ∧ p = Postgres.plugin settings) ∨
      (id = RailsApp.pluginId ∧ p = RailsApp.plugin settings) := by
  simp only [Registries.plugin, Registries.builtin, Registry.build?, List.lookup_cons,
    List.lookup_nil] at made
  split at made
  · rename_i found
    obtain rfl := Except.ok.inj made
    split at found
    · rename_i same
      exact .inl ⟨beq_iff_eq.mp same, (Option.some.inj found).symm⟩
    · split at found
      · rename_i same
        exact .inr ⟨beq_iff_eq.mp same, (Option.some.inj found).symm⟩
      · cases found
  · cases made

theorem builtin_plugin {id : String} {settings : Settings} {p : Plugin}
    (made : Registries.builtin.plugin id settings = .ok p) : Builtin p := by
  rcases builtin_made made with ⟨-, rfl⟩ | ⟨-, rfl⟩
  · exact .postgres settings
  · exact .railsApp settings

theorem prepare_builtin {prepared : Prepared}
    (checked : prepare Registries.builtin env = .ok prepared) :
    ∀ p ∈ prepared.plugins, Builtin p := by
  intro p member
  obtain ⟨id, settings, made⟩ := buildPlugins_made (prepare_parts checked).1 p member
  exact builtin_plugin made

theorem known_postgres (exports : Declared Exports) (p : Postgres) :
    Known ctx (earlier ++ [.server p])
      (Declared.put Postgres.pluginId (p.exports ctx) exports) := by
  intro es offered
  rw [Declared.lookup_put, if_pos rfl] at offered
  exact ⟨p, (Option.some.inj offered).symm, by simp⟩

theorem Known.put_other (known : Known ctx earlier exports) {own : List Piece} {id : String}
    {es : Exports} (other : Postgres.pluginId ≠ id) :
    Known ctx (earlier ++ own) (Declared.put id es exports) := by
  intro offer offered
  rw [Declared.lookup_put, if_neg other] at offered
  obtain ⟨p, same, member⟩ := known offer offered
  exact ⟨p, same, List.mem_append_left own member⟩

theorem contribution_pieces {plugin : Plugin} {part : Contribution} (builtin : Builtin plugin)
    (known : Known (context env image []) earlier exports)
    (contributed : plugin.contribute (context env image exports) = .ok part) :
    ∃ own : List Piece, part.resources = own.flatMap (Piece.resources (context env image [])) ∧
      Grounded (context env image []) (earlier ++ own) own ∧
      Known (context env image []) (earlier ++ own)
        (Declared.put plugin.id part.exports exports) := by
  cases builtin with
  | postgres settings =>
    obtain rfl := Except.ok.inj contributed
    refine ⟨[.server (Postgres.ofSettings settings).1], ?_, ?_, known_postgres exports _⟩
    · simp only [List.flatMap_singleton]
      rfl
    · intro app vars member
      simp at member
  | railsApp settings =>
    obtain ⟨own, same, grounded⟩ := rails_pieces known contributed
    exact ⟨own, same, grounded, known.put_other (by decide : Postgres.pluginId ≠ RailsApp.pluginId)⟩

-- The induction is on the plugins; what is known of earlier servers goes along.
theorem contributions_pieces {parts : List Resource} (builtin : ∀ p ∈ plugins, Builtin p)
    (known : Known (context env image []) earlier exports)
    (ran : contributions env image exports plugins = .ok parts) :
    ∃ pieces : List Piece, parts = pieces.flatMap (Piece.resources (context env image [])) ∧
      Grounded (context env image []) (earlier ++ pieces) pieces := by
  induction plugins generalizing exports earlier parts with
  | nil =>
    obtain rfl := Except.ok.inj ran
    exact ⟨[], rfl, fun _ _ none => by cases none⟩
  | cons plugin rest ih =>
    obtain ⟨part, contributed, ran⟩ := bind_eq_ok.mp ran
    obtain ⟨more, later, ran⟩ := bind_eq_ok.mp ran
    obtain rfl := Except.ok.inj ran
    obtain ⟨first, builtinRest⟩ := List.forall_mem_cons.mp builtin
    obtain ⟨own, same, grounded, knownRest⟩ := contribution_pieces first known contributed
    obtain ⟨pieces, rfl, groundedRest⟩ := ih builtinRest knownRest later
    refine ⟨own ++ pieces, by rw [same, List.flatMap_append], ?_⟩
    rw [← List.append_assoc]
    exact (grounded.mono (List.subset_append_left _ _)).append groundedRest

theorem rails_contributes {settings : Settings}
    (known : Known (context env image []) earlier exports)
    (offered : ∀ id ∈ (RailsApp.plugin settings).requires, ∃ es, exports.lookup id = some es) :
    ∃ part, (RailsApp.plugin settings).contribute (context env image exports) = .ok part := by
  suffices found : ∃ parts, (RailsApp.ofSettings settings).1.databaseParts
      (context env image exports) = .ok parts by
    obtain ⟨parts, found⟩ := found
    exact ⟨_, bind_eq_ok.mpr ⟨parts, found, rfl⟩⟩
  unfold RailsApp.databaseParts
  split
  · exact ⟨_, rfl⟩
  · rename_i managed
    obtain ⟨es, held⟩ := offered Postgres.pluginId (by simp [RailsApp.plugin, managed])
    obtain ⟨p, rfl, -⟩ := known es held
    simp only [context, held, databaseVariables_exports]
    exact ⟨_, rfl⟩
  · exact ⟨_, rfl⟩
  · exact ⟨_, rfl⟩

theorem checkOrderFrom_parts {all ids : List String} {plugin : Plugin} {rest : List Plugin}
    (order : Plugin.checkOrderFrom all ids (plugin :: rest) = .ok ()) :
    (∀ id ∈ plugin.requires, id ∈ ids) ∧
      Plugin.checkOrderFrom all (ids ++ [plugin.id]) rest = .ok () := by
  unfold Plugin.checkOrderFrom at order
  split at order
  · cases order
  · rename_i met
    refine ⟨fun id required => ?_, order⟩
    simpa using List.find?_eq_none.mp met id required

-- The ids that were checked against are those that have exported by then.
theorem contributions_made {all ids : List String} (builtin : ∀ p ∈ plugins, Builtin p)
    (known : Known (context env image []) earlier exports)
    (offered : ∀ id ∈ ids, ∃ es, exports.lookup id = some es)
    (order : Plugin.checkOrderFrom all ids plugins = .ok ()) :
    ∃ parts, contributions env image exports plugins = .ok parts := by
  induction plugins generalizing exports earlier ids with
  | nil => exact ⟨[], rfl⟩
  | cons plugin rest ih =>
    obtain ⟨met, later⟩ := checkOrderFrom_parts order
    obtain ⟨first, builtinRest⟩ := List.forall_mem_cons.mp builtin
    obtain ⟨part, contributed⟩ : ∃ part,
        plugin.contribute (context env image exports) = .ok part := by
      cases first with
      | postgres settings => exact ⟨_, rfl⟩
      | railsApp settings =>
        exact rails_contributes known fun id needed => offered id (met id needed)
    obtain ⟨own, -, -, knownRest⟩ := contribution_pieces first known contributed
    have offeredRest : ∀ id ∈ ids ++ [plugin.id], ∃ es,
        (Declared.put plugin.id part.exports exports).lookup id = some es := by
      intro id member
      rw [Declared.lookup_put]
      split
      · exact ⟨_, rfl⟩
      · rename_i other
        exact offered id ((List.mem_append.mp member).resolve_right (by simpa using other))
    obtain ⟨more, made⟩ := ih builtinRest knownRest offeredRest later
    exact ⟨_, bind_eq_ok.mpr ⟨part, contributed, bind_eq_ok.mpr ⟨more, made, rfl⟩⟩⟩

end Rollout.Assembly
