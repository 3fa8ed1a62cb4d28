import Mathlib.Data.List.Forall2
import Rollout.Proofs.Assembly.Completeness

namespace Rollout

namespace Check

variable {check : Check} {field : String}

theorem value_clean {required : Bool} (clean : (check.value field required).2 = []) :
    (check.value field required).1 = check.settings.value? field := by
  revert clean
  unfold value Settings.value?
  rcases check.settings.lookup field with _ | v | entries
  · cases required with
    | true => exact fun faulty => by cases faulty
    | false => exact fun _ => rfl
  · exact fun _ => rfl
  · exact fun faulty => by cases faulty

theorem andThen_clean {α β : Type} {found : Found α} {f : α → Found β} (read : α → Option β)
    (clean : (andThen found f).2 = []) (exact : ∀ a, (f a).2 = [] → (f a).1 = read a) :
    found.2 = [] ∧ (andThen found f).1 = found.1.bind read := by
  obtain ⟨none | a, before⟩ := found
  · exact ⟨clean, rfl⟩
  · obtain ⟨first, later⟩ := List.append_eq_nil_iff.mp clean
    exact ⟨first, exact a later⟩

theorem text_clean {required : Bool} (clean : (check.text field required).2 = []) :
    (check.text field required).1 = check.settings.text? field := by
  obtain ⟨present, read⟩ := andThen_clean Value.text? clean fun v sound => by
    cases text : v.text? with
    | none => simp [text, refuse] at sound
    | some s =>
      by_cases empty : s.isEmpty
      · simp [text, empty, refuse] at sound
      · simp [empty]
  exact read.trans (congrArg (·.bind Value.text?) (value_clean present))

theorem text_given (clean : (check.text field true).2 = []) :
    ∃ s, (check.text field true).1 = some s ∧ check.settings.text? field = some s := by
  obtain ⟨s, read⟩ := text_required clean
  have found : (check.text field true).1 = some s := by rw [read]
  exact ⟨s, found, (text_clean clean).symm.trans found⟩

theorem int_clean {low high : Int} (clean : (check.int field low high).2 = []) :
    (check.int field low high).1 = check.settings.int? field := by
  obtain ⟨present, read⟩ := andThen_clean Value.int? clean fun v sound => by
    cases number : v.int? with
    | none => simp [number, refuse] at sound
    | some i =>
      by_cases inside : low ≤ i ∧ i ≤ high
      · simp [inside]
      · simp [number, inside, refuse] at sound
  exact read.trans (congrArg (·.bind Value.int?) (value_clean present))

theorem bool_clean (clean : (check.bool field).2 = []) :
    (check.bool field).1 = check.settings.bool? field := by
  obtain ⟨present, read⟩ := andThen_clean Value.bool? clean fun v sound => by
    cases flag : v.bool? with
    | none => simp [flag, refuse] at sound
    | some b => rfl
  exact read.trans (congrArg (·.bind Value.bool?) (value_clean present))

theorem block_clean (clean : (check.block field).2 = []) :
    (check.block field).1.map Check.settings = check.settings.block? field := by
  revert clean
  unfold block Settings.block?
  rcases check.settings.lookup field with _ | v | entries
  · exact fun _ => rfl
  · exact fun faulty => by cases faulty
  · exact fun _ => rfl

end Check

-- The server that settings ask for. What they leave out has its default.
structure Postgres.Asked (settings : Settings) (p : Postgres) : Prop where
  user : settings.text? "user" = some p.user
  password : settings.text? "password" = some p.password
  database : p.database = settings.text? "database"
  storage : p.storage = (settings.text? "storage").getD defaultStorage
  version : p.version = (settings.int? "version").getD defaultVersion

theorem Postgres.ofSettings_asked {settings : Settings} (clean : (ofSettings settings).2 = []) :
    Asked settings (ofSettings settings).1 := by
  simp only [ofSettings, List.append_eq_nil_iff] at clean
  obtain ⟨⟨⟨⟨⟨⟨user, password⟩, database⟩, storage⟩, -⟩, version⟩, -⟩ := clean
  obtain ⟨name, user, user_given⟩ := Check.text_given user
  obtain ⟨word, password, password_given⟩ := Check.text_given password
  refine ⟨?_, ?_, Check.text_clean database, ?_, ?_⟩
  · simp only [ofSettings, user]
    exact user_given
  · simp only [ofSettings, password]
    exact password_given
  · simp only [ofSettings, Check.text_clean storage]
    rfl
  · simp only [ofSettings, Check.int_clean version]
    rfl

-- The server that a web application keeps for itself.
def RailsApp.ownServer? (app : RailsApp) : Option Postgres :=
  match app.database with
  | .owned server => some server
  | _ => none

def bringsServer (block : String × Settings) : Bool :=
  block.1 = Postgres.pluginId || (RailsApp.ofSettings block.2).1.ownServer?.isSome

def Environment.servers (env : Environment) : Nat := env.kubernetes.plugins.countP bringsServer

namespace Assembly

open Resource Manifest

variable {env : Environment} {image : Image} {exports : Declared Exports} {prepared : Prepared}
variable {blocks : List (String × Settings)} {block other : String × Settings} {plugins : List Plugin}
variable {base parts rs : List Resource} {m : Manifest} {r : Resource} {key : ResourceKey}

-- What a plugin contributes, by its block.
inductive Brings (env : Environment) (image : Image) : String × Settings → List Resource → Prop where
  | postgres (settings : Settings) : Brings env image (Postgres.pluginId, settings)
      ((Piece.server (Postgres.ofSettings settings).1).resources (context env image []))
  | railsApp (settings : Settings) (vars : List Json) : Brings env image (RailsApp.pluginId, settings)
      (((RailsApp.ofSettings settings).1.ownServer?.toList.flatMap fun server =>
          (Piece.server server).resources (context env image [])) ++
        (Piece.web (RailsApp.ofSettings settings).1 vars).resources (context env image []))

theorem contribution_parts {ctx : PluginContext} {app : RailsApp} {part : Contribution}
    (made : app.contribution ctx = .ok part) : ∃ servers vars,
    app.databaseParts ctx = .ok (servers, vars) ∧
      part.resources = servers ++ (Piece.web app vars).resources ctx := by
  obtain ⟨⟨servers, vars⟩, found, made⟩ := bind_eq_ok.mp made
  obtain rfl := Except.ok.inj made
  exact ⟨servers, vars, found, List.append_assoc _ _ _⟩

theorem databaseParts_servers {ctx : PluginContext} {app : RailsApp} {servers : List Resource}
    {vars : List Json} (found : app.databaseParts ctx = .ok (servers, vars)) :
    servers = app.ownServer?.toList.flatMap fun server => (Piece.server server).resources ctx := by
  have made := databaseParts_made found
  unfold RailsApp.ownServer?
  cases database : app.database with
  | owned server =>
    rw [database] at made
    rw [made.1, Option.toList_some, List.flatMap_singleton]
  | managed =>
    rw [database] at made
    exact made.1
  | external user password host port name =>
    rw [database] at made
    exact made.1
  | none =>
    rw [database] at made
    exact made.1

theorem rails_brings {app : RailsApp} {part : Contribution}
    (ran : app.contribution (context env image exports) = .ok part) : ∃ vars, part.resources =
      (app.ownServer?.toList.flatMap fun server =>
        (Piece.server server).resources (context env image [])) ++
      (Piece.web app vars).resources (context env image []) := by
  obtain ⟨servers, vars, found, same⟩ := contribution_parts ran
  rw [databaseParts_servers found] at same
  exact ⟨vars, same⟩

abbrev Brought (env : Environment) (image : Image) : List (String × Settings) → List Call → Prop :=
  List.Forall₂ fun block call => Brings env image block call.resources

theorem calls_bring (built : buildPlugins Registries.builtin blocks = .ok plugins)
    (ran : contributions env image exports plugins = .ok parts) :
    Brought env image blocks (calls env image exports plugins) := by
  induction blocks generalizing plugins exports parts with
  | nil =>
    obtain rfl := Except.ok.inj built
    exact .nil
  | cons block rest ih =>
    obtain ⟨id, settings⟩ := block
    obtain ⟨plugin, made, built⟩ := bind_eq_ok.mp built
    obtain ⟨later, builtLater, built⟩ := bind_eq_ok.mp built
    obtain rfl := Except.ok.inj built
    obtain ⟨part, contributed, ran⟩ := bind_eq_ok.mp ran
    obtain ⟨more, ranLater, -⟩ := bind_eq_ok.mp ran
    have answered : Call.answer (plugin, context env image exports) = .ok part := contributed
    simp only [calls, contributed]
    refine .cons ?_ (ih builtLater ranLater)
    simp only [Call.resources, answered]
    rcases builtin_made made with ⟨rfl, rfl⟩ | ⟨rfl, rfl⟩
    · obtain rfl := Except.ok.inj contributed
      exact .postgres settings
    · obtain ⟨vars, same⟩ := rails_brings contributed
      rw [same]
      exact .railsApp settings vars

theorem Brings.server (brings : Brings env image block rs) (own : block.1 = Postgres.pluginId) :
    rs = (Piece.server (Postgres.ofSettings block.2).1).resources (context env image []) := by
  cases brings with
  | postgres settings => rfl
  | railsApp settings vars =>
    have other : RailsApp.pluginId ≠ Postgres.pluginId := by decide
    exact absurd own other

def baseKeys (env : Environment) : List ResourceKey :=
  [⟨"Namespace", none, env.namespaceOf⟩, ⟨"Secret", some env.namespaceOf, env.app ++ "-registry"⟩]

def serverKeys (env : Environment) : List ResourceKey :=
  ["Secret", "Service", "StatefulSet"].map fun kind =>
    ⟨kind, some env.namespaceOf, env.app ++ "-" ++ "postgres"⟩

def webKeys (env : Environment) : List ResourceKey :=
  [("ConfigMap", "config"), ("Secret", "secrets"), ("Deployment", "web"), ("Service", "web"),
    ("Ingress", "web")].map fun (kind, suffix) =>
    ⟨kind, some env.namespaceOf, env.app ++ "-" ++ suffix⟩

theorem keys_distinct (env : Environment) :
    (baseKeys env ++ (serverKeys env ++ webKeys env)).Nodup := by
  simp [baseKeys, serverKeys, webKeys, registry_name]

theorem base_keys (based : baseResources env = .ok base) :
    (base.map Resource.key).Sublist (baseKeys env) := by
  obtain ⟨-, rfl⟩ | ⟨name, secret, named, rfl, key, -⟩ := base_parts based
  · exact List.sublist_append_left [_] _
  · obtain ⟨_, -, rfl⟩ := Option.map_eq_some_iff.mp named
    rw [List.map_cons, List.map_singleton, key]
    exact List.Sublist.refl _

theorem server_keys (p : Postgres) :
    ((Piece.server p).resources (context env image [])).map Resource.key = serverKeys env :=
  server_takes

theorem web_keys (image : Image) (app : RailsApp) (vars : List Json) :
    (((Piece.web app vars).resources (context env image [])).map Resource.key).Sublist
      (webKeys env) :=
  web_takes

theorem Brings.keys (brings : Brings env image block rs) : ∃ web,
    rs.map Resource.key = (if bringsServer block then serverKeys env else []) ++ web ∧
      web.Sublist (webKeys env) ∧ (web ≠ [] → block.1 = RailsApp.pluginId) := by
  cases brings with
  | postgres settings =>
    refine ⟨[], ?_, List.nil_sublist _, fun some => absurd rfl some⟩
    rw [server_keys, List.append_nil]
    rfl
  | railsApp settings vars =>
    refine ⟨_, ?_, web_keys image (RailsApp.ofSettings settings).1 vars, fun _ => rfl⟩
    have other : RailsApp.pluginId ≠ Postgres.pluginId := by decide
    rw [List.map_append]
    congr 1
    cases own : (RailsApp.ofSettings settings).1.ownServer? with
    | none => simp [bringsServer, own, other]
    | some server =>
      simp [bringsServer, own, server_keys]

-- The induction is on the plugins. Of two with different ids, one has no web application.
theorem brought_keys {calls : List Call}
    (brought : Brought env image blocks calls) (distinct : (Declared.names blocks).Nodup) :
    ∃ web, ((calls.flatMap Call.resources).map Resource.key).Perm
        ((List.replicate (blocks.countP bringsServer) (serverKeys env)).flatten ++ web) ∧
      web.Sublist (webKeys env) ∧ (web ≠ [] → RailsApp.pluginId ∈ Declared.names blocks) := by
  induction brought with
  | nil => exact ⟨[], .refl _, List.nil_sublist _, fun some => absurd rfl some⟩
  | @cons block call rest later brings brought ih =>
    obtain ⟨apart, distinctRest⟩ := List.nodup_cons.mp distinct
    obtain ⟨webRest, permRest, partRest, ownRest⟩ := ih distinctRest
    obtain ⟨web, keys, part, own⟩ := brings.keys
    have one : web = [] ∨ webRest = [] := by
      by_contra both
      obtain ⟨some, someRest⟩ := not_or.mp both
      exact apart (own some ▸ ownRest someRest)
    refine ⟨web ++ webRest, ?_, ?_, ?_⟩
    · have copies : (List.replicate ((block :: rest).countP bringsServer) (serverKeys env)).flatten =
          (if bringsServer block then serverKeys env else []) ++
            (List.replicate (rest.countP bringsServer) (serverKeys env)).flatten := by
        rw [List.countP_cons]
        split
        · rw [List.replicate_succ, List.flatten_cons]
        · rfl
      rw [List.flatMap_cons, List.map_append, keys, copies, List.append_assoc, List.append_assoc]
      exact ((permRest.append_left web).trans (List.perm_append_comm_assoc _ _ _)).append_left _
    · rcases one with rfl | rfl
      · exact partRest
      · rwa [List.append_nil]
    · intro some
      by_cases none : web = []
      · subst none
        exact List.mem_cons_of_mem _ (ownRest some)
      · exact own none ▸ List.mem_cons_self

-- Where keys are declared several times over, each counts once.
theorem dedup_copies {α : Type} [DecidableEq α] {copy rest : List α} (distinct : (copy ++ rest).Nodup)
    (n : Nat) : ((List.replicate (n + 1) copy).flatten ++ rest).dedup = copy ++ rest := by
  induction n with
  | zero => simpa using distinct.dedup
  | succ n ih =>
    rw [List.replicate_succ, List.flatten_cons, List.append_assoc, List.dedup_append, ih]
    exact List.Subset.union_eq_right (List.subset_append_left _ _)

def contributed (env : Environment) (image : Image) (prepared : Prepared) (base : List Resource) :
    List Resource :=
  base ++ (calls env image [] prepared.plugins).flatMap Call.resources

-- Every server but one adds three keys that are there already.
theorem keys_counted (based : baseResources env = .ok base)
    (brought : Brought env image env.kubernetes.plugins (calls env image [] prepared.plugins))
    (distinct : (Declared.names env.kubernetes.plugins).Nodup) :
    ((contributed env image prepared base).map Resource.key).dedup.length + 3 * (env.servers - 1) =
      ((contributed env image prepared base).map Resource.key).length := by
  obtain ⟨web, perm, part, -⟩ := brought_keys brought distinct
  have rest : (base.map Resource.key ++ web).Sublist (baseKeys env ++ webKeys env) :=
    (base_keys based).append part
  have all : ((contributed env image prepared base).map Resource.key).Perm
      ((List.replicate env.servers (serverKeys env)).flatten ++ (base.map Resource.key ++ web)) := by
    rw [contributed, List.map_append]
    exact (perm.append_left _).trans (List.perm_append_comm_assoc _ _ _)
  have apart : (serverKeys env ++ (base.map Resource.key ++ web)).Nodup :=
    (rest.append_left _).nodup ((List.perm_append_comm_assoc _ _ _).nodup_iff.mp (keys_distinct env))
  rw [all.dedup.length_eq, all.length_eq]
  cases env.servers with
  | zero =>
    have alone := (List.nodup_append.mp apart).2.1
    simp [alone.dedup]
  | succ n =>
    rw [dedup_copies apart]
    simp [serverKeys]
    omega

theorem contributed_distinct (based : baseResources env = .ok base)
    (brought : Brought env image env.kubernetes.plugins (calls env image [] prepared.plugins))
    (distinct : (Declared.names env.kubernetes.plugins).Nodup) :
    ((contributed env image prepared base).map Resource.key).Nodup ↔ env.servers ≤ 1 := by
  have counted := keys_counted based brought distinct
  constructor
  · intro apart
    rw [apart.dedup] at counted
    omega
  · intro few
    refine List.dedup_eq_self.mp ((List.dedup_sublist _).eq_of_length ?_)
    omega

theorem Brings.distinct (brings : Brings env image block rs) : (rs.map Resource.key).Nodup := by
  obtain ⟨web, keys, part, -⟩ := brings.keys
  have apart := (List.nodup_append.mp (keys_distinct env)).2.1
  rw [keys]
  split
  · exact (part.append_left _).nodup apart
  · exact part.nodup (List.nodup_append.mp apart).2.1

theorem Brings.region (brings : Brings env image block rs) (present : key ∈ rs.map Resource.key) :
    (bringsServer block = true ∧ key ∈ serverKeys env) ∨
      (block.1 = RailsApp.pluginId ∧ key ∈ webKeys env) := by
  obtain ⟨web, keys, part, own⟩ := brings.keys
  rw [keys] at present
  rcases List.mem_append.mp present with server | inWeb
  · split at server
    · rename_i some
      exact .inl ⟨some, server⟩
    · cases server
  · exact .inr ⟨own (List.ne_nil_of_mem inWeb), part.subset inWeb⟩

theorem Brings.outside (brings : Brings env image block rs) (present : key ∈ rs.map Resource.key) :
    key ∉ baseKeys env := by
  intro inBase
  have other : key ∈ serverKeys env ++ webKeys env :=
    List.mem_append.mpr ((brings.region present).imp And.right And.right)
  exact (List.nodup_append.mp (keys_distinct env)).2.2 key inBase key other rfl

theorem Brings.shared {rs' : List Resource} (brings : Brings env image block rs)
    (brings' : Brings env image other rs') (apart : block.1 ≠ other.1)
    (present : key ∈ rs.map Resource.key) (present' : key ∈ rs'.map Resource.key) :
    key ∈ serverKeys env ∧ bringsServer block = true ∧ bringsServer other = true := by
  have regions : key ∈ serverKeys env → key ∉ webKeys env := fun server inWeb =>
    (List.nodup_append.mp (List.nodup_append.mp (keys_distinct env)).2.1).2.2 _ server _ inWeb rfl
  rcases brings.region present with ⟨own, server⟩ | ⟨own, inWeb⟩ <;>
    rcases brings'.region present' with ⟨own', server'⟩ | ⟨own', inWeb'⟩
  · exact ⟨server, own, own'⟩
  · exact absurd inWeb' (regions server)
  · exact absurd inWeb (regions server')
  · exact absurd (own.trans own'.symm) apart

def labelled (env : Environment) (r : Resource) : Resource := r.withLabels (standardLabels env)

theorem last_behind {declared : List Resource} (front : List Resource) (last : Last declared r) :
    Last (front ++ declared) r := by
  obtain ⟨before, after, rfl, alone⟩ := last
  exact ⟨front ++ before, after, (List.append_assoc ..).symm, alone⟩

-- Of what is declared last, every key is kept.
theorem kept_behind (env : Environment) (front : List Resource) (present : r ∈ rs) :
    ∃ d ∈ rs, d.key = r.key ∧
      labelled env d ∈ (Manifest.ofResources ((front ++ rs).map (labelled env))).resources := by
  obtain ⟨t, last, same⟩ := exists_last (List.mem_map_of_mem (f := labelled env) present)
  obtain ⟨d, inside, rfl⟩ := List.mem_map.mp (mem_of_last last)
  refine ⟨d, inside, withLabels_key.symm.trans (same.trans withLabels_key), ?_⟩
  rw [List.map_append]
  exact mem_ofResources.mpr (last_behind _ last)

theorem kept_of_last (env : Environment) (front : List Resource) {block after : List Resource}
    (present : r ∈ block) (distinct : (block.map Resource.key).Nodup)
    (behind : ∀ s ∈ after, s.key ≠ r.key) :
    labelled env r ∈ (Manifest.ofResources
      ((front ++ (block ++ after)).map (labelled env))).resources := by
  obtain ⟨d, inside, same, kept⟩ := kept_behind env front (List.mem_append_left after present)
  rcases List.mem_append.mp inside with inBlock | inAfter
  · obtain rfl := List.inj_on_of_nodup_map distinct inBlock present same
    exact kept
  · exact absurd same (behind d inAfter)

theorem bring_of_mem {calls : List Call} {call : Call} (brought : Brought env image blocks calls)
    (member : call ∈ calls) : ∃ block ∈ blocks, Brings env image block call.resources := by
  induction brought with
  | nil => cases member
  | @cons block first rest later brings brought ih =>
    rcases List.mem_cons.mp member with rfl | further
    · exact ⟨block, List.mem_cons_self, brings⟩
    · obtain ⟨block', inside, brings'⟩ := ih further
      exact ⟨block', List.mem_cons_of_mem _ inside, brings'⟩

theorem block_of_call {before after : List Call} {call : Call}
    (brought : Brought env image blocks (before ++ call :: after)) : ∃ front block back,
      blocks = front ++ block :: back ∧ Brings env image block call.resources ∧
        Brought env image back after := by
  obtain ⟨block, back, brings, behind, same⟩ :=
    List.forall₂_cons_right_iff.mp (List.forall₂_drop_append _ _ _ brought)
  refine ⟨blocks.take before.length, block, back, ?_, brings, behind⟩
  rw [← same, List.take_append_drop]

theorem call_of_block {front back : List (String × Settings)} {calls : List Call}
    (brought : Brought env image (front ++ block :: back) calls) : ∃ before call after,
      calls = before ++ call :: after ∧ Brings env image block call.resources ∧
        Brought env image back after := by
  have tail := List.forall₂_drop front.length brought
  rw [List.drop_left] at tail
  obtain ⟨call, after, brings, behind, same⟩ := List.forall₂_cons_left_iff.mp tail
  refine ⟨calls.take front.length, call, after, ?_, brings, behind⟩
  rw [← same, List.take_append_drop]

theorem two_servers {front back : List (String × Settings)}
    (split : env.kubernetes.plugins = front ++ block :: back) (own : bringsServer block = true)
    (later : other ∈ back) (further : bringsServer other = true) : 1 < env.servers := by
  have more : 0 < back.countP bringsServer := List.countP_pos_iff.mpr ⟨other, later, further⟩
  rw [Environment.servers, split, List.countP_append, List.countP_cons_of_pos own]
  omega

-- A contribution that is not kept belongs to a server, and so does the later one that replaces it.
theorem kept_or_replaced {front back : List (String × Settings)} {before after : List Call} {call : Call}
    (base : List Resource) (distinct : (Declared.names (front ++ block :: back)).Nodup)
    (brings : Brings env image block call.resources)
    (behind : Brought env image back after) (present : r ∈ call.resources)
    (manifest : m = .ofResources
      ((base ++ (before ++ call :: after).flatMap Call.resources).map (labelled env))) :
    labelled env r ∈ m.resources ∨
      ∃ other ∈ back, bringsServer block = true ∧ bringsServer other = true ∧
        r.key ∈ serverKeys env ∧ ∃ later ∈ after, ∃ s ∈ later.resources,
          s.key = r.key ∧ labelled env s ∈ m.resources := by
  have split : base ++ (before ++ call :: after).flatMap Call.resources =
      (base ++ before.flatMap Call.resources) ++
        (call.resources ++ after.flatMap Call.resources) := by
    rw [List.flatMap_append, List.flatMap_cons, List.append_assoc]
  rw [split] at manifest
  subst manifest
  by_cases replaced : ∃ s ∈ after.flatMap Call.resources, s.key = r.key
  · refine .inr ?_
    obtain ⟨s, inside, same⟩ := replaced
    obtain ⟨d, inside', keyed, kept⟩ := kept_behind env
      (base ++ before.flatMap Call.resources ++ call.resources) inside
    rw [List.append_assoc _ call.resources] at kept
    obtain ⟨later, among, inside'⟩ := List.mem_flatMap.mp inside'
    obtain ⟨other, listed, brings'⟩ := bring_of_mem behind among
    rw [Declared.names, List.map_append, List.map_cons] at distinct
    have rest := (List.nodup_append.mp distinct).2.1
    have apart : block.1 ≠ other.1 := fun equal =>
      (List.nodup_cons.mp rest).1 (equal ▸ List.mem_map_of_mem listed)
    obtain ⟨server, own, own'⟩ := brings.shared brings' apart (List.mem_map_of_mem present)
      (keyed.trans same ▸ List.mem_map_of_mem inside')
    exact ⟨other, listed, own, own', server, later, among, d, inside', keyed.trans same, kept⟩
  · refine .inl (kept_of_last env _ present brings.distinct fun s inside same => ?_)
    exact replaced ⟨s, inside, same⟩

theorem base_kept (based : baseResources env = .ok base) (present : r ∈ base) {calls : List Call}
    (brought : Brought env image blocks calls) (manifest : m = .ofResources
        ((base ++ calls.flatMap Call.resources).map (labelled env))) :
    labelled env r ∈ m.resources := by
  have known := base_keys based
  subst manifest
  have apart := (List.nodup_append.mp (keys_distinct env)).1
  refine kept_of_last env [] present (known.nodup apart) fun s inside same => ?_
  obtain ⟨call, member, inside⟩ := List.mem_flatMap.mp inside
  obtain ⟨block, -, brings⟩ := bring_of_mem brought member
  exact brings.outside (List.mem_map_of_mem inside)
    (same ▸ known.subset (List.mem_map_of_mem present))

structure Runs (m : Manifest) (env : Environment) (p : Postgres) : Prop where
  login : ∃ secret ∈ m.resources,
    secret.key = ⟨"Secret", some env.namespaceOf, env.app ++ "-" ++ "postgres"⟩ ∧
      secret.body.at? ["stringData", "POSTGRES_USER"] = some (.string p.user) ∧
      secret.body.at? ["stringData", "POSTGRES_PASSWORD"] = some (.string p.password)
  database : ∃ set ∈ m.resources,
    set.key = ⟨"StatefulSet", some env.namespaceOf, env.app ++ "-" ++ "postgres"⟩ ∧
      (∃ container, set.body.at? ["spec", "template", "spec", "containers"] =
          some (.array [container]) ∧
        container.field? "image" = some (.string s!"postgres:{p.version}")) ∧
      ∃ claim, set.body.at? ["spec", "volumeClaimTemplates"] = some (.array [claim]) ∧
        claim.at? ["spec", "resources", "requests", "storage"] = some (.string p.storage)

theorem runs_of_kept {p : Postgres} (image : Image)
    (kept : ∀ r ∈ (Piece.server p).resources (context env image []), labelled env r ∈ m.resources) :
    Runs m env p := by
  have login := kept (p.secret (context env image [])) (by simp [Piece.resources])
  have database := kept (p.statefulSet (context env image [])) (by simp [Piece.resources])
  refine ⟨⟨_, login, withLabels_key.trans databaseSecret_key, ?_, ?_⟩,
    ⟨_, database, withLabels_key.trans database_key, ⟨p.container (context env image []), ?_, rfl⟩,
      p.volumeClaim, ?_, rfl⟩⟩
  · rw [labelled, withLabels_at? (by decide), Postgres.secret,
      withField_at? (withField_isObject new_isObject) (by decide)]
    rfl
  · rw [labelled, withLabels_at? (by decide), Postgres.secret,
      withField_at? (withField_isObject new_isObject) (by decide)]
    rfl
  · rw [labelled, withLabels_at? (by decide)]
    exact database_containers
  · rw [labelled, withLabels_at? (by decide), Postgres.statefulSet,
      withField_at? new_isObject (by decide)]
    rfl

theorem plugin_of_block {registries : Registries} {id : String} {settings : Settings}
    (built : buildPlugins registries blocks = .ok plugins) (member : (id, settings) ∈ blocks) :
    ∃ p ∈ plugins, registries.plugin id settings = .ok p := by
  induction blocks generalizing plugins with
  | nil => cases member
  | cons block rest ih =>
    obtain ⟨plugin, made, built⟩ := bind_eq_ok.mp built
    obtain ⟨later, builtLater, built⟩ := bind_eq_ok.mp built
    obtain rfl := Except.ok.inj built
    rcases List.mem_cons.mp member with rfl | further
    · exact ⟨plugin, List.mem_cons_self, made⟩
    · obtain ⟨p, inside, made'⟩ := ih builtLater further
      exact ⟨p, List.mem_cons_of_mem _ inside, made'⟩

theorem checked_asked {settings : Settings}
    (checked : prepare Registries.builtin env = .ok prepared)
    (member : (Postgres.pluginId, settings) ∈ env.kubernetes.plugins) :
    (Postgres.ofSettings settings).1.Asked settings := by
  obtain ⟨-, built, clean, -⟩ := prepare_accepted checked
  simp only [allViolations, List.append_eq_nil_iff, List.flatMap_eq_nil_iff] at clean
  obtain ⟨p, inside, made⟩ := plugin_of_block built member
  rcases builtin_made made with ⟨-, rfl⟩ | ⟨other, -⟩
  · exact Postgres.ofSettings_asked (clean.2 _ inside)
  · exact absurd other (by decide)

-- What a manifest keeps of the base and of what the plugins answer.
structure Kept (env : Environment) (image : Image) (prepared : Prepared) (base : List Resource)
    (m : Manifest) : Prop where
  called : (calls env image [] prepared.plugins).map Prod.fst = prepared.plugins
  answered : ∀ call ∈ calls env image [] prepared.plugins, ∃ part, call.answer = .ok part
  -- One server at most: no key is declared twice, and all resources are there.
  distinct : ((contributed env image prepared base).map Resource.key).Nodup ↔ env.servers ≤ 1
  whole : env.servers ≤ 1 →
    m.resources.Perm ((contributed env image prepared base).map (labelled env))
  -- Every further server takes the place of three resources.
  counted : m.resources.length + 3 * (env.servers - 1) =
    (contributed env image prepared base).length
  base : ∀ r ∈ base, labelled env r ∈ m.resources
  -- Nothing else is replaced, and only by what a later plugin declares in its place.
  kept : ∀ before call after, calls env image [] prepared.plugins = before ++ call :: after →
    ∀ r ∈ call.resources, labelled env r ∈ m.resources ∨
      (1 < env.servers ∧ r.key ∈ serverKeys env ∧ ∃ later ∈ after, ∃ s ∈ later.resources,
        s.key = r.key ∧ labelled env s ∈ m.resources)
  -- The settings of the plugin `postgres` are applied unless a later plugin brings a server, too.
  applied : ∀ before settings after,
    env.kubernetes.plugins = before ++ (Postgres.pluginId, settings) :: after →
      (1 < env.servers → ∀ block ∈ after, bringsServer block = false) →
        ∃ p, Postgres.Asked settings p ∧ Runs m env p

theorem composed_kept (distinct : (Declared.names env.kubernetes.plugins).Nodup)
    (checked : prepare Registries.builtin env = .ok prepared)
    (composed : compose env image prepared.plugins = .ok m) :
    ∃ base, baseResources env = .ok base ∧
      m = .ofResources ((contributed env image prepared base).map (labelled env)) ∧
      Kept env image prepared base m := by
  obtain ⟨base, parts, based, made, manifest⟩ := compose_parts composed
  obtain ⟨built, -, -⟩ := prepare_parts checked
  have brought := calls_bring built made
  obtain ⟨called, answered, rfl⟩ := contributions_calls made
  change m = .ofResources ((contributed env image prepared base).map (labelled env)) at manifest
  have keys : ((contributed env image prepared base).map (labelled env)).map Resource.key =
      (contributed env image prepared base).map Resource.key := by
    rw [List.map_map]
    exact List.map_congr_left fun r _ => withLabels_key
  have apart := contributed_distinct based brought distinct
  refine ⟨base, based, manifest, called, answered, apart, fun few => ?_, ?_,
    fun r present => base_kept based present brought manifest, ?_, ?_⟩
  · rw [manifest]
    exact ofResources_perm (keys ▸ apart.mpr few)
  · have counted := keys_counted based brought distinct
    have size := (keys_ofResources ((contributed env image prepared base).map (labelled env))).length_eq
    rw [← manifest, keys, List.length_map] at size
    rw [size, counted, List.length_map]
  · intro before call after split r present
    rw [contributed, split] at manifest
    rw [split] at brought
    obtain ⟨front, block, back, place, brings, behind⟩ := block_of_call brought
    refine (kept_or_replaced base (place ▸ distinct) brings behind present manifest).imp_right ?_
    rintro ⟨other, later, own, further, server, replaced⟩
    exact ⟨two_servers place own later further, server, replaced⟩
  · intro front settings back place last
    have own : bringsServer (Postgres.pluginId, settings) = true := rfl
    have inside : (Postgres.pluginId, settings) ∈ env.kubernetes.plugins := by
      rw [place]
      exact List.mem_append_right _ List.mem_cons_self
    rw [place] at brought
    obtain ⟨before, call, after, split, brings, behind⟩ := call_of_block brought
    rw [contributed, split] at manifest
    refine ⟨_, checked_asked checked inside, runs_of_kept image fun r present => ?_⟩
    rw [← brings.server rfl] at present
    refine (kept_or_replaced base (place ▸ distinct) brings behind present manifest).resolve_right ?_
    rintro ⟨other, later, -, further, -⟩
    rw [last (two_servers place own later further) other later] at further
    cases further

-- Of an environment that was checked every contribution is in the manifest, unless two servers meet.
theorem assembled_kept (distinct : (Declared.names env.kubernetes.plugins).Nodup)
    (checked : prepare Registries.builtin env = .ok prepared) (image : Image) :
    ∃ base m, baseResources env = .ok base ∧ Kept env image prepared base m ∧ ∀ host wire,
      (assemble env image prepared host wire).1 =
        (access prepared.provider host wire).map fun (kubeconfig, cluster) =>
          ⟨m, image, kubeconfig, cluster⟩ := by
  obtain ⟨m, composed⟩ := compose_made checked image
  obtain ⟨base, based, -, kept⟩ := composed_kept distinct checked composed
  refine ⟨base, m, based, kept, fun host wire => ?_⟩
  rw [assemble_access, composed]
  rfl

theorem store_kept : ∃ prepared resolved base,
    prepare Registries.builtin storeEnvironment = .ok prepared ∧
      (assemble storeEnvironment storeImage prepared storeHost storeWire).1 = .ok resolved ∧
      baseResources storeEnvironment = .ok base ∧
      resolved.manifest.resources.Perm
        ((contributed storeEnvironment storeImage prepared base).map (labelled storeEnvironment)) ∧
      ∃ p : Postgres, p.user = "store" ∧ p.password = "hunter2" ∧ p.storage = "10Gi" ∧
        p.version = 16 ∧ Runs resolved.manifest storeEnvironment p := by
  have one : storeEnvironment.servers ≤ 1 := by decide +kernel
  obtain ⟨prepared, resolved, checked, assembled⟩ :=
    built_of_accepted storeEnvironment storeImage storeHost storeWire (by decide +kernel)
  obtain ⟨base, m, based, kept, all⟩ := assembled_kept (by decide) checked storeImage
  obtain rfl := manifest_of_map ((all storeHost storeWire).symm.trans assembled)
  refine ⟨prepared, resolved, base, checked, assembled, based, kept.whole one, ?_⟩
  obtain ⟨p, asked, runs⟩ := kept.applied [] _ _ rfl fun two => absurd two (Nat.not_lt.mpr one)
  exact ⟨p, (Option.some.inj asked.user).symm, (Option.some.inj asked.password).symm,
    asked.storage, asked.version, runs⟩

def branchEnvironment : Environment :=
  ⟨"staging", "branch",
    ⟨⟨"docker.io", "branch/web", none⟩, none, "Dockerfile", "."⟩,
    ⟨none, [("docker_desktop", [("kubeconfig", .value (.string "/kubeconfig"))])],
      [("postgres", [("user", .value (.string "branch")),
          ("password", .value (.secret "DB" ⟨"hunter2"⟩)), ("storage", .value (.string "100Gi")),
          ("version", .value (.int 15))]),
        ("rails_app", [("hostname", .value (.string "branch.example.com")),
          ("database", .block [("user", .value (.string "own")),
            ("password", .value (.string "w0rd"))])])]⟩⟩

theorem branch_replaced : ∃ prepared resolved base,
    prepare Registries.builtin branchEnvironment = .ok prepared ∧
      (assemble branchEnvironment storeImage prepared storeHost storeWire).1 = .ok resolved ∧
      baseResources branchEnvironment = .ok base ∧
      ¬ ((contributed branchEnvironment storeImage prepared base).map Resource.key).Nodup ∧
      resolved.manifest.resources.length + 3 =
        (contributed branchEnvironment storeImage prepared base).length ∧
      ∃ r ∈ contributed branchEnvironment storeImage prepared base,
        r.key = ⟨"StatefulSet", some "branch-staging", "branch-postgres"⟩ ∧
          labelled branchEnvironment r ∉ resolved.manifest.resources := by
  have two : branchEnvironment.servers = 2 := by decide +kernel
  have lost : ((prepare Registries.builtin branchEnvironment).toOption.any fun prepared =>
      (baseResources branchEnvironment).toOption.any fun base =>
        (contributed branchEnvironment storeImage prepared base).any fun r =>
          decide (r.key = ⟨"StatefulSet", some "branch-staging", "branch-postgres"⟩ ∧
            labelled branchEnvironment r ∉ merge
              ((contributed branchEnvironment storeImage prepared base).map
                (labelled branchEnvironment)))) = true := by decide +kernel
  obtain ⟨prepared, resolved, checked, assembled⟩ :=
    built_of_accepted branchEnvironment storeImage storeHost storeWire (by decide +kernel)
  obtain ⟨-, composed, -⟩ := assemble_parts assembled
  obtain ⟨base, based, manifest, kept⟩ := composed_kept (by decide) checked composed
  refine ⟨prepared, resolved, base, checked, assembled, based, ?_, ?_, ?_⟩
  · rw [kept.distinct, two]
    decide
  · have counted := kept.counted
    rw [two] at counted
    exact counted
  · rw [checked, based] at lost
    obtain ⟨r, inside, lost⟩ := List.any_eq_true.mp lost
    obtain ⟨key, lost⟩ := of_decide_eq_true lost
    refine ⟨r, inside, key, fun present => lost ?_⟩
    rw [manifest] at present
    exact mem_merge.mpr (mem_ofResources.mp present)

end Assembly

end Rollout
