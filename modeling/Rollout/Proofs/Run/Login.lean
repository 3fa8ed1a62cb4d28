import Rollout.Proofs.Assembly.Login
import Rollout.Proofs.Definition.Canonical
import Rollout.Proofs.Run.Calls
import Rollout.Proofs.Run.Cancellation

namespace Rollout.Run

open Assembly

variable {σ : Type} {outside : Outside σ} {schedule : Schedule} {options : RunOptions}
variable {env : Environment} {image : Image} {resolved : Resolved} {p q : Progress σ}
variable {report : RunReport} {prepared : Prepared}

theorem publish_reached : match publish outside options env image p with
    | .ok q => options.skipBuild = true ∨
        ∃ result, .pushed image (pushLogin? env image) result ∈ q.events
    | .error q => (∃ cause, q.report.state = .failed .building cause) ∨
        (∃ result, .pushed image (pushLogin? env image) result ∈ q.events) ∨
        outside.cancelled q.outside = true ∧ q.report.state = .failed .pushing .cancelled := by
  have published : Published outside options env image p (publish outside options env image p) :=
    publish_published
  generalize publish outside options env image p = r at published
  cases published with
  | skipped skip => exact .inl skip
  | unbuilt full built => exact .inl ⟨_, rfl⟩
  | unpushed full built pushed =>
    right
    obtain ⟨stopped, same, rfl⟩ | rfl := push_parts pushed
    · cases same
      exact .inr ⟨stopped, rfl⟩
    · exact .inl ⟨_, List.mem_append_right _ (List.mem_singleton.mpr rfl)⟩
  | pushed full built pushed =>
    right
    obtain ⟨-, impossible, -⟩ | rfl := push_parts pushed
    · cases impossible
    · exact ⟨_, List.mem_append_right _ (List.mem_singleton.mpr rfl)⟩

theorem drive_reached (outside : Outside σ) (schedule : Schedule) (options : RunOptions)
    (env : Environment) (resolved : Resolved) (p : Progress σ) :
    let final := drive outside schedule options env resolved p
    options.skipBuild = true ∨ (∃ cause, final.report.state = .failed .building cause) ∨
      (∃ result, .pushed resolved.image (pushLogin? env resolved.image) result ∈ final.events) ∨
      outside.cancelled final.outside = true ∧
        final.report.state = .failed .pushing .cancelled := by
  intro final
  have published : match publish outside options env resolved.image p with
    | .ok q => _
    | .error q => _ := publish_reached
  have driven : DriveRun outside options env resolved p final := drive_run ..
  generalize final = final at driven
  cases driven with
  | unpublished ran =>
    rw [ran] at published
    exact .inr published
  | unconnected ran connected =>
    rw [ran] at published
    refine published.imp_right fun ⟨result, member⟩ => .inr (.inl ⟨result, ?_⟩)
    rw [connect_parts connected]
    exact List.mem_append_left _ member
  | applied ran connected run =>
    rw [ran] at published
    refine published.imp_right fun ⟨result, member⟩ => .inr (.inl ⟨result, ?_⟩)
    have grown := connected_prefix connected run
    rw [conclude_events]
    exact grown.subset member

theorem drive_pushes (fresh : p.events = []) {i : Image} {given : Option PushLogin}
    {result : Except RemoteError (Option String)}
    (pushed : .pushed i given result ∈ (drive outside schedule options env resolved p).events) :
    i = resolved.image ∧ given = pushLogin? env resolved.image := by
  obtain ⟨before, after, split⟩ := List.append_of_mem pushed
  obtain ⟨full, rfl, context, rfl⟩ := drive_ordered fresh _ _ _ split
  refine ⟨rfl, ?_⟩
  have driven := drive_run outside schedule options env resolved p
  generalize drive outside schedule options env resolved p = final at driven split
  -- The push stands right behind the build, both among all events and among those of publishing.
  have second {events : List RunEvent} {result' : Except RemoteError (Option String)}
      (told : events = [.built resolved.image (buildContext options env) (.ok ()),
        .pushed resolved.image (pushLogin? env resolved.image) result'])
      (grown : events <+: final.events) : given = pushLogin? env resolved.image := by
    obtain ⟨later, whole⟩ := grown
    rw [split, told] at whole
    simp only [List.cons_append, List.nil_append, List.cons.injEq, RunEvent.pushed.injEq] at whole
    exact whole.2.1.2.1.symm
  cases driven with
  | @unpublished q ran =>
    obtain ⟨-, events | ⟨_, events⟩ | ⟨cause, events⟩⟩ := publish_trace_error ran <;>
      rw [fresh] at events
    · simp [events] at split
    · simp [events] at split
    · exact second events (List.prefix_refl _)
  | @unconnected cause q q' ran connected =>
    obtain ⟨skip, -⟩ | ⟨-, digest, events⟩ := publish_trace_ok ran
    · simp [skip] at full
    · rw [fresh] at events
      refine second events ?_
      rw [connect_parts connected]
      exact List.prefix_append _ _
  | @applied q q' last failure ran connected run =>
    obtain ⟨skip, -⟩ | ⟨-, digest, events⟩ := publish_trace_ok ran
    · simp [skip] at full
    · rw [fresh] at events
      refine second events ?_
      rw [conclude_events]
      exact connected_prefix connected run

structure Pushes (env : Environment) (login : Option LoginTexts) (l : Launch σ) (image : Image)
    (report : RunReport) : Prop where
  chosen : imageFor l.host l.options env = .ok image
  registry : image.registry = env.docker.image.registry
  alike : ∀ i given result, .pushed i given result ∈ (l.finish Registries.builtin env).events →
    i = image ∧ given = login.map fun t => ⟨image.registry, t.username, t.password⟩
  reached : report.visited (.working .pushing) = true →
    (∃ given result, .pushed image given result ∈ (l.finish Registries.builtin env).events) ∨
      l.outside.cancelled (l.finish Registries.builtin env).outside = true ∧
        report.state = .failed .pushing .cancelled

theorem login_texts (checked : prepare Registries.builtin env = .ok prepared) :
    env.docker.login.map RegistryLogin.texts? = env.loginTexts?.map some := by
  obtain ⟨-, clean, -⟩ := prepare_parts checked
  obtain ⟨base, based⟩ := base_made clean
  obtain ⟨declared, -⟩ | ⟨t, texts, -⟩ := base_login based
  · simp [Environment.loginTexts?, declared]
  · obtain ⟨login, declared, given⟩ := Option.bind_eq_some_iff.mp texts
    rw [texts, declared, Option.map_some, given]
    rfl

-- The texts of a login are all there or none is declared, so that the email is not missed here.
theorem pushLogin?_texts (checked : prepare Registries.builtin env = .ok prepared) (image : Image) :
    pushLogin? env image =
      env.loginTexts?.map fun t => ⟨image.registry, t.username, t.password⟩ := by
  have whole := login_texts checked
  unfold pushLogin?
  cases texts : env.loginTexts? with
  | none =>
    rw [texts, Option.map_none, Option.map_eq_none_iff] at whole
    rw [whole]
    rfl
  | some t =>
    obtain ⟨login, declared, given⟩ := Option.bind_eq_some_iff.mp texts
    obtain ⟨username, password, -⟩ := RegistryLogin.texts?_parts given
    simp [declared, username, password]

theorem finish_pushes (checked : prepare Registries.builtin env = .ok prepared) (l : Launch σ)
    (answer : (l.finish Registries.builtin env).answer = .ok report) :
    ∃ image, Pushes env env.loginTexts? l image report := by
  have legal := Launch.report_legal answer
  cases found : l.resolve Registries.builtin env with
  | refused e =>
    rw [Launch.finish_proceed, found] at answer
    cases answer
  | failed image cause =>
    obtain ⟨-, chosen⟩ := resolve_failed found
    obtain ⟨tag, rfl⟩ := imageFor_tagged chosen
    have still : (l.finish Registries.builtin env).events = [] := by
      rw [Launch.finish_proceed, found]; rfl
    refine ⟨_, chosen, rfl, fun i given result pushed => ?_, fun visited => ?_⟩
    · rw [still] at pushed
      cases pushed
    · rw [Launch.finish_proceed, found] at answer
      have state : report.state = .failed .resolving cause := by
        obtain rfl := Except.ok.inj answer
        rfl
      rw [legal.pushing.mpr (.inr ⟨cause, .inl state⟩)] at visited
      cases visited
  | ready resolved =>
    obtain ⟨-, -, chosen, -⟩ := resolve_ready found
    obtain ⟨tag, tagged⟩ := imageFor_tagged chosen
    have here : l.finish Registries.builtin env = (drive l.outside l.schedule l.options env resolved
        (ready l.outside l.runId env resolved l.start)).finish := by
      rw [Launch.finish_proceed, found, proceed_ready]
    have got := drive_reached l.outside l.schedule l.options env resolved
      (ready l.outside l.runId env resolved l.start)
    rw [here] at answer
    obtain rfl := Except.ok.inj answer
    refine ⟨resolved.image, chosen, tagged ▸ rfl, fun i given result pushed => ?_,
      fun visited => ?_⟩
    · rw [here] at pushed
      obtain ⟨same, login⟩ := drive_pushes rfl pushed
      exact ⟨same, login.trans (pushLogin?_texts checked _)⟩
    · rw [here]
      rcases got with skip | ⟨cause, state⟩ | ⟨result, pushed⟩ | stopped
      · rw [legal.pushing.mpr (.inl skip)] at visited
        cases visited
      · rw [legal.pushing.mpr (.inr ⟨cause, .inr state⟩)] at visited
        cases visited
      · exact .inl ⟨_, result, pushed⟩
      · exact .inr stopped

-- One login on both ways, or none.
structure OneLogin (env : Environment) (prepared : Prepared) (login : Option LoginTexts) :
    Prop where
  declared : env.docker.login.map RegistryLogin.texts? = login.map some
  hub : ∀ url, Image.parse url = .ok env.docker.image →
    (loginKey env.docker.image.registry = "https://index.docker.io/v1/" ↔
      env.docker.image.registry = "docker.io")
  pushes : ∀ {σ : Type} (l : Launch σ) (report : RunReport),
    (l.finish Registries.builtin env).answer = .ok report → ∃ image, Pushes env login l image report
  -- whatever the image, there is a manifest, and only the provider can keep a run from it
  pulls : ∀ image, ∃ m, Pulls env login m ∧ ∀ host wire,
    (assemble env image prepared host wire).1 =
      (access prepared.provider host wire).map fun (kubeconfig, cluster) =>
        ⟨m, image, kubeconfig, cluster⟩

theorem loginKey_hub {image : Image} {url : String} (parsed : Image.parse url = .ok image) :
    loginKey image.registry = "https://index.docker.io/v1/" ↔ image.registry = "docker.io" := by
  have slashless := (Image.parse_legible parsed).registry
  unfold loginKey
  split
  · next default => exact iff_of_true rfl default
  · next other =>
    refine iff_of_false (fun same => slashless ?_) other
    rw [same]
    decide

theorem login_shared (checked : prepare Registries.builtin env = .ok prepared) :
    OneLogin env prepared env.loginTexts? := by
  refine ⟨login_texts checked, fun url parsed => loginKey_hub parsed,
    fun l report answer => finish_pushes checked l answer, fun image => ?_⟩
  obtain ⟨m, composed⟩ := compose_made checked image
  refine ⟨m, compose_pulls (prepare_builtin checked) composed, fun host wire => ?_⟩
  rw [assemble_access, composed]
  rfl

theorem store_login_shared : ∃ prepared,
    prepare Registries.builtin storeEnvironment = .ok prepared ∧
      OneLogin storeEnvironment prepared (some ⟨"robot", "s3cret", "ops@store.example"⟩) := by
  have accepted : (prepare Registries.builtin storeEnvironment).isOk = true := by decide +kernel
  cases checked : prepare Registries.builtin storeEnvironment with
  | error e => rw [checked] at accepted; cases accepted
  | ok prepared => exact ⟨prepared, rfl, login_shared checked⟩

-- A run that is asked to stop while it builds gets to the push and does not make it.
def stoppedStore : Launch Bool :=
  { Launch.interrupted with host := storeHost, wire := storeWire }

theorem store_unpushed :
    (prepare Registries.builtin storeEnvironment).isOk = true ∧
      storeEnvironment.docker.login.isSome = true ∧
      (∃ report, (stoppedStore.finish Registries.builtin storeEnvironment).answer = .ok report ∧
        report.visited (.working .pushing) = true) ∧
      ∀ i given result, .pushed i given result ∉
        (stoppedStore.finish Registries.builtin storeEnvironment).events := by
  have reached : (match (stoppedStore.finish Registries.builtin storeEnvironment).answer with
      | .ok report => report.visited (.working .pushing)
      | .error _ => false) = true := by decide +kernel
  have silent : (stoppedStore.finish Registries.builtin storeEnvironment).events.all (fun event =>
      match event with
      | .pushed _ _ _ => false
      | _ => true) = true := by decide +kernel
  refine ⟨by decide +kernel, rfl, ?_, fun i given result pushed => ?_⟩
  · cases answer : (stoppedStore.finish Registries.builtin storeEnvironment).answer with
    | error e => rw [answer] at reached; cases reached
    | ok report =>
      rw [answer] at reached
      exact ⟨report, rfl, reached⟩
  · cases List.all_eq_true.mp silent _ pushed

end Rollout.Run
