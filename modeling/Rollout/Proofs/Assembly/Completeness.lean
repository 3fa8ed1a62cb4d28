import Rollout.Proofs.Assembly.Closure

namespace Rollout

namespace Check

variable {check : Check} {field : String}

theorem value_cases (check : Check) (field : String) (required : Bool) :
    (∃ v, check.value field required = (some v, [])) ∨
    (∃ fault, check.value field required = (none, [fault])) ∨
    (required = false ∧ check.value field required = (none, [])) := by
  unfold value
  split
  · exact .inl ⟨_, rfl⟩
  · exact .inr (.inl ⟨_, rfl⟩)
  · cases required with
    | true => exact .inr (.inl ⟨_, rfl⟩)
    | false => exact .inr (.inr ⟨rfl, rfl⟩)

theorem text_cases (check : Check) (field : String) (required : Bool) :
    (∃ s, check.text field required = (some s, [])) ∨
    (∃ fault, check.text field required = (none, [fault])) ∨
    (required = false ∧ check.text field required = (none, [])) := by
  rcases value_cases check field required with ⟨v, read⟩ | ⟨fault, read⟩ | ⟨free, read⟩
  · simp only [text, read, andThen]
    split
    · split
      · exact .inr (.inl ⟨_, rfl⟩)
      · exact .inl ⟨_, rfl⟩
    · exact .inr (.inl ⟨_, rfl⟩)
  · simp only [text, read, andThen]
    exact .inr (.inl ⟨_, rfl⟩)
  · simp only [text, read, andThen]
    exact .inr (.inr ⟨free, trivial⟩)

-- A text that has to be there is read unless something is found wrong with it.
theorem text_required (clean : (check.text field true).2 = []) :
    ∃ s, check.text field true = (some s, []) := by
  rcases text_cases check field true with read | ⟨fault, read⟩ | ⟨free, -⟩
  · exact read
  · rw [read] at clean; cases clean
  · cases free

end Check

def OnlyProviderFails {α : Type} (answer : Except Error α) : Prop :=
  ∀ e, answer = .error e → ∃ cause, e = .provider cause

theorem OnlyProviderFails.bind {α β : Type} {answer : Except Error α} {next : α → Except Error β}
    (first : OnlyProviderFails answer) (later : ∀ a, OnlyProviderFails (next a)) :
    OnlyProviderFails (answer >>= next) := by
  cases answer with
  | ok a => exact later a
  | error e =>
    intro e' failed
    obtain rfl := Except.error.inj failed
    exact first e rfl

namespace DigitalOcean

theorem ofSettings_clean {settings : Settings}
    (clean : violationsOf (ofSettings settings) = []) : ∃ config, ofSettings settings = .ok config := by
  unfold ofSettings at clean ⊢
  generalize Check.ofSettings _ settings = check at clean ⊢
  rcases access : check.text "access_token" true with ⟨token, v1⟩
  rcases place : check.text "cluster_id" true with ⟨cluster, v2⟩
  simp only [access, place] at clean ⊢
  generalize urlViolations _ _ = v4 at clean ⊢
  cases found : v1 ++ v2 ++ (check.text "api_url" false).2 ++ v4 ++ check.only fields with
  | nil =>
    simp only [List.append_eq_nil_iff] at found
    obtain ⟨⟨⟨⟨rfl, rfl⟩, -⟩, -⟩, -⟩ := found
    obtain ⟨token, read⟩ := Check.text_required (congrArg Prod.snd access)
    obtain ⟨cluster, read'⟩ := Check.text_required (congrArg Prod.snd place)
    obtain rfl := (Prod.mk.inj (access.symm.trans read)).1
    obtain rfl := (Prod.mk.inj (place.symm.trans read')).1
    exact ⟨_, rfl⟩
  | cons fault more =>
    rw [found] at clean
    cases token <;> cases cluster <;> cases clean

theorem inquire_fails {α : Type} (config : Config)
    (ask : Config → Client → Http.Wire → Except ProviderError α × List Duration × Http.Wire)
    (host : Host) (wire : Http.Wire) :
    OnlyProviderFails (inquire (.ok config) ask host wire).1 := by
  intro e failed
  unfold inquire at failed
  dsimp only at failed
  rcases replied : ask config (Client.new config.apiUrl config.accessToken) wire
    with ⟨cause | answer, _, _⟩ <;> rw [replied] at failed
  · exact ⟨_, (Except.error.inj failed).symm⟩
  · cases failed

end DigitalOcean

theorem DockerDesktop.read_fails (d : DockerDesktop) (host : Host) :
    OnlyProviderFails (d.read host) := by
  intro e failed
  unfold DockerDesktop.read DockerDesktop.refuse at failed
  split at failed
  · exact ⟨_, (Except.error.inj failed).symm⟩
  · split at failed
    · exact ⟨_, (Except.error.inj failed).symm⟩
    · split at failed
      · exact ⟨_, (Except.error.inj failed).symm⟩
      · cases failed

theorem builtin_provider_fails {id : String} {settings : Settings} {p : Provider}
    (made : Registries.builtin.provider id settings = .ok p) (clean : p.violations = [])
    (host : Host) (wire : Http.Wire) :
    OnlyProviderFails (p.kubeconfig host wire).1 ∧ OnlyProviderFails (p.describe host wire).1 := by
  simp only [Registries.provider, Registries.builtin, Registry.build?, List.lookup_cons,
    List.lookup_nil] at made
  split at made
  · rename_i found
    obtain rfl := Except.ok.inj made
    split at found
    · obtain rfl := Option.some.inj found
      obtain ⟨config, accepted⟩ := DigitalOcean.ofSettings_clean clean
      simp only [DigitalOcean.provider, accepted]
      exact ⟨DigitalOcean.inquire_fails config _ host wire,
        DigitalOcean.inquire_fails config _ host wire⟩
    · split at found
      · obtain rfl := Option.some.inj found
        have read := (DockerDesktop.ofSettings settings).1.read_fails host
        exact ⟨read.bind fun _ _ never => (by cases never), read.bind fun _ _ never => (by cases never)⟩
      · cases found
  · cases made

namespace Assembly

variable {env : Environment} {image : Image} {exports : Declared Exports} {plugins : List Plugin}
variable {prepared : Prepared} {parts : List Resource}

theorem access_fails {provider : Provider} {host : Host} {wire : Http.Wire}
    (fails : ∀ wire, OnlyProviderFails (provider.kubeconfig host wire).1 ∧
      OnlyProviderFails (provider.describe host wire).1) :
    OnlyProviderFails (access provider host wire) := by
  intro e failed
  unfold access at failed
  rcases asked : provider.kubeconfig host wire with ⟨e' | kubeconfig, wire'⟩
  · rw [asked] at failed
    obtain rfl := Except.error.inj failed
    exact (fails wire).1 e' (by rw [asked])
  · simp only [asked] at failed
    rcases described : provider.describe host wire' with ⟨e' | cluster, _⟩ <;>
      simp only [described] at failed
    · obtain rfl := Except.error.inj failed
      exact (fails wire').2 e' (by rw [described])
    · cases failed

abbrev Call := Plugin × PluginContext

def Call.answer (call : Call) : Except Error Contribution := call.1.contribute call.2

def Call.resources (call : Call) : List Resource :=
  match call.answer with
  | .ok part => part.resources
  | .error _ => []

def calls (env : Environment) (image : Image) : Declared Exports → List Plugin → List Call
  | _, [] => []
  | exports, p :: rest =>
    (p, context env image exports) ::
      match p.contribute (context env image exports) with
      | .ok part => calls env image (Declared.put p.id part.exports exports) rest
      | .error _ => []

theorem contributions_calls (ran : contributions env image exports plugins = .ok parts) :
    (calls env image exports plugins).map Prod.fst = plugins ∧
      (∀ call ∈ calls env image exports plugins, ∃ part, call.answer = .ok part) ∧
      parts = (calls env image exports plugins).flatMap Call.resources := by
  induction plugins generalizing exports parts with
  | nil =>
    obtain rfl := Except.ok.inj ran
    exact ⟨rfl, by simp [calls], rfl⟩
  | cons p rest ih =>
    obtain ⟨part, contributed, ran⟩ := bind_eq_ok.mp ran
    obtain ⟨more, later, ran⟩ := bind_eq_ok.mp ran
    obtain rfl := Except.ok.inj ran
    obtain ⟨all, answered, rfl⟩ := ih later
    have first : Call.answer (p, context env image exports) = .ok part := contributed
    simp only [calls, contributed]
    refine ⟨by rw [List.map_cons, all], ?_, ?_⟩
    · exact List.forall_mem_cons.mpr ⟨⟨part, first⟩, answered⟩
    · simp only [List.flatMap_cons, Call.resources, first]

-- An earlier call from which the exports of an id come.
def Exported (earlier : List Call) (exports : Declared Exports) (id : String) : Prop :=
  ∃ call ∈ earlier, call.1.id = id ∧
    ∃ part, call.answer = .ok part ∧ exports.lookup id = some part.exports

theorem Exported.put {earlier : List Call} {id : String} {call : Call} {part : Contribution}
    (answered : call.answer = .ok part)
    (known : id = call.1.id ∨ Exported earlier exports id) :
    Exported (earlier ++ [call]) (Declared.put call.1.id part.exports exports) id := by
  by_cases own : id = call.1.id
  · exact ⟨call, by simp, own.symm, part, answered, by rw [Declared.lookup_put, if_pos own]⟩
  · obtain ⟨other, member, same, part', answered', held⟩ := known.resolve_left own
    refine ⟨other, List.mem_append_left _ member, same, part', answered', ?_⟩
    rw [Declared.lookup_put, if_neg own, held]

-- The induction is on the plugins. The ids that the order was checked against are those of the
-- calls before.
theorem calls_offered {all ids : List String} {earlier before after : List Call} {call : Call}
    (order : Plugin.checkOrderFrom all ids plugins = .ok ())
    (known : ∀ id ∈ ids, Exported earlier exports id)
    (split : calls env image exports plugins = before ++ call :: after) :
    ∀ id ∈ call.1.requires, Exported (earlier ++ before) call.2.exports id := by
  induction plugins generalizing exports ids earlier before with
  | nil => simp [calls] at split
  | cons p rest ih =>
    obtain ⟨met, later⟩ := checkOrderFrom_parts order
    simp only [calls] at split
    cases before with
    | nil =>
      obtain ⟨rfl, -⟩ := List.cons.inj split
      intro id required
      rw [List.append_nil]
      exact known id (met id required)
    | cons first before =>
      obtain ⟨rfl, -⟩ := List.cons.inj split
      cases answered : p.contribute (context env image exports) with
      | error e => simp [answered] at split
      | ok part =>
        simp only [answered] at split
        have knownRest : ∀ id ∈ ids ++ [p.id], Exported
            (earlier ++ [(p, context env image exports)])
            (Declared.put p.id part.exports exports) id := by
          intro id member
          refine Exported.put answered ?_
          rcases List.mem_append.mp member with old | new
          · exact .inr (known id old)
          · exact .inl (List.mem_singleton.mp new)
        rw [List.append_cons]
        exact ih later knownRest (List.cons.inj split).2

theorem prepare_provider {registries : Registries}
    (checked : prepare registries env = .ok prepared) :
    ∃ id settings, env.kubernetes.provider? = some (id, settings) ∧
      registries.provider id settings = .ok prepared.provider ∧
      prepared.provider.violations = [] := by
  obtain ⟨⟨id, settings, active, made⟩, -, clean, -⟩ := prepare_accepted checked
  simp only [allViolations, List.append_eq_nil_iff] at clean
  exact ⟨id, settings, active, made, clean.1.2⟩

-- What can become of an environment behind its checks.
structure Complete (env : Environment) (image : Image) (prepared : Prepared) : Prop where
  -- No question to the provider is answered with the faults of its settings.
  provider : ∀ host wire, OnlyProviderFails (prepared.provider.kubeconfig host wire).1 ∧
    OnlyProviderFails (prepared.provider.describe host wire).1
  -- Every plugin is called in the order of declaration, and answers.
  called : (calls env image [] prepared.plugins).map Prod.fst = prepared.plugins
  answered : ∀ call ∈ calls env image [] prepared.plugins, ∃ part, call.answer = .ok part
  -- What a plugin asks for has been exported by an earlier one.
  offered : ∀ before call after, calls env image [] prepared.plugins = before ++ call :: after →
    ∀ id ∈ call.1.requires, Exported before call.2.exports id
  -- The login has its texts, and so there is a manifest, with what was answered.
  composed : ∃ base, baseResources env = .ok base ∧
    compose env image prepared.plugins = .ok (.ofResources
      ((base ++ (calls env image [] prepared.plugins).flatMap Call.resources).map
        fun r => r.withLabels (standardLabels env)))
  assembled : ∀ host wire, OnlyProviderFails (assemble env image prepared host wire).1

theorem checked_complete (checked : prepare Registries.builtin env = .ok prepared)
    (image : Image) : Complete env image prepared := by
  obtain ⟨-, -, order⟩ := prepare_parts checked
  obtain ⟨id, settings, -, made, clean⟩ := prepare_provider checked
  have fails := builtin_provider_fails made clean
  obtain ⟨m, composed⟩ := compose_made checked image
  obtain ⟨base, parts, based, contributed, rfl⟩ := compose_parts composed
  obtain ⟨called, answered, rfl⟩ := contributions_calls contributed
  refine ⟨fails, called, answered, ?_, ⟨base, based, composed⟩, ?_⟩
  · intro before call after split
    have unknown : ∀ id ∈ [], Exported [] [] id := fun id none => by cases none
    exact calls_offered order unknown split
  · intro host wire
    rw [assemble_access, composed]
    exact (access_fails (fails host)).bind fun _ _ never => by cases never

def clinicEnvironment : Environment :=
  ⟨"production", "clinic",
    ⟨⟨"registry.example.com", "clinic/web", none⟩,
      some ⟨.string "robot", .secret "REGISTRY" ⟨"s3cret"⟩, .string "ops@clinic.example"⟩,
      "Dockerfile", "."⟩,
    ⟨none, [("digitalocean", [("access_token", .value (.secret "TOKEN" ⟨"t0ken"⟩)),
        ("cluster_id", .value (.string "c1"))])],
      [("postgres", [("user", .value (.string "clinic")),
          ("password", .value (.secret "DB" ⟨"hunter2"⟩))]),
        ("rails_app", [("hostname", .value (.string "clinic.example.com")),
          ("manage_database", .value (.bool true))])]⟩⟩

theorem clinic_complete : ∃ prepared,
    prepare Registries.builtin clinicEnvironment = .ok prepared ∧
      prepared.plugins.map Plugin.requires = [[], ["postgres"]] ∧
      Complete clinicEnvironment storeImage prepared ∧
      ∃ cause, (assemble clinicEnvironment storeImage prepared storeHost storeWire).1 =
        .error (.provider cause) := by
  have accepted : (prepare Registries.builtin clinicEnvironment).isOk = true := by decide +kernel
  have refused : (build Registries.builtin clinicEnvironment storeImage storeHost storeWire).1.isOk =
      false := by decide +kernel
  have ordered : (prepare Registries.builtin clinicEnvironment).toOption.map
      (fun prepared => prepared.plugins.map Plugin.requires) = some [[], ["postgres"]] := by
    decide +kernel
  cases checked : prepare Registries.builtin clinicEnvironment with
  | error e => rw [checked] at accepted; cases accepted
  | ok prepared =>
    rw [checked] at ordered
    have complete := checked_complete checked storeImage
    refine ⟨prepared, rfl, Option.some.inj ordered, complete, ?_⟩
    simp only [build, checked] at refused
    cases answer : (assemble clinicEnvironment storeImage prepared storeHost storeWire).1 with
    | ok resolved => rw [answer] at refused; cases refused
    | error e =>
      obtain ⟨cause, rfl⟩ := complete.assembled storeHost storeWire e answer
      exact ⟨cause, rfl⟩

end Assembly

end Rollout
