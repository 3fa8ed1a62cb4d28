import Rollout.CommandLine.Reader
import Rollout.Run.Tooling
import Rollout.Session

namespace Rollout

-- What a command changes: files, the state of the network, and that of programs.
structure World (σ : Type) where
  host : Host
  wire : Http.Wire
  tools : σ

structure Means (σ : Type) where
  clock : σ → Moment
  tools : Tools σ
  runId : String
  entropy : CredentialSource.Entropy
  color : Bool

structure Outcome (σ : Type) where
  code : Nat
  out : String
  err : String
  world : World σ

namespace Outcome

def userErrorCode : Nat := 2

def exitCode (e : Error) : Nat :=
  match e with
  | .credential _ => userErrorCode
  | e => if e.isUserFixable then userErrorCode else 1

variable {σ : Type}

def line (text : String) : String := text ++ "\n"

def printed (text : String) (world : World σ) : Outcome σ := ⟨0, text, "", world⟩

def told (text : String) (world : World σ) : Outcome σ := ⟨0, "", text, world⟩

def failed (output : Output) (e : Error) (world : World σ) : Outcome σ :=
  ⟨exitCode e, "", line (output.error e.message), world⟩

def andThen {α : Type} (output : Output) (result : Except Error α) (world : World σ)
    (next : α → Outcome σ) : Outcome σ :=
  match result with
  | .ok value => next value
  | .error e => failed output e world

def inquire {α : Type} (output : Output) (inquiry : Inquiry α) (host : Host) (world : World σ)
    (text : α → String) : Outcome σ :=
  let (result, wire) := inquiry host world.wire
  let world := { world with wire }
  andThen output result world fun value => printed (text value) world

def manifestText (output : Output) (m : Manifest) : String :=
  match output.format with
  | .text => m.toYaml
  | .json => line (Json.array (m.resources.map Resource.body)).renderPretty

def manifest (output : Output) (session : Session) (env : Environment) (tag : Option String)
    (world : World σ) : Outcome σ :=
  let chosen := match tag with
    | some tag => .ok tag
    | none => Fingerprint.defaultTag session.host env session.root
  andThen output chosen world fun tag =>
    inquire output (Assembly.build Registries.builtin env (env.docker.image.withTag tag)) session.host
      world fun resolved => manifestText output resolved.manifest

def deploy (means : Means σ) (output : Output) (session : Session) (env : Environment)
    (options : RunOptions) (world : World σ) : Outcome σ :=
  let outside := Workplace.outside means.clock ⟨"docker"⟩ ⟨"kubectl"⟩ means.tools
  let (finish, wire) := Run.run Registries.builtin outside Schedule.eager
    { options with root := some session.root } session.host means.runId env world.wire
    (Workplace.start world.tools)
  let world := { world with wire, tools := finish.outside.tools }
  andThen output finish.answer world fun report =>
    let text := line (output.report report)
    if report.isSuccess then printed text world else ⟨1, "", text, world⟩

def remote {α : Type} (output : Output) (session : Session) (env : Environment)
    (inquiry : Provider → Inquiry α) (world : World σ) (text : α → String) : Outcome σ :=
  andThen output (Assembly.prepare Registries.builtin env) world fun prepared =>
    inquire output (inquiry prepared.provider) session.host world text

def validate (output : Output) (env : Environment) (world : World σ) : Outcome σ :=
  andThen output (Assembly.prepare Registries.builtin env) world fun prepared =>
    told (line (output.validation env prepared.warnings)) world

def encrypt (means : Means σ) (output : Output) (source : CredentialSource) (plaintext : String)
    (out : Option String) (world : World σ) : Outcome σ :=
  andThen output ((world.host.readText plaintext).mapError Error.io) world fun text =>
    let source := { source with storePath := out.getD source.storePath }
    let (result, files) := source.writeStore means.entropy text world.host
    let world := { world with host := { world.host with files } }
    andThen output result world fun created =>
      let warning := if created then
          line (output.warning s!"Generated {source.keyPath}. Keep it out of version control.")
        else ""
      told (warning ++ line (output.success s!"Wrote {source.storePath}")) world

def keys (output : Output) (source : CredentialSource) (world : World σ) : Outcome σ :=
  andThen output ((Resolver.ofSource source).keys world.host).1 world fun names =>
    printed (line (output.keys names)) world

def onEnvironment (command : CommandLine) (output : Output) (world : World σ)
    (next : Session → Environment → Outcome σ) : Outcome σ :=
  andThen output (Session.load command world.host) world fun session =>
    andThen output (session.environment command) world (next session)

end Outcome

open Outcome in
def CommandLine.run {σ : Type} (means : Means σ) (command : CommandLine) (world : World σ) :
    Outcome σ :=
  let output := command.format means.color
  let source := command.credentialSource (command.credentialRoot world.host.files)
  let on := onEnvironment command output world
  match command.command with
  | .validate => on fun _ env => validate output env world
  | .show => on fun _ env => printed (line (output.environment env)) world
  | .manifest tag => on fun session env => manifest output session env tag world
  | .deploy options => on fun session env => deploy means output session env options world
  | .apply options => on fun session env => deploy means output session env options world
  | .describe =>
    on fun session env =>
      remote output session env Provider.describe world fun c => line (output.cluster c)
  | .kubeconfig =>
    on fun session env => remote output session env Provider.kubeconfig world KubeConfig.contents
  | .encrypt plaintext out => encrypt means output source plaintext out world
  | .keys => keys output source world

end Rollout
