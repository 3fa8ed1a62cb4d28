import Rollout.Definition.Fingerprint
import Rollout.Manifest.Assembly
import Rollout.Run.Pool

namespace Rollout

structure RunOptions where
  -- The image's tag; by default a fingerprint of what is deployed.
  tag : Option String
  skipBuild : Bool
  buildTimeout : Duration
  pushTimeout : Duration
  applyTimeout : Duration
  concurrency : Nat
  root : Option String
  deriving DecidableEq, Repr

namespace RunOptions

def default : RunOptions :=
  ⟨none, false, Duration.ofSeconds 1800, Duration.ofSeconds 900, Duration.ofSeconds 120, 4, none⟩

def projectRoot (options : RunOptions) : String := options.root.getD "."

def debugOption (value : Option String) : String :=
  match value with
  | some s => "Some(" ++ Text.quoted s ++ ")"
  | none => "None"

def debug (o : RunOptions) : String :=
  "RunOptions \x7b tag: " ++ debugOption o.tag ++ ", skip_build: " ++ toString o.skipBuild ++
    ", build_timeout: " ++ o.buildTimeout.brief ++ ", push_timeout: " ++ o.pushTimeout.brief ++
    ", apply_timeout: " ++ o.applyTimeout.brief ++ s!", concurrency: {o.concurrency}" ++
    ", build_context: " ++ debugOption o.root ++ " \x7d"

end RunOptions

namespace Run

def imageFor (host : Host) (options : RunOptions) (env : Environment) : Except Error Image := do
  match options.tag with
  | some tag => pure (env.docker.image.withTag tag)
  | none =>
    let tag ← Fingerprint.defaultTag host env options.projectRoot
    pure (env.docker.image.withTag tag)

def buildContext (options : RunOptions) (env : Environment) : BuildContext :=
  ⟨Path.join options.projectRoot env.docker.buildContext,
    Path.join options.projectRoot env.docker.dockerfile⟩

def pushLogin? (env : Environment) (image : Image) : Option PushLogin := do
  let login ← env.docker.login
  some ⟨image.registry, ← login.username.text?, ← login.password.text?⟩

inductive Resolution where
  -- Something is wrong with the definition or its surroundings; nothing was done.
  | refused (e : Error)
  | failed (image : Image) (cause : RemoteError)
  | ready (resolved : Resolved)

def resolve (registries : Registries) (host : Host) (options : RunOptions) (env : Environment)
    (wire : Http.Wire) : Resolution × Http.Wire :=
  match Assembly.prepare registries env with
  | .error e => (.refused e, wire)
  | .ok prepared =>
    match imageFor host options env with
    | .error e => (.refused e, wire)
    | .ok image =>
      match Assembly.assemble env image prepared host wire with
      | (.ok resolved, wire) => (.ready resolved, wire)
      | (.error e, wire) =>
        if e.isUserFixable then (.refused e, wire) else (.failed image (.remote e.message), wire)

structure Progress (σ : Type) where
  report : RunReport
  events : List RunEvent
  outside : σ

variable {σ : Type}

def enter (outside : Outside σ) (state : RunState) (p : Progress σ) : Progress σ :=
  { p with report := p.report.enter state (outside.clock p.outside) }

def fail (outside : Outside σ) (stage : Stage) (cause : RemoteError) (p : Progress σ) : Progress σ :=
  enter outside (.failed stage cause) p

def build (outside : Outside σ) (options : RunOptions) (env : Environment) (image : Image)
    (p : Progress σ) : Except RemoteError Unit × Progress σ :=
  if outside.cancelled p.outside then (.error .cancelled, p)
  else
    let context := buildContext options env
    let (answer, after) := outside.build image context p.outside
    let result := answer.within options.buildTimeout
    (result, { p with events := p.events ++ [.built image context result], outside := after })

-- Pushes the image unless somebody has asked to stop; the registry may report a digest.
def push (outside : Outside σ) (options : RunOptions) (env : Environment) (image : Image)
    (p : Progress σ) : Except RemoteError (Option String) × Progress σ :=
  if outside.cancelled p.outside then (.error .cancelled, p)
  else
    let login := pushLogin? env image
    let (answer, after) := outside.push image login p.outside
    let result := answer.within options.pushTimeout
    (result, { p with events := p.events ++ [.pushed image login result], outside := after })

def connect (outside : Outside σ) (options : RunOptions) (kubeconfig : KubeConfig) (p : Progress σ) :
    Except RemoteError Unit × Progress σ :=
  let (answer, after) := outside.connect kubeconfig p.outside
  let result := answer.within options.applyTimeout
  (result, { p with events := p.events ++ [.connected kubeconfig result], outside := after })

def applyTier (outside : Outside σ) (turns : Nat → Turn) (options : RunOptions)
    (tier : List Resource) (p : Progress σ) : Option RemoteError × Progress σ :=
  let (results, events, after) :=
    Pool.run outside (max 1 options.concurrency) options.applyTimeout turns tier p.outside
  (firstFailure? results,
    ⟨{ p.report with applied := p.report.applied ++ accepted results }, p.events ++ events, after⟩)

-- Applies tiers from number `n` on, up to the first one that has a failure.
def applyTiers (outside : Outside σ) (schedule : Schedule) (options : RunOptions) :
    Nat → List (List Resource) → Progress σ → Option RemoteError × Progress σ
  | _, [], p => (none, p)
  | n, tier :: rest, p =>
    match applyTier outside (schedule n) options tier p with
    | (some cause, p) => (some cause, p)
    | (none, p) => applyTiers outside schedule options (n + 1) rest p

def deliver (outside : Outside σ) (schedule : Schedule) (options : RunOptions) (resolved : Resolved)
    (p : Progress σ) : Except RemoteError Unit × Progress σ :=
  match connect outside options resolved.kubeconfig p with
  | (.error cause, p) => (.error cause, p)
  | (.ok (), p) =>
    match applyTiers outside schedule options 0 resolved.manifest.tiers p with
    | (some cause, p) => (.error cause, p)
    | (none, p) => (.ok (), p)

def attempt {α : Type} (outside : Outside σ) (stage : Stage)
    (work : Progress σ → Except RemoteError α × Progress σ) (p : Progress σ) :
    Except (Progress σ) (α × Progress σ) :=
  match work (enter outside (.working stage) p) with
  | (.error cause, p) => .error (fail outside stage cause p)
  | (.ok value, p) => .ok (value, p)

-- Builds and pushes, unless an existing image is deployed.
def publish (outside : Outside σ) (options : RunOptions) (env : Environment) (image : Image)
    (p : Progress σ) : Except (Progress σ) (Progress σ) :=
  if options.skipBuild then .ok p
  else do
    let (_, p) ← attempt outside .building (build outside options env image) p
    let (digest, p) ← attempt outside .pushing (push outside options env image) p
    pure { p with report := { p.report with digest } }

def stages (outside : Outside σ) (schedule : Schedule) (options : RunOptions) (env : Environment)
    (resolved : Resolved) (p : Progress σ) : Except (Progress σ) (Progress σ) := do
  let p ← publish outside options env resolved.image p
  let (_, p) ← attempt outside .applying (deliver outside schedule options resolved) p
  pure (enter outside .done p)

def current : Except (Progress σ) (Progress σ) → Progress σ
  | .ok p => p
  | .error p => p

def drive (outside : Outside σ) (schedule : Schedule) (options : RunOptions) (env : Environment)
    (resolved : Resolved) (p : Progress σ) : Progress σ :=
  current (stages outside schedule options env resolved p)

structure Finish (σ : Type) where
  answer : Except Error RunReport
  events : List RunEvent
  outside : σ

def Progress.finish (p : Progress σ) : Finish σ := ⟨.ok p.report, p.events, p.outside⟩

def begin (outside : Outside σ) (runId : String) (env : Environment) (s : σ) : Progress σ :=
  enter outside (.working .resolving) ⟨RunReport.new runId env.name (outside.clock s), [], s⟩

def proceed (outside : Outside σ) (schedule : Schedule) (options : RunOptions) (runId : String)
    (env : Environment) (s : σ) : Resolution → Finish σ
  | .refused e => ⟨.error e, [], s⟩
  | .failed image cause =>
    let p := begin outside runId env s
    let report := { p.report with image := some image.render }
    (fail outside .resolving cause { p with report }).finish
  | .ready resolved =>
    let p := begin outside runId env s
    let report := { p.report with
      image := some resolved.image.render
      manifestDigest := some resolved.manifest.digest }
    (drive outside schedule options env resolved { p with report }).finish

def run (registries : Registries) (outside : Outside σ) (schedule : Schedule) (options : RunOptions)
    (host : Host) (runId : String) (env : Environment) (wire : Http.Wire) (s : σ) :
    Finish σ × Http.Wire :=
  let (resolution, wire) := resolve registries host options env wire
  (proceed outside schedule options runId env s resolution, wire)

def debug (registries : Registries) (options : RunOptions) (cancelled : Bool) : String :=
  "DeploymentExecutor \x7b builder: ManifestBuilder \x7b providers: " ++ registries.providersDebug ++
    ", plugins: " ++ registries.pluginsDebug ++ " \x7d, options: " ++ options.debug ++
    ", cancel: CancelSignal(" ++ toString cancelled ++ "), .. \x7d"

end Run

end Rollout
