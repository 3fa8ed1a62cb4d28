import Rollout.Image
import Rollout.Run.Outside
import Rollout.Tool

namespace Rollout

structure Docker where
  program : String
  deriving DecidableEq, Repr

namespace Docker

def call (docker : Docker) (words : List String) (input : Option String) : ToolCall :=
  ⟨docker.program, words.map .text, input.map Utf8.encode⟩

def buildCall (docker : Docker) (image : Image) (context : BuildContext) : ToolCall :=
  docker.call ["build", "--tag", image.render, "--file", context.dockerfile, context.dir] none

def loginCall (docker : Docker) (login : PushLogin) : ToolCall :=
  docker.call ["login", login.registry, "--username", login.username, "--password-stdin"]
    (some login.password)

def pushCall (docker : Docker) (image : Image) : ToolCall :=
  docker.call ["push", image.render] none

def lineDigest? (line : String) : Option String := do
  let (_, rest) ← Text.splitAtText "digest: ".toList line.toList
  let word ← (Text.words (String.ofList rest)).head?
  if "sha256:".toList.isPrefixOf word.toList then some word else none

-- The digest that a push reports: that of the first line that has one.
def digest? (output : String) : Option String := (Text.lines output).findSome? lineDigest?

variable {σ : Type}

def build (docker : Docker) (tools : Tools σ) (image : Image) (context : BuildContext) (s : σ) :
    Except RemoteError Unit × σ :=
  let (result, s) := (docker.buildCall image context).run tools s
  (result.map fun _ => (), s)

-- Pushes an image, after logging in if there is a login; a login that fails ends the push.
def push (docker : Docker) (tools : Tools σ) (image : Image) (login : Option PushLogin) (s : σ) :
    Except RemoteError (Option String) × σ :=
  let (ready, s) : Except RemoteError String × σ :=
    match login with
    | some login => (docker.loginCall login).run tools s
    | none => (.ok "", s)
  match ready with
  | .error cause => (.error cause, s)
  | .ok _ =>
    let (result, s) := (docker.pushCall image).run tools s
    (result.map digest?, s)

end Docker

end Rollout
