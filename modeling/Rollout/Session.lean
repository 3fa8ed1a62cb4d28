import Rollout.CommandLine
import Rollout.Credential.Store
import Rollout.Definition.Evaluation
import Rollout.EnvFile

namespace Rollout

def projectRoot (file : String) : String :=
  match Path.parent? file with
  | some up => if up.isEmpty then "." else up
  | none => "."

namespace CommandLine

def definitionFiles (line : CommandLine) (files : FileTree) : Except Error (List String) :=
  if line.config.isEmpty then do pure [← Definition.findFile files files.workingPath]
  else .ok line.config

def credentialSource (line : CommandLine) (root : String) : CredentialSource :=
  let source := CredentialSource.inProject root
  { source with
    storePath := line.credentials.getD source.storePath
    keyPath := line.keyPath.getD source.keyPath
    strict := line.strict }

def credentialRoot (line : CommandLine) (files : FileTree) : String :=
  match line.config.head? with
  | some file => projectRoot file
  | none =>
    match Definition.findFile files files.workingPath with
    | .ok file => projectRoot file
    | .error _ => "."

def format (line : CommandLine) (color : Bool) : Output := ⟨line.output, color⟩

end CommandLine

structure Session where
  definition : Definition
  root : String
  host : Host

def Session.load (line : CommandLine) (host : Host) : Except Error Session := do
  let files ← line.definitionFiles host.files
  let root := ((files.head?).map projectRoot).getD "."
  let host ← host.loadEnvFile root
  let resolver := Resolver.ofSource (line.credentialSource root)
  if line.strict then
    let _ ← (resolver.unlock host).1
  let definition ← Definition.ofFiles (fun key => (resolver.resolve host key).1) host files
  pure ⟨definition, root, host⟩

def Session.environment (session : Session) (line : CommandLine) : Except Error Environment :=
  session.definition.environment line.environment

end Rollout
