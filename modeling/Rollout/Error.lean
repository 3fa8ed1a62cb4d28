import Rollout.Run.Stage
import Rollout.Duration

namespace Rollout

-- Where in a definition something was found: a one-based line and column (in bytes) and the labels
-- of the blocks around it, outermost first.
structure Location where
  file : Option String
  line : Nat
  column : Nat
  scope : List String
  deriving DecidableEq, Repr

def Location.nowhere : Location := ⟨none, 0, 0, []⟩

def Location.render (l : Location) : String :=
  let file := l.file.getD "<input>"
  let place := s!"{file}:{l.line}:{l.column}"
  if l.scope.isEmpty then place else place ++ " in " ++ " > ".intercalate l.scope

inductive DefinitionError where
  | fileNotFound (path : String)
  | malformed (file message : String)
  -- `kind` is what could have stood there: a block or a field.
  | unknownNode (kind name : String) (location : Location)
  | missingField (field : String) (location : Location)
  | outsideScope (name : String) (location : Location)
  | invalidValue (field message : String) (location : Location)
  | unknownEnvironment (name available : String)
  | noEnvironment (message : String)
  deriving DecidableEq, Repr

def DefinitionError.message : DefinitionError → String
  | .fileNotFound path => s!"Definition file not found: {path}"
  | .malformed file message => s!"Failed to parse {file}: {message}"
  | .unknownNode kind name location => s!"Unknown {kind} '{name}' at {location.render}"
  | .missingField field location => s!"Missing required field '{field}' at {location.render}"
  | .outsideScope name location =>
    s!"'{name}' must be declared inside an environment block ({location.render})"
  | .invalidValue field message location =>
    s!"Invalid value for '{field}' at {location.render}: {message}"
  | .unknownEnvironment name available =>
    s!"Environment '{name}' is not defined (available: {available})"
  | .noEnvironment message => s!"No environment selected: {message}"

inductive CredentialError where
  | missingKey (keyPath envKey : String)
  | unknownSecret (key store : String)
  | corrupted (store message : String)
  deriving DecidableEq, Repr

def CredentialError.message : CredentialError → String
  | .missingKey keyPath envKey => s!"Missing unlock key: set {envKey} or create {keyPath}"
  | .unknownSecret key store => s!"Unknown secret '{key}' in {store}"
  | .corrupted store message => s!"Credential store {store} is unreadable: {message}"

inductive RegistryError where
  | unknownProvider (id registered : String)
  | unknownPlugin (id registered : String)
  deriving DecidableEq, Repr

def RegistryError.message : RegistryError → String
  | .unknownProvider id registered => s!"Unknown provider '{id}' (registered: {registered})"
  | .unknownPlugin id registered => s!"Unknown plugin '{id}' (registered: {registered})"

inductive ProviderError where
  | authenticationFailed (provider message : String)
  | requestFailed (provider : String) (status : Nat) (message : String)
  | rateLimited (provider : String) (retryAfter : Nat)
  | clusterNotFound (cluster : String)
  | network (provider message : String)
  | invalidResponse (provider message : String)
  | kubeconfig (path message : String)
  deriving DecidableEq, Repr

def ProviderError.message : ProviderError → String
  | .authenticationFailed provider message => s!"{provider} authentication failed: {message}"
  | .requestFailed provider status message =>
    s!"{provider} API request failed: {status} - {message}"
  | .rateLimited provider retryAfter =>
    s!"{provider} API rate limited, retry after {retryAfter} seconds"
  | .clusterNotFound cluster => s!"Cluster not found: {cluster}"
  | .network provider message => s!"Network error communicating with {provider}: {message}"
  | .invalidResponse provider message => s!"Invalid response from {provider} API: {message}"
  | .kubeconfig path message => s!"Kubeconfig {path}: {message}"

structure Violation where
  subject : String
  field : String
  message : String
  deriving DecidableEq, Repr

def Violation.render (v : Violation) : String := s!"{v.subject}: {v.field}: {v.message}"

def numbered : Nat → List Violation → String
  | _, [] => ""
  | n, v :: rest => s!"  {n}. {v.render}\n" ++ numbered (n + 1) rest

structure PluginOrderError where
  plugin : String
  requires : String
  reason : String
  deriving DecidableEq, Repr

def PluginOrderError.message (e : PluginOrderError) : String :=
  s!"plugin '{e.plugin}' requires '{e.requires}': {e.reason}"

inductive RemoteError where
  | timeout (after : String)
  | remote (message : String)
  | rejected (resource message : String)
  | cancelled
  deriving DecidableEq, Repr

def RemoteError.message : RemoteError → String
  | .timeout after => s!"timed out after {after}"
  | .remote message => message
  | .rejected resource message => s!"{resource} rejected: {message}"
  | .cancelled => "cancelled"

def RemoteError.timedOut (limit : Duration) : RemoteError := .timeout limit.render

inductive Error where
  | definition (e : DefinitionError)
  | credential (e : CredentialError)
  | registry (e : RegistryError)
  | provider (e : ProviderError)
  | validation (violations : List Violation)
  | pluginOrder (e : PluginOrderError)
  | execution (stage : Stage) (cause : RemoteError)
  | io (message : String)
  | internal (message : String)
  deriving DecidableEq, Repr

namespace Error

def message : Error → String
  | .definition e => "Configuration error: " ++ e.message
  | .credential e => "Credential error: " ++ e.message
  | .registry e => "Registry error: " ++ e.message
  | .provider e => "Provider error: " ++ e.message
  | .validation violations =>
    s!"Validation failed with {violations.length} violation(s):\n" ++ numbered 1 violations
  | .pluginOrder e => "Plugin order error: " ++ e.message
  | .execution stage cause => s!"Execution error: {stage.name} failed: {cause.message}"
  | .io message => "IO error: " ++ message
  | .internal message => "Internal error: " ++ message

def isRetryable : Error → Bool
  | .provider (.rateLimited _ _) => true
  | .provider (.network _ _) => true
  | _ => false

def retryDelay? : Error → Option Nat
  | .provider (.rateLimited _ seconds) => some seconds
  | _ => none

def stage? : Error → Option Stage
  | .execution stage _ => some stage
  | _ => none

def isUserFixable : Error → Bool
  | .definition _ => true
  | .registry _ => true
  | .validation _ => true
  | .pluginOrder _ => true
  | _ => false

def mentions (field : String) (violations : List Violation) : Bool :=
  violations.any fun v => v.field = field

end Error

end Rollout
