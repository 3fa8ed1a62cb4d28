import Rollout.Credential.Seal
import Rollout.Credential.Table
import Rollout.Host
import Rollout.Settings
import Rollout.Yaml.Reader

namespace Rollout

structure CredentialSource where
  storePath : String
  keyPath : String
  envKey : String
  -- Without a key or a store there are no secrets, unless the source is strict.
  strict : Bool
  deriving DecidableEq, Repr

namespace CredentialSource

def defaultStorePath : String := "config/credentials.yml.enc"
def defaultKeyPath : String := "config/master.key"
def defaultEnvKey : String := "BERTH_MASTER_KEY"

def inProject (root : String) : CredentialSource :=
  ⟨Path.join root defaultStorePath, Path.join root defaultKeyPath, defaultEnvKey, false⟩

def corrupted (source : CredentialSource) (message : String) : Error :=
  .credential (.corrupted source.storePath message)

-- The unlock key without blanks around it. A blank variable does not count.
def readKey (source : CredentialSource) (host : Host) : Except Error (Option String) :=
  let fromFile : Except Error (Option String) :=
    if host.files.present source.keyPath then
      match host.readText source.keyPath with
      | .ok key => .ok (some (Text.trim key))
      | .error e => .error (.io e)
    else .ok none
  match host.value? source.envKey with
  | some key => if (Text.trim key).isEmpty then fromFile else .ok (some (Text.trim key))
  | none => fromFile

def decrypt (source : CredentialSource) (host : Host) : Except Error SecretTable := do
  match ← source.readKey host with
  | none =>
    if source.strict then throw (.credential (.missingKey source.keyPath source.envKey))
    pure []
  | some key =>
    if host.files.present source.storePath then
      match host.readText source.storePath with
      | .error e => throw (.io e)
      | .ok sealed =>
        match Seal.decrypt sealed key with
        | .error e => throw (source.corrupted e.message)
        | .ok plaintext =>
          match Yaml.parse plaintext with
          | .error e => throw (source.corrupted ("decrypted store is not YAML: " ++ e))
          | .ok document => pure (SecretTable.ofYaml document)
    else
      if source.strict then throw (source.corrupted "file not found")
      pure []

structure Entropy where
  key : List UInt8
  nonce : List UInt8

def createParent (files : FileTree) (path : String) : Except FileError Unit × FileTree :=
  match Path.parent? path with
  | some up => files.ensureDir up
  | none => (.ok (), files)

-- A file with the directories above it, and the files as they are left behind, also by a failure.
def putFile (files : FileTree) (path : String) (bytes : List UInt8) :
    Except FileError Unit × FileTree :=
  match createParent files path with
  | (.error e, files) => (.error e, files)
  | (.ok (), files) => files.settle (files.write path bytes)

-- The key to seal with, and the files after a new key was written if there was none.
def ensureKey (source : CredentialSource) (entropy : Entropy) (host : Host) :
    Except Error (String × Bool) × FileTree :=
  match source.readKey host with
  | .error e => (.error e, host.files)
  | .ok (some key) => (.ok (key, false), host.files)
  | .ok none =>
    let key := Hex.encode entropy.key
    match putFile host.files source.keyPath (Utf8.encode (key ++ "\n")) with
    | (.error e, files) => (.error (.io e.message), files)
    | (.ok (), files) => (.ok (key, true), files)

-- Seals a YAML mapping into the store. The answer tells whether a key file was made; the files are
-- those after the last step that was taken, also if it failed.
def writeStore (source : CredentialSource) (entropy : Entropy) (plaintext : String) (host : Host) :
    Except Error Bool × FileTree :=
  match Yaml.parse plaintext with
  | .error e => (.error (source.corrupted ("plaintext is not YAML: " ++ e)), host.files)
  | .ok document =>
    if !document.isMapping then
      (.error (source.corrupted "plaintext must be a YAML mapping"), host.files)
    else
      match source.ensureKey entropy host with
      | (.error e, files) => (.error e, files)
      | (.ok (key, created), files) =>
        match Seal.encrypt entropy.nonce plaintext key with
        | .error e => (.error (source.corrupted e.message), files)
        | .ok sealed =>
          match putFile files source.storePath (Utf8.encode sealed) with
          | (.error e, files) => (.error (.io e.message), files)
          | (.ok (), files) => (.ok created, files)

end CredentialSource

structure Resolver where
  source : CredentialSource
  table : Option SecretTable

namespace Resolver

def ofSource (source : CredentialSource) : Resolver := ⟨source, none⟩

def isUnlocked (r : Resolver) : Bool := r.table.isSome

-- The table, which is read at most once; after an error it is still to be read.
def unlock (r : Resolver) (host : Host) : Except Error SecretTable × Resolver :=
  match r.table with
  | some table => (.ok table, r)
  | none =>
    match r.source.decrypt host with
    | .ok table => (.ok table, { r with table := some table })
    | .error e => (.error e, r)

def lookup (r : Resolver) (key : String) (table : SecretTable) : Except Error Secret :=
  match table.lookup key with
  | some text => .ok ⟨text⟩
  | none => .error (.credential (.unknownSecret key r.source.storePath))

def resolve (r : Resolver) (host : Host) (key : String) : Except Error Secret × Resolver :=
  let (table, r) := r.unlock host
  (table.bind (r.lookup key), r)

def keys (r : Resolver) (host : Host) : Except Error (List String) × Resolver :=
  let (table, r) := r.unlock host
  (table.map SecretTable.keys, r)

end Resolver

end Rollout
