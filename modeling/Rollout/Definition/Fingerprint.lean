import Rollout.Cipher.Sha256
import Rollout.Definition
import Rollout.Host
import Rollout.Json.Writer

namespace Rollout.Fingerprint

def ofBytes (bytes : List UInt8) : String := Sha256.hexDigest bytes

def ofEnvironment (env : Environment) : String := ofBytes (Utf8.encode env.toJson.render)

def skippedDirs : List String := [".git", "log", "tmp", "node_modules"]

def sortByName {α : Type} (entries : List (String × α)) : List (String × α) :=
  entries.mergeSort fun a b => !(b.1 < a.1)

mutual
-- The files below a node, with the names on the way, directory by directory in the order of their
-- names.
def walk : FileNode → List (List String × List UInt8)
  | .file bytes => [([], bytes)]
  | .dir entries =>
    (sortByName (walkEntries entries)).flatMap fun (name, found) =>
      found.map fun (path, bytes) => (name :: path, bytes)
  | .link _ => []
def walkEntries : List (String × FileNode) → List (String × List (List String × List UInt8))
  | [] => []
  | (name, .dir entries) :: rest =>
    (name, if skippedDirs.contains name then [] else walk (.dir entries)) :: walkEntries rest
  | (name, node) :: rest => (name, walk node) :: walkEntries rest
end

def frame (files : List (List String × List UInt8)) : List UInt8 :=
  files.flatMap fun (path, bytes) => Utf8.encode ("/".intercalate path) ++ 0 :: bytes ++ [0]

def ofContext (host : Host) (dir : String) : Except Error String :=
  match host.files.node dir with
  | .ok node => .ok (ofBytes (frame (walk node)))
  | .error e => .error (.io s!"IO error for operation on {dir}: {e.message}")

def tagLength : Nat := 12

def tagInput (env : Environment) (context : String) : List UInt8 :=
  Utf8.encode (ofEnvironment env ++ ":" ++ context)

def defaultTag (host : Host) (env : Environment) (root : String) : Except Error String := do
  let context ← ofContext host (Path.join root env.docker.buildContext)
  pure (String.ofList ((ofBytes (tagInput env context)).toList.take tagLength))

end Rollout.Fingerprint
