import Rollout.Cipher.Sha256
import Rollout.Resource
import Rollout.Text.Utf8

namespace Rollout

structure Manifest where
  resources : List Resource

namespace Manifest

-- Puts a resource in the place of the one with its key, or behind all others.
def putResource (r : Resource) : List Resource → List Resource
  | [] => [r]
  | s :: rest => if s.key = r.key then r :: rest else s :: putResource r rest

def merge (declared : List Resource) : List Resource :=
  declared.foldl (fun acc r => putResource r acc) []

def ofResources (declared : List Resource) : Manifest :=
  ⟨(merge declared).mergeSort fun a b => a.precedence ≤ b.precedence⟩

def tiers (m : Manifest) : List (List Resource) :=
  m.resources.splitBy fun a b => a.precedence == b.precedence

def get? (m : Manifest) (key : ResourceKey) : Option Resource :=
  m.resources.find? fun r => r.key = key

def toYaml (m : Manifest) : String :=
  String.join (m.resources.map fun r => "---\n" ++ r.toYaml)

def digest (m : Manifest) : String := Sha256.hexDigest (Utf8.encode m.toYaml)

end Manifest

end Rollout
