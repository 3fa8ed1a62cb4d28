import Rollout.Number.Binary64

namespace Rollout

inductive Yaml where
  | null
  | bool (b : Bool)
  | int (i : Int)
  | float (x : Binary64)
  | string (s : String)
  | sequence (items : List Yaml)
  | mapping (entries : List (Yaml × Yaml))
  | tagged (tag : String) (value : Yaml)
  deriving Inhabited

namespace Yaml

mutual
def same : (a b : Yaml) → Bool
  | .null, .null => true
  | .bool a, .bool b => a == b
  | .int a, .int b => a == b
  | .float a, .float b => a == b
  | .string a, .string b => a == b
  | .sequence as, .sequence bs => sameItems as bs
  | .mapping as, .mapping bs => sameEntries as bs
  | .tagged t a, .tagged u b => t == u && same a b
  | _, _ => false
def sameItems : (as bs : List Yaml) → Bool
  | [], [] => true
  | a :: as, b :: bs => same a b && sameItems as bs
  | _, _ => false
def sameEntries : (as bs : List (Yaml × Yaml)) → Bool
  | [], [] => true
  | (k, a) :: as, (l, b) :: bs => same k l && same a b && sameEntries as bs
  | _, _ => false
end

def untagged : Yaml → Yaml
  | .tagged _ v => untagged v
  | v => v

def isMapping (v : Yaml) : Bool :=
  match v.untagged with
  | .mapping _ => true
  | _ => false

def renderFloat : Binary64 → String
  | .infinite false => ".inf"
  | .infinite true => "-.inf"
  | .notANumber => ".nan"
  | x => (x.render? Binary64.fromHundredThousandth).getD ".nan"

end Yaml

end Rollout
