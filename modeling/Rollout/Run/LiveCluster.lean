import Rollout.Run.Outside

namespace Rollout

structure LiveCluster where
  objects : List (ResourceKey × Json)
  -- Kinds and names of resources that it refuses.
  refused : List String

namespace LiveCluster

def empty : LiveCluster := ⟨[], []⟩

def body? (cluster : LiveCluster) (key : ResourceKey) : Option Json := cluster.objects.lookup key

def put (key : ResourceKey) (body : Json) : List (ResourceKey × Json) → List (ResourceKey × Json)
  | [] => [(key, body)]
  | (k, b) :: rest => if k = key then (key, body) :: rest else (k, b) :: put key body rest

def store (cluster : LiveCluster) (r : Resource) : LiveCluster :=
  { cluster with objects := put r.key r.body cluster.objects }

def forget (cluster : LiveCluster) (kind : String) : LiveCluster :=
  { cluster with objects := cluster.objects.filter fun (key, _) => key.kind ≠ kind }

def denied : String := "admission webhook denied the request"

def refuses (cluster : LiveCluster) (r : Resource) : Bool :=
  cluster.refused.contains r.kind || cluster.refused.contains r.name

def apply (r : Resource) (cluster : LiveCluster) : ApplyResult × LiveCluster :=
  if cluster.refuses r then (.error (.rejected r.key.render denied), cluster)
  else if cluster.body? r.key = some r.body then (.ok .unchanged, cluster)
  else (.ok .applied, cluster.store r)

def keys (cluster : LiveCluster) : List ResourceKey :=
  (cluster.objects.map Prod.fst).mergeSort fun a b => !b.before a

end LiveCluster

end Rollout
