import Rollout.Sorted
import Rollout.Yaml

namespace Rollout

abbrev SecretTable := List (String × String)

namespace SecretTable

def scalarText? : Yaml → Option String
  | .string s => some s
  | .int i => some (toString i)
  | .float x => some (Yaml.renderFloat x)
  | .bool b => some (toString b)
  | _ => none

def joinKey (above : Option String) (name : String) : String :=
  match above with
  | none => name
  | some above => above ++ "." ++ name

mutual
def leaves (above : Option String) : Yaml → List (String × String)
  | .mapping entries => leavesOf above entries
  | _ => []
def leavesOf (above : Option String) : List (Yaml × Yaml) → List (String × String)
  | [] => []
  | (key, value) :: rest =>
    (match scalarText? key with
      | none => []
      | some name =>
        match scalarText? value with
        | some text => [(joinKey above name, text)]
        | none => leaves (some (joinKey above name)) value) ++
      leavesOf above rest
end

def ofYaml (document : Yaml) : SecretTable :=
  (leaves none document).foldl (fun table (k, v) => Sorted.put k v table) []

def keys (table : SecretTable) : List String := table.map Prod.fst

end SecretTable

end Rollout
