namespace Rollout.Yaml

structure Place where
  line : Nat
  column : Nat
  deriving DecidableEq, Repr

-- The place for readers, who count from one. Nothing is said of the very beginning.
def Place.suffix (p : Place) : String :=
  if p.line = 0 ∧ p.column = 0 then "" else s!" at line {p.line + 1} column {p.column + 1}"

def Place.right (p : Place) : Place := { p with column := p.column + 1 }

structure Fault where
  problem : String
  place : Place
  during : Option (String × Place)
  deriving DecidableEq, Repr

def Fault.message (f : Fault) : String :=
  f.problem ++ f.place.suffix ++
    match f.during with
    | some (what, since) => ", " ++ what ++ (if since = f.place then "" else since.suffix)
    | none => ""

end Rollout.Yaml
