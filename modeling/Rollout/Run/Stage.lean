namespace Rollout

inductive Stage where
  | resolving
  | building
  | pushing
  | applying
  deriving DecidableEq, Repr

namespace Stage

def name : Stage → String
  | .resolving => "Resolving"
  | .building => "Building"
  | .pushing => "Pushing"
  | .applying => "Applying"

def key : Stage → String
  | .resolving => "resolving"
  | .building => "building"
  | .pushing => "pushing"
  | .applying => "applying"

def ofKey? (key : String) : Option Stage :=
  [resolving, building, pushing, applying].find? fun stage => stage.key = key

theorem ofKey?_key (stage : Stage) : ofKey? stage.key = some stage := by
  cases stage <;> rfl

end Stage

end Rollout
