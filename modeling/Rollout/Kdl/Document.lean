import Rollout.Number.Binary64
import Rollout.Text.Quoted

namespace Rollout.Kdl

inductive Scalar where
  | string (s : String)
  | integer (i : Int)
  | decimal (x : Binary64)
  | boolean (b : Bool)
  | null
  deriving DecidableEq, Repr

def Scalar.render : Scalar → String
  | .string s => Text.quoted s
  | .integer i => toString i
  | .decimal (.infinite false) => "#inf"
  | .decimal (.infinite true) => "#-inf"
  | .decimal .notANumber => "#nan"
  | .decimal x => (x.render? Binary64.fromTenThousandth).getD "#nan"
  | .boolean b => if b then "#true" else "#false"
  | .null => "#null"

structure Entry where
  name : Option String
  type : Option String
  value : Scalar
  deriving DecidableEq, Repr

structure Node where
  offset : Nat
  name : String
  entries : List Entry
  children : Option (List Node)

namespace Node

def arguments (node : Node) : List Entry := node.entries.filter fun e => e.name.isNone

def properties (node : Node) : List Entry := node.entries.filter fun e => e.name.isSome

def nodes (node : Node) : List Node := node.children.getD []

end Node

end Rollout.Kdl
