namespace Rollout

def fitsUnsigned (bits n : Nat) : Bool := n < Nat.pow 2 bits

def fitsSigned (bits : Nat) (i : Int) : Bool :=
  if 0 ≤ i then i.natAbs < Nat.pow 2 (bits - 1) else i.natAbs ≤ Nat.pow 2 (bits - 1)

def fitsWord (bits : Nat) (i : Int) : Bool :=
  fitsSigned bits i || (0 ≤ i && fitsUnsigned bits i.natAbs)

end Rollout
