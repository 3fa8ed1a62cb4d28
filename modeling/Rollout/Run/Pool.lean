import Rollout.Run.Outside

namespace Rollout

-- What happens next in a pool: the next call begins, or one of those in flight ends, given by its
-- position among them.
inductive Turn where
  | start
  | finish (position : Nat)
  deriving DecidableEq, Repr

-- The turns of each tier, by the number of the tier and of the turn. A turn that is not possible is
-- replaced by one that is.
abbrev Schedule := Nat → Nat → Turn

structure Pool where
  waiting : List (Nat × Resource)
  flying : List (Nat × Resource)
  finished : List (Nat × ApplyResult)

namespace Pool

def ofTier (tier : List Resource) : Pool := ⟨tier.mapIdx fun i r => (i, r), [], []⟩

def mayStart (limit : Nat) (pool : Pool) : Bool :=
  !pool.waiting.isEmpty && pool.flying.length < limit

def possible (limit : Nat) (pool : Pool) : Turn → Turn
  | .start => if pool.mayStart limit then .start else .finish 0
  | .finish i =>
    if i < pool.flying.length then .finish i
    else if pool.mayStart limit then .start
    else .finish 0

structure Stand (σ : Type) where
  pool : Pool
  events : List RunEvent
  outside : σ

variable {σ : Type}

-- The next call begins, unless somebody has asked to stop.
def start (outside : Outside σ) (s : Stand σ) : Stand σ :=
  match s.pool.waiting with
  | [] => s
  | (i, r) :: rest =>
    if outside.cancelled s.outside then
      { s with pool := ⟨rest, s.pool.flying, s.pool.finished ++ [(i, .error .cancelled)]⟩ }
    else
      ⟨⟨rest, s.pool.flying ++ [(i, r)], s.pool.finished⟩, s.events ++ [.started r],
        outside.start r s.outside⟩

def finish (outside : Outside σ) (timeLimit : Duration) (position : Nat) (s : Stand σ) : Stand σ :=
  match s.pool.flying[position]? with
  | none => s
  | some (i, r) =>
    let (answer, after) := outside.finish r s.outside
    let result := answer.within timeLimit
    ⟨⟨s.pool.waiting, s.pool.flying.eraseIdx position, s.pool.finished ++ [(i, result)]⟩,
      s.events ++ [.ended r result], after⟩

def turn (outside : Outside σ) (limit : Nat) (timeLimit : Duration) (t : Turn) (s : Stand σ) :
    Stand σ :=
  match s.pool.possible limit t with
  | .start => start outside s
  | .finish i => finish outside timeLimit i s

-- Turns that are needed until every call is over: two for one that waits, one for one in flight.
def pending (pool : Pool) : Nat := 2 * pool.waiting.length + pool.flying.length

-- Takes `fuel` turns from number `n` on, as long as calls are left.
def drain (outside : Outside σ) (limit : Nat) (timeLimit : Duration) (turns : Nat → Turn) :
    Nat → Nat → Stand σ → Stand σ
  | 0, _, s => s
  | fuel + 1, n, s =>
    if s.pool.pending = 0 then s
    else drain outside limit timeLimit turns fuel (n + 1) (turn outside limit timeLimit (turns n) s)

-- Every call of a tier with its result, in the order of the tier.
def run (outside : Outside σ) (limit : Nat) (timeLimit : Duration) (turns : Nat → Turn)
    (tier : List Resource) (s : σ) : List (Resource × Option ApplyResult) × List RunEvent × σ :=
  let pool := ofTier tier
  let stand := drain outside limit timeLimit turns pool.pending 0 ⟨pool, [], s⟩
  (tier.mapIdx fun i r => (r, stand.pool.finished.lookup i), stand.events, stand.outside)

end Pool

def accepted (results : List (Resource × Option ApplyResult)) : List (ResourceKey × ApplyOutcome) :=
  results.filterMap fun (r, result) =>
    match result with
    | some (.ok outcome) => some (r.key, outcome)
    | _ => none

def firstFailure? (results : List (Resource × Option ApplyResult)) : Option RemoteError :=
  results.findSome? fun (_, result) =>
    match result with
    | some (.error cause) => some cause
    | _ => none

end Rollout
