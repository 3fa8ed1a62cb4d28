import Mathlib.Tactic.SplitIfs
import Rollout.Provider.DigitalOcean

namespace Rollout.DigitalOcean

-- No connection, too many requests, or a fault of the server.
def Passing : Http.Outcome → Prop
  | .failed _ => True
  | .response r => r.status = 429 ∨ 500 ≤ r.status ∧ r.status < 600

def HasStatus (outcome : Http.Outcome) (status : Nat) : Prop :=
  ∃ r, outcome = .response r ∧ r.status = status

def play (script : Nat → Http.Outcome) (made : Nat) : Http.Outcome × Nat :=
  (script made, made + 1)

section Sending

variable {σ : Type} (send : σ → Http.Outcome × σ)

-- The other side behind a number of requests, and its outcome for the one that comes then.
def behind (s : σ) : Nat → σ
  | 0 => s
  | made + 1 => behind (send s).2 made

def outcome (s : σ) (made : Nat) : Http.Outcome := (send (behind send s made)).1

end Sending

inductive Judged : Http.Outcome → Except ProviderError Http.Response → Prop where
  | unreachable (message told : String) :
      Judged (.failed message) (.error (.network providerId told))
  | limited {r : Http.Response} (status : r.status = 429) :
      Judged (.response r) (.error (.rateLimited providerId
        (((r.header? "retry-after").bind seconds?).getD defaultRetryAfter)))
  | refused {r : Http.Response} (status : r.status = 401 ∨ r.status = 403) (message : String) :
      Judged (.response r) (.error (.authenticationFailed providerId message))
  | broken {r : Http.Response} (status : 500 ≤ r.status ∧ r.status < 600) (message : String) :
      Judged (.response r) (.error (.network providerId message))
  | success {r : Http.Response} (status : 200 ≤ r.status ∧ r.status < 300) :
      Judged (.response r) (.ok r)
  | other {r : Http.Response} (calm : ¬ Passing (.response r))
      (allowed : ¬ (r.status = 401 ∨ r.status = 403))
      (failed : ¬ (200 ≤ r.status ∧ r.status < 300)) (message : String) :
      Judged (.response r) (.error (.requestFailed providerId r.status message))

theorem judged (outcome : Http.Outcome) : Judged outcome (judge outcome) := by
  cases outcome with
  | failed message => exact .unreachable message _
  | response r =>
    simp only [judge, Http.Response.isServerError, Http.Response.isSuccess, Bool.and_eq_true,
      decide_eq_true_eq]
    split_ifs with limited refused broken success
    · exact .limited limited
    · exact .refused refused _
    · exact .broken broken _
    · exact .success success
    · exact .other (not_or.mpr ⟨limited, broken⟩) refused success _

namespace Client

-- The wait behind an outcome before the cap, for the outcome of the `nth` request.
def pause (c : Client) : Http.Outcome → Nat → Duration
  | .response r, nth =>
    if r.status = 429 then .ofSeconds (((r.header? "retry-after").bind seconds?).getD 60)
    else ⟨nth * c.retryDelay.nanos⟩
  | .failed _, nth => ⟨nth * c.retryDelay.nanos⟩

def wait (c : Client) (outcome : Http.Outcome) (nth : Nat) : Duration :=
  ⟨min c.maxRetryDelay.nanos (c.pause outcome nth).nanos⟩

-- A delay whose products stay below the 2 ^ 64 seconds that end the durations.
def Short (c : Client) : Prop := c.retryDelay.nanos < Nat.pow 2 63 * 1000000000

def conclude {α : Type} (cluster : String) (read : Http.Response → Except ProviderError α)
    (outcome : Http.Outcome) : Except ProviderError α :=
  match judge outcome with
  | .ok r => read r
  | .error e => .error (notFound cluster e)

variable {α σ : Type} {c : Client} {cluster : String} {send : σ → Http.Outcome × σ}

theorem capped (c : Client) (wanted : Duration) :
    (if wanted.nanos ≤ c.maxRetryDelay.nanos then wanted else c.maxRetryDelay) =
      ⟨min c.maxRetryDelay.nanos wanted.nanos⟩ := by
  split_ifs with short
  · rw [Nat.min_eq_right short]
  · rw [Nat.min_eq_left (Nat.le_of_not_le short)]

end Client

-- A run of tries over a script: the number of requests, and the waits between them.
structure Tried (c : Client) (script : Nat → Http.Outcome) (made : Nat) (waits : List Duration) :
    Prop where
  settled : ∀ k, ¬ Passing (script k) → (∀ j < k, Passing (script j)) → made = min 3 (k + 1)
  unsettled : (∀ j, Passing (script j)) → made = 3
  waited : waits = (List.range (made - 1)).map fun j => c.wait (script j) (j + 1)
  capped : ∀ wait ∈ waits, wait.nanos ≤ c.maxRetryDelay.nanos
  held : c.Short → ∀ j < made - 1, (j + 1) * c.retryDelay.nanos < Nat.pow 2 64 * 1000000000

-- What the last outcome makes of the result.
structure Decided {α : Type} (cluster : String) (last : Http.Outcome)
    (result : Except ProviderError α) : Prop where
  notFound : (∃ id, result = .error (.clusterNotFound id)) ↔ HasStatus last 404
  named : ∀ id, result = .error (.clusterNotFound id) → id = cluster
  refused : (∃ provider message, result = .error (.authenticationFailed provider message)) ↔
    HasStatus last 401 ∨ HasStatus last 403
  limited : (∃ provider seconds, result = .error (.rateLimited provider seconds)) ↔
    HasStatus last 429
  network : (∃ provider message, result = .error (.network provider message)) ↔
    (∃ message, last = .failed message) ∨
      ∃ status, 500 ≤ status ∧ status < 600 ∧ HasStatus last status
  success : ∀ a, result = .ok a → ∃ status, 200 ≤ status ∧ status < 300 ∧ HasStatus last status

-- A question about a cluster over a script. Of all outcomes only the last one has a part in the
-- result.
structure Asked {α σ : Type} (c : Client) (cluster : String)
    (read : Http.Response → Except ProviderError α) (script : Nat → Http.Outcome) (made : Nat)
    (run : Except ProviderError α × List Duration × σ) : Prop where
  tried : Tried c script made run.2.1
  determined : run.1 = Client.conclude cluster read (script (made - 1))
  decided : Decided cluster (script (made - 1)) run.1

namespace Client

end Client

end Rollout.DigitalOcean
