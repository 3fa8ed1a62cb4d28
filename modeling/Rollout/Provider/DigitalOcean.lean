import Rollout.Duration
import Rollout.Json.Reader
import Rollout.Provider
import Rollout.Settings.Check

namespace Rollout

namespace Json

-- The fields of a record by name. An object may hold others as well, but none of these twice; an
-- array gives them in order, each exactly once.
def record? (names : List String) : Json → Option (List (Option Json))
  | .object fields =>
    if names.all fun n => (fields.map Prod.fst).count n ≤ 1 then
      some (names.map fun n => fields.lookup n)
    else none
  | .array items => if items.length = names.length then some (items.map some) else none
  | _ => none

def optionalString? : Option Json → Option (Option String)
  | none => some none
  | some .null => some none
  | some (.string s) => some (some s)
  | _ => none

end Json

namespace DigitalOcean

def providerId : String := "digitalocean"
def defaultApiUrl : String := "https://api.digitalocean.com"

def maxAttempts : Nat := 3

-- The seconds to wait when the server asks for a pause and does not say how long.
def defaultRetryAfter : Nat := 60

structure Client where
  baseUrl : String
  token : String
  retryDelay : Duration
  maxRetryDelay : Duration
  deriving DecidableEq, Repr

def dropSlashes (s : String) : String :=
  String.ofList ((s.toList.reverse.dropWhile (· == '/')).reverse)

def Client.new (baseUrl token : String) : Client :=
  ⟨dropSlashes baseUrl, token, Duration.ofMillis 1000, Duration.ofSeconds 30⟩

def seconds? (text : String) : Option Nat :=
  let digits := match text.toList with
    | '+' :: rest => rest
    | rest => rest
  if digits.isEmpty || !digits.all Text.isDigit then none
  else
    let n := Text.digitsValue digits
    if fitsUnsigned 64 n then some n else none

def bodyMessage (body : String) : String :=
  match (Json.parse? body).bind fun j => j.record? ["message"] with
  | some [some (.string message)] => message
  | _ => body

def judge : Http.Outcome → Except ProviderError Http.Response
  | .failed message => .error (.network providerId s!"Request failed: {message}")
  | .response r =>
    if r.status = 429 then
      .error (.rateLimited providerId
        (((r.header? "retry-after").bind seconds?).getD defaultRetryAfter))
    else if r.status = 401 ∨ r.status = 403 then
      .error (.authenticationFailed providerId "Invalid access token")
    else if r.isServerError then
      .error (.network providerId (Http.statusText r.status ++ ": " ++ r.text?.getD ""))
    else if r.isSuccess then .ok r
    else .error (.requestFailed providerId r.status (bodyMessage (r.text?.getD "")))

namespace Client

-- The wait before the next try: what the server asked for, or longer with every attempt. The product
-- is taken in full here; for a delay of 2 ^ 63 seconds or more a duration could not hold it.
def backoff (c : Client) (e : ProviderError) (attempt : Nat) : Duration :=
  let wanted := match (Error.provider e).retryDelay? with
    | some seconds => Duration.ofSeconds seconds
    | none => ⟨c.retryDelay.nanos * attempt⟩
  if wanted.nanos ≤ c.maxRetryDelay.nanos then wanted else c.maxRetryDelay

-- Tries from the given attempt on; `left` more tries are allowed after the first one here. What
-- `send` answers is judged, and the waits are collected.
def attempts {σ : Type} (c : Client) (send : σ → Http.Outcome × σ) :
    Nat → Nat → σ → Except ProviderError Http.Response × List Duration × σ
  | 0, _, s =>
    let (outcome, s) := send s
    (judge outcome, [], s)
  | left + 1, attempt, s =>
    let (outcome, s) := send s
    match judge outcome with
    | .ok r => (.ok r, [], s)
    | .error e =>
      if (Error.provider e).isRetryable then
        let (result, waits, s) := attempts c send left (attempt + 1) s
        (result, c.backoff e attempt :: waits, s)
      else (.error e, [], s)

def request {σ : Type} (c : Client) (send : σ → Http.Outcome × σ) (s : σ) :
    Except ProviderError Http.Response × List Duration × σ :=
  attempts c send (maxAttempts - 1) 1 s

def clusterPath (cluster : String) : String := "/v2/kubernetes/clusters/" ++ cluster

def notFound (cluster : String) : ProviderError → ProviderError
  | .requestFailed _ 404 _ => .clusterNotFound cluster
  | e => e

def clusterOf? (j : Json) : Option ClusterInfo := do
  match ← j.record? ["kubernetes_cluster"] with
  | [some cluster] =>
    match ← cluster.record? ["id", "name", "region", "version", "endpoint"] with
    | [some (.string id), some (.string name), region, version, endpoint] =>
      some ⟨id, name, ← Json.optionalString? region, ← Json.optionalString? version,
        ← Json.optionalString? endpoint⟩
    | _ => none
  | _ => none

def undecodable : String := "error decoding response body"

def readCluster (r : Http.Response) : Except ProviderError ClusterInfo :=
  let found := do
    if !r.complete then none
    let text ← (Utf8.decode r.body).toOption
    clusterOf? (← Json.parse? text)
  match found with
  | some info => .ok info
  | none => .error (.invalidResponse providerId s!"Failed to parse response: {undecodable}")

def readKubeconfig (r : Http.Response) : Except ProviderError String :=
  match r.text? with
  | none => .error (.invalidResponse providerId s!"Failed to read kubeconfig: {undecodable}")
  | some text =>
    if (Text.trim text).isEmpty then .error (.invalidResponse providerId "empty kubeconfig")
    else .ok text

def ask {σ α : Type} (c : Client) (cluster : String) (read : Http.Response → Except ProviderError α)
    (send : σ → Http.Outcome × σ) (s : σ) : Except ProviderError α × List Duration × σ :=
  let (result, waits, s) := c.request send s
  (match result with
    | .ok r => read r
    | .error e => .error (notFound cluster e), waits, s)

def sender (c : Client) (path : String) (wire : Http.Wire) : Http.Outcome × Http.Wire :=
  Http.get (c.baseUrl ++ path) ("Bearer " ++ c.token) wire

def getCluster (c : Client) (cluster : String) (wire : Http.Wire) :
    Except ProviderError ClusterInfo × List Duration × Http.Wire :=
  c.ask cluster readCluster (c.sender (clusterPath cluster)) wire

def getKubeconfig (c : Client) (cluster : String) (wire : Http.Wire) :
    Except ProviderError String × List Duration × Http.Wire :=
  c.ask cluster readKubeconfig (c.sender (clusterPath cluster ++ "/kubeconfig")) wire

end Client

structure Config where
  accessToken : String
  clusterId : String
  apiUrl : String
  deriving DecidableEq, Repr

def fields : List String := ["access_token", "cluster_id", "api_url"]

def urlViolations (check : Check) (url : String) : List Violation :=
  if "http://".toList.isPrefixOf url.toList || "https://".toList.isPrefixOf url.toList then []
  else [check.violation "api_url" "must be an http(s) URL"]

def ofSettings (settings : Settings) : Except (List Violation) Config :=
  let check := Check.ofSettings ("provider " ++ providerId) settings
  let (token, v1) := check.text "access_token" true
  let (cluster, v2) := check.text "cluster_id" true
  let (url, v3) := check.text "api_url" false
  let url := url.getD defaultApiUrl
  let violations := v1 ++ v2 ++ v3 ++ urlViolations check url ++ check.only fields
  match token, cluster, violations with
  | some token, some cluster, [] => .ok ⟨token, cluster, url⟩
  | _, _, violations => .error violations

def violationsOf : Except (List Violation) Config → List Violation
  | .ok _ => []
  | .error violations => violations

def inquire {α : Type} (config : Except (List Violation) Config)
    (ask : Config → Client → Http.Wire → Except ProviderError α × List Duration × Http.Wire) :
    Inquiry α := fun _ wire =>
  match config with
  | .error violations => (.error (.validation violations), wire)
  | .ok config =>
    let (result, _, wire) := ask config (Client.new config.apiUrl config.accessToken) wire
    (result.mapError Error.provider, wire)

def provider (settings : Settings) : Provider :=
  let config := ofSettings settings
  ⟨providerId, violationsOf config,
    inquire config fun config client wire =>
      let (result, waits, wire) := client.getKubeconfig config.clusterId wire
      (result.map fun contents => ⟨none, contents⟩, waits, wire),
    inquire config fun config client wire => client.getCluster config.clusterId wire⟩

end DigitalOcean

end Rollout
