import Rollout.Proofs.Credential.Unlocking
import Rollout.Proofs.Definition.Origins

namespace Rollout.Resolver

inductive Request where
  | resolve (key : String)
  | keys
  | unlock
  | isUnlocked
  deriving DecidableEq

inductive Reply where
  | secret (value : Secret)
  | names (keys : List String)
  | unlocked
  | status (unlocked : Bool)
  deriving DecidableEq

def ask (r : Resolver) (host : Host) : Request → Except Error Reply × Resolver
  | .resolve key =>
    let (found, after) := r.resolve host key
    (found.map .secret, after)
  | .keys =>
    let (found, after) := r.keys host
    (found.map .names, after)
  | .unlock =>
    let (found, after) := r.unlock host
    (found.map fun _ => .unlocked, after)
  | .isUnlocked => (.ok (.status r.isUnlocked), r)

def Request.needsTable : Request → Bool
  | .isUnlocked => false
  | _ => true

def told (source : CredentialSource) (table : SecretTable) : Request → Except Error Reply
  | .resolve key =>
    match table.lookup key with
    | some text => .ok (.secret ⟨text⟩)
    | none => .error (.credential (.unknownSecret key source.storePath))
  | .keys => .ok (.names table.keys)
  | .unlock => .ok .unlocked
  | .isUnlocked => .ok (.status true)

variable {source : CredentialSource} {host : Host} {table : SecretTable}

theorem ask_unlocked (source : CredentialSource) (table : SecretTable) (host : Host)
    (request : Request) :
    (⟨source, some table⟩ : Resolver).ask host request =
      (told source table request, ⟨source, some table⟩) := by
  cases request with
  | resolve key =>
    simp only [ask, resolve, unlock, told, Except.bind, lookup]
    cases table.lookup key with
    | none => rfl
    | some text => rfl
  | keys => rfl
  | unlock => rfl
  | isUnlocked => rfl

theorem unlock_opens (decrypted : source.decrypt host = .ok table) :
    (ofSource source).unlock host = (.ok table, ⟨source, some table⟩) := by
  simp [unlock, ofSource, decrypted]

theorem unlock_fails {e : Error} (decrypted : source.decrypt host = .error e) :
    (ofSource source).unlock host = (.error e, ofSource source) := by
  simp [unlock, ofSource, decrypted]

theorem ask_opens {request : Request} (needs : request.needsTable = true)
    (decrypted : source.decrypt host = .ok table) :
    (ofSource source).ask host request = (told source table request, ⟨source, some table⟩) := by
  rw [← ask_unlocked source table host request]
  have same : (ofSource source).unlock host = (⟨source, some table⟩ : Resolver).unlock host :=
    unlock_opens decrypted
  cases request with
  | resolve key => simp only [ask, resolve, same]
  | keys => simp only [ask, keys, same]
  | unlock => simp only [ask, same]
  | isUnlocked => cases needs

theorem ask_fails {request : Request} {e : Error} (needs : request.needsTable = true)
    (decrypted : source.decrypt host = .error e) :
    (ofSource source).ask host request = (.error e, ofSource source) := by
  cases request with
  | resolve key => simp [ask, resolve, unlock_fails decrypted, Except.bind, Except.map]
  | keys => simp [ask, keys, unlock_fails decrypted, Except.map]
  | unlock => simp [ask, unlock_fails decrypted, Except.map]
  | isUnlocked => cases needs

-- A call: the host at its moment, what was asked and what was answered.
structure Call where
  host : Host
  request : Request
  answer : Except Error Reply

-- The calls on a new resolver, and what they leave of it. Between two of them the host may have
-- become any other.
inductive Log (source : CredentialSource) : List Call → Resolver → Prop where
  | nil : Log source [] (ofSource source)
  | call {calls : List Call} {r after : Resolver} {host : Host} {request : Request}
      {answer : Except Error Reply} (earlier : Log source calls r)
      (asked : r.ask host request = (answer, after)) :
      Log source (calls ++ [⟨host, request, answer⟩]) after

inductive Refused (source : CredentialSource) : Call → Prop where
  | status {host : Host} : Refused source ⟨host, .isUnlocked, .ok (.status false)⟩
  | failed {host : Host} {request : Request} {e : Error} (needs : request.needsTable = true)
      (decrypted : source.decrypt host = .error e) : Refused source ⟨host, request, .error e⟩

-- Either nothing could be read so far, or `first` was the first call that could.
inductive Snapshot (source : CredentialSource) : List Call → Resolver → Prop where
  | locked {calls : List Call} (refused : ∀ c ∈ calls, Refused source c) :
      Snapshot source calls (ofSource source)
  | opened {before after : List Call} {first : Call} {table : SecretTable}
      (refused : ∀ c ∈ before, Refused source c) (needs : first.request.needsTable = true)
      (decrypted : source.decrypt first.host = .ok table)
      (answered : ∀ c ∈ first :: after, c.answer = told source table c.request) :
      Snapshot source (before ++ first :: after) ⟨source, some table⟩

theorem Snapshot.call {calls : List Call} {r after : Resolver} {request : Request}
    {answer : Except Error Reply} (snapshot : Snapshot source calls r)
    (asked : r.ask host request = (answer, after)) :
    Snapshot source (calls ++ [⟨host, request, answer⟩]) after := by
  cases snapshot with
  | locked refused =>
    have stays : ∀ c, Refused source c → ∀ c' ∈ calls ++ [c], Refused source c' := by
      intro c here c' member
      rcases List.mem_append.mp member with earlier | last
      · exact refused c' earlier
      · rwa [List.mem_singleton.mp last]
    cases needs : request.needsTable with
    | false =>
      cases request with
      | isUnlocked =>
        obtain ⟨rfl, rfl⟩ := Prod.mk.inj asked
        exact .locked (stays _ .status)
      | _ => cases needs
    | true =>
      cases decrypted : source.decrypt host with
      | error e =>
        rw [ask_fails needs decrypted] at asked
        obtain ⟨rfl, rfl⟩ := Prod.mk.inj asked
        exact .locked (stays _ (.failed needs decrypted))
      | ok table =>
        rw [ask_opens needs decrypted] at asked
        obtain ⟨rfl, rfl⟩ := Prod.mk.inj asked
        refine .opened refused needs decrypted ?_
        intro c member
        rw [List.mem_singleton.mp member]
  | @opened before later first table refused needs decrypted answered =>
    rw [ask_unlocked] at asked
    obtain ⟨rfl, rfl⟩ := Prod.mk.inj asked
    rw [List.append_assoc, List.cons_append]
    refine .opened refused needs decrypted ?_
    intro c member
    rw [← List.cons_append] at member
    rcases List.mem_append.mp member with earlier | last
    · exact answered c earlier
    · rw [List.mem_singleton.mp last]

theorem Log.snapshot {calls : List Call} {r : Resolver} (log : Log source calls r) :
    Snapshot source calls r := by
  induction log with
  | nil =>
    refine .locked ?_
    intro c member
    cases member
  | call earlier asked ih => exact ih.call asked

theorem told_secret {key : String} {secret : Secret}
    (found : told source table (.resolve key) = .ok (.secret secret)) :
    table.lookup key = some secret.text := by
  unfold told at found
  dsimp only at found
  split at found
  · rename_i text there
    cases found
    exact there
  · cases found

theorem Snapshot.resolved {calls : List Call} {r : Resolver} {c : Call} {key : String}
    {secret : Secret} (snapshot : Snapshot source calls r) (member : c ∈ calls)
    (request : c.request = .resolve key) (answer : c.answer = .ok (.secret secret)) :
    ∃ table, r.table = some table ∧ table.lookup key = some secret.text := by
  have unrefused : ¬ Refused source c := by
    intro refused
    cases refused with
    | status => cases request
    | failed => cases answer
  cases snapshot with
  | locked refused => exact absurd (refused c member) unrefused
  | @opened before later first table refused needs decrypted answered =>
    rcases List.mem_append.mp member with earlier | open_
    · exact absurd (refused c earlier) unrefused
    · have here := answered c open_
      rw [request, answer] at here
      exact ⟨table, rfl, told_secret here.symm⟩

-- A lookup all of whose secrets were answers to calls.
def Serves (calls : List Call) (lookup : SecretLookup) : Prop :=
  ∀ key secret, lookup key = .ok secret →
    ∃ c ∈ calls, c.request = .resolve key ∧ c.answer = .ok (.secret secret)

-- A definition that was evaluated, from sources or from files, with such a lookup.
def Evaluated (calls : List Call) (d : Definition) : Prop :=
  ∃ lookup, Serves calls lookup ∧
    ((∃ sources, Definition.ofSources lookup sources = .ok d) ∨
      ∃ host paths, Definition.ofFiles lookup host paths = .ok d)

theorem Evaluated.called {calls : List Call} {d : Definition} {key : String} {secret : Secret}
    (evaluated : Evaluated calls d) (member : (key, secret) ∈ d.references) :
    ∃ c ∈ calls, c.request = .resolve key ∧ c.answer = .ok (.secret secret) := by
  obtain ⟨lookup, serves, ⟨sources, read⟩ | ⟨host, paths, read⟩⟩ := evaluated
  · exact serves key secret ((Definition.ofSources_sourced read).answered _ member)
  · exact serves key secret ((Definition.ofFiles_sourced read).answered _ member)

-- Every log is a snapshot, and all definitions that were evaluated on the way agree on the secrets.
theorem log_consistent {calls : List Call} {r : Resolver} (log : Log source calls r) :
    Snapshot source calls r ∧
      ∀ d d', Evaluated calls d → Evaluated calls d' → ∀ key first second,
        (key, first) ∈ d.references → (key, second) ∈ d'.references → first = second := by
  have snapshot := log.snapshot
  refine ⟨snapshot, ?_⟩
  intro d d' evaluated evaluated' key first second here there
  obtain ⟨c, called, request, answer⟩ := evaluated.called here
  obtain ⟨c', called', request', answer'⟩ := evaluated'.called there
  obtain ⟨table, kept, found⟩ := snapshot.resolved called request answer
  obtain ⟨table', kept', found'⟩ := snapshot.resolved called' request' answer'
  rw [kept] at kept'
  obtain rfl := Option.some.inj kept'
  rw [found] at found'
  obtain ⟨first⟩ := first
  obtain ⟨second⟩ := second
  exact congrArg Secret.mk (Option.some.inj found')

def depotSource : CredentialSource := ⟨"store", "key", "DEPOT_KEY", true⟩

def depotKey : String := "000102030405060708090a0b0c0d0e0f"

def depotSealed : String :=
  ((Seal.encrypt (List.replicate 12 1) "A: b\n" depotKey).toOption).getD ""

theorem depot_sealed :
    Seal.encrypt (List.replicate 12 1) "A: b\n" depotKey = .ok depotSealed := by
  have decoded : Seal.decodeKey depotKey = .ok ((List.range 16).map UInt8.ofNat) := by
    decide +kernel
  have sealed : ∃ text, Seal.encrypt (List.replicate 12 1) "A: b\n" depotKey = .ok text := by
    unfold Seal.encrypt
    rw [decoded]
    exact ⟨_, rfl⟩
  obtain ⟨text, sealed⟩ := sealed
  rw [depotSealed, sealed]
  rfl

def keylessHost : Host := ⟨[], ⟨.dir [], [], []⟩⟩

def keyedHost : Host :=
  ⟨[], ⟨.dir [("key", .file (Utf8.encode (depotKey ++ "\n"))),
    ("store", .file (Utf8.encode depotSealed))], [], []⟩⟩

def depotTable : SecretTable := [("A", "b")]

theorem keyless_fails :
    depotSource.decrypt keylessHost = .error (.credential (.missingKey "key" "DEPOT_KEY")) := rfl

theorem depot_parses : ∃ document, Yaml.parse "A: b\n" = .ok document ∧
    SecretTable.ofYaml document = depotTable := by
  have read : (Yaml.parse "A: b\n").toOption.map SecretTable.ofYaml = some depotTable := by
    decide +kernel
  cases parsed : Yaml.parse "A: b\n" with
  | error e => rw [parsed] at read; cases read
  | ok document =>
    rw [parsed] at read
    exact ⟨document, rfl, Option.some.inj read⟩

theorem keyed_opens : depotSource.decrypt keyedHost = .ok depotTable := by
  have unset : keyedHost.Unset depotSource.envKey := by
    intro value told
    cases told
  have key : keyedHost.files.read depotSource.keyPath = .ok (Utf8.encode (depotKey ++ "\n")) := rfl
  have store : keyedHost.files.read depotSource.storePath = .ok (Utf8.encode depotSealed) := rfl
  have digits : Hex.encode ((List.range 16).map UInt8.ofNat) = depotKey := by decide +kernel
  have trimmed : Text.trim (depotKey ++ "\n") = depotKey := by
    rw [← digits]
    exact Text.trim_line (Hex.encode_unblank _)
  have found := CredentialSource.readKey_file unset key (Utf8.decode_encode _)
  rw [trimmed] at found
  obtain ⟨document, parsed, read⟩ := depot_parses
  rw [← read]
  exact CredentialSource.decrypt_opens found store (Seal.decrypt_encrypt rfl depot_sealed) parsed

-- The key comes after two calls and is gone again before the last two.
def depotCalls : List Call :=
  [⟨keylessHost, .unlock, .error (.credential (.missingKey "key" "DEPOT_KEY"))⟩,
    ⟨keylessHost, .isUnlocked, .ok (.status false)⟩,
    ⟨keyedHost, .resolve "A", .ok (.secret ⟨"b"⟩)⟩,
    ⟨keylessHost, .resolve "A", .ok (.secret ⟨"b"⟩)⟩,
    ⟨keylessHost, .resolve "Z", .error (.credential (.unknownSecret "Z" "store"))⟩]

def openDepot : Resolver := ⟨depotSource, some depotTable⟩

theorem depot_log : Log depotSource depotCalls openDepot := by
  have needs : Request.needsTable .unlock = true := rfl
  have needs' : Request.needsTable (.resolve "A") = true := rfl
  have first := Log.nil.call (ask_fails needs keyless_fails)
  have locked : (ofSource depotSource).ask keylessHost .isUnlocked =
      (.ok (.status false), ofSource depotSource) := rfl
  have second := first.call locked
  have third := second.call (ask_opens needs' keyed_opens)
  have fourth := third.call (ask_unlocked depotSource depotTable keylessHost (.resolve "A"))
  exact fourth.call (ask_unlocked depotSource depotTable keylessHost (.resolve "Z"))

-- What the open resolver gives, and two definitions that refer to it.
def depotLookup (key : String) : Except Error Secret := (openDepot.resolve keylessHost key).1

def depotSources (environment : String) : List Definition.Source :=
  [⟨none, "app \"depot\"; environment \"" ++ environment ++ "\" \x7bdocker \x7bimage_url \"w\"\x7d
kubernetes \x7bprovider \"p\" \x7btoken (secret)\"A\"\x7d\x7d\x7d"⟩]

theorem depot_serves : Serves depotCalls depotLookup := by
  intro key secret found
  by_cases known : key = "A"
  · subst known
    obtain rfl := Except.ok.inj found
    exact ⟨⟨keylessHost, .resolve "A", .ok (.secret ⟨"b"⟩)⟩, by simp [depotCalls], rfl, rfl⟩
  · have missing : depotTable.lookup key = none := by
      simp [depotTable, List.lookup_cons, beq_eq_false_iff_ne.mpr known]
    simp [depotLookup, openDepot, resolve, unlock, lookup, missing, Except.bind] at found

theorem depot_evaluated {environment : String}
    (reads : ((Definition.ofSources depotLookup (depotSources environment)).toOption.map
      Definition.references) = some [("A", ⟨"b"⟩)]) :
    ∃ d, Evaluated depotCalls d ∧ d.references = [("A", ⟨"b"⟩)] := by
  cases read : Definition.ofSources depotLookup (depotSources environment) with
  | error e => rw [read] at reads; cases reads
  | ok d =>
    rw [read] at reads
    exact ⟨d, ⟨depotLookup, depot_serves, .inl ⟨_, read⟩⟩, Option.some.inj reads⟩

theorem depot_consistent : ∃ d d', Evaluated depotCalls d ∧ Evaluated depotCalls d' ∧
    d.references = [("A", ⟨"b"⟩)] ∧ d'.references = [("A", ⟨"b"⟩)] ∧
    Snapshot depotSource depotCalls openDepot ∧
    ∀ first second, ("A", first) ∈ d.references → ("A", second) ∈ d'.references →
      first = second := by
  have dev : ((Definition.ofSources depotLookup (depotSources "dev")).toOption.map
      Definition.references) = some [("A", ⟨"b"⟩)] := by decide +kernel
  have live : ((Definition.ofSources depotLookup (depotSources "live")).toOption.map
      Definition.references) = some [("A", ⟨"b"⟩)] := by decide +kernel
  obtain ⟨d, evaluated, references⟩ := depot_evaluated dev
  obtain ⟨d', evaluated', references'⟩ := depot_evaluated live
  have consistent := log_consistent depot_log
  exact ⟨d, d', evaluated, evaluated', references, references', consistent.1,
    consistent.2 d d' evaluated evaluated' "A"⟩

end Rollout.Resolver
