import Rollout.Proofs.Credential.Opening
import Rollout.Proofs.Credential.Snapshot
import Rollout.Proofs.Credential.Tables

namespace Rollout

def FileTree.SameFile (tree : FileTree) (path other : String) : Prop :=
  ∃ names, tree.locate path = .ok (.present names) ∧ tree.locate other = .ok (.present names)

namespace CredentialSource

open FileTree

variable {source : CredentialSource} {entropy : Entropy} {host : Host} {files middle after : FileTree}
  {path key text sealed_ plaintext : String} {bytes : List UInt8} {document : Yaml} {created : Bool}

theorem createParent_built (files : FileTree) (path : String) :
    Built files (createParent files path).2 := by
  unfold createParent
  split
  · exact ensureDir_built files _
  · exact .none

theorem putFile_cases {answer : Except FileError Unit}
    (put : putFile files path bytes = (answer, after)) :
    (∃ e, answer = .error e ∧ createParent files path = (.error e, after)) ∨
      ∃ above, createParent files path = (.ok (), above) ∧
        ((∃ e, answer = .error e ∧ above.write path bytes = .error e ∧ after = above) ∨
          (answer = .ok () ∧ above.write path bytes = .ok after)) := by
  unfold putFile at put
  split at put
  · next e above failed =>
    obtain ⟨rfl, rfl⟩ := Prod.mk.inj put
    exact .inl ⟨e, rfl, failed⟩
  · next above there =>
    refine .inr ⟨above, there, ?_⟩
    cases written : above.write path bytes with
    | error e =>
      rw [written] at put
      obtain ⟨rfl, rfl⟩ := Prod.mk.inj put
      exact .inl ⟨e, rfl, rfl, rfl⟩
    | ok final =>
      rw [written] at put
      obtain ⟨rfl, rfl⟩ := Prod.mk.inj put
      exact .inr ⟨rfl, rfl⟩

theorem putFile_keeps {answer : Except FileError Unit}
    (put : putFile files path bytes = (answer, after)) :
    files.Keeps (fun names => after.locate path ≠ .ok (.present names)) after := by
  have built := createParent_built files path
  rcases putFile_cases put with ⟨e, -, failed⟩ | ⟨above, there, ⟨e, -, -, rfl⟩ | ⟨-, written⟩⟩
  · rw [failed] at built
    exact built.keeps
  · rw [there] at built
    exact built.keeps
  · rw [there] at built
    obtain ⟨names, keeps, -, located, -⟩ := write_parts written
    refine built.keeps.trans (keeps.weaken ?_)
    rintro other away rfl
    exact away located

theorem putFile_read (put : putFile files path bytes = (.ok (), after)) :
    after.read path = .ok bytes := by
  rcases putFile_cases put with ⟨e, failed, -⟩ | ⟨above, there, ⟨e, failed, -⟩ | ⟨-, written⟩⟩
  · cases failed
  · cases failed
  · exact write_read written

theorem putFile_other {answer : Except FileError Unit} {other : String} {content : List UInt8}
    (put : putFile files path bytes = (answer, after)) (read : files.read other = .ok content)
    (apart : ¬ after.SameFile path other) : after.read other = .ok content :=
  (putFile_keeps put).read read fun names located same => apart ⟨names, same, located⟩

theorem encrypt_fresh (sixteen : entropy.key.length = 16) (plaintext : String) :
    ∃ store, Seal.encrypt entropy.nonce plaintext (Hex.encode entropy.key) = .ok store := by
  unfold Seal.encrypt
  rw [Seal.decodeKey_encode (.inl sixteen)]
  exact ⟨_, rfl⟩

theorem ensureKey_cases (ensured : source.ensureKey entropy host = (.ok (key, created), files)) :
    (created = false ∧ files = host.files ∧ source.readKey host = .ok (some key)) ∨
      (created = true ∧ source.readKey host = .ok none ∧ key = Hex.encode entropy.key ∧
        putFile host.files source.keyPath (Utf8.encode (key ++ "\n")) = (.ok (), files)) := by
  unfold ensureKey at ensured
  split at ensured
  · cases (Prod.mk.inj ensured).1
  · next found =>
    obtain ⟨answer, rfl⟩ := Prod.mk.inj ensured
    obtain ⟨rfl, rfl⟩ := Prod.mk.inj (Except.ok.inj answer)
    exact .inl ⟨rfl, rfl, found⟩
  · next none =>
    dsimp only at ensured
    split at ensured
    · cases (Prod.mk.inj ensured).1
    · next put =>
      obtain ⟨answer, rfl⟩ := Prod.mk.inj ensured
      obtain ⟨rfl, rfl⟩ := Prod.mk.inj (Except.ok.inj answer)
      exact .inr ⟨rfl, none, rfl, put⟩

theorem ensureKey_files (there : host.files.present source.keyPath = true) :
    (source.ensureKey entropy host).2 = host.files := by
  unfold ensureKey
  split
  · rfl
  · rfl
  · next none =>
    have missing := (readKey_none.mp none).2
    rw [there] at missing
    cases missing

theorem writeStore_parts (written : source.writeStore entropy plaintext host = (.ok created, after)) :
    ∃ document key middle sealed_, Yaml.parse plaintext = .ok document ∧
      source.ensureKey entropy host = (.ok (key, created), middle) ∧
      Seal.encrypt entropy.nonce plaintext key = .ok sealed_ ∧
      putFile middle source.storePath (Utf8.encode sealed_) = (.ok (), after) := by
  unfold writeStore at written
  split at written
  · cases (Prod.mk.inj written).1
  · next document parsed =>
    split at written
    · cases (Prod.mk.inj written).1
    · split at written
      · cases (Prod.mk.inj written).1
      · next key flag middle ensured =>
        split at written
        · cases (Prod.mk.inj written).1
        · next sealed_ sealed =>
          split at written
          · cases (Prod.mk.inj written).1
          · next final put =>
            obtain ⟨answer, rfl⟩ := Prod.mk.inj written
            obtain rfl := Except.ok.inj answer
            exact ⟨document, key, middle, sealed_, parsed, ensured, sealed, put⟩

-- Whatever comes of the writing, only the store is put among the files that the key is in.
theorem writeStore_files {outcome : Except Error Bool}
    (written : source.writeStore entropy plaintext host = (outcome, after)) :
    after = host.files ∨ after = (source.ensureKey entropy host).2 ∨
      ∃ bytes answer,
        putFile (source.ensureKey entropy host).2 source.storePath bytes = (answer, after) := by
  unfold writeStore at written
  split at written
  · exact .inl (Prod.mk.inj written).2.symm
  · split at written
    · exact .inl (Prod.mk.inj written).2.symm
    · split at written
      · next e middle ensured =>
        rw [ensured]
        exact .inr (.inl (Prod.mk.inj written).2.symm)
      · next key flag middle ensured =>
        rw [ensured]
        split at written
        · exact .inr (.inl (Prod.mk.inj written).2.symm)
        · split at written
          · next put =>
            obtain ⟨-, rfl⟩ := Prod.mk.inj written
            exact .inr (.inr ⟨_, _, put⟩)
          · next put =>
            obtain ⟨-, rfl⟩ := Prod.mk.inj written
            exact .inr (.inr ⟨_, _, put⟩)

theorem keyFile_kept {outcome : Except Error Bool}
    (written : source.writeStore entropy plaintext host = (outcome, after))
    (apart : ¬ after.SameFile source.storePath source.keyPath)
    (read : host.files.read source.keyPath = .ok bytes) :
    after.read source.keyPath = .ok bytes := by
  have same : (source.ensureKey entropy host).2 = host.files :=
    ensureKey_files (present_of_file read)
  rcases writeStore_files written with rfl | rfl | ⟨content, answer, put⟩
  · exact read
  · rwa [same]
  · rw [same] at put
    exact putFile_other put read apart

-- A new resolver unlocks with a table that holds the scalars of a document under their dotted names,
-- and gives them back.
structure Reopens (source : CredentialSource) (host : Host) (document : Yaml)
    (table : SecretTable) : Prop where
  unlocks : (Resolver.ofSource source).unlock host = (.ok table, ⟨source, some table⟩)
  keys : ((Resolver.ofSource source).keys host).1 = .ok table.keys
  ascending : table.keys.Pairwise (· < ·)
  complete : ∀ key, key ∈ table.keys ↔ key ∈ (SecretTable.leaves none document).map Prod.fst
  resolves : ∀ key ∈ table.keys, ∃ text,
    (SecretTable.leaves none document).reverse.lookup key = some text ∧
      ((Resolver.ofSource source).resolve host key).1 = .ok ⟨text⟩

theorem reopens_of_decrypt
    (decrypted : source.decrypt host = .ok (SecretTable.ofYaml document)) :
    Reopens source host document (SecretTable.ofYaml document) := by
  have unlocks := Resolver.unlock_opens decrypted
  refine ⟨unlocks, ?_, SecretTable.ofYaml_ascending document,
    fun key => SecretTable.mem_keys_ofYaml document, ?_⟩
  · rw [Resolver.keys, unlocks]
    rfl
  · intro key member
    have listed : key ∈ (SecretTable.leaves none document).reverse.map Prod.fst := by
      rw [List.map_reverse, List.mem_reverse]
      exact (SecretTable.mem_keys_ofYaml document).mp member
    cases found : (SecretTable.leaves none document).reverse.lookup key with
    | none =>
      obtain ⟨entry, inLeaves, rfl⟩ := List.mem_map.mp listed
      have absent := List.lookup_eq_none_iff.mp found entry inLeaves
      simp at absent
    | some text =>
      refine ⟨text, rfl, ?_⟩
      rw [Resolver.resolve, unlocks]
      simp only [Except.bind, Resolver.lookup, SecretTable.lookup_ofYaml, found]

theorem written_decrypts (twelve : entropy.nonce.length = Seal.nonceLength)
    (written : source.writeStore entropy plaintext host = (.ok created, after))
    (apart : ¬ after.SameFile source.storePath source.keyPath) :
    ∃ document, Yaml.parse plaintext = .ok document ∧ ∀ strict,
      ({ source with strict } : CredentialSource).decrypt { host with files := after } =
        .ok (SecretTable.ofYaml document) := by
  obtain ⟨document, key, middle, sealed_, parsed, ensured, sealed, put⟩ := writeStore_parts written
  refine ⟨document, parsed, fun strict => ?_⟩
  refine decrypt_opens ?_ (putFile_read put) (Seal.decrypt_encrypt twelve sealed) parsed
  rw [readKey_strict]
  rcases ensureKey_cases ensured with ⟨-, -, found⟩ | ⟨-, none, rfl, made⟩
  · exact readKey_kept found fun bytes read => keyFile_kept written apart read
  · have read := putFile_other put (putFile_read made) apart
    have unset : ({ host with files := after } : Host).Unset source.envKey := (readKey_none.mp none).1
    rw [readKey_file unset read (Utf8.decode_encode _), Text.trim_line (Hex.encode_unblank _)]

theorem created_iff (written : source.writeStore entropy plaintext host = (.ok created, after)) :
    created = true ↔ host.Unset source.envKey ∧ host.files.present source.keyPath = false := by
  obtain ⟨document, key, middle, sealed_, parsed, ensured, sealed, put⟩ := writeStore_parts written
  rw [← readKey_none]
  rcases ensureKey_cases ensured with ⟨rfl, -, found⟩ | ⟨rfl, none, -⟩
  · rw [found]
    constructor
    · intro flag
      cases flag
    · intro none
      cases none
  · exact ⟨fun _ => none, fun _ => rfl⟩

-- What was written is read back, with the key that is left in place or made for it.
theorem written_reopens {outcome : Except Error Bool}
    (twelve : entropy.nonce.length = Seal.nonceLength)
    (written : source.writeStore entropy plaintext host = (outcome, after))
    (apart : ¬ after.SameFile source.storePath source.keyPath) :
    (∀ bytes, host.files.read source.keyPath = .ok bytes →
      after.read source.keyPath = .ok bytes) ∧
    ∀ created, outcome = .ok created →
      (∃ document, Yaml.parse plaintext = .ok document ∧ ∀ strict, ∃ table,
        Reopens { source with strict } { host with files := after } document table) ∧
      (created = true ↔ host.Unset source.envKey ∧ host.files.present source.keyPath = false) ∧
      (created = true → ∃ key sealed_,
        after.read source.keyPath = .ok (Utf8.encode (key ++ "\n")) ∧
          Seal.encrypt entropy.nonce plaintext key = .ok sealed_ ∧
          after.read source.storePath = .ok (Utf8.encode sealed_)) := by
  refine ⟨fun bytes read => keyFile_kept written apart read, ?_⟩
  rintro created rfl
  refine ⟨?_, created_iff written, ?_⟩
  · obtain ⟨document, parsed, decrypted⟩ := written_decrypts twelve written apart
    exact ⟨document, parsed, fun strict => ⟨_, reopens_of_decrypt (decrypted strict)⟩⟩
  · rintro rfl
    obtain ⟨document, key, middle, sealed_, parsed, ensured, sealed, put⟩ := writeStore_parts written
    rcases ensureKey_cases ensured with ⟨flag, -⟩ | ⟨-, -, -, made⟩
    · cases flag
    · exact ⟨key, sealed_, putFile_other put (putFile_read made) apart, sealed, putFile_read put⟩

open Resolver (depotSource keylessHost depot_parses)

def depotEntropy : Entropy := ⟨List.replicate 16 7, List.replicate 12 1⟩

def depotFiles (store : String) : FileTree :=
  ⟨.dir [("key", .file (Utf8.encode (Hex.encode depotEntropy.key ++ "\n"))),
    ("store", .file (Utf8.encode store))], [], []⟩

theorem line_parses : ∃ document, Yaml.parse "A: b\n" = .ok document ∧ document.isMapping = true := by
  obtain ⟨document, parsed, -⟩ := depot_parses
  have mapping : (Yaml.parse "A: b\n").toOption.map Yaml.isMapping = some true := by
    decide +kernel
  rw [parsed] at mapping
  exact ⟨document, parsed, Option.some.inj mapping⟩

theorem depot_written : ∃ store, depotSource.writeStore depotEntropy "A: b\n" keylessHost =
    (.ok true, depotFiles store) := by
  obtain ⟨document, parsed, mapping⟩ := line_parses
  have sixteen : depotEntropy.key.length = 16 := rfl
  obtain ⟨store, sealed⟩ := encrypt_fresh sixteen "A: b\n"
  have ensured : depotSource.ensureKey depotEntropy keylessHost =
      (.ok (Hex.encode depotEntropy.key, true), ⟨.dir [("key", .file (Utf8.encode
        (Hex.encode depotEntropy.key ++ "\n")))], [], []⟩) := rfl
  refine ⟨store, ?_⟩
  simp only [writeStore, parsed, mapping, ensured, sealed]
  rfl

theorem depot_reopens : ∃ store document table,
    depotSource.writeStore depotEntropy "A: b\n" keylessHost = (.ok true, depotFiles store) ∧
      Reopens depotSource ⟨[], depotFiles store⟩ document table := by
  obtain ⟨store, written⟩ := depot_written
  have apart : ¬ (depotFiles store).SameFile depotSource.storePath depotSource.keyPath := by
    rintro ⟨names, first, second⟩
    have there : (depotFiles store).locate depotSource.storePath = .ok (.present ["store"]) := rfl
    have beside : (depotFiles store).locate depotSource.keyPath = .ok (.present ["key"]) := rfl
    rw [there] at first
    rw [beside] at second
    obtain rfl := Place.present.inj (Except.ok.inj first)
    exact absurd (Place.present.inj (Except.ok.inj second)) (by decide)
  obtain ⟨-, reopened⟩ := written_reopens rfl written apart
  obtain ⟨⟨document, -, reopens⟩, -⟩ := reopened true rfl
  obtain ⟨table, reopens⟩ := reopens true
  exact ⟨store, document, table, written, reopens⟩

end CredentialSource

end Rollout
