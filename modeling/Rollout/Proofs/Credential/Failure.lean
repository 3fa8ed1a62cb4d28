import Rollout.Proofs.Credential.Reopening
import Rollout.Proofs.FileTree.Above

namespace Rollout.CredentialSource

open FileTree FileNode

variable {source : CredentialSource} {entropy : Entropy} {host : Host} {files after : FileTree}
  {path plaintext : String} {bytes : List UInt8} {e : FileError} {error : Error}

-- Where a file cannot be put, only directories are new, and one that is there is locked.
theorem putFile_failed (put : putFile files path bytes = (.error e, after)) :
    Built files after ∧ ∀ content, after.read path = .ok content → e = .denied := by
  have built := createParent_built files path
  rcases putFile_cases put with ⟨_, same, failed⟩ | ⟨above, there, ⟨_, same, failed, rfl⟩ | ⟨done, -⟩⟩
  · rw [failed] at built
    refine ⟨built, fun content read => ?_⟩
    obtain ⟨names, located, -⟩ := read_iff.mp read
    unfold createParent at failed
    split at failed
    · next up above =>
      have missing := ensureDir_failed failed
      by_cases empty : up = ""
      · rw [empty] at failed
        cases (Prod.mk.inj failed).1
      · rw [isDir_parent located above empty] at missing
        cases missing
    · cases (Prod.mk.inj failed).1
  · rw [there] at built
    obtain rfl := Except.error.inj same
    exact ⟨built, fun content read => (write_failed failed read).1⟩
  · cases done

-- A store that may not be written keeps its bytes.
example : putFile ⟨.dir [("store", .file [1])], [], [["store"]]⟩ "store" [2] =
    (.error .denied, ⟨.dir [("store", .file [1])], [], [["store"]]⟩) := rfl

theorem putFile_sameFiles (put : putFile files path bytes = (.ok (), after)) :
    SameFiles (fun names => after.locate path = .ok (.present names)) files.root after.root := by
  have built := createParent_built files path
  rcases putFile_cases put with ⟨_, failed, -⟩ | ⟨above, there, ⟨_, failed, -⟩ | ⟨-, written⟩⟩
  · cases failed
  · cases failed
  · rw [there] at built
    obtain ⟨names, -, same, located, -⟩ := write_parts written
    refine (built.sameFiles _).trans (same.weaken ?_)
    rintro _ rfl
    exact located

theorem ensureKey_failed (failed : source.ensureKey entropy host = (.error error, after)) :
    Built host.files after := by
  unfold ensureKey at failed
  split at failed
  · obtain ⟨-, rfl⟩ := Prod.mk.inj failed
    exact .none
  · cases (Prod.mk.inj failed).1
  · dsimp only at failed
    split at failed
    · next put =>
      obtain ⟨-, rfl⟩ := Prod.mk.inj failed
      exact (putFile_failed put).1
    · cases (Prod.mk.inj failed).1

theorem writeStore_failed (sixteen : entropy.key.length = 16)
    (failed : source.writeStore entropy plaintext host = (.error error, after)) :
    Built host.files after ∨
      ∃ document middle store e, Yaml.parse plaintext = .ok document ∧ document.isMapping = true ∧
        source.ensureKey entropy host = (.ok (Hex.encode entropy.key, true), middle) ∧
        putFile middle source.storePath store = (.error e, after) ∧ error = .io e.message := by
  unfold writeStore at failed
  split at failed
  · obtain ⟨-, rfl⟩ := Prod.mk.inj failed
    exact .inl .none
  · next document parsed =>
    split at failed
    · obtain ⟨-, rfl⟩ := Prod.mk.inj failed
      exact .inl .none
    · next mapping =>
      split at failed
      · next notEnsured =>
        obtain ⟨-, rfl⟩ := Prod.mk.inj failed
        exact .inl (ensureKey_failed notEnsured)
      · next key created middle ensured =>
        rcases ensureKey_cases ensured with ⟨-, rfl, -⟩ | ⟨rfl, -, rfl, -⟩
        · left
          split at failed
          · obtain ⟨-, rfl⟩ := Prod.mk.inj failed
            exact .none
          · split at failed
            · next put =>
              obtain ⟨-, rfl⟩ := Prod.mk.inj failed
              exact (putFile_failed put).1
            · cases (Prod.mk.inj failed).1
        · right
          obtain ⟨store, sealed⟩ := encrypt_fresh sixteen plaintext
          rw [sealed] at failed
          dsimp only at failed
          split at failed
          · next e _ put =>
            obtain ⟨same, rfl⟩ := Prod.mk.inj failed
            exact ⟨document, middle, _, e, parsed, by simpa using mapping, ensured, put,
              (Except.error.inj same).symm⟩
          · cases (Prod.mk.inj failed).1

-- A new key that stays: its file could be written and the store could not.
structure KeyLeft (source : CredentialSource) (entropy : Entropy) (plaintext : String) (host : Host)
    (error : Error) (after : FileTree) : Prop where
  mapping : ∃ document, Yaml.parse plaintext = .ok document ∧ document.isMapping = true
  unset : host.Unset source.envKey
  missing : host.files.present source.keyPath = false
  key : after.read source.keyPath = .ok (Utf8.encode (Hex.encode entropy.key ++ "\n"))
  others : SameFiles (fun names => after.locate source.keyPath = .ok (.present names))
    host.files.root after.root
  store : ¬ after.SameFile source.keyPath source.storePath → ∀ bytes,
    (host.files.read source.storePath = .ok bytes → after.read source.storePath = .ok bytes) ∧
      ∀ names, after.locate source.storePath = .ok (.present names) →
        (after.root.get? names = some (.file bytes) ↔
          host.files.root.get? names = some (.file bytes))
  refused : ∃ e : FileError, error = .io e.message ∧
    ∀ bytes, after.read source.storePath = .ok bytes → e = .denied

theorem keyLeft_of_put {document : Yaml} {middle : FileTree} {store : List UInt8}
    (parsed : Yaml.parse plaintext = .ok document) (mapping : document.isMapping = true)
    (ensured : source.ensureKey entropy host = (.ok (Hex.encode entropy.key, true), middle))
    (put : putFile middle source.storePath store = (.error e, after)) :
    KeyLeft source entropy plaintext host (.io e.message) after := by
  obtain ⟨flag, -⟩ | ⟨-, none, -, made⟩ := ensureKey_cases ensured
  · cases flag
  · obtain ⟨unset, missing⟩ := readKey_none.mp none
    obtain ⟨built, denied⟩ := putFile_failed put
    have keeps : middle.Keeps (fun _ => True) after := built.keeps
    have others : SameFiles (fun names => after.locate source.keyPath = .ok (.present names))
        host.files.root after.root := by
      refine ((putFile_sameFiles made).weaken ?_).trans (built.sameFiles _)
      intro names located
      exact keeps.locate located
    refine ⟨⟨document, parsed, mapping⟩, unset, missing, ?_, others, ?_, e, rfl, denied⟩
    · exact keeps.read (putFile_read made) fun _ _ => trivial
    · intro apart bytes
      refine ⟨fun read => ?_, fun names located => others names bytes fun key => ?_⟩
      · have apart' : ¬ middle.SameFile source.keyPath source.storePath := fun ⟨names, key, store⟩ =>
          apart ⟨names, keeps.locate key, keeps.locate store⟩
        exact keeps.read (putFile_other made read apart') fun _ _ => trivial
      · exact apart ⟨names, key, located⟩

-- Whatever writing a store fails at, no file comes, goes or changes but a new key that stays.
theorem failed_write_leaves (sixteen : entropy.key.length = 16)
    (failed : source.writeStore entropy plaintext host = (.error error, after)) :
    ((∀ names bytes, after.root.get? names = some (.file bytes) ↔
          host.files.root.get? names = some (.file bytes)) ∧
        ∀ path bytes, host.files.read path = .ok bytes → after.read path = .ok bytes) ∨
      KeyLeft source entropy plaintext host error after := by
  rcases writeStore_failed sixteen failed with
    built | ⟨document, middle, store, e, parsed, mapping, ensured, put, rfl⟩
  · have keeps : host.files.Keeps (fun _ => True) after := built.keeps
    refine .inl ⟨fun names bytes => built.sameFiles (fun _ => False) names bytes id, ?_⟩
    intro path bytes read
    exact keeps.read read fun _ _ => trivial
  · exact .inr (keyLeft_of_put parsed mapping ensured put)

def cellarSource : CredentialSource := ⟨"cellar/store", "key", "CELLAR_KEY", false⟩

def cellarHost : Host := ⟨[], ⟨.dir [("cellar", .file [120])], [], []⟩⟩

def cellarFiles (key : List UInt8) : FileTree :=
  ⟨.dir [("cellar", .file [120]), ("key", .file key)], [], []⟩

def cellarKey : List UInt8 := Utf8.encode (Hex.encode depotEntropy.key ++ "\n")

theorem cellar_refused (key store : List UInt8) :
    putFile (cellarFiles key) cellarSource.storePath store = (.error .exists, cellarFiles key) := by
  have above : Path.parent? cellarSource.storePath = some "cellar" := by decide +kernel
  have trimmed : String.ofList (Path.trimEnd "cellar".toList.reverse).reverse = "cellar" := by
    decide +kernel
  have located : (cellarFiles key).locate "cellar" = .ok (.present ["cellar"]) := rfl
  have made : (cellarFiles key).makeDir "cellar" = .error .exists := by
    unfold makeDir
    simp only [trimmed, located]
  have noDir : (cellarFiles key).isDir "cellar" = false := rfl
  simp [putFile, createParent, above, ensureDir, makeDirs, made, orThere, noDir, settle]

theorem cellar_keyed : cellarSource.ensureKey depotEntropy cellarHost =
    (.ok (Hex.encode depotEntropy.key, true), cellarFiles cellarKey) := rfl

theorem cellar_fails : cellarSource.writeStore depotEntropy "A: b\n" cellarHost =
    (.error (.io FileError.exists.message), cellarFiles cellarKey) := by
  obtain ⟨document, parsed, mapping⟩ := line_parses
  have sixteen : depotEntropy.key.length = 16 := rfl
  obtain ⟨store, sealed⟩ := encrypt_fresh sixteen "A: b\n"
  simp only [writeStore, parsed, mapping, cellar_keyed, sealed, cellar_refused, Bool.not_true]
  rfl

theorem cellar_key_left :
    cellarSource.writeStore depotEntropy "A: b\n" cellarHost =
        (.error (.io FileError.exists.message), cellarFiles cellarKey) ∧
      KeyLeft cellarSource depotEntropy "A: b\n" cellarHost (.io FileError.exists.message)
        (cellarFiles cellarKey) := by
  refine ⟨cellar_fails, (failed_write_leaves rfl cellar_fails).resolve_left ?_⟩
  rintro ⟨same, -⟩
  have there : cellarHost.files.root.get? ["key"] = some (.file cellarKey) :=
    (same ["key"] cellarKey).mp rfl
  cases there

theorem cellar_key_created :
    depotEntropy.key.length = 16 ∧
      cellarSource.writeStore depotEntropy "A: b\n" cellarHost =
        (.error (.io FileError.exists.message), cellarFiles cellarKey) ∧
      cellarHost.files.present cellarSource.keyPath = false ∧
      (cellarFiles cellarKey).read cellarSource.keyPath = .ok cellarKey :=
  ⟨rfl, cellar_fails, rfl, rfl⟩

end Rollout.CredentialSource
