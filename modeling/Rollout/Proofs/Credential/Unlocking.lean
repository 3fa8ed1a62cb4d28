import Rollout.Credential.Store
import Rollout.Proofs.Credential.Sealing
import Rollout.Proofs.FileTree.Writing
import Rollout.Proofs.Text.Hex

namespace Rollout

def Host.Unset (host : Host) (name : String) : Prop :=
  ∀ value, host.value? name = some value → Text.trim value = ""

namespace CredentialSource

open FileTree

variable {source : CredentialSource} {host : Host} {files : FileTree}
  {path key text sealed_ plaintext : String} {bytes : List UInt8} {document : Yaml}

theorem readText_iff : host.readText path = .ok text ↔
    ∃ bytes, host.files.read path = .ok bytes ∧ Utf8.decode bytes = .ok text := by
  unfold Host.readText
  constructor
  · intro read
    split at read
    · cases read
    · next bytes found =>
      split at read
      · next decoded =>
        obtain rfl := Except.ok.inj read
        exact ⟨bytes, found, decoded⟩
      · cases read
  · rintro ⟨bytes, found, decoded⟩
    simp only [found, decoded]

theorem readKey_unset (unset : host.Unset source.envKey) :
    source.readKey host =
      if host.files.present source.keyPath then
        match host.readText source.keyPath with
        | .ok key => .ok (some (Text.trim key))
        | .error e => .error (.io e)
      else .ok none := by
  unfold readKey
  dsimp only
  split
  · next value there =>
    rw [unset value there]
    rfl
  · rfl

theorem readKey_set {value : String} (there : host.value? source.envKey = some value)
    (some_ : Text.trim value ≠ "") : source.readKey host = .ok (some (Text.trim value)) := by
  have filled : ¬ (Text.trim value).isEmpty = true := fun empty => some_ (String.isEmpty_iff.mp empty)
  unfold readKey
  simp only [there, if_neg filled]

theorem unset_or_set (host : Host) (name : String) :
    host.Unset name ∨ ∃ value, host.value? name = some value ∧ Text.trim value ≠ "" := by
  cases there : host.value? name with
  | none =>
    left
    intro value told
    rw [there] at told
    cases told
  | some value =>
    by_cases empty : Text.trim value = ""
    · left
      intro other told
      rw [there] at told
      rwa [← Option.some.inj told]
    · exact .inr ⟨value, rfl, empty⟩

theorem readKey_none : source.readKey host = .ok none ↔
    host.Unset source.envKey ∧ host.files.present source.keyPath = false := by
  constructor
  · intro none
    rcases unset_or_set host source.envKey with unset | ⟨value, there, some_⟩
    · rw [readKey_unset unset] at none
      split at none
      · split at none
        · cases none
        · cases none
      · next missing => exact ⟨unset, Bool.eq_false_iff.mpr missing⟩
    · rw [readKey_set there some_] at none
      cases none
  · rintro ⟨unset, missing⟩
    rw [readKey_unset unset, missing]
    rfl

theorem readKey_file (unset : host.Unset source.envKey)
    (read : host.files.read source.keyPath = .ok bytes) (decoded : Utf8.decode bytes = .ok text) :
    source.readKey host = .ok (some (Text.trim text)) := by
  have told : host.readText source.keyPath = .ok text := readText_iff.mpr ⟨bytes, read, decoded⟩
  rw [readKey_unset unset, present_of_file read, if_pos rfl, told]

theorem readKey_kept (found : source.readKey host = .ok (some key))
    (keyFile : ∀ bytes, host.files.read source.keyPath = .ok bytes →
      files.read source.keyPath = .ok bytes) :
    source.readKey { host with files } = .ok (some key) := by
  rcases unset_or_set host source.envKey with unset | ⟨value, there, some_⟩
  · rw [readKey_unset unset] at found
    split at found
    · split at found
      · next text told =>
        obtain rfl := Option.some.inj (Except.ok.inj found)
        obtain ⟨bytes, read, decoded⟩ := readText_iff.mp told
        have unset' : ({ host with files } : Host).Unset source.envKey := unset
        exact readKey_file unset' (keyFile bytes read) decoded
      · cases found
    · cases found
  · have there' : ({ host with files } : Host).value? source.envKey = some value := there
    rw [readKey_set there some_] at found
    rw [readKey_set there' some_]
    exact found

theorem readKey_strict (source : CredentialSource) (strict : Bool) (host : Host) :
    ({ source with strict } : CredentialSource).readKey host = source.readKey host := rfl

theorem decrypt_opens (found : source.readKey host = .ok (some key))
    (store : host.files.read source.storePath = .ok (Utf8.encode sealed_))
    (opened : Seal.decrypt sealed_ key = .ok plaintext)
    (parsed : Yaml.parse plaintext = .ok document) :
    source.decrypt host = .ok (SecretTable.ofYaml document) := by
  have told : host.readText source.storePath = .ok sealed_ :=
    readText_iff.mpr ⟨_, store, Utf8.decode_encode sealed_⟩
  simp only [decrypt, found, present_of_file store, told, opened, parsed, bind, Except.bind, if_true,
    pure, Except.pure]

end CredentialSource

end Rollout
