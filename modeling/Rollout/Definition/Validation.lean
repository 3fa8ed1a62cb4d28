import Rollout.Definition
import Rollout.Error

namespace Rollout

def maxNameLength : Nat := 63

def isNameChar (c : Char) : Bool := Text.isLower c || Text.isDigit c || c == '-'

-- A name of an object: lowercase letters, digits and hyphens, a letter first and no hyphen last.
def isValidName (name : String) : Bool :=
  match name.toList with
  | [] => false
  | first :: rest =>
    Text.isLower first && rest.all isNameChar && (first :: rest).getLast? != some '-'

theorem isNameChar_of_isValidName {name : String} (valid : isValidName name = true) :
    name.toList.all isNameChar = true := by
  unfold isValidName at valid
  cases letters : name.toList with
  | nil => rfl
  | cons first rest =>
    simp only [letters, Bool.and_eq_true] at valid
    simp [isNameChar, valid.1.1, valid.1.2]

structure Findings where
  violations : List Violation
  warnings : List String
  deriving DecidableEq, Repr

def Findings.accept (found : Findings) : Except Error (List String) :=
  if found.violations.isEmpty then .ok found.warnings else .error (.validation found.violations)

namespace Environment

def subject (env : Environment) : String := "environment " ++ env.name

def noProvider (env : Environment) : Violation :=
  ⟨env.subject, "kubernetes.provider", "no provider declared"⟩

def appViolations (env : Environment) : List Violation :=
  if isValidName env.app then []
  else [⟨env.subject, "app",
    s!"'{env.app}' is invalid. Must be lowercase alphanumeric with hyphens."⟩]

def namespaceViolations (env : Environment) : List Violation :=
  let name := env.namespaceOf
  if isValidName name && name.utf8ByteSize ≤ maxNameLength then []
  else [⟨env.subject, "kubernetes.namespace", s!"'{name}' is not a valid namespace name"⟩]

def loginPart (env : Environment) (field : String) (value : Value) : List Violation :=
  if value.text?.any fun s => !s.isEmpty then []
  else [⟨env.subject, "docker.credentials." ++ field,
    "expected a non-empty string, found " ++ value.kind⟩]

def loginViolations (env : Environment) : List Violation :=
  match env.docker.login with
  | none => []
  | some login =>
    env.loginPart "username" login.username ++ env.loginPart "password" login.password ++
      env.loginPart "email" login.email

def providerViolations (env : Environment) : List Violation :=
  if env.kubernetes.providers.isEmpty then [env.noProvider] else []

def tagWarnings (env : Environment) : List String :=
  match env.docker.image.tag with
  | none => []
  | some tag => [s!"{env.subject}: docker.image_url: tag '{tag}' is replaced by the deploy tag"]

def findings (env : Environment) : Findings :=
  ⟨env.appViolations ++ env.namespaceViolations ++ env.loginViolations ++ env.providerViolations,
    env.tagWarnings⟩

end Environment

end Rollout
