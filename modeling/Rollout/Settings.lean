import Rollout.Declared
import Rollout.Json
import Rollout.Text.Quoted

namespace Rollout

structure Secret where
  text : String
  deriving DecidableEq

def Secret.redacted : String := "<redacted>"

inductive Value where
  | string (s : String)
  | int (i : Int)
  | bool (b : Bool)
  | secret (key : String) (value : Secret)
  deriving DecidableEq

namespace Value

def text? : Value → Option String
  | .string s => some s
  | .secret _ value => some value.text
  | _ => none

def int? : Value → Option Int
  | .int i => some i
  | _ => none

def bool? : Value → Option Bool
  | .bool b => some b
  | _ => none

def kind : Value → String
  | .string _ => "string"
  | .int _ => "integer"
  | .bool _ => "boolean"
  | .secret _ _ => "secret"

def debug : Value → String
  | .string s => Text.quoted s
  | .int i => toString i
  | .bool b => toString b
  | .secret key _ => "(secret)" ++ Text.quoted key

def toJson : Value → Json
  | .string s => .string s
  | .int i => .int i
  | .bool b => .bool b
  | .secret key _ => .object [("secret", .string key)]

end Value

inductive Setting where
  | value (v : Value)
  | block (entries : List (String × Setting))

abbrev Settings := Declared Setting

namespace Setting

mutual
def same : (a b : Setting) → Bool
  | .value v, .value w => v == w
  | .block a, .block b => sameEntries a b
  | _, _ => false
def sameEntries : (a b : List (String × Setting)) → Bool
  | [], [] => true
  | (k, x) :: a, (l, y) :: b => k == l && same x y && sameEntries a b
  | _, _ => false
end

mutual
theorem same_iff : ∀ a b : Setting, same a b = true ↔ a = b
  | .value v, b => by cases b <;> simp [same]
  | .block a, b => by
    cases b with
    | value => simp [same]
    | block b => simpa [same] using sameEntries_iff a b
theorem sameEntries_iff : ∀ a b : List (String × Setting), sameEntries a b = true ↔ a = b
  | [], b => by cases b <;> simp [sameEntries]
  | (k, x) :: a, b => by
    cases b with
    | nil => simp [sameEntries]
    | cons e b =>
      obtain ⟨l, y⟩ := e
      simp [sameEntries, same_iff x y, sameEntries_iff a b]
end

instance : DecidableEq Setting := fun a b =>
  if h : same a b = true then isTrue ((same_iff a b).1 h)
  else isFalse fun e => h ((same_iff a b).2 e)

mutual
def toJson : Setting → Json
  | .value v => v.toJson
  | .block entries => .object (entriesToJson entries)
def entriesToJson : List (String × Setting) → List (String × Json)
  | [] => []
  | (name, setting) :: rest => (name, toJson setting) :: entriesToJson rest
end

mutual
def debug : Setting → String
  | .value v => Text.wrapped "Value" v.debug
  | .block entries =>
    Text.wrapped "Block" (Text.wrapped "Settings" (Text.mapping (debugEntries entries)))
def debugEntries : List (String × Setting) → List (String × String)
  | [] => []
  | (name, setting) :: rest => (name, debug setting) :: debugEntries rest
end

mutual
def walk (path : String) : Setting → List (String × Setting)
  | .value v => [(path, .value v)]
  | .block entries => (path, .block entries) :: walkEntries path entries
def walkEntries (path : String) : List (String × Setting) → List (String × Setting)
  | [] => []
  | (name, setting) :: rest =>
    walk (path ++ "/" ++ name) setting ++ walkEntries path rest
end

end Setting

namespace Settings

def value? (settings : Settings) (name : String) : Option Value :=
  match settings.lookup name with
  | some (.value v) => some v
  | _ => none

def block? (settings : Settings) (name : String) : Option Settings :=
  match settings.lookup name with
  | some (.block entries) => some entries
  | _ => none

def text? (settings : Settings) (name : String) : Option String :=
  (settings.value? name).bind Value.text?

def int? (settings : Settings) (name : String) : Option Int :=
  (settings.value? name).bind Value.int?

def bool? (settings : Settings) (name : String) : Option Bool :=
  (settings.value? name).bind Value.bool?

def toJson (settings : Settings) : Json := .object (Setting.entriesToJson settings)

def debug (settings : Settings) : String :=
  Text.wrapped "Settings" (Text.mapping (Setting.debugEntries settings))

end Settings

end Rollout
