import Rollout.FileTree
import Rollout.Text.Utf8
import Rollout.Error

namespace Rollout

structure Host where
  vars : List (String × String)
  files : FileTree

namespace Host

def value? (host : Host) (name : String) : Option String := host.vars.lookup name

def setVariable (host : Host) (name value : String) : Host :=
  { host with vars := Declared.put name value host.vars }

def unsetVariable (host : Host) (name : String) : Host :=
  { host with vars := Declared.remove name host.vars }

def mapFiles (host : Host) (f : FileTree → FileTree) : Host :=
  { host with files := f host.files }

def readText (host : Host) (path : String) : Except String String :=
  match host.files.read path with
  | .error e => .error e.message
  | .ok bytes =>
    match Utf8.decode bytes with
    | .ok text => .ok text
    | .error _ => .error "stream did not contain valid UTF-8"

end Host

end Rollout
