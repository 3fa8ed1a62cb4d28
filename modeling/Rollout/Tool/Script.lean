import Rollout.Declared
import Rollout.FileTree
import Rollout.Tool

namespace Rollout

structure ToolScript where
  answers : List ToolOutput
  calls : List ToolCall

abbrev ToolScripts := Declared ToolScript

namespace ToolScripts

def exhausted : ToolOutput := ⟨.exited 97, [], []⟩

def play : Tools ToolScripts := fun call scripts =>
  match scripts.lookup call.program with
  | none => (.notStarted FileError.notFound.message, scripts)
  | some script =>
    (.ended (script.answers.headD exhausted),
      Declared.put call.program ⟨script.answers.tail, script.calls ++ [call]⟩ scripts)

def calls (scripts : ToolScripts) (program : String) : List ToolCall :=
  ((scripts.lookup program).map ToolScript.calls).getD []

end ToolScripts

-- The file that a call hands over, if its first word announces one.
def ToolCall.file? (call : ToolCall) : Option String :=
  call.words.findSome? fun
    | .file contents => some contents
    | .text _ => none

end Rollout
