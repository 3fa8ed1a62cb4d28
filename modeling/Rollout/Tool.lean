import Rollout.Error
import Rollout.Text.Utf8

namespace Rollout

-- A word of a call: a text, or the path of a temporary file that holds a text.
inductive ToolWord where
  | text (word : String)
  | file (contents : String)
  deriving DecidableEq, Repr

structure ToolCall where
  program : String
  words : List ToolWord
  input : Option (List UInt8)
  deriving DecidableEq, Repr

inductive ToolStatus where
  | exited (code : Nat)
  | killed (signal : Nat)
  deriving DecidableEq, Repr

structure ToolOutput where
  status : ToolStatus
  out : List UInt8
  err : List UInt8
  deriving DecidableEq, Repr

inductive ToolEnd where
  | ended (output : ToolOutput)
  | notStarted (reason : String)
  deriving DecidableEq, Repr

abbrev Tools (σ : Type) := ToolCall → σ → ToolEnd × σ

def signalNames : List String := ["HUP", "INT", "QUIT", "ILL", "TRAP", "ABRT", "BUS", "FPE", "KILL",
  "USR1", "SEGV", "USR2", "PIPE", "ALRM", "TERM", "STKFLT", "CHLD", "CONT", "STOP", "TSTP", "TTIN",
  "TTOU", "URG", "XCPU", "XFSZ", "VTALRM", "PROF", "WINCH", "IO", "PWR", "SYS"]

def ToolStatus.render : ToolStatus → String
  | .exited code => s!"exit status: {code}"
  | .killed signal =>
    match signalNames[signal - 1]? with
    | some name => s!"signal: {signal} (SIG{name})"
    | none => s!"signal: {signal}"

-- The output of a program that did its job, or else what it said about its failure.
def ToolEnd.result (program : String) : ToolEnd → Except RemoteError String
  | .notStarted reason => .error (.remote s!"failed to start {program}: {reason}")
  | .ended output =>
    if output.status = .exited 0 then .ok (Utf8.decodeLossy output.out)
    else
      let said := Text.trim (Utf8.decodeLossy output.err)
      .error (.remote (if said.isEmpty then s!"{program} exited with {output.status.render}" else said))

def ToolCall.run {σ : Type} (tools : Tools σ) (call : ToolCall) (s : σ) :
    Except RemoteError String × σ :=
  let (stop, s) := tools call s
  (stop.result call.program, s)

end Rollout
