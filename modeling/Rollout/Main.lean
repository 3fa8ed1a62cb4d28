import Rollout.CommandLine.Usage
import Rollout.Hex
import Rollout.Outcome

namespace Rollout.Terminal

def readBytes? (path : String) : IO (Option (List UInt8)) := do
  try
    let bytes ← IO.FS.readBinFile path
    pure (some bytes.toList)
  catch _ => pure none

def readLossy (path : String) : IO String := do
  pure (Utf8.decodeLossy ((← readBytes? path).getD []))

def readVars : IO (List (String × String)) := do
  let entries := (← readLossy "/proc/self/environ").splitOn "\x00"
  pure (entries.filterMap fun entry =>
    match entry.splitOn "=" with
    | name :: value@(_ :: _) => some (name, "=".intercalate value)
    | _ => none)

def readMoment : IO Moment := do
  let started := (Text.lines (← readLossy "/proc/stat")).findSome? fun line =>
    match line.splitOn " " with
    | ["btime", seconds] => some (Text.digitsValue seconds.toList)
    | _ => none
  let running := ((← readLossy "/proc/uptime").takeWhile (· ≠ ' ')).toString.toList
  let hundredths := Text.digitsValue (running.filter Text.isDigit)
  pure ⟨started.getD 0 + hundredths / 100, hundredths % 100 * 10000000⟩

-- Directories are followed down to a bounded depth. What cannot be read is left out, and so are
-- links that lead to directories.
def readEntries : Nat → Array IO.FS.DirEntry → IO (List (String × FileNode))
  | 0, _ => pure []
  | depth + 1, entries =>
    entries.toList.filterMapM fun entry => do
      try
        let seen ← entry.path.symlinkMetadata
        let meant ← entry.path.metadata
        match seen.type, meant.type with
        | .dir, _ => pure (some (entry.fileName, .dir (← readEntries depth (← entry.path.readDir))))
        | _, .file => pure ((← readBytes? entry.path.toString).map fun b => (entry.fileName, .file b))
        | _, _ => pure none
      catch _ => pure none

def depthLimit : Nat := 64

def namesOf (path : String) : List String := (Path.pieces path).filter (!·.isEmpty)

def addDirectory (tree : FileTree) (path : String) : IO FileTree := do
  try
    let place ← IO.FS.realPath path
    let node := FileNode.dir (← readEntries depthLimit (← place.readDir))
    pure { tree with root := FileNode.insert node (namesOf place.toString) tree.root }
  catch _ => pure tree

def addFile (tree : FileTree) (path : String) : IO FileTree := do
  pure (((← readBytes? path).map fun bytes => tree.place path bytes).getD tree)

def definitionRoot? (path : String) : IO (Option String) :=
  (Path.ancestors path).findM? fun dir =>
    Definition.fileNames.anyM fun name => do pure (← readBytes? (Path.join dir name)).isSome

def readFiles (command : CommandLine) (vars : List (String × String)) : IO FileTree := do
  let here := (← IO.currentDir).toString
  let found ← definitionRoot? here
  let homes := ((vars.lookup "HOME").map fun home => Path.join home ".kube/config").toList
  let named := command.config ++ command.credentials.toList ++ command.keyPath.toList ++ homes ++
    match command.command with
    | .encrypt plaintext _ => [plaintext]
    | _ => []
  let tree := FileTree.ofDir (namesOf here)
  let tree ← (here :: found.toList ++ command.config.map projectRoot).foldlM addDirectory tree
  named.foldlM addFile tree

def writeFiles (before after : FileTree) : IO Unit :=
  after.root.files.forM fun (names, bytes) => do
    match before.root.get? names with
    | some (.file old) => if old ≠ bytes then put names bytes
    | _ => put names bytes
where
  put (names : List String) (bytes : List UInt8) : IO Unit := do
    IO.FS.createDirAll ("/" ++ "/".intercalate names.dropLast)
    IO.FS.writeBinFile ("/" ++ "/".intercalate names) bytes.toByteArray

def identifier (bytes : List UInt8) : String :=
  let marked := bytes.mapIdx fun i b =>
    if i = 6 then b &&& 0x0F ||| 0x40 else if i = 8 then b &&& 0x3F ||| 0x80 else b
  let digits := (Hex.encode marked).toList
  "-".intercalate ([(0, 8), (8, 4), (12, 4), (16, 4), (20, 12)].map fun (start, count) =>
    String.ofList ((digits.drop start).take count))

def means (vars : List (String × String)) : IO (Means Unit) := do
  let now ← readMoment
  let key ← IO.getRandomBytes 16
  let nonce ← IO.getRandomBytes 12
  let name ← IO.getRandomBytes 16
  let terminal ← (← IO.getStdout).isTty
  pure {
    clock := fun _ => now
    tools := fun call s => (.notStarted s!"{call.program} cannot be started from here", s)
    runId := identifier name.toList
    entropy := ⟨key.toList, nonce.toList⟩
    color := Output.wantsColor vars terminal }

def run (args : List String) : IO UInt32 := do
  let vars ← readVars
  match CommandLine.parse vars args with
  | .error e =>
    if e.exitCode = 0 then IO.print e.message else IO.eprint e.message
    pure (UInt32.ofNat e.exitCode)
  | .ok command =>
    let files ← readFiles command vars
    let outcome := command.run (← means vars) ⟨⟨vars, files⟩, ⟨"", fun _ => .dropped, []⟩, ()⟩
    writeFiles files outcome.world.host.files
    IO.print outcome.out
    IO.eprint outcome.err
    pure (UInt32.ofNat outcome.code)

end Rollout.Terminal

def main (args : List String) : IO UInt32 := Rollout.Terminal.run args
