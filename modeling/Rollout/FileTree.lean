import Rollout.Declared
import Rollout.Path

namespace Rollout

inductive FileNode where
  | file (bytes : List UInt8)
  | dir (entries : List (String × FileNode))
  | link (target : String)

inductive FileError where
  | notFound
  | exists
  | notDirectory
  | isDirectory
  | tooManyLinks
  | denied
  deriving DecidableEq, Repr

def FileError.message : FileError → String
  | .notFound => "No such file or directory (os error 2)"
  | .exists => "File exists (os error 17)"
  | .notDirectory => "Not a directory (os error 20)"
  | .isDirectory => "Is a directory (os error 21)"
  | .tooManyLinks => "Too many levels of symbolic links (os error 40)"
  | .denied => "Permission denied (os error 13)"

namespace FileNode

def get? : List String → FileNode → Option FileNode
  | [], node => some node
  | name :: rest, .dir entries => (entries.lookup name).bind (get? rest)
  | _ :: _, _ => none

-- Replaces or adds the node at a list of names; what is not below a directory stays.
def insert (new : FileNode) : List String → FileNode → FileNode
  | [], _ => new
  | name :: rest, .dir entries =>
    .dir (Declared.put name (insert new rest ((entries.lookup name).getD (.dir []))) entries)
  | _ :: _, other => other

def erase : List String → FileNode → FileNode
  | [], node => node
  | [name], .dir entries => .dir (Declared.remove name entries)
  | name :: rest, .dir entries =>
    match entries.lookup name with
    | some child => .dir (Declared.put name (erase rest child) entries)
    | none => .dir entries
  | _ :: _, other => other

mutual
-- Every file below the node with its names, in the order of the entries.
def files : FileNode → List (List String × List UInt8)
  | .file bytes => [([], bytes)]
  | .dir entries => filesOf entries
  | .link _ => []
def filesOf : List (String × FileNode) → List (List String × List UInt8)
  | [] => []
  | (name, node) :: rest =>
    (files node).map (fun (path, bytes) => (name :: path, bytes)) ++ filesOf rest
end

end FileNode

-- A tree and the names that lead from its root to the working directory. What is locked may be read
-- but not written: a file there keeps its bytes, and a directory its entries.
structure FileTree where
  root : FileNode
  workingDir : List String
  locked : List (List String)

namespace FileTree

def ofDir (names : List String) : FileTree :=
  ⟨FileNode.insert (.dir []) names (.dir []), names, []⟩

def workingPath (tree : FileTree) : String := "/" ++ "/".intercalate tree.workingDir

inductive Place where
  | present (names : List String)
  | vacant (names : List String)
  deriving DecidableEq, Repr

-- Follows pieces of a path from a directory, up to the first link; `through` goes on from there.
def followTo (root : FileNode) (through : List String → List String → Except FileError Place) :
    List String → List String → Except FileError Place
  | here, [] => .ok (.present here)
  | here, piece :: rest =>
    if piece = "" ∨ piece = "." then followTo root through here rest
    else if piece = ".." then followTo root through here.dropLast rest
    else
      let there := here ++ [piece]
      match root.get? there with
      | none => if rest.isEmpty then .ok (.vacant there) else .error .notFound
      | some (.dir _) => followTo root through there rest
      | some (.file _) => if rest.isEmpty then .ok (.present there) else .error .notDirectory
      | some (.link target) =>
        through (if Path.isAbsolute target then [] else here) (Path.pieces target ++ rest)

-- Follows pieces of a path from a directory, through so many links at most.
def follow (root : FileNode) : Nat → List String → List String → Except FileError Place
  | 0 => followTo root fun _ _ => .error .tooManyLinks
  | links + 1 => followTo root (follow root links)

def linkLimit : Nat := 40

def origin (tree : FileTree) (path : String) : List String :=
  if Path.isAbsolute path then [] else tree.workingDir

def locate (tree : FileTree) (path : String) : Except FileError Place :=
  if path.isEmpty then .error .notFound
  else
    match tree.root.get? (tree.origin path) with
    | some (.dir _) => follow tree.root linkLimit (tree.origin path) (Path.pieces path)
    | _ => .error .notFound

def node (tree : FileTree) (path : String) : Except FileError FileNode :=
  match tree.locate path with
  | .ok (.present names) =>
    match tree.root.get? names with
    | some node => .ok node
    | none => .error .notFound
  | .ok (.vacant _) => .error .notFound
  | .error e => .error e

def read (tree : FileTree) (path : String) : Except FileError (List UInt8) :=
  match tree.node path with
  | .ok (.file bytes) => .ok bytes
  | .ok (.dir _) => .error .isDirectory
  | .ok (.link _) => .error .tooManyLinks
  | .error e => .error e

def present (tree : FileTree) (path : String) : Bool := (tree.node path).isOk

def isDir (tree : FileTree) (path : String) : Bool :=
  match tree.node path with
  | .ok (.dir _) => true
  | _ => false

def unlocked (tree : FileTree) (names : List String) (changed : FileNode) :
    Except FileError FileTree :=
  if tree.locked.contains names then .error .denied else .ok { tree with root := changed }

-- A new entry changes the directory that it comes to.
def add (tree : FileTree) (names : List String) (node : FileNode) : Except FileError FileTree :=
  tree.unlocked names.dropLast (FileNode.insert node names tree.root)

-- A file that may not be written is refused when it is opened, before any of its bytes is lost.
def write (tree : FileTree) (path : String) (bytes : List UInt8) : Except FileError FileTree :=
  match tree.locate path with
  | .ok (.vacant names) => tree.add names (.file bytes)
  | .ok (.present names) =>
    match tree.root.get? names with
    | some (.file _) => tree.unlocked names (FileNode.insert (.file bytes) names tree.root)
    | _ => .error .isDirectory
  | .error e => .error e

def entry? (tree : FileTree) (path : String) : Option FileNode :=
  let pieces := Path.pieces path
  match follow tree.root linkLimit (tree.origin path) pieces.dropLast with
  | .ok (.present here) => tree.root.get? (here ++ pieces.getLast?.toList)
  | _ => none

-- A link without a target is in the way, too.
def makeDir (tree : FileTree) (path : String) : Except FileError FileTree :=
  let path := String.ofList (Path.trimEnd path.toList.reverse).reverse
  match tree.locate path with
  | .ok (.vacant names) =>
    match tree.entry? path with
    | some _ => .error .exists
    | none => tree.add names (.dir [])
  | .ok (.present _) => .error .exists
  | .error e => .error e

-- A directory that could not be made may be there already.
def orThere (tree : FileTree) (path : String) (made : Except FileError FileTree) :
    Except FileError FileTree :=
  match made with
  | .ok after => .ok after
  | .error e => if tree.isDir path then .ok tree else .error e

-- What a step leaves behind: its tree, or if it failed the one from before.
def settle (before : FileTree) : Except FileError FileTree → Except FileError Unit × FileTree
  | .ok after => (.ok (), after)
  | .error e => (.error e, before)

-- Creates a directory and those above it that are missing. What was made before a failure stays.
def makeDirs (tree : FileTree) : Nat → String → Except FileError Unit × FileTree
  | 0, _ => (.error .notFound, tree)
  | depth + 1, path =>
    if path.isEmpty then (.ok (), tree)
    else
      match tree.makeDir path with
      | .ok tree => (.ok (), tree)
      | .error .notFound =>
        match Path.parent? path with
        | none => (.error .notFound, tree)
        | some up =>
          match makeDirs tree depth up with
          | (.error e, tree) => (.error e, tree)
          | (.ok (), tree) => tree.settle (orThere tree path (tree.makeDir path))
      | .error e => tree.settle (orThere tree path (.error e))

def ensureDir (tree : FileTree) (path : String) : Except FileError Unit × FileTree :=
  makeDirs tree (path.length + 1) path

def createDirAll (tree : FileTree) (path : String) : Except FileError FileTree :=
  match tree.ensureDir path with
  | (.ok (), after) => .ok after
  | (.error e, _) => .error e

def remove (tree : FileTree) (path : String) : FileTree :=
  match tree.locate path with
  | .ok (.present names) =>
    (tree.unlocked names.dropLast (tree.root.erase names)).toOption.getD tree
  | _ => tree

def makeLink (tree : FileTree) (path target : String) : FileTree :=
  match tree.locate path with
  | .ok (.vacant names) => (tree.add names (.link target)).toOption.getD tree
  | _ => tree

-- A file with the directories above it; what cannot be made is left out.
def place (tree : FileTree) (path : String) (bytes : List UInt8) : FileTree :=
  let above := match Path.parent? path with
    | some up => (tree.createDirAll up).toOption.getD tree
    | none => tree
  (above.write path bytes).toOption.getD above

def enter (tree : FileTree) (path : String) : FileTree :=
  match tree.locate path with
  | .ok (.present names) => { tree with workingDir := names }
  | _ => tree

end FileTree

end Rollout
