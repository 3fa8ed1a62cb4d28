import Rollout.Text.Blank

namespace Rollout.Path

def isAbsolute (path : String) : Bool := path.toList.head? == some '/'

def join (base path : String) : String :=
  if isAbsolute path || base.isEmpty then path
  else if base.toList.getLast? = some '/' then base ++ path
  else base ++ "/" ++ path

-- A path, given backwards, without slashes and single dots at its end.
def trimEnd : List Char → List Char
  | ['/'] => ['/']
  | '/' :: rest => trimEnd rest
  | '.' :: '/' :: rest => trimEnd ('/' :: rest)
  | rest => rest

def parent? (path : String) : Option String :=
  let back := trimEnd path.toList.reverse
  match back with
  | [] => none
  | ['/'] => none
  | back =>
    match back.dropWhile (· ≠ '/') with
    | [] => some ""
    | rest => some (String.ofList (trimEnd rest).reverse)

def pieces (path : String) : List String :=
  (Text.splitChar '/' path.toList).map String.ofList

-- The path itself and those above it, the nearest first; `count` bounds their number.
def ancestorsFrom : Nat → String → List String
  | 0, path => [path]
  | count + 1, path =>
    match parent? path with
    | some up => path :: ancestorsFrom count up
    | none => [path]

def ancestors (path : String) : List String := ancestorsFrom path.length path

end Rollout.Path
