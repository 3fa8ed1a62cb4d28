import Rollout.Text.Blank
import Rollout.Text.Quoted

namespace Rollout

structure Image where
  registry : String
  repository : String
  tag : Option String
  deriving DecidableEq, Repr

namespace Image

def defaultRegistry : String := "docker.io"

-- A first path segment names a registry if it looks like a host.
def isRegistryHost (host : List Char) : Bool :=
  host == "localhost".toList || host.contains '.' || host.contains ':'

def isComponentChar (c : Char) : Bool :=
  Text.isLower c || Text.isDigit c || c == '.' || c == '_' || c == '-'

def isComponentEnd (c : Char) : Bool := Text.isAlphanumeric c

-- A segment of a repository path: separators stand inside only.
def isComponent (cs : List Char) : Bool :=
  !cs.isEmpty && cs.all isComponentChar && cs.head?.any isComponentEnd && cs.getLast?.any isComponentEnd

def isTagChar (c : Char) : Bool := Text.isAlphanumeric c || c == '.' || c == '_' || c == '-'

def isTag (cs : List Char) : Bool :=
  !cs.isEmpty && cs.length ≤ 128 && cs.all isTagChar && !cs.head?.any fun c => c == '.' || c == '-'

inductive Invalid where
  | empty
  | scheme (url : String)
  | noRepository (url : String)
  | component (part url : String)
  | badTag (part url : String)
  deriving DecidableEq, Repr

def Invalid.message : Invalid → String
  | .empty => "image URL cannot be empty"
  | .scheme url => s!"image URL '{url}' must not contain a scheme"
  | .noRepository url => s!"image URL '{url}' has no repository path"
  | .component part url =>
    s!"repository component '{part}' in '{url}' must be lowercase alphanumeric with '.', '_' or '-' separators"
  | .badTag part url => s!"tag '{part}' in '{url}' is invalid"

def splitRegistry (url : List Char) : List Char × List Char :=
  match Text.splitFirst '/' url with
  | some (host, rest) => if isRegistryHost host then (host, rest) else (defaultRegistry.toList, url)
  | none => (defaultRegistry.toList, url)

def splitTag (rest : List Char) : List Char × Option (List Char) :=
  match Text.splitLast ':' rest with
  | some (repository, tag) => if tag.contains '/' then (rest, none) else (repository, some tag)
  | none => (rest, none)

def parse (text : String) : Except Invalid Image :=
  let url := Text.trim text
  let cs := url.toList
  if cs.isEmpty then .error .empty
  else if Text.occurs "://".toList cs then .error (.scheme url)
  else
    let (registry, rest) := splitRegistry cs
    let (repository, tag) := splitTag rest
    if repository.isEmpty then .error (.noRepository url)
    else
      match (Text.splitChar '/' repository).find? fun part => !isComponent part with
      | some part => .error (.component (String.ofList part) url)
      | none =>
        match tag with
        | none => .ok ⟨String.ofList registry, String.ofList repository, none⟩
        | some tag =>
          if isTag tag then
            .ok ⟨String.ofList registry, String.ofList repository, some (String.ofList tag)⟩
          else .error (.badTag (String.ofList tag) url)

def withTag (image : Image) (tag : String) : Image := { image with tag := some tag }

def name (image : Image) : String := image.registry ++ "/" ++ image.repository

def render (image : Image) : String :=
  match image.tag with
  | none => image.name
  | some tag => image.name ++ ":" ++ tag

def debug (image : Image) : String :=
  Text.record "ImageRef" [("registry", Text.quoted image.registry),
    ("repository", Text.quoted image.repository), ("tag", Text.option (image.tag.map Text.quoted))]

end Image

end Rollout
