import Rollout.Text.Blank
import Rollout.Text.Utf8

namespace Rollout

structure Url where
  scheme : String
  authority : String
  path : String
  query : Option String
  fragment : Option String
  deriving DecidableEq, Repr

namespace Url

def percent (byte : UInt8) : List Char :=
  ['%', Text.upperHexDigit (byte.toNat / 16), Text.upperHexDigit (byte.toNat % 16)]

def encode (reserved : List Char) (cs : List Char) : List Char :=
  cs.flatMap fun c =>
    if c.toNat < 0x20 ∨ 0x7E < c.toNat ∨ reserved.contains c then
      (Utf8.encode (String.ofList [c])).flatMap percent
    else [c]

def inPath : List Char := [' ', '\x22', '#', '<', '>', '?', '\x60', '\x7b', '\x7d']
def inQuery : List Char := [' ', '\x22', '#', '<', '>', '\x27']
def inFragment : List Char := [' ', '\x22', '<', '>', '\x60']

def isSlash (c : Char) : Bool := c = '/' || c = '\\'

def segments : List Char → List (List Char)
  | [] => [[]]
  | c :: rest =>
    if isSlash c then [] :: segments rest
    else match segments rest with
      | [] => [[c]]
      | piece :: pieces => (c :: piece) :: pieces

def dots : List String := [".", "%2e", "%2E"]

def isSingleDot (cs : List Char) : Bool := dots.contains (String.ofList cs)

def isDoubleDot (cs : List Char) : Bool :=
  dots.any fun a => dots.any fun b => String.ofList cs == a ++ b

def resolve (done : List (List Char)) : List (List Char) → List (List Char)
  | [] => done.reverse
  | [last] =>
    if isDoubleDot last then ([] :: done.drop 1).reverse
    else if isSingleDot last then ([] :: done).reverse
    else (encode inPath last :: done).reverse
  | piece :: rest =>
    if isDoubleDot piece then resolve (done.drop 1) rest
    else if isSingleDot piece then resolve done rest
    else resolve (encode inPath piece :: done) rest

def pathOf (done : List (List Char)) (cs : List Char) : String :=
  String.ofList ((resolve done.reverse (segments cs)).flatMap fun piece => '/' :: piece)

def cut (mark : Char) (cs : List Char) : List Char × Option (List Char) :=
  match Text.splitFirst mark cs with
  | some (a, b) => (a, some b)
  | none => (cs, none)

def queryOf (q : Option (List Char)) : Option String :=
  q.map fun q => String.ofList (encode inQuery q)

def fragmentOf (f : Option (List Char)) : Option String :=
  f.map fun f => String.ofList (encode inFragment f)

-- Line ends and tabs do not count, nor do blanks and control characters at the ends.
def clean (text : String) : List Char :=
  let inner := text.toList.filter fun c => c ≠ '\t' && c ≠ '\n' && c ≠ '\r'
  let trim (cs : List Char) := cs.dropWhile fun c => c.toNat ≤ 0x20
  (trim (trim inner).reverse).reverse

def schemes : List String := ["http", "https"]

def scheme? (cs : List Char) : Option (String × List Char) :=
  match Text.splitFirst ':' cs with
  | some (name, rest) =>
    let name := (String.ofList name).toLower
    if schemes.contains name then some (name, rest) else none
  | none => none

def defaultPort (scheme : String) : String := if scheme = "https" then "443" else "80"

def isHostChar (c : Char) : Bool :=
  Text.isAlphanumeric c || ['-', '.', '_', ':', '~', '[', ']'].contains c

def authorityOf? (scheme : String) (cs : List Char) : Option String :=
  if cs.isEmpty || !cs.all isHostChar || cs.head? = some ':' then none
  else
    let text := (String.ofList cs).toLower
    match Text.splitLast ':' text.toList with
    | some (host, port) =>
      if port.isEmpty || String.ofList port = defaultPort scheme then some (String.ofList host)
      else some text
    | none => some text

def ofAuthority? (scheme : String) (cs : List Char) : Option Url := do
  let (cs, fragment) := cut '#' cs
  let (cs, query) := cut '?' cs
  let host := cs.takeWhile fun c => !isSlash c
  let rest := (cs.dropWhile fun c => !isSlash c).drop 1
  some ⟨scheme, ← authorityOf? scheme host, pathOf [] rest, queryOf query, fragmentOf fragment⟩

def parse? (text : String) : Option Url := do
  let (scheme, rest) ← scheme? (clean text)
  ofAuthority? scheme (rest.dropWhile isSlash)

def above (path : String) : List (List Char) :=
  (segments (path.toList.drop 1)).dropLast

def join? (base : Url) (reference : String) : Option Url :=
  let cs := clean reference
  match scheme? cs with
  | some (scheme, rest) => ofAuthority? scheme (rest.dropWhile isSlash)
  | none =>
    let (cs, fragment) := cut '#' cs
    let (cs, query) := cut '?' cs
    let fragment := fragmentOf fragment
    match cs with
    | [] => some { base with query := if query.isSome then queryOf query else base.query, fragment }
    | c :: rest =>
      if isSlash c then
        match rest with
        | d :: after =>
          if isSlash d then
            (ofAuthority? base.scheme (after.dropWhile isSlash)).map fun u =>
              { u with query := queryOf query, fragment }
          else some { base with path := pathOf [] rest, query := queryOf query, fragment }
        | [] => some { base with path := "/", query := queryOf query, fragment }
      else
        some { base with path := pathOf (above base.path) (c :: rest), query := queryOf query, fragment }

def target (url : Url) : String :=
  match url.query with
  | some q => url.path ++ "?" ++ q
  | none => url.path

def render (url : Url) : String :=
  url.scheme ++ "://" ++ url.authority ++ url.target ++
    match url.fragment with
    | some f => "#" ++ f
    | none => ""

end Url

end Rollout
