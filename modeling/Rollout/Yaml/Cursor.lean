import Rollout.Text.Blank
import Rollout.Yaml.Place

namespace Rollout.Yaml

def isBreak (c : Char) : Bool :=
  c = '\r' || c = '\n' || c.toNat = 0x85 || c.toNat = 0x2028 || c.toNat = 0x2029

def isSpaceOrTab (c : Char) : Bool := c = ' ' || c = '\t'

def blankOrEnd : List Char → Bool
  | [] => true
  | c :: _ => isSpaceOrTab c || isBreak c

def breakOrEnd : List Char → Bool
  | [] => true
  | c :: _ => isBreak c

def isAllowed (c : Char) : Bool :=
  let n := c.toNat
  n = 0x09 || n = 0x0A || n = 0x0D || (0x20 ≤ n && n ≤ 0x7E) || n = 0x85 ||
  (0xA0 ≤ n && n ≤ 0xFFFD) || 0x10000 ≤ n

def isNameChar (c : Char) : Bool := Text.isAlphanumeric c || c = '_' || c = '-'

-- The rest of the text, the place where it begins and the number of characters before it.
structure Cursor where
  rest : List Char
  place : Place
  index : Nat

namespace Cursor

def start (text : List Char) : Cursor := ⟨text, ⟨0, 0⟩, 0⟩

def column (k : Cursor) : Nat := k.place.column

def wrong {α : Type} (k : Cursor) (during : String) (since : Place) (problem : String) :
    Except Fault α :=
  .error ⟨problem, k.place, some (during, since)⟩

def skip (k : Cursor) : Cursor := ⟨k.rest.tail, k.place.right, k.index + 1⟩

def skipMany : Nat → Cursor → Cursor
  | 0, k => k
  | n + 1, k => skipMany n k.skip

-- The line end that comes next, as it is kept in a scalar, and the place behind it.
def readBreak (k : Cursor) : List Char × Cursor :=
  let below : Place := ⟨k.place.line + 1, 0⟩
  match k.rest with
  | '\r' :: '\n' :: rest => (['\n'], ⟨rest, below, k.index + 2⟩)
  | c :: rest =>
    let kept := if c.toNat = 0x2028 || c.toNat = 0x2029 then c else '\n'
    ([kept], ⟨rest, below, k.index + 1⟩)
  | [] => ([], k)

def skipBreak (k : Cursor) : Cursor := k.readBreak.2

def readWhile (p : Char → Bool) : Nat → Cursor → List Char × Cursor
  | 0, k => ([], k)
  | n + 1, k =>
    match k.rest with
    | c :: _ =>
      if p c then
        let (cs, k) := readWhile p n k.skip
        (c :: cs, k)
      else ([], k)
    | [] => ([], k)

def run (p : Char → Bool) (k : Cursor) : List Char × Cursor := readWhile p k.rest.length k

def skipSpaces (k : Cursor) : Cursor := (k.run isSpaceOrTab).2

def skipToBreak (k : Cursor) : Cursor := (k.run fun c => !isBreak c).2

def skipComment (k : Cursor) : Cursor :=
  let k := k.skipSpaces
  if k.rest.head? = some '#' then k.skipToBreak else k

def atMarker (k : Cursor) : Bool :=
  k.column = 0 &&
  match k.rest with
  | '-' :: '-' :: '-' :: rest => blankOrEnd rest
  | '.' :: '.' :: '.' :: rest => blankOrEnd rest
  | _ => false

end Cursor

end Rollout.Yaml
