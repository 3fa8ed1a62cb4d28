import Rollout.Kdl.Lexical
import Rollout.Text.Utf8

namespace Rollout.Kdl

def slashdash? : List Char → Option (List Char)
  | '/' :: '-' :: rest => skipLines rest
  | _ => none

def type? : List Char → Option (Option String × List Char)
  | '(' :: rest => do
    let rest ← skipSpace rest
    let (type, rest) ← name? rest
    let rest ← skipSpace rest
    match rest with
    | ')' :: rest => some (some type, ← skipSpace rest)
    | _ => none
  | rest => some (none, rest)

-- An argument or a property. Only a string without a type can name a property, and space may stand
-- on both sides of its sign.
def entry? (cs : List Char) : Option (Entry × List Char) := do
  let (type, rest) ← type? cs
  let (value, behind) ← scalar? rest
  match skipSpace behind with
  | some ('=' :: rest) =>
    match type, value with
    | none, .string name =>
      let rest ← skipSpace rest
      let (type, rest) ← type? rest
      let (value, rest) ← scalar? rest
      some (⟨some name, type, value⟩, rest)
    | _, _ => none
  | _ => some (⟨none, type, value⟩, behind)

def entriesEnd : List Char → Bool
  | [] => true
  | c :: rest =>
    c == '\x7b' || c == '\x7d' || c == ';' || isNewline c || (c == '/' && rest.head? == some '/')

-- Entries up to a block or the end of the node; `gap` tells whether space came before.
def entries? : Nat → List Char → Option (List Entry × List Char)
  | 0, _ => none
  | fuel + 1, cs => do
    let rest ← skipSpace cs
    if entriesEnd rest then some ([], rest)
    else
      match slashdash? rest with
      | some behind =>
        if behind.head? = some '\x7b' then some ([], rest)
        else
          let (_, behind) ← entry? behind
          entries? fuel behind
      | none =>
        if rest.length < cs.length then
          let (entry, behind) ← entry? rest
          let (entries, behind) ← entries? fuel behind
          some (entry :: entries, behind)
        else none

mutual
def nodes? (size : Nat) : Nat → List Char → Option (List Node × List Char)
  | 0, _ => none
  | fuel + 1, cs => do
    let rest ← skipLines cs
    match rest with
    | [] => some ([], [])
    | c :: _ =>
      if c = '\x7d' then some ([], rest)
      else
        match slashdash? rest with
        | some behind =>
          let (_, behind) ← node? size fuel behind
          -- the node that was dropped has no end of its own, so a semicolon may not follow
          nodes? size fuel behind
        | none =>
          let (node, behind) ← node? size fuel rest
          match behind with
          | d :: _ =>
            if d = '\x7d' then some ([node], behind)
            else
              let behind ← terminator? behind
              let (nodes, behind) ← nodes? size fuel behind
              some (node :: nodes, behind)
          | [] => some ([node], [])
def node? (size : Nat) : Nat → List Char → Option (Node × List Char)
  | 0, _ => none
  | fuel + 1, cs => do
    let offset := size - cs.foldl (fun n c => n + c.utf8Size) 0
    let (_, rest) ← type? cs
    let (name, rest) ← name? rest
    let (entries, rest) ← entries? (rest.length + 1) rest
    let (children, rest) ← blocks? size fuel none rest
    some (⟨offset, name, entries, children⟩, rest)
def blocks? (size : Nat) : Nat → Option (List Node) → List Char →
    Option (Option (List Node) × List Char)
  | 0, _, _ => none
  | fuel + 1, found, cs => do
    let rest ← skipSpace cs
    match slashdash? rest with
    | some (c :: behind) =>
      if c = '\x7b' then
        let (_, behind) ← block? size fuel behind
        blocks? size fuel found behind
      else none
    | some [] => none
    | none =>
      match rest with
      | c :: behind =>
        if c = '\x7b' then
          match found with
          | some _ => none
          | none =>
            let (nodes, behind) ← block? size fuel behind
            blocks? size fuel (some nodes) behind
        else some (found, rest)
      | [] => some (found, [])
def block? (size : Nat) : Nat → List Char → Option (List Node × List Char)
  | 0, _ => none
  | fuel + 1, cs => do
    let (nodes, rest) ← nodes? size fuel cs
    match rest with
    | c :: rest => if c = '\x7d' then some (nodes, rest) else none
    | [] => none
end

def parse? (text : String) : Option (List Node) :=
  let cs := text.toList
  let size := cs.foldl (fun n c => n + c.utf8Size) 0
  let body := match cs with
    | c :: rest => if c = '\uFEFF' then rest else c :: rest
    | [] => []
  match nodes? size (4 * body.length + 4) body with
  | some (nodes, []) => some nodes
  | _ => none

end Rollout.Kdl
