import Rollout.Yaml.Layout
import Rollout.Yaml.Node

namespace Rollout.Yaml

structure Reading where
  tokens : List (Token × Place)
  ending : Except Fault Place
  anchors : List (String × Node)
  handles : List (String × String)

-- Anchor and tag in front of a node, the place of the tag and the place where they begin.
structure Properties where
  anchor : Option String
  tag : Option ((String × String) × Place)
  place : Place

namespace Reading

def skip (r : Reading) : Reading := { r with tokens := r.tokens.tail }

def next (r : Reading) : Except Fault (Token × Place) :=
  match r.tokens with
  | t :: _ => .ok t
  | [] => r.ending.map fun place => (.streamEnd, place)

def remember (name : Option String) (v : Node) (r : Reading) : Reading :=
  match name with
  | some name => { r with anchors := (name, v) :: r.anchors }
  | none => r

def handle? (r : Reading) (handle : String) : Option String :=
  if handle.isEmpty then some ""
  else match r.handles.lookup handle with
    | some start => some start
    | none =>
      if handle = "!" then some "!"
      else if handle = "!!" then some (coreTag "")
      else none

def properties (r : Reading) : Except Fault (Properties × Reading) := do
  let (first, place) ← r.next
  match first with
  | .anchor a =>
    let r := r.skip
    let (second, tagPlace) ← r.next
    match second with
    | .tag h s => .ok (⟨some a, some ((h, s), tagPlace), place⟩, r.skip)
    | _ => .ok (⟨some a, none, place⟩, r)
  | .tag h s =>
    let r := r.skip
    let (second, _) ← r.next
    match second with
    | .anchor a => .ok (⟨some a, some ((h, s), place), place⟩, r.skip)
    | _ => .ok (⟨none, some ((h, s), place), place⟩, r)
  | _ => .ok (⟨none, none, place⟩, r)

def tagName (r : Reading) (p : Properties) : Except Fault (Option String) :=
  match p.tag with
  | none => .ok none
  | some ((handle, suffix), place) =>
    match r.handle? handle with
    | some start => .ok (some (start ++ suffix))
    | none => .error ⟨"found undefined tag handle", place, some ("while parsing a node", p.place)⟩

end Reading

def tooDeep {α : Type} : Except Fault α := .error ⟨"recursion limit exceeded", ⟨0, 0⟩, none⟩

mutual
-- A node; `block` and `indentless` tell which collections may begin here.
def readNode : Nat → (block indentless : Bool) → Reading → Except Fault (Node × Reading)
  | 0, _, _, _ => tooDeep
  | fuel + 1, block, indentless, r => do
    let (first, place) ← r.next
    match first with
    | .alias name =>
      match r.anchors.lookup name with
      | some v => .ok (v, r.skip)
      | none => .error ⟨"unknown anchor", place, none⟩
    | _ =>
      let (properties, r) ← r.properties
      let (token, here) ← r.next
      let tag ← r.tagName properties
      let finish (v : Node) (r : Reading) : Node × Reading := (v, r.remember properties.anchor v)
      let sequence (found : List Node × Reading) : Node × Reading :=
        finish (.sequence place tag found.1) found.2
      let mapping (found : List (Node × Node) × Reading) : Node × Reading :=
        finish (.mapping place tag found.1) found.2
      match token with
      | .scalar text plain => .ok (finish (.scalar place tag plain text) r.skip)
      | .flowSequenceStart => (flowItems fuel here true r.skip).map sequence
      | .flowMappingStart => (flowEntries fuel here true r.skip).map mapping
      | _ =>
        if token = .blockEntry && indentless then (indentlessItems fuel r).map sequence
        else if token = .blockSequenceStart && block then
          (blockItems fuel here r.skip).map sequence
        else if token = .blockMappingStart && block then
          (blockEntries fuel here r.skip).map mapping
        else if properties.anchor.isSome || tag.isSome then
          .ok (finish (.scalar place tag true "") r)
        else
          let during := if block then "while parsing a block node" else "while parsing a flow node"
          .error ⟨"did not find expected node content", here, some (during, place)⟩
-- A node unless one of the given tokens comes next, which means that it is empty.
def nodeBefore : Nat → (block indentless : Bool) → List Token → (missing : Option Place) →
    Reading → Except Fault (Node × Reading)
  | 0, _, _, _, _, _ => tooDeep
  | fuel + 1, block, indentless, stops, missing, r => do
    let (token, here) ← r.next
    if stops.contains token then .ok (Node.empty (missing.getD here), r)
    else readNode fuel block indentless r
def blockItems : Nat → Place → Reading → Except Fault (List Node × Reading)
  | 0, _, _ => tooDeep
  | fuel + 1, since, r => do
    let (token, here) ← r.next
    match token with
    | .blockEntry =>
      let (v, r) ← nodeBefore fuel true false [.blockEntry, .blockEnd] (some here.right) r.skip
      let (vs, r) ← blockItems fuel since r
      .ok (v :: vs, r)
    | .blockEnd => .ok ([], r.skip)
    | _ =>
      .error ⟨"did not find expected '-' indicator", here,
        some ("while parsing a block collection", since)⟩
def indentlessItems : Nat → Reading → Except Fault (List Node × Reading)
  | 0, _ => tooDeep
  | fuel + 1, r => do
    let (token, here) ← r.next
    match token with
    | .blockEntry =>
      let (v, r) ←
        nodeBefore fuel true false [.blockEntry, .key, .value, .blockEnd] (some here.right) r.skip
      let (vs, r) ← indentlessItems fuel r
      .ok (v :: vs, r)
    | _ => .ok ([], r)
def blockEntries : Nat → Place → Reading → Except Fault (List (Node × Node) × Reading)
  | 0, _, _ => tooDeep
  | fuel + 1, since, r => do
    let stops := [Token.key, .value, .blockEnd]
    let (token, here) ← r.next
    match token with
    | .blockEnd => .ok ([], r.skip)
    | .key =>
      let (k, r) ← nodeBefore fuel true true stops (some here) r.skip
      let (token, here) ← r.next
      let (v, r) ←
        if token = .value then nodeBefore fuel true true stops (some here.right) r.skip
        else .ok (Node.empty here, r)
      let (rest, r) ← blockEntries fuel since r
      .ok ((k, v) :: rest, r)
    | _ =>
      .error ⟨"did not find expected key", here, some ("while parsing a block mapping", since)⟩
def flowItems : Nat → Place → Bool → Reading → Except Fault (List Node × Reading)
  | 0, _, _, _ => tooDeep
  | fuel + 1, since, first, r => do
    let (token, here) ← r.next
    if token = .flowSequenceEnd then .ok ([], r.skip)
    else
      let r ←
        if first then .ok r
        else if token = .flowEntry then .ok r.skip
        else .error ⟨"did not find expected ',' or ']'", here,
          some ("while parsing a flow sequence", since)⟩
      let (token, here) ← r.next
      match token with
      | .flowSequenceEnd => .ok ([], r.skip)
      | .key =>
        -- one pair without braces; a key that is left out takes the sign behind it along
        let r := r.skip
        let (token, after) ← r.next
        let (k, r) ←
          if [Token.value, .flowEntry, .flowSequenceEnd].contains token then
            .ok (Node.empty after.right, r.skip)
          else readNode fuel false false r
        let (token, after) ← r.next
        let (v, r) ←
          if token = .value then nodeBefore fuel false false [.flowEntry, .flowSequenceEnd] none r.skip
          else .ok (Node.empty after, r)
        let (vs, r) ← flowItems fuel since false r
        .ok (.mapping here none [(k, v)] :: vs, r)
      | _ =>
        let (v, r) ← readNode fuel false false r
        let (vs, r) ← flowItems fuel since false r
        .ok (v :: vs, r)
def flowEntries : Nat → Place → Bool → Reading → Except Fault (List (Node × Node) × Reading)
  | 0, _, _, _ => tooDeep
  | fuel + 1, since, first, r => do
    let (token, here) ← r.next
    if token = .flowMappingEnd then .ok ([], r.skip)
    else
      let r ←
        if first then .ok r
        else if token = .flowEntry then .ok r.skip
        else .error ⟨"did not find expected ',' or '\x7d'", here,
          some ("while parsing a flow mapping", since)⟩
      let (token, _) ← r.next
      match token with
      | .flowMappingEnd => .ok ([], r.skip)
      | .key =>
        let (k, r) ← nodeBefore fuel false false [.value, .flowEntry, .flowMappingEnd] none r.skip
        let (token, after) ← r.next
        let (v, r) ←
          if token = .value then nodeBefore fuel false false [.flowEntry, .flowMappingEnd] none r.skip
          else .ok (Node.empty after, r)
        let (rest, r) ← flowEntries fuel since false r
        .ok ((k, v) :: rest, r)
      | _ =>
        let (k, r) ← readNode fuel false false r
        let (_, after) ← r.next
        let (rest, r) ← flowEntries fuel since false r
        .ok ((k, Node.empty after) :: rest, r)
end

-- Directives in front of a document; a version is 1.1 or 1.2 and given once.
def readDirectives : Nat → Bool → Reading → Except Fault (Bool × Reading)
  | 0, _, _ => tooDeep
  | fuel + 1, versioned, r => do
    let (token, here) ← r.next
    match token with
    | .versionDirective major minor =>
      if versioned then .error ⟨"found duplicate %YAML directive", here, none⟩
      if major ≠ 1 || (minor ≠ 1 && minor ≠ 2) then
        .error ⟨"found incompatible YAML document", here, none⟩
      let (_, r) ← readDirectives fuel true r.skip
      .ok (true, r)
    | .tagDirective handle uri =>
      if (r.handles.lookup handle).isSome then
        .error ⟨"found duplicate %TAG directive", here, none⟩
      let (_, r) ← readDirectives fuel versioned { r.skip with handles := (handle, uri) :: r.handles }
      .ok (true, r)
    | _ => .ok (false, r)

-- Whether anything but ends of documents follows; what cannot be read counts as well.
def Reading.goesOn (r : Reading) : Bool :=
  !(r.tokens.all fun t => t.1 = .documentEnd) || !r.ending.isOk

structure Document where
  node : Node
  more : Bool

def Document.ofTokens (ts : Tokens) : Except Fault Document := do
  let fuel := 4 * ts.tokens.length + 8
  let (directed, r) ← readDirectives (ts.tokens.length + 1) false ⟨ts.tokens, ts.ending, [], []⟩
  let (token, here) ← r.next
  let marked := token = .documentStart
  if directed && !marked then .error ⟨"did not find expected <document start>", here, none⟩
  let r := if marked then r.skip else r
  let (token, here) ← r.next
  let empty := token = .streamEnd || (marked && (token = .documentStart || token = .documentEnd ||
    match token with
    | .versionDirective _ _ => true
    | .tagDirective _ _ => true
    | _ => false))
  let (v, r) ← if empty then .ok (Node.empty here, r) else readNode fuel true false r
  let (token, _) ← r.next
  .ok ⟨v, (if token = .documentEnd then r.skip else r).goesOn⟩

def Document.parse (text : String) : Except Fault Document :=
  ofTokens (.ofText text.toList)

def severalDocuments : String :=
  "deserializing from YAML containing more than one document is not supported"

def decode {α : Type} (ofNode : Node → Except Mismatch α) (text : String) : Except String α :=
  match Document.parse text with
  | .error fault => .error fault.message
  | .ok document =>
    match ofNode document.node with
    | .error mismatch => .error mismatch.message
    | .ok a => if document.more then .error severalDocuments else .ok a

def parse : String → Except String Yaml := decode Node.value

end Rollout.Yaml
