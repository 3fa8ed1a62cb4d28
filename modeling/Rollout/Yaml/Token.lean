import Rollout.Yaml.Cursor

namespace Rollout.Yaml

inductive Token where
  | streamEnd
  | documentStart
  | documentEnd
  | versionDirective (major minor : Nat)
  | tagDirective (handle uri : String)
  | blockSequenceStart
  | blockMappingStart
  | blockEnd
  | flowSequenceStart
  | flowSequenceEnd
  | flowMappingStart
  | flowMappingEnd
  | blockEntry
  | flowEntry
  | key
  | value
  | alias (name : String)
  | anchor (name : String)
  | tag (handle suffix : String)
  | scalar (text : String) (plain : Bool)
  deriving DecidableEq, Repr

namespace Token

-- Characters of a tag; those of a whole URI may be brackets and commas as well.
def isUriChar (whole : Bool) (c : Char) : Bool :=
  isNameChar c || ";/?:@&=+$.!~*'()".toList.contains c ||
  (whole && (c = ',' || c = '[' || c = ']'))

def uriOf (directive : Bool) : String :=
  if directive then "while parsing a %TAG directive" else "while parsing a tag"

def readOctet (directive : Bool) (since : Place) (k : Cursor) : Except Fault (Nat × Cursor) :=
  match k.rest with
  | '%' :: a :: b :: _ =>
    match Text.hexValue? a, Text.hexValue? b with
    | some high, some low => .ok (high * 16 + low, k.skipMany 3)
    | _, _ => k.wrong (uriOf directive) since "did not find URI escaped octet"
  | _ => k.wrong (uriOf directive) since "did not find URI escaped octet"

def readOctets (directive : Bool) (since : Place) : Nat → Nat → Cursor →
    Except Fault (Nat × Cursor)
  | 0, bits, k => .ok (bits, k)
  | n + 1, bits, k => do
    let (octet, behind) ← readOctet directive since k
    if octet / 64 = 2 then readOctets directive since n (bits * 64 + octet % 64) behind
    else k.wrong (uriOf directive) since "found an incorrect trailing UTF-8 octet"

def readEscaped (directive : Bool) (since : Place) (k : Cursor) : Except Fault (Char × Cursor) := do
  let (octet, behind) ← readOctet directive since k
  let (bits, k) ←
    if octet < 0x80 then .ok (octet, behind)
    else if octet / 32 = 6 then readOctets directive since 1 (octet % 32) behind
    else if octet / 16 = 14 then readOctets directive since 2 (octet % 16) behind
    else if octet / 8 = 30 then readOctets directive since 3 (octet % 8) behind
    else k.wrong (uriOf directive) since "found an incorrect leading UTF-8 octet"
  .ok (Char.ofNat bits, k)

def readUriChars (directive whole : Bool) (since : Place) : Nat → Cursor →
    Except Fault (List Char × Cursor)
  | 0, k => .ok ([], k)
  | n + 1, k =>
    match k.rest with
    | '%' :: _ => do
      let (c, k) ← readEscaped directive since k
      let (cs, k) ← readUriChars directive whole since n k
      .ok (c :: cs, k)
    | c :: _ =>
      if isUriChar whole c then do
        let (cs, k) ← readUriChars directive whole since n k.skip
        .ok (c :: cs, k)
      else .ok ([], k)
    | [] => .ok ([], k)

def readUri (directive whole : Bool) (since : Place) (k : Cursor) :
    Except Fault (List Char × Cursor) :=
  readUriChars directive whole since k.rest.length k

def readSomeUri (directive whole : Bool) (since : Place) (k : Cursor) :
    Except Fault (List Char × Cursor) := do
  let (cs, k) ← readUri directive whole since k
  if cs.isEmpty then k.wrong (uriOf directive) since "did not find expected tag URI"
  else .ok (cs, k)

def readTag (flow : Bool) (k : Cursor) : Except Fault (Token × Cursor) := do
  let since := k.place
  let (token, k) ← match k.rest with
    | '!' :: '<' :: _ => do
      let (cs, k) ← readSomeUri false true since (k.skipMany 2)
      if k.rest.head? = some '>' then .ok (Token.tag "" (String.ofList cs), k.skip)
      else k.wrong "while scanning a tag" since "did not find the expected '>'"
    | _ => do
      let (name, behind) := k.skip.run isNameChar
      if behind.rest.head? = some '!' then
        let (cs, k) ← readSomeUri false false since behind.skip
        .ok (Token.tag (String.ofList ('!' :: name ++ ['!'])) (String.ofList cs), k)
      else
        let (cs, k) ← readUri false false since k.skip
        .ok (if cs.isEmpty then Token.tag "" "!" else Token.tag "!" (String.ofList cs), k)
  if blankOrEnd k.rest || (flow && k.rest.head? = some ',') then .ok (token, k)
  else k.wrong "while scanning a tag" since "did not find expected whitespace or line break"

def readName (during : String) (k : Cursor) : Except Fault (String × Cursor) :=
  let (name, behind) := k.skip.run isNameChar
  let ended := blankOrEnd behind.rest ||
    behind.rest.head?.any fun c => "?:,]\x7d%@\x60".toList.contains c
  if !name.isEmpty && ended then .ok (String.ofList name, behind)
  else behind.wrong during k.place "did not find expected alphabetic or numeric character"

def readVersion (since : Place) (k : Cursor) : Except Fault (Nat × Cursor) :=
  let during := "while scanning a %YAML directive"
  let (digits, behind) := k.run Text.isDigit
  if digits.isEmpty then behind.wrong during since "did not find expected version number"
  else if 9 < digits.length then
    (k.skipMany 9).wrong during since "found extremely long version number"
  else .ok (Text.digitsValue digits, behind)

def readHandle (since : Place) (k : Cursor) : Except Fault (String × Cursor) :=
  if k.rest.head? ≠ some '!' then
    k.wrong "while scanning a tag directive" since "did not find expected '!'"
  else
    let (name, behind) := k.skip.run isNameChar
    if behind.rest.head? = some '!' then
      .ok (String.ofList ('!' :: name ++ ['!']), behind.skip)
    else if name.isEmpty then .ok ("!", behind)
    else behind.wrong "while parsing a tag directive" since "did not find expected '!'"

def readDirective (k : Cursor) : Except Fault (Token × Cursor) := do
  let since := k.place
  let during := "while scanning a directive"
  let (name, k) := k.skip.run isNameChar
  if name.isEmpty then k.wrong during since "could not find expected directive name"
  if !blankOrEnd k.rest then k.wrong during since "found unexpected non-alphabetical character"
  let (token, k) ← match String.ofList name with
    | "YAML" => do
      let (major, k) ← readVersion since k.skipSpaces
      if k.rest.head? ≠ some '.' then
        k.wrong "while scanning a %YAML directive" since
          "did not find expected digit or '.' character"
      let (minor, k) ← readVersion since k.skip
      .ok (Token.versionDirective major minor, k)
    | "TAG" => do
      let during := "while scanning a %TAG directive"
      let (handle, k) ← readHandle since k.skipSpaces
      if !(k.rest.head?.any isSpaceOrTab) then
        k.wrong during since "did not find expected whitespace"
      let (cs, k) ← readSomeUri true true since k.skipSpaces
      if !blankOrEnd k.rest then
        k.wrong during since "did not find expected whitespace or line break"
      .ok (Token.tagDirective handle (String.ofList cs), k)
    | _ => k.wrong during since "found unknown directive name"
  let k := k.skipComment
  if breakOrEnd k.rest then .ok (token, k.skipBreak)
  else k.wrong during since "did not find expected comment or line break"

-- Blank lines and indentation inside a block scalar; an indentation of zero is yet unknown and the
-- deepest one that is met is given back.
def blockBreaks (since : Place) (indent : Nat) : Nat → Nat → List Char → Cursor →
    Except Fault (Nat × List Char × Cursor)
  | 0, deepest, breaks, k => .ok (deepest, breaks, k)
  | n + 1, deepest, breaks, k =>
    match k.rest with
    | c :: _ =>
      let free := indent = 0 || k.column < indent
      if free && c = ' ' then blockBreaks since indent n deepest breaks k.skip
      else
        let deepest := max deepest k.column
        if free && c = '\t' then
          k.wrong "while scanning a block scalar" since
            "found a tab character where an indentation space is expected"
        else if isBreak c then
          let (b, k) := k.readBreak
          blockBreaks since indent n deepest (breaks ++ b) k
        else .ok (deepest, breaks, k)
    | [] => .ok (max deepest k.column, breaks, k)

structure BlockText where
  text : List Char
  lead : List Char
  trail : List Char
  leadBlank : Bool

-- The lines of a block scalar. Folding joins two lines that both begin with no blank.
def blockLines (since : Place) (literal : Bool) (indent : Nat) : Nat → BlockText → Cursor →
    Except Fault (BlockText × Cursor)
  | 0, b, k => .ok (b, k)
  | n + 1, b, k =>
    match k.rest with
    | [] => .ok (b, k)
    | c :: _ =>
      if k.column ≠ indent then .ok (b, k)
      else do
        let blank := isSpaceOrTab c
        let joint :=
          if !literal && b.lead.head? = some '\n' && !b.leadBlank && !blank then
            if b.trail.isEmpty then [' '] else []
          else b.lead
        let (line, k) := k.run fun c => !isBreak c
        let (lead, k) := k.readBreak
        let (_, trail, k) ← blockBreaks since indent (k.rest.length + 1) 0 [] k
        blockLines since literal indent n
          ⟨b.text ++ joint ++ b.trail ++ line, lead, trail, blank⟩ k

def readChomp (k : Cursor) : Option Bool × Cursor :=
  match k.rest with
  | '+' :: _ => (some true, k.skip)
  | '-' :: _ => (some false, k.skip)
  | _ => (none, k)

def readDepth (since : Place) (k : Cursor) : Except Fault (Nat × Cursor) :=
  match k.rest with
  | c :: _ =>
    if c = '0' then
      k.wrong "while scanning a block scalar" since "found an indentation indicator equal to 0"
    else if Text.isDigit c then .ok (c.toNat - 48, k.skip)
    else .ok (0, k)
  | [] => .ok (0, k)

def readBlockScalar (literal : Bool) (outer : Int) (k : Cursor) : Except Fault (Token × Cursor) := do
  let since := k.place
  let (chomp, k) := readChomp k.skip
  let (depth, k) ← readDepth since k
  let (chomp, k) := if chomp.isNone && depth ≠ 0 then readChomp k else (chomp, k)
  let k := k.skipComment
  if !breakOrEnd k.rest then
    k.wrong "while scanning a block scalar" since "did not find expected comment or line break"
  let k := k.skipBreak
  let given : Nat := if depth = 0 then 0 else outer.toNat + depth
  let (deepest, trail, k) ← blockBreaks since given (k.rest.length + 1) 0 [] k
  let indent : Nat :=
    if given = 0 then max (max deepest (outer + 1).toNat) 1 else given
  let (b, k) ← blockLines since literal indent (k.rest.length + 1) ⟨[], [], trail, false⟩ k
  let text := match chomp with
    | some false => b.text
    | some true => b.text ++ b.lead ++ b.trail
    | none => b.text ++ b.lead
  .ok (.scalar (String.ofList text) false, k)

structure Fold where
  spaces : List Char
  lead : List Char
  trail : List Char
  broken : Bool

def Fold.none : Fold := ⟨[], [], [], false⟩

-- What the gap stands for: one line end is a blank, further ones stand for themselves.
def Fold.text (f : Fold) : List Char :=
  if f.broken then
    if f.lead.head? = some '\n' then
      if f.trail.isEmpty then [' '] else f.trail
    else f.lead ++ f.trail
  else f.spaces

-- Reads a gap. Nothing is given if a tab stands for indentation of less than `indent`, but the
-- place where it stands.
def readFold (indent : Option Int) : Nat → Fold → Cursor → Except Cursor (Fold × Cursor)
  | 0, f, k => .ok (f, k)
  | n + 1, f, k =>
    match k.rest with
    | c :: _ =>
      if isSpaceOrTab c then
        if f.broken && c = '\t' && indent.any (fun i => (k.column : Int) < i) then .error k
        else
          readFold indent n (if f.broken then f else { f with spaces := f.spaces ++ [c] }) k.skip
      else if isBreak c then
        let (b, k) := k.readBreak
        readFold indent n
          (if f.broken then { f with trail := f.trail ++ b }
           else { f with spaces := [], lead := b, broken := true }) k
      else .ok (f, k)
    | [] => .ok (f, k)

def readGap (f : Fold) (k : Cursor) : Fold × Cursor :=
  match readFold none (k.rest.length + 1) f k with
  | .ok found => found
  | .error k => (f, k)

def hexNumber? : List Char → Option Nat
  | cs => cs.foldl (fun acc c => do some ((← acc) * 16 + (← Text.hexValue? c))) (some 0)

def escape? (c : Char) : Option Char :=
  match c with
  | '0' => some '\x00'
  | 'a' => some '\x07'
  | 'b' => some '\x08'
  | 't' => some '\t'
  | '\t' => some '\t'
  | 'n' => some '\n'
  | 'v' => some '\x0b'
  | 'f' => some '\x0c'
  | 'r' => some '\r'
  | 'e' => some '\x1b'
  | ' ' => some ' '
  | '\x22' => some '\x22'
  | '/' => some '/'
  | '\\' => some '\\'
  | 'N' => some '\u0085'
  | '_' => some '\u00a0'
  | 'L' => some '\u2028'
  | 'P' => some '\u2029'
  | _ => none

def escapeDigits? (c : Char) : Option Nat :=
  match c with
  | 'x' => some 2
  | 'u' => some 4
  | 'U' => some 8
  | _ => none

def readEscape (since : Place) (k : Cursor) : Except Fault (Char × Cursor) :=
  let during := "while parsing a quoted scalar"
  let c := (k.rest.tail.head?).getD '\x00'
  match escape? c, escapeDigits? c with
  | some d, _ => .ok (d, k.skipMany 2)
  | none, some count =>
    let k := k.skipMany 2
    let digits := k.rest.take count
    match if digits.length < count then none else hexNumber? digits with
    | some v =>
      if v.isValidChar then .ok (Char.ofNat v, k.skipMany count)
      else k.wrong during since "found invalid Unicode character escape code"
    | none => k.wrong during since "did not find expected hexdecimal number"
  | none, none => k.wrong during since "found unknown escape character"

def readQuotedRest (single : Bool) (since : Place) : Nat → List Char → Cursor →
    Except Fault (List Char × Cursor)
  | 0, _, k => k.wrong "while scanning a quoted scalar" since "found unexpected end of stream"
  | n + 1, acc, k =>
    if k.atMarker then
      k.wrong "while scanning a quoted scalar" since "found unexpected document indicator"
    else match k.rest with
      | [] => k.wrong "while scanning a quoted scalar" since "found unexpected end of stream"
      | c :: rest =>
        if single && c = '\x27' then
          if rest.head? = some '\x27' then
            readQuotedRest single since n (acc ++ ['\x27']) (k.skipMany 2)
          else .ok (acc, k.skip)
        else if !single && c = '\x22' then .ok (acc, k.skip)
        else if !single && c = '\\' then
          if rest.head?.any isBreak then
            -- an escaped line end stands for nothing, and so do the blanks behind it
            let (f, k) := readGap ⟨[], [], [], true⟩ k.skip.skipBreak
            readQuotedRest single since n (acc ++ f.text) k
          else
            match readEscape since k with
            | .ok (d, k) => readQuotedRest single since n (acc ++ [d]) k
            | .error fault => .error fault
        else if isSpaceOrTab c || isBreak c then
          let (f, k) := readGap Fold.none k
          readQuotedRest single since n (acc ++ f.text) k
        else readQuotedRest single since n (acc ++ [c]) k.skip

def readQuoted (single : Bool) (k : Cursor) : Except Fault (Token × Cursor) := do
  let (cs, behind) ← readQuotedRest single k.place (k.rest.length + 1) [] k.skip
  .ok (.scalar (String.ofList cs) false, behind)

def readPlainRun (flow : Bool) (since : Place) : Nat → Cursor → Except Fault (List Char × Cursor)
  | 0, k => .ok ([], k)
  | n + 1, k =>
    match k.rest with
    | [] => .ok ([], k)
    | c :: rest =>
      if isSpaceOrTab c || isBreak c then .ok ([], k)
      else if flow && c = ':' && rest.head?.any (fun d => ",?[]\x7b\x7d".toList.contains d) then
        k.wrong "while scanning a plain scalar" since "found unexpected ':'"
      else if (c = ':' && blankOrEnd rest) || (flow && ",?[]\x7b\x7d".toList.contains c) then
        .ok ([], k)
      else do
        let (cs, k) ← readPlainRun flow since n k.skip
        .ok (c :: cs, k)

-- The parts of a plain scalar; the flag tells whether a line end came behind it.
def readPlainParts (flow : Bool) (since : Place) (indent : Int) : Nat → List Char → Fold → Cursor →
    Except Fault (List Char × Bool × Cursor)
  | 0, acc, gap, k => .ok (acc, gap.broken, k)
  | n + 1, acc, gap, k =>
    if k.atMarker || k.rest.head? = some '#' then .ok (acc, gap.broken, k)
    else do
      let (run, behind) ← readPlainRun flow since k.rest.length k
      let acc := if run.isEmpty then acc else acc ++ gap.text ++ run
      let waiting := if run.isEmpty then gap else Fold.none
      match behind.rest with
      | c :: _ =>
        if isSpaceOrTab c || isBreak c then
          match readFold (some indent) (behind.rest.length + 1) waiting behind with
          | .ok (gap, next) =>
            if !flow && (next.column : Int) < indent then .ok (acc, gap.broken, next)
            else readPlainParts flow since indent n acc gap next
          | .error tab =>
            tab.wrong "while scanning a plain scalar" since
              "found a tab character that violates indentation"
        else .ok (acc, waiting.broken, behind)
      | [] => .ok (acc, waiting.broken, behind)

def readPlain (flow : Bool) (indent : Int) (k : Cursor) : Except Fault (Token × Bool × Cursor) := do
  let (cs, broken, behind) ←
    readPlainParts flow k.place indent (k.rest.length + 1) [] Fold.none k
  .ok (.scalar (String.ofList cs) true, broken, behind)

def isIndicator (c : Char) : Bool := "-?:,[]\x7b\x7d#&*!|>\x27\x22%@\x60".toList.contains c

def startsPlain (flow : Bool) : List Char → Bool
  | [] => false
  | c :: rest =>
    (!isSpaceOrTab c && !isBreak c && !isIndicator c) ||
    (c = '-' && !rest.head?.any isSpaceOrTab) ||
    (!flow && (c = '?' || c = ':') && !blankOrEnd rest)

end Token

end Rollout.Yaml
