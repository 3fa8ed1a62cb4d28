import Rollout.Json
import Rollout.Text.Ascii

namespace Rollout.Json

-- The characters that a string must not hold as they are get an escape of their own.
def escape (c : Char) : List Char :=
  if c = '"' then ['\\', '"']
  else if c = '\\' then ['\\', '\\']
  else if c = '\n' then ['\\', 'n']
  else if c = '\r' then ['\\', 'r']
  else if c = '\t' then ['\\', 't']
  else if c.toNat = 8 then ['\\', 'b']
  else if c.toNat = 12 then ['\\', 'f']
  else if c.toNat < 0x20 then
    ['\\', 'u', '0', '0', Text.hexDigit (c.toNat / 16), Text.hexDigit (c.toNat % 16)]
  else [c]

def quote (s : String) : List Char := '"' :: s.toList.flatMap escape ++ ['"']

def Number.render : Number → List Char
  | .int i => (toString i).toList
  | .float x => ((x.render? Binary64.fromHundredThousandth).getD "null").toList

mutual
def compact : Json → List Char
  | .null => "null".toList
  | .bool b => (toString b).toList
  | .number n => n.render
  | .string s => quote s
  | .array items => '[' :: compactItems items ++ [']']
  | .object fields => '\x7b' :: compactFields fields ++ ['\x7d']
def compactItems : List Json → List Char
  | [] => []
  | [j] => compact j
  | j :: rest => compact j ++ ',' :: compactItems rest
def compactFields : List (String × Json) → List Char
  | [] => []
  | [(k, j)] => quote k ++ ':' :: compact j
  | (k, j) :: rest => quote k ++ ':' :: (compact j ++ ',' :: compactFields rest)
end

def indent (depth : Nat) : List Char := '\n' :: List.replicate (2 * depth) ' '

mutual
def pretty (depth : Nat) : Json → List Char
  | .array [] => ['[', ']']
  | .array items => '[' :: prettyItems (depth + 1) items ++ indent depth ++ [']']
  | .object [] => ['\x7b', '\x7d']
  | .object fields => '\x7b' :: prettyFields (depth + 1) fields ++ indent depth ++ ['\x7d']
  | .null => "null".toList
  | .bool b => (toString b).toList
  | .number n => n.render
  | .string s => quote s
def prettyItems (depth : Nat) : List Json → List Char
  | [] => []
  | [j] => indent depth ++ pretty depth j
  | j :: rest => indent depth ++ pretty depth j ++ ',' :: prettyItems depth rest
def prettyFields (depth : Nat) : List (String × Json) → List Char
  | [] => []
  | [(k, j)] => indent depth ++ quote k ++ ':' :: ' ' :: pretty depth j
  | (k, j) :: rest =>
    indent depth ++ quote k ++ ':' :: ' ' :: (pretty depth j ++ ',' :: prettyFields depth rest)
end

def render (j : Json) : String := String.ofList (compact j)

def renderPretty (j : Json) : String := String.ofList (pretty 0 j)

end Rollout.Json
