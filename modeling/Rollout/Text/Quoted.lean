import Rollout.Text.Printable

namespace Rollout.Text

def hexDigits (n : Nat) : List Char := Nat.toDigits 16 n

def escapeUnicode (c : Char) : List Char :=
  ['\\', 'u', '\x7b'] ++ hexDigits c.toNat ++ ['\x7d']

def escapeChar (quote : Char) (c : Char) : List Char :=
  if c = '\x00' then ['\\', '0']
  else if c = '\t' then ['\\', 't']
  else if c = '\r' then ['\\', 'r']
  else if c = '\n' then ['\\', 'n']
  else if c = '\\' then ['\\', '\\']
  else if c = quote then ['\\', quote]
  else if isCombining c then escapeUnicode c
  else if isPrintable c then [c]
  else escapeUnicode c

def quoted (s : String) : String :=
  String.ofList ('"' :: s.toList.flatMap (escapeChar '"') ++ ['"'])

def quotedChar (c : Char) : String :=
  String.ofList ('\'' :: escapeChar '\'' c ++ ['\''])

def record (name : String) (fields : List (String × String)) : String :=
  name ++ " \x7b " ++ ", ".intercalate (fields.map fun (field, text) => field ++ ": " ++ text) ++
    " \x7d"

def wrapped (name text : String) : String := name ++ "(" ++ text ++ ")"

def mapping (entries : List (String × String)) : String :=
  "\x7b" ++ ", ".intercalate (entries.map fun (name, text) => quoted name ++ ": " ++ text) ++ "\x7d"

def option : Option String → String
  | some text => wrapped "Some" text
  | none => "None"

end Rollout.Text
