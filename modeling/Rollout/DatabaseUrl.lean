import Rollout.Text.Blank
import Rollout.Text.Utf8

namespace Rollout

structure DatabaseUrl where
  user : String
  password : String
  host : String
  port : Int
  database : String
  deriving DecidableEq, Repr

namespace DatabaseUrl

def isUnreserved (c : Char) : Bool :=
  Text.isAlphanumeric c || c == '-' || c == '_' || c == '.' || c == '~'

def escape (byte : UInt8) : List Char :=
  let c := Char.ofNat byte.toNat
  if isUnreserved c then [c]
  else ['%', Text.upperHexDigit (byte.toNat / 16), Text.upperHexDigit (byte.toNat % 16)]

def percentEncode (s : String) : String := String.ofList ((Utf8.encode s).flatMap escape)

def render (url : DatabaseUrl) : String :=
  "postgres://" ++ percentEncode url.user ++ ":" ++ percentEncode url.password ++ "@" ++ url.host ++
    ":" ++ toString url.port ++ "/" ++ percentEncode url.database

end DatabaseUrl

end Rollout
