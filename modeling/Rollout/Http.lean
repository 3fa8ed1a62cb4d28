import Rollout.Url

namespace Rollout.Http

structure Request where
  target : String
  authorization : Option String
  deriving DecidableEq, Repr

inductive Reply where
  | answer (status : Nat) (headers : List (String × String)) (body : List UInt8)
      (complete : Bool)
  | dropped
  deriving DecidableEq, Repr

structure Response where
  status : Nat
  headers : List (String × String)
  body : List UInt8
  complete : Bool
  deriving DecidableEq, Repr

inductive Outcome where
  | response (r : Response)
  | failed (message : String)
  deriving DecidableEq, Repr

-- The only host that can be reached, its reply to each request by number, and the requests it got.
structure Wire where
  host : String
  reply : Nat → Reply
  requests : List Request

namespace Response

def lowered (s : String) : String := s.toLower

def header? (r : Response) (name : String) : Option String :=
  (r.headers.find? fun (k, _) => k.toLower == name).map fun (_, v) => Text.trim v

def text? (r : Response) : Option String :=
  if r.complete then some (Utf8.decodeLossy r.body) else none

def isSuccess (r : Response) : Bool := 200 ≤ r.status && r.status < 300
def isServerError (r : Response) : Bool := 500 ≤ r.status && r.status < 600

end Response

def hasBody (status : Nat) : Bool := status ≠ 204 && status ≠ 304 && 200 ≤ status

def redirectStatuses : List Nat := [301, 302, 303, 307, 308]

def redirectLimit : Nat := 10

def isHeaderText (s : String) : Bool :=
  s.toList.all fun c => c = '\t' || (0x20 ≤ c.toNat && c.toNat ≠ 0x7F)

-- Sends a request and follows at most `left` redirects; another host does not get the
-- authorization.
def follow : Nat → Url → Option String → Wire → Outcome × Wire
  | left, url, authorization, wire =>
    if url.authority ≠ wire.host then
      (.failed s!"error sending request for url ({url.render})", wire)
    else
      let reply := wire.reply wire.requests.length
      let wire := { wire with requests := wire.requests ++ [⟨url.target, authorization⟩] }
      match reply with
      | .dropped => (.failed s!"error sending request for url ({url.render})", wire)
      | .answer status headers body complete =>
        let body := if hasBody status then body else []
        let r : Response := ⟨status, headers, body, complete || !hasBody status⟩
        if redirectStatuses.contains status then
          match (r.header? "location").bind url.join? with
          | none => (.response r, wire)
          | some next =>
            match left with
            | 0 => (.failed s!"error following redirect for url ({url.render})", wire)
            | left + 1 =>
              let sameHost := next.authority == url.authority
              follow left next (if sameHost then authorization else none) wire
        else (.response r, wire)

def get (address authorization : String) (wire : Wire) : Outcome × Wire :=
  if !isHeaderText authorization then (.failed "builder error", wire)
  else match Url.parse? address with
    | none => (.failed "builder error", wire)
    | some url => follow redirectLimit url (some authorization) wire

def reasons : List (Nat × String) := [
  (100, "Continue"), (101, "Switching Protocols"), (102, "Processing"), (200, "OK"),
  (201, "Created"), (202, "Accepted"), (203, "Non Authoritative Information"),
  (204, "No Content"), (205, "Reset Content"), (206, "Partial Content"), (207, "Multi-Status"),
  (208, "Already Reported"), (226, "IM Used"), (300, "Multiple Choices"),
  (301, "Moved Permanently"), (302, "Found"), (303, "See Other"), (304, "Not Modified"),
  (305, "Use Proxy"), (307, "Temporary Redirect"), (308, "Permanent Redirect"),
  (400, "Bad Request"), (401, "Unauthorized"), (402, "Payment Required"), (403, "Forbidden"),
  (404, "Not Found"), (405, "Method Not Allowed"), (406, "Not Acceptable"),
  (407, "Proxy Authentication Required"), (408, "Request Timeout"), (409, "Conflict"),
  (410, "Gone"), (411, "Length Required"), (412, "Precondition Failed"),
  (413, "Payload Too Large"), (414, "URI Too Long"), (415, "Unsupported Media Type"),
  (416, "Range Not Satisfiable"), (417, "Expectation Failed"), (418, "I'm a teapot"),
  (421, "Misdirected Request"), (422, "Unprocessable Entity"), (423, "Locked"),
  (424, "Failed Dependency"), (425, "Too Early"), (426, "Upgrade Required"),
  (428, "Precondition Required"), (429, "Too Many Requests"),
  (431, "Request Header Fields Too Large"), (451, "Unavailable For Legal Reasons"),
  (500, "Internal Server Error"), (501, "Not Implemented"), (502, "Bad Gateway"),
  (503, "Service Unavailable"), (504, "Gateway Timeout"), (505, "HTTP Version Not Supported"),
  (506, "Variant Also Negotiates"), (507, "Insufficient Storage"), (508, "Loop Detected"),
  (510, "Not Extended"), (511, "Network Authentication Required")]

def statusText (status : Nat) : String :=
  s!"{status} " ++ ((reasons.lookup status).getD "<unknown status code>")

end Rollout.Http
