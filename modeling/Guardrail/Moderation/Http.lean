import Guardrail.Json.Record

/-! The exchange with a remote service as its clients see it: a request either gets a reply or none.
A token that no header can carry is found before anything is sent. -/

namespace Guardrail.Moderation

inductive Exchange where
  | reply (status : Nat) (body : String)
  | unreachable

/-- Why a single request failed. -/
inductive RequestError where
  /-- The request could not be built. -/
  | builder
  /-- No reply came. -/
  | send (url : String)
  deriving DecidableEq

namespace RequestError

def message : RequestError → String
  | builder => "builder error"
  | send url => "error sending request for url (" ++ url ++ ")"

end RequestError

/-- What a client says of a body that it cannot read. -/
def undecodable : String := "error decoding response body"

/-- A token for the header, and what is asked. -/
structure Request where
  token : String
  body : Json

/-- A service by its address, with what it does with its requests, by their number from zero. -/
structure Endpoint where
  url : String
  exchange : Nat → Request → Exchange

/-- Header values hold no control characters but the tab. -/
def isHeaderText (s : String) : Bool :=
  s.toList.all fun c => (32 ≤ c.toNat && c.toNat ≠ 127) || c = '\t'

def send (e : Endpoint) (r : Request) (number : Nat) : Except RequestError (Nat × String) :=
  if !isHeaderText r.token then .error .builder
  else match e.exchange number r with
    | .reply status body => .ok (status, body)
    | .unreachable => .error (.send e.url)

def isSuccess (status : Nat) : Bool := 200 ≤ status && status < 300

/-- The registered reasons of status codes. -/
def statusReasons : List (Nat × String) := [
  (100, "Continue"), (101, "Switching Protocols"), (102, "Processing"), (200, "OK"),
  (201, "Created"), (202, "Accepted"), (203, "Non Authoritative Information"),
  (204, "No Content"), (205, "Reset Content"), (206, "Partial Content"), (207, "Multi-Status"),
  (208, "Already Reported"), (226, "IM Used"), (300, "Multiple Choices"),
  (301, "Moved Permanently"), (302, "Found"), (303, "See Other"), (304, "Not Modified"),
  (305, "Use Proxy"), (307, "Temporary Redirect"), (308, "Permanent Redirect"),
  (400, "Bad Request"), (401, "Unauthorized"), (402, "Payment Required"), (403, "Forbidden"),
  (404, "Not Found"), (405, "Method Not Allowed"), (406, "Not Acceptable"),
  (407, "Proxy Authentication Required"), (408, "Request Timeout"), (409, "Conflict"),
  (410, "Gone"), (411, "Length Required"), (412, "Precondition Failed"),
  (413, "Payload Too Large"), (414, "URI Too Long"), (415, "Unsupported Media Type"),
  (416, "Range Not Satisfiable"), (417, "Expectation Failed"), (418, "I'm a teapot"),
  (421, "Misdirected Request"), (422, "Unprocessable Entity"), (423, "Locked"),
  (424, "Failed Dependency"), (425, "Too Early"), (426, "Upgrade Required"),
  (428, "Precondition Required"), (429, "Too Many Requests"),
  (431, "Request Header Fields Too Large"), (451, "Unavailable For Legal Reasons"),
  (500, "Internal Server Error"), (501, "Not Implemented"), (502, "Bad Gateway"),
  (503, "Service Unavailable"), (504, "Gateway Timeout"), (505, "HTTP Version Not Supported"),
  (506, "Variant Also Negotiates"), (507, "Insufficient Storage"), (508, "Loop Detected"),
  (510, "Not Extended"), (511, "Network Authentication Required")]

def statusText (status : Nat) : String :=
  toString status ++ " " ++ (statusReasons.lookup status).getD "<unknown status code>"

end Guardrail.Moderation
