import EventBroker.Bytes

/-!
Messages of HTTP: headers, requests and responses.
-/

namespace EventBroker.Http

abbrev Header := String × Bytes

/-- A request to post a body to a path of some host. -/
structure Request where
  /-- The path with the query. -/
  path : String
  headers : List Header := []
  body : Bytes := []
deriving DecidableEq, Repr, Inhabited

structure Response where
  status : Nat := 200
  headers : List Header := []
  body : Bytes := []
deriving DecidableEq, Repr, Inhabited

def valueOf? (name : String) (headers : List Header) : Option Bytes :=
  (headers.find? (·.1 = name)).map Prod.snd

/-! ### What may be sent and read -/

def isNameChar (c : Char) : Bool :=
  c.isAlphanum ||
    c ∈ ['!', '#', '$', '%', '&', '\'', '*', '+', '-', '.', '^', '_', '\x60', '|', '~']

/-- Bytes that a header value may hold: all but control characters, and tabs. -/
def isValueByte (b : UInt8) : Bool := (32 ≤ b && b ≠ 127) || b = 9

def isTextByte (b : UInt8) : Bool := (32 ≤ b && b < 127) || b = 9

/-- A header to send. Names are sent in lower case. -/
def header? (name value : String) : Option Header :=
  let bytes := Bytes.ofText value
  if name ≠ "" ∧ name.toList.all isNameChar ∧ bytes.all isValueByte then some (name.toLower, bytes)
  else none

def text? (value : Bytes) : Option String :=
  if value.all isTextByte then Bytes.text? value else none

/-! ### Status -/

def phrase? : Nat → Option String
  | 100 => some "Continue"
  | 101 => some "Switching Protocols"
  | 102 => some "Processing"
  | 200 => some "OK"
  | 201 => some "Created"
  | 202 => some "Accepted"
  | 203 => some "Non Authoritative Information"
  | 204 => some "No Content"
  | 205 => some "Reset Content"
  | 206 => some "Partial Content"
  | 207 => some "Multi-Status"
  | 208 => some "Already Reported"
  | 226 => some "IM Used"
  | 300 => some "Multiple Choices"
  | 301 => some "Moved Permanently"
  | 302 => some "Found"
  | 303 => some "See Other"
  | 304 => some "Not Modified"
  | 305 => some "Use Proxy"
  | 307 => some "Temporary Redirect"
  | 308 => some "Permanent Redirect"
  | 400 => some "Bad Request"
  | 401 => some "Unauthorized"
  | 402 => some "Payment Required"
  | 403 => some "Forbidden"
  | 404 => some "Not Found"
  | 405 => some "Method Not Allowed"
  | 406 => some "Not Acceptable"
  | 407 => some "Proxy Authentication Required"
  | 408 => some "Request Timeout"
  | 409 => some "Conflict"
  | 410 => some "Gone"
  | 411 => some "Length Required"
  | 412 => some "Precondition Failed"
  | 413 => some "Payload Too Large"
  | 414 => some "URI Too Long"
  | 415 => some "Unsupported Media Type"
  | 416 => some "Range Not Satisfiable"
  | 417 => some "Expectation Failed"
  | 418 => some "I'm a teapot"
  | 421 => some "Misdirected Request"
  | 422 => some "Unprocessable Entity"
  | 423 => some "Locked"
  | 424 => some "Failed Dependency"
  | 426 => some "Upgrade Required"
  | 428 => some "Precondition Required"
  | 429 => some "Too Many Requests"
  | 431 => some "Request Header Fields Too Large"
  | 451 => some "Unavailable For Legal Reasons"
  | 500 => some "Internal Server Error"
  | 501 => some "Not Implemented"
  | 502 => some "Bad Gateway"
  | 503 => some "Service Unavailable"
  | 504 => some "Gateway Timeout"
  | 505 => some "HTTP Version Not Supported"
  | 506 => some "Variant Also Negotiates"
  | 507 => some "Insufficient Storage"
  | 508 => some "Loop Detected"
  | 510 => some "Not Extended"
  | 511 => some "Network Authentication Required"
  | _ => none

def statusText (status : Nat) : String :=
  toString status ++ " " ++ (phrase? status).getD "<unknown status code>"

def Response.isSuccess (r : Response) : Bool := 200 ≤ r.status && r.status < 300

end EventBroker.Http
