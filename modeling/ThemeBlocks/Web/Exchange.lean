import ThemeBlocks.Text.Class
import ThemeBlocks.Web.Url

/-! One exchange with a server: a request of JSON text, and what came back under which status.
Credentials are sent in base 64: three bytes as four characters; what is missing of the last three is
told by equals signs. -/

namespace ThemeBlocks.Web

def reasons : List (Nat × String) :=
  [(100, "Continue"), (101, "Switching Protocols"), (102, "Processing"), (103, "Early Hints"),
    (200, "OK"), (201, "Created"), (202, "Accepted"), (203, "Non Authoritative Information"),
    (204, "No Content"), (205, "Reset Content"), (206, "Partial Content"), (207, "Multi-Status"),
    (208, "Already Reported"), (226, "IM Used"), (300, "Multiple Choices"),
    (301, "Moved Permanently"), (302, "Found"), (303, "See Other"), (304, "Not Modified"),
    (305, "Use Proxy"), (307, "Temporary Redirect"), (308, "Permanent Redirect"),
    (400, "Bad Request"), (401, "Unauthorized"), (402, "Payment Required"), (403, "Forbidden"),
    (404, "Not Found"), (405, "Method Not Allowed"), (406, "Not Acceptable"),
    (407, "Proxy Authentication Required"), (408, "Request Timeout"), (409, "Conflict"),
    (410, "Gone"), (411, "Length Required"), (412, "Precondition Failed"),
    (413, "Payload Too Large"), (414, "URI Too Long"), (415, "Unsupported Media Type"),
    (416, "Range Not Satisfiable"), (417, "Expectation Failed"), (418, "I'm a teapot"),
    (421, "Misdirected Request"), (422, "Unprocessable Entity"), (423, "Locked"),
    (424, "Failed Dependency"), (425, "Too Early"), (426, "Upgrade Required"),
    (428, "Precondition Required"), (429, "Too Many Requests"),
    (431, "Request Header Fields Too Large"), (451, "Unavailable For Legal Reasons"),
    (500, "Internal Server Error"), (501, "Not Implemented"), (502, "Bad Gateway"),
    (503, "Service Unavailable"), (504, "Gateway Timeout"), (505, "HTTP Version Not Supported"),
    (506, "Variant Also Negotiates"), (507, "Insufficient Storage"), (508, "Loop Detected"),
    (510, "Not Extended"), (511, "Network Authentication Required")]

def reason? (status : Nat) : Option String :=
  (reasons.find? (·.1 = status)).map (·.2)

def isSuccess (status : Nat) : Bool :=
  200 ≤ status && status < 300

theorem isSuccess_iff (status : Nat) : isSuccess status ↔ 200 ≤ status ∧ status < 300 := by
  simp [isSuccess]

def isBodiless (status : Nat) : Bool :=
  status = 204 || status = 304

namespace Base64

def digitChar (n : Nat) : Char :=
  if n < 26 then Char.ofNat (65 + n)
  else if n < 52 then Char.ofNat (71 + n)
  else if n < 62 then Char.ofNat (n - 4)
  else if n = 62 then '+'
  else '/'

def digitsOf (count n : Nat) : List Char :=
  ([n / 0x40000 % 64, n / 0x1000 % 64, n / 0x40 % 64, n % 64].take count).map digitChar

def encode : List UInt8 → List Char
  | a :: b :: c :: rest => digitsOf 4 ((a.toNat * 256 + b.toNat) * 256 + c.toNat) ++ encode rest
  | [a, b] => digitsOf 3 ((a.toNat * 256 + b.toNat) * 256) ++ ['=']
  | [a] => digitsOf 2 (a.toNat * 65536) ++ ['=', '=']
  | [] => []

end Base64

structure Request where
  url : Url
  headers : List (String × String)
  body : String
  deriving Repr, DecidableEq

namespace Request

def startLine (request : Request) : String :=
  "POST " ++ request.url.requestTarget ++ " HTTP/1.1"

end Request

inductive Delivery
  /-- The connection ended before there was an answer. -/
  | dropped
  /-- An answer; its body is missing if the connection ended before the body did. -/
  | answer (status : Nat) (body : Option (List UInt8))
  deriving Repr, DecidableEq, Inhabited

def Delivery.ofReply (status : Nat) (body : Option (List UInt8)) : Delivery :=
  .answer status (if isBodiless status then some [] else body)

class Network (m : Type → Type) where
  exchange : Request → m Delivery

def isReachable (url : Url) : Bool :=
  url.scheme = "http" || url.scheme = "https"

/-- A user's name and password in a URL are sent along as credentials, not in the URL itself. -/
def userCredentials (url : Url) : Option String :=
  match url.authority with
  | none => none
  | some authority =>
    if authority.user.isEmpty ∧ authority.password.isNone then none
    else
      let user := Percent.decode authority.user.toList
      let password := (authority.password.map fun text => Percent.decode text.toList).getD []
      some ("Basic " ++ .ofList (Base64.encode (user ++ 0x3a :: password)))

/-- The text of the failure to send a request at all, and to get an answer to it. -/
def unsendable (url : Url) : String :=
  "builder error for url (" ++ url.withoutUser.render ++ ")"

def unanswered (url : Url) : String :=
  "error sending request for url (" ++ url.withoutUser.render ++ ")"

def brokenBody : String := "error decoding response body"

def isHeaderValue (text : String) : Bool :=
  text.toList.all fun c => c = '\t' || (' ' ≤ c && c ≠ '\x7f')

end ThemeBlocks.Web
