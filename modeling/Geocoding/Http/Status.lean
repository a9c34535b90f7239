/-!
# Reply status

A reply over HTTP begins with a status code.  The codes from 200 to 299 stand for
success.  Those from 100 to 199, all but one of them, only say that the reply is
still to come, and are the status of none.  Each code that a standard defines has a
phrase that tells its reason.
-/

namespace Geocoding.Http

structure Status where
  code : Nat
  final : code = 101 ∨ 200 ≤ code ∧ code ≤ 999
deriving DecidableEq, Repr

namespace Status

def reasons : List (Nat × String) :=
  [(101, "Switching Protocols"),
    (200, "OK"), (201, "Created"), (202, "Accepted"), (203, "Non Authoritative Information"),
    (204, "No Content"), (205, "Reset Content"), (206, "Partial Content"), (207, "Multi-Status"),
    (208, "Already Reported"), (226, "IM Used"),
    (300, "Multiple Choices"), (301, "Moved Permanently"), (302, "Found"), (303, "See Other"),
    (304, "Not Modified"), (305, "Use Proxy"), (307, "Temporary Redirect"),
    (308, "Permanent Redirect"),
    (400, "Bad Request"), (401, "Unauthorized"), (402, "Payment Required"), (403, "Forbidden"),
    (404, "Not Found"), (405, "Method Not Allowed"), (406, "Not Acceptable"),
    (407, "Proxy Authentication Required"), (408, "Request Timeout"), (409, "Conflict"),
    (410, "Gone"), (411, "Length Required"), (412, "Precondition Failed"),
    (413, "Payload Too Large"), (414, "URI Too Long"), (415, "Unsupported Media Type"),
    (416, "Range Not Satisfiable"), (417, "Expectation Failed"), (418, "I'm a teapot"),
    (421, "Misdirected Request"), (422, "Unprocessable Entity"), (423, "Locked"),
    (424, "Failed Dependency"), (425, "Too Early"), (426, "Upgrade Required"),
    (428, "Precondition Required"), (429, "Too Many Requests"),
    (431, "Request Header Fields Too Large"), (451, "Unavailable For Legal Reasons"),
    (500, "Internal Server Error"), (501, "Not Implemented"), (502, "Bad Gateway"),
    (503, "Service Unavailable"), (504, "Gateway Timeout"), (505, "HTTP Version Not Supported"),
    (506, "Variant Also Negotiates"), (507, "Insufficient Storage"), (508, "Loop Detected"),
    (510, "Not Extended"), (511, "Network Authentication Required")]

def isSuccess (status : Status) : Bool :=
  200 ≤ status.code && status.code < 300

/-- Whether a body follows the status.  With these codes a reply ends at once. -/
def hasBody (status : Status) : Bool :=
  status.code ∉ [101, 204, 304]

/-- What is received of a body that is sent behind the status. -/
def bodyOf (status : Status) (sent : List UInt8) : List UInt8 :=
  if status.hasBody then sent else []

def text (status : Status) : String :=
  toString status.code ++ " " ++ (reasons.lookup status.code).getD "<unknown status code>"

end Status

end Geocoding.Http
