import Northbound.Text.Number

/-!
# Status codes

A status code is a number of three digits. Messages show it with its standard phrase.
-/

namespace Northbound.Http

/-- A status code. -/
structure StatusCode where
  value : Nat
  least_le : 100 ≤ value
  lt_bound : value < 1000
deriving DecidableEq, Repr

namespace StatusCode

/-- The status code with a value, if there is one. -/
def ofNat? (n : Nat) : Option StatusCode :=
  if h : 100 ≤ n ∧ n < 1000 then some ⟨n, h.1, h.2⟩ else none

/-- The request succeeded. -/
def ok : StatusCode := ⟨200, by decide, by decide⟩

/-- The collection does not have the resource. -/
def notFound : StatusCode := ⟨404, by decide, by decide⟩

/-- The resource exists already. -/
def conflict : StatusCode := ⟨409, by decide, by decide⟩

/-- Whether a code says that the request succeeded. -/
def isSuccess (c : StatusCode) : Bool := 200 ≤ c.value && c.value < 300

/-- The standard phrases. -/
def phrases : List (Nat × String) :=
  [(100, "Continue"), (101, "Switching Protocols"), (102, "Processing"), (103, "Early Hints"),
    (200, "OK"), (201, "Created"), (202, "Accepted"), (203, "Non Authoritative Information"),
    (204, "No Content"), (205, "Reset Content"), (206, "Partial Content"), (207, "Multi-Status"),
    (208, "Already Reported"), (226, "IM Used"),
    (300, "Multiple Choices"), (301, "Moved Permanently"), (302, "Found"), (303, "See Other"),
    (304, "Not Modified"), (305, "Use Proxy"), (307, "Temporary Redirect"),
    (308, "Permanent Redirect"),
    (400, "Bad Request"), (401, "Unauthorized"), (402, "Payment Required"), (403, "Forbidden"),
    (404, "Not Found"), (405, "Method Not Allowed"), (406, "Not Acceptable"),
    (407, "Proxy Authentication Required"), (408, "Request Timeout"), (409, "Conflict"),
    (410, "Gone"), (411, "Length Required"), (412, "Precondition Failed"),
    (413, "Payload Too Large"), (414, "URI Too Long"), (415, "Unsupported Media Type"),
    (416, "Range Not Satisfiable"), (417, "Expectation Failed"), (418, "I'm a teapot"),
    (421, "Misdirected Request"), (422, "Unprocessable Entity"), (423, "Locked"),
    (424, "Failed Dependency"), (425, "Too Early"), (426, "Upgrade Required"),
    (428, "Precondition Required"), (429, "Too Many Requests"),
    (431, "Request Header Fields Too Large"), (451, "Unavailable For Legal Reasons"),
    (500, "Internal Server Error"), (501, "Not Implemented"), (502, "Bad Gateway"),
    (503, "Service Unavailable"), (504, "Gateway Timeout"), (505, "HTTP Version Not Supported"),
    (506, "Variant Also Negotiates"), (507, "Insufficient Storage"), (508, "Loop Detected"),
    (510, "Not Extended"), (511, "Network Authentication Required")]

/-- The code with its phrase. -/
def text (c : StatusCode) : String :=
  Text.decimal c.value ++ " " ++ ((phrases.lookup c.value).getD "<unknown status code>")

end StatusCode

/-- The status codes that a response may have. -/
inductive StatusExpectation where
  /-- Any code that says success. -/
  | success
  | oneOf (codes : List StatusCode)
deriving DecidableEq, Repr

namespace StatusExpectation

/-- Expects one of some codes; numbers that are no codes are left out. -/
def ofNats (ns : List Nat) : StatusExpectation := .oneOf (ns.filterMap StatusCode.ofNat?)

/-- Whether a code is expected. -/
def accepts : StatusExpectation → StatusCode → Bool
  | .success, c => c.isSuccess
  | .oneOf codes, c => codes.contains c

end StatusExpectation

/-- A number is expected among others exactly if it is one of them and a status code. -/
theorem accepts_ofNats (ns : List Nat) (c : StatusCode) :
    (StatusExpectation.ofNats ns).accepts c = true ↔ c.value ∈ ns := by
  simp only [StatusExpectation.ofNats, StatusExpectation.accepts, List.contains_iff_mem,
    List.mem_filterMap]
  constructor
  · rintro ⟨n, hn, h⟩
    simp only [StatusCode.ofNat?] at h
    split at h
    · cases h; exact hn
    · cases h
  · intro h
    exact ⟨c.value, h, by simp [StatusCode.ofNat?, c.least_le, c.lt_bound]⟩

end Northbound.Http
