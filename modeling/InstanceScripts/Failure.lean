import InstanceScripts.Text.Utf8
import InstanceScripts.Text.Quoted
import InstanceScripts.Url.Host
import InstanceScripts.Yaml.Fault

/-!
# Failures

Everything that can go wrong while scripts are retrieved, in which words it is
reported, and whether another attempt may help.
-/

namespace InstanceScripts

/-- Reason phrases of HTTP status codes. -/
def Status.reasons : List (Nat × String) :=
  [(100, "Continue"), (101, "Switching Protocols"), (102, "Processing"), (103, "Early Hints"),
    (200, "OK"), (201, "Created"), (202, "Accepted"), (203, "Non Authoritative Information"),
    (204, "No Content"), (205, "Reset Content"), (206, "Partial Content"), (207, "Multi-Status"),
    (208, "Already Reported"), (226, "IM Used"), (300, "Multiple Choices"),
    (301, "Moved Permanently"), (302, "Found"), (303, "See Other"), (304, "Not Modified"),
    (305, "Use Proxy"), (307, "Temporary Redirect"), (308, "Permanent Redirect"),
    (400, "Bad Request"), (401, "Unauthorized"), (402, "Payment Required"), (403, "Forbidden"),
    (404, "Not Found"), (405, "Method Not Allowed"), (406, "Not Acceptable"),
    (407, "Proxy Authentication Required"), (408, "Request Timeout"), (409, "Conflict"),
    (410, "Gone"), (411, "Length Required"), (412, "Precondition Failed"),
    (413, "Payload Too Large"), (414, "URI Too Long"), (415, "Unsupported Media Type"),
    (416, "Range Not Satisfiable"), (417, "Expectation Failed"), (418, "I'm a teapot"),
    (421, "Misdirected Request"), (422, "Unprocessable Entity"), (423, "Locked"),
    (424, "Failed Dependency"), (425, "Too Early"), (426, "Upgrade Required"),
    (428, "Precondition Required"), (429, "Too Many Requests"),
    (431, "Request Header Fields Too Large"), (451, "Unavailable For Legal Reasons"),
    (500, "Internal Server Error"), (501, "Not Implemented"), (502, "Bad Gateway"),
    (503, "Service Unavailable"), (504, "Gateway Timeout"), (505, "HTTP Version Not Supported"),
    (506, "Variant Also Negotiates"), (507, "Insufficient Storage"), (508, "Loop Detected"),
    (510, "Not Extended"), (511, "Network Authentication Required")]

/-- The reason phrase of a status code, if there is one. -/
def Status.reason? (code : Nat) : Option String :=
  Status.reasons.lookup code

/-- Why an HTTP request brought no usable answer.  URLs are given as they are
reported. -/
inductive HttpFault where
  | malformed
  | unsupported (url : String)
  | unanswered (url : String)
  | incomplete
  | redirectedTooOften (url : String)
  | status (code : Nat) (url : String)
  deriving DecidableEq, Repr

/-- The words for an HTTP fault. -/
def HttpFault.message : HttpFault → String
  | .malformed => "builder error"
  | .unsupported url => "builder error for url (" ++ url ++ ")"
  | .unanswered url => "error sending request for url (" ++ url ++ ")"
  | .incomplete => "error decoding response body"
  | .redirectedTooOften url => "error following redirect for url (" ++ url ++ ")"
  | .status code url =>
      let side := if code < 500 then "client" else "server"
      "HTTP status " ++ side ++ " error (" ++ toString code ++ " " ++
        (Status.reason? code).getD "" ++ ") for url (" ++ url ++ ")"

/-- Why a path leads to nothing that can be used. -/
inductive PathFault where
  | notFound
  | notDirectory
  | isDirectory
  | nameTooLong
  | containsNul
  | other (message : String)
  deriving DecidableEq, Repr

/-- The words for a fault of a path. -/
def PathFault.message : PathFault → String
  | .notFound => "No such file or directory (os error 2)"
  | .notDirectory => "Not a directory (os error 20)"
  | .isDirectory => "Is a directory (os error 21)"
  | .nameTooLong => "File name too long (os error 36)"
  | .containsNul => "file name contained an unexpected NUL byte"
  | .other message => message

/-- Why the file system refused. -/
inductive IoFault where
  | refused (fault : PathFault)
  | refusedAt (fault : PathFault) (path : String)
  | notText
  | other (message : String)
  deriving DecidableEq, Repr

/-- The words for a refusal. -/
def IoFault.message : IoFault → String
  | .refused fault => fault.message
  | .refusedAt fault path => fault.message ++ " at path " ++ Text.quoted path
  | .notText => "stream did not contain valid UTF-8"
  | .other message => message

/-- Why data from outside cannot be used. -/
inductive DataFault where
  | noLocation (code : Nat)
  | unreadableLocation
  | unusableLocation (location : String) (fault : Url.Fault)
  | other (message : String)
  deriving DecidableEq, Repr

/-- The words for unusable data. -/
def DataFault.message : DataFault → String
  | .noLocation code =>
      toString code ++ " " ++ (Status.reason? code).getD "<unknown status code>" ++
        " redirect without Location"
  | .unreadableLocation => "Invalid redirect Location: failed to convert header to a str"
  | .unusableLocation location fault =>
      "Invalid redirect Location " ++ location ++ ": " ++ fault.message
  | .other message => message

/-- A failure. -/
inductive Failure where
  | config (message : String)
  | metadata (message : String)
  | http (fault : HttpFault)
  | io (fault : IoFault)
  | yaml (fault : Yaml.Fault)
  | notText (defect : Utf8.Defect)
  | invalidData (fault : DataFault)
  deriving DecidableEq, Repr

namespace Failure

/-- The words for a failure. -/
def message : Failure → String
  | config message => "Configuration error: " ++ message
  | metadata message => "Metadata server error: " ++ message
  | http fault => "HTTP error: " ++ fault.message
  | io fault => "IO error: " ++ fault.message
  | yaml fault => "YAML parsing error: " ++ fault.message
  | notText defect => "Script body is not valid UTF-8: " ++ defect.message
  | invalidData fault => "Invalid data: " ++ fault.message

/-- Whether another attempt may help: faults of the network and of the file system do
not last. -/
def isTransient : Failure → Bool
  | http _ => true
  | io _ => true
  | _ => false

/-- The HTTP status that a failure reports. -/
def status? : Failure → Option Nat
  | http (.status code _) => some code
  | _ => none

/-- What lies behind a failure, when that is reported by itself. -/
def cause? : Failure → Option String
  | http fault => some fault.message
  | io fault => some fault.message
  | yaml fault => some fault.message
  | notText defect => some defect.message
  | _ => none

@[simp] theorem isTransient_http (fault : HttpFault) : (http fault).isTransient = true := rfl

@[simp] theorem isTransient_io (fault : IoFault) : (io fault).isTransient = true := rfl

@[simp] theorem isTransient_notText (defect : Utf8.Defect) :
    (notText defect).isTransient = false := rfl

@[simp] theorem isTransient_invalidData (fault : DataFault) :
    (invalidData fault).isTransient = false := rfl

end Failure

/-! ## Outcomes -/

section

variable {ε α : Type} {outcome : Except ε α}

theorem toOption_eq_some {value : α} :
    outcome.toOption = some value ↔ outcome = .ok value := by
  cases outcome with
  | error fault => simp [Except.toOption]
  | ok held => simp [Except.toOption]

theorem toOption_eq_none : outcome.toOption = none ↔ ∃ fault, outcome = .error fault := by
  cases outcome with
  | error fault => simp [Except.toOption]
  | ok held => simp [Except.toOption]

end

end InstanceScripts
