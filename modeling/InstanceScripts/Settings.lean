import InstanceScripts.Failure
import InstanceScripts.Retry
import InstanceScripts.Text.Blank

/-!
# Settings

What can be configured: where the metadata server is, how often and after which pause
a request is attempted again, and the time limits of requests.
-/

namespace InstanceScripts

/-- The settings of a retriever. -/
structure Settings where
  metadataUrl : String
  retryAttempts : UInt32
  retryDelaySecs : UInt64
  connectTimeoutSecs : UInt64
  requestTimeoutSecs : UInt64
  metadataTimeoutSecs : UInt64
  deriving DecidableEq, Repr

namespace Settings

/-- Where the metadata server is unless configured otherwise. -/
def standardMetadataUrl : String :=
  "http://metadata.google.internal/computeMetadata/v1"

/-- The settings that hold when nothing is configured. -/
def standard : Settings :=
  ⟨standardMetadataUrl, 3, 5, 2, 60, 5⟩

/-- Refuse settings with which nothing could be retrieved. -/
def validate (settings : Settings) : Except Failure Unit :=
  if Text.allBlank settings.metadataUrl then
    .error (.config "metadata_url must not be empty")
  else if settings.requestTimeoutSecs = 0 ∨ settings.metadataTimeoutSecs = 0 then
    .error (.config "timeouts must be greater than zero")
  else .ok ()

/-- How requests are retried. -/
def retryPolicy (settings : Settings) : Retry.Policy :=
  ⟨settings.retryAttempts, settings.retryDelaySecs.toNat * 1000⟩

/-! ## Fields -/

/-- A field of the settings. -/
inductive Field where
  | metadataUrl
  | retryAttempts
  | retryDelaySecs
  | connectTimeoutSecs
  | requestTimeoutSecs
  | metadataTimeoutSecs
  deriving DecidableEq, Repr

/-- The name of a field in a document. -/
def Field.name : Field → String
  | .metadataUrl => "metadata_url"
  | .retryAttempts => "retry_attempts"
  | .retryDelaySecs => "retry_delay_secs"
  | .connectTimeoutSecs => "connect_timeout_secs"
  | .requestTimeoutSecs => "request_timeout_secs"
  | .metadataTimeoutSecs => "metadata_timeout_secs"

/-- All fields. -/
def Field.all : List Field :=
  [.metadataUrl, .retryAttempts, .retryDelaySecs, .connectTimeoutSecs, .requestTimeoutSecs,
    .metadataTimeoutSecs]

/-- The field with a name. -/
def Field.ofName? (name : String) : Option Field :=
  Field.all.find? (·.name == name)

/-- What a field is set to. -/
inductive Setting where
  | text (value : String)
  | number (value : Nat)
  deriving DecidableEq, Repr

/-- The number of bits of a field that holds a number. -/
def Field.bits? : Field → Option Nat
  | .metadataUrl => none
  | .retryAttempts => some 32
  | _ => some 64

/-- What a field asks for. -/
def Field.expected (field : Field) : String :=
  match field.bits? with
  | none => "a string"
  | some 32 => "u32"
  | some _ => "u64"

/-- Set a field.  Settings of the wrong kind change nothing. -/
def assign (settings : Settings) (field : Field) (setting : Setting) : Settings :=
  match field, setting with
  | .metadataUrl, .text value => { settings with metadataUrl := value }
  | .retryAttempts, .number value => { settings with retryAttempts := UInt32.ofNat value }
  | .retryDelaySecs, .number value => { settings with retryDelaySecs := UInt64.ofNat value }
  | .connectTimeoutSecs, .number value =>
      { settings with connectTimeoutSecs := UInt64.ofNat value }
  | .requestTimeoutSecs, .number value =>
      { settings with requestTimeoutSecs := UInt64.ofNat value }
  | .metadataTimeoutSecs, .number value =>
      { settings with metadataTimeoutSecs := UInt64.ofNat value }
  | _, _ => settings

/-- The settings that some assignments make of the standard ones. -/
def ofAssignments (assignments : List (Field × Setting)) : Settings :=
  assignments.foldl (fun settings (field, setting) => settings.assign field setting) standard

end Settings
end InstanceScripts
