import Rehearsal.Text.Blank
import Rehearsal.Text.Quoted
import Rehearsal.Text.Utf8

/-!
# Options of a scan

Whoever asks for a scan may name the file that is requested and the body that it must have. Both
are bounded, and the file's name must not leave the directory of challenges.
-/

namespace Rehearsal

/-- Why options or a configuration are refused. -/
inductive ConfigError where
  /-- An option takes too many bytes. -/
  | optionTooLong (option : String) (max : Nat)
  /-- The name of the requested file is more than one segment of a path. -/
  | invalidRequestPath (path : String)
  /-- A timeout is zero. -/
  | zeroTimeout (timeout : String)
  /-- One attempt may take longer than all of them. -/
  | attemptExceedsTimeout
  deriving DecidableEq, Repr

namespace ConfigError

/-- The text of an error. -/
def message : ConfigError → String
  | optionTooLong option max => s!"{option} must be at most {max} characters"
  | invalidRequestPath path =>
    s!"http_request_path {Text.quoted path} must be a single URL path segment"
  | zeroTimeout timeout => s!"{timeout} must be greater than zero"
  | attemptExceedsTimeout => "dns_attempt_timeout must not exceed dns_timeout"

end ConfigError

/-- What whoever asks for a scan may choose. -/
structure ScanOptions where
  /-- The file that is requested in the directory of challenges. -/
  requestPath : String
  /-- The body that the response must have; any body is good if it is empty. -/
  expectedBody : String
  deriving DecidableEq, Repr

namespace ScanOptions

/-- The file that is requested if none is named. -/
def defaultPath : String := "letsdebug-test"

/-- The bytes that an option may take. -/
def maxLength : Nat := 255

/-- The options of a scan for which nothing was chosen. -/
def standard : ScanOptions := ⟨defaultPath, ""⟩

/-- A character that ends a segment of a path, or white space. -/
def isSeparator (c : Char) : Bool := c == '/' || c == '?' || c == '#' || Text.isBlank c

/-- Accepts or refuses options. -/
def validate (o : ScanOptions) : Except ConfigError Unit :=
  if maxLength < Text.byteLength o.requestPath then
    .error (.optionTooLong "http_request_path" maxLength)
  else if o.requestPath.toList.any isSeparator then
    .error (.invalidRequestPath o.requestPath)
  else if maxLength < Text.byteLength o.expectedBody then
    .error (.optionTooLong "http_expect_response" maxLength)
  else .ok ()

/-- The file that is requested. -/
def effectivePath (o : ScanOptions) : String :=
  if o.requestPath.isEmpty then defaultPath else o.requestPath

end ScanOptions

end Rehearsal
