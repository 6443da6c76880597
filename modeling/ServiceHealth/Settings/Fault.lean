import ServiceHealth.Error

/-!
# Faults of a configuration

Why a configuration cannot be used: its file cannot be read, its text is no YAML of the right
form, fields have values that are not allowed, or no setup can be made of it.
-/
namespace ServiceHealth.Settings

/-- Why a file cannot be read. -/
inductive FileFault where
  | missing
  | directory
  | notUnicode
  deriving DecidableEq, Repr

def FileFault.message : FileFault → String
  | .missing => "No such file or directory (os error 2)"
  | .directory => "Is a directory (os error 21)"
  | .notUnicode => "stream did not contain valid UTF-8"

/-- The rule that the value of a field breaks. -/
inductive Rule where
  | range
  | socketAddress
  deriving DecidableEq, Repr

def Rule.name : Rule → String
  | .range => "range"
  | .socketAddress => "listen_addr_invalid"

/-- A field with a value that is not allowed. -/
structure FieldFault where
  field : String
  rule : Rule
  deriving DecidableEq, Repr

/-- Why no setup can be made of settings. -/
inductive SetupCause where
  | listenAddress
  | nested (error : Error)
  deriving DecidableEq, Repr

def SetupCause.message : SetupCause → String
  | .listenAddress => "listen_addr: invalid socket address syntax"
  | .nested e => e.message

/-- Why a configuration cannot be used. -/
inductive Fault where
  | file (fault : FileFault)
  | malformed
  | fields (faults : List FieldFault)
  | setup (cause : SetupCause)
  deriving DecidableEq, Repr

def Fault.message : Fault → String
  | .file f => "Failed to read configuration file: " ++ f.message
  | .malformed => "Failed to parse YAML"
  | .fields fs =>
      "Invalid configuration: " ++ ", ".intercalate (fs.map fun f => f.field ++ ": " ++ f.rule.name)
  | .setup cause => "Invalid configuration: " ++ cause.message

/-- The fault as the failure of a call. -/
def Fault.toError (f : Fault) : Error := .config (.stated f.message)

end ServiceHealth.Settings
