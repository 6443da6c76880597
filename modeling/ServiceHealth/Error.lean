/-!
# Errors

What can go wrong in a call, as causes; the wording is in the `message` functions alone. A
computation in steps returns a value only if each of its steps returns one.
-/
namespace ServiceHealth

/-- What a lookup asked for. -/
inductive Resource where
  | record
  | report
  deriving DecidableEq, Repr

def Resource.title : Resource → String
  | .record => "service instance"
  | .report => "health report"

/-- Why a part of the configuration cannot be used. -/
inductive ConfigCause where
  | zeroFailureThreshold
  | zeroRecoveryThreshold
  | headerWithoutSeparator (entry : String)
  | headerPartEmpty (entry : String)
  | headerNameInvalid (name : String)
  | headerValueInvalid (name : String)
  | stated (text : String)
  deriving DecidableEq, Repr

def ConfigCause.message : ConfigCause → String
  | .zeroFailureThreshold => "failure threshold must be at least 1"
  | .zeroRecoveryThreshold => "recovery threshold must be at least 1"
  | .headerWithoutSeparator entry =>
      "invalid http header '" ++ entry ++ "': expected Name=Value"
  | .headerPartEmpty entry => "invalid http header '" ++ entry ++ "': empty name or value"
  | .headerNameInvalid name => "invalid header name '" ++ name ++ "': invalid HTTP header name"
  | .headerValueInvalid name =>
      "invalid header value for '" ++ name ++ "': failed to parse header value"
  | .stated text => text

/-- Why a request is refused. -/
inductive RequestCause where
  | emptyId
  | emptyName
  | emptyAddress
  | zeroPort
  | keysDifferInCase (first second : String)
  | stated (text : String)
  deriving DecidableEq, Repr

def RequestCause.message : RequestCause → String
  | .emptyId => "service_id must not be empty"
  | .emptyName => "service_name must not be empty"
  | .emptyAddress => "address must not be empty"
  | .zeroPort => "port must be in 1..=65535"
  | .keysDifferInCase first second =>
      "metadata keys '" ++ first ++ "' and '" ++ second ++ "' differ only in case"
  | .stated text => text

/-- The failure of a call. -/
inductive Error where
  | notFound (what : Resource) (id : String)
  | config (cause : ConfigCause)
  | invalid (cause : RequestCause)
  deriving DecidableEq, Repr

def Error.message : Error → String
  | .notFound what id => what.title ++ " not found: " ++ id
  | .config cause => "Configuration error: " ++ cause.message
  | .invalid cause => "Invalid request: " ++ cause.message

def Error.isNotFound : Error → Bool
  | .notFound _ _ => true
  | _ => false

section Results

variable {ε α β : Type} {x : Except ε α}

theorem bind_eq_ok {f : α → Except ε β} {b : β} :
    (x >>= f) = .ok b ↔ ∃ a, x = .ok a ∧ f a = .ok b := by
  cases x <;> simp [bind, Except.bind]

theorem map_eq_ok {f : α → β} {b : β} : x.map f = .ok b ↔ ∃ a, x = .ok a ∧ f a = b := by
  cases x <;> simp [Except.map]

theorem toOption_eq_some_iff {a : α} : x.toOption = some a ↔ x = .ok a := by
  cases x <;> simp [Except.toOption]

end Results

end ServiceHealth
