/-! Settings of the library.

The ticket mechanism allows a clock skew of 300 seconds, gives contexts a default lifetime
of 36000 seconds and draws initial sequence numbers at random. Logging defaults to the level
"info". -/
namespace GssApi

/-- How a context chooses its first sequence number. -/
inductive InitialSequence where
  | random
  | zero
  deriving DecidableEq, Inhabited

namespace InitialSequence

/-- The name a configuration file uses. -/
def name : InitialSequence → String
  | .random => "random"
  | .zero => "zero"

/-- The variant name reports use. -/
def label : InitialSequence → String
  | .random => "Random"
  | .zero => "Zero"

def ofName? : String → Option InitialSequence
  | "random" => some .random
  | "zero" => some .zero
  | _ => none

end InitialSequence

/-- Settings of the ticket mechanism. -/
structure Krb5Config where
  clockSkew : UInt64 := 300
  defaultLifetime : UInt64 := 36000
  initialSequence : InitialSequence := .random
  deriving DecidableEq, Inhabited

/-- Settings of the log output. -/
structure LoggingConfig where
  level : String := "info"
  deriving DecidableEq, Inhabited

/-- All settings. -/
structure Config where
  krb5 : Krb5Config := {}
  logging : LoggingConfig := {}
  deriving DecidableEq, Inhabited

end GssApi
