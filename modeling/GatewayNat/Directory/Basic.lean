import GatewayNat.Decimal.Integer
import GatewayNat.Descriptor
import GatewayNat.Rejection
import GatewayNat.Rule

/-!
# Directories

A directory answers two kinds of calls.  The first finds a gateway.  The second
finds the interface of a gateway on a network, and may find that there is none.
Either may fail, by a rejection or by an outage.

A directory may keep state.  All state that a run can see comes from the calls
made before, so a directory is a function of the earlier calls, oldest first,
and of the call.  A directory that forgets ignores its first argument.
-/

namespace GatewayNat

/-- The kinds of outages.  They are those of exceptions that nothing handles on their way out, so
each ends its request with 500.  A directory raises no other ones: an exception that stands for an
answer of its own is no outage. -/
inductive OutageKind where
  | timeout
  | connection
  | value
  | key
  | runtime
  | system
  | undecodable
  | type
  | recursion
  | serialization
  | unencodable
  /-- Any other kind of unhandled exception, by its name. -/
  | foreign (name : String)
  deriving DecidableEq, Repr

/-- The name of a kind of outage. -/
def OutageKind.name : OutageKind → String
  | .timeout => "TimeoutError"
  | .connection => "ConnectionError"
  | .value => "ValueError"
  | .key => "KeyError"
  | .runtime => "RuntimeError"
  | .system => "OSError"
  | .undecodable => "UnicodeDecodeError"
  | .type => "TypeError"
  | .recursion => "RecursionError"
  | .serialization => "PydanticSerializationError"
  | .unencodable => "UnicodeEncodeError"
  | .foreign name => name

/-- A failure that is no statement about the intent. -/
structure Outage where
  kind : OutageKind
  text : String
  deriving DecidableEq, Repr

/-- The outage of a run that has to write an integer that is too long. -/
def Outage.unwritable : Outage := ⟨.value, Decimal.tooLongMessage⟩

/-- The wording of an outage.  A missing key is quoted. -/
def Outage.message (outage : Outage) : String :=
  if outage.kind = .key then Text.quoted outage.text else outage.text

/-- Why a run has no result. -/
inductive Failure where
  | rejected (rejection : Rejection)
  | outage (outage : Outage)
  deriving DecidableEq, Repr

/-- The wording of a failure. -/
def Failure.message : Failure → Text
  | .rejected r => r.message
  | .outage o => o.message

/-- The name of the kind of a failure. -/
def Failure.kind : Failure → String
  | .rejected r => r.kind
  | .outage o => o.kind.name

/-- A call to a directory. -/
inductive Call where
  | gateway (gateway : Text)
  | interface (gateway network : Text)
  deriving DecidableEq, Repr

/-- The answers of a directory after the given calls. -/
structure Directory where
  /-- Finds a gateway. -/
  gateway : List Call → Text → Except Failure Unit
  /-- Finds the interface of a gateway on a network. -/
  interface : List Call → Text → Text → Except Failure (Option Descriptor)

end GatewayNat
