import PacketDissector.Library.Stateful

/-! The ways in which the modelled C code stops before its end: an exception that a caller may
catch, or the end of the process.
-/

namespace PacketDissector.Epan

/-- The exceptions of exceptions.h that the modelled code throws. -/
inductive WsException where
  | boundsError
  | containedBoundsError
  | reportedBoundsError
  | fragmentBoundsError
  | dissectorError (message : String)
  deriving DecidableEq, Repr

/-- The ends of the process: g_error with its message, abort in the reporting of a
dissector bug, and the use of a NULL or an unset value.
-/
inductive Termination where
  | gError (message : String)
  | abort (message : String)
  | nullDereference (place : String)
  | uninitialisedUse (place : String)
  deriving DecidableEq, Repr

/-- Why code stopped. -/
inductive Stop where
  | thrown (e : WsException)
  | terminated (how : Termination)
  deriving DecidableEq, Repr

/-- The stops that tell of a failed assertion: the DissectorError that callers can catch and
the abort that replaces it when the user asked for one.
-/
def Stop.isDissectorBug : Stop → Bool
  | .thrown (.dissectorError _) => true
  | .terminated (.abort _) => true
  | _ => false

/-- The stops that tell of data missing from a packet. -/
def Stop.isBoundsException : Stop → Bool
  | .thrown .boundsError => true
  | .thrown .containedBoundsError => true
  | .thrown .reportedBoundsError => true
  | .thrown .fragmentBoundsError => true
  | _ => false

/-- Code without a state as a part of code with one: THROW raises the exception. -/
def orThrow {σ α : Type} : Except WsException α → EStateM Stop σ α
  | .ok a => pure a
  | .error e => throw (.thrown e)

/-- g_error, which ends the process. -/
def gError {σ α : Type} (message : String) : EStateM Stop σ α :=
  throw (.terminated (.gError message))

end PacketDissector.Epan
