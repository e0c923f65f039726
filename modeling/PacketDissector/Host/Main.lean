import PacketDissector.Epan.Init
import PacketDissector.Host.PacketFoo

/-! The calls that the JS host makes into the program before any packet is dissected. -/

namespace PacketDissector.Host

open PacketDissector.Library PacketDissector.Epan PacketDissector.Epan.Proto

/-- The statics of the program: libepan and the vector registered of main.cpp. -/
structure Program where
  epan : EpanState
  registered : List String

/-- The statics when the program starts in an environment. -/
def Program.initial (envAbortOnDissectorBug envAbortOnTooManyItems : Bool) : Program where
  epan := .initial envAbortOnDissectorBug envAbortOnTooManyItems
  registered := []

/-- Code that reads and changes the statics of the program. -/
abbrev ProgramM := EStateM Stop Program

/-- Code of libepan run on the whole state. -/
def onEpan {α : Type} (x : EpanM α) : ProgramM α :=
  focus Program.epan (fun epan s => { s with epan }) x

/-- registerName. -/
def registerName (n : String) : ProgramM Unit := do
  modify fun s => { s with registered := s.registered ++ [n] }
  if n = "foo" then onEpan (onRegistry protoRegisterFoo) else pure ()

/-- registerAll. -/
def registerAll : ProgramM Unit :=
  registerName "foo"

/-- A call of the host: one of the two registration calls, or doCall(0). -/
inductive HostCall where
  | registerName (n : String)
  | registerAll
  | doCall0
  deriving DecidableEq, Repr

/-- The code of a host call. -/
def HostCall.run : HostCall → ProgramM Unit
  | .registerName n => Host.registerName n
  | .registerAll => Host.registerAll
  | .doCall0 => do
      let _ ← onEpan (epanInit false)
      pure ()

/-- A host call as a step; none when it ends the process or leaves an exception that no one
catches.
-/
def hostStep (s : Program) (call : HostCall) : Option Program :=
  match call.run.run s with
  | .ok _ next => some next
  | .error _ _ => none

/-- The host call runs proto_register_foo. -/
def HostCall.registersFoo : HostCall → Bool
  | .registerName n => n = "foo"
  | .registerAll => true
  | .doCall0 => false

end PacketDissector.Host
