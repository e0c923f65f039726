import PacketDissector.Epan.Register
import PacketDissector.Epan.Registry

/-! The initialisation of libepan: epan_init, proto_init with the pseudo-protocols of the
exceptions, and the registration half of expert.c, whose bodies this port has commented out.
-/

namespace PacketDissector.Epan

open PacketDissector.Library Proto

/-- An expert_field_info: the record of one kind of expert information. The variable that
hf_info.p_id points to is known by its name.
-/
structure ExpertFieldInfo where
  name : String
  group : Nat
  severity : Nat
  summary : String
  id : Int := 0
  hfPId : String
  deriving DecidableEq, Repr

/-- An ei_register_info: the name of the expert_field variable, and the record. The two
members of the variable are the integer variables with the suffixes .ei and .hf.
-/
structure EiRegisterInfo where
  ids : String
  eiinfo : ExpertFieldInfo
  deriving DecidableEq, Repr

/-- An expert_module_t. -/
structure ExpertModule where
  protoName : String
  protoId : Int
  deriving DecidableEq, Repr

/-- The statics of expert.c that are not ids. -/
structure ExpertStatics where
  gpaExpertinfo : List ExpertFieldInfo
  gpaNameMap : GHashTable
  highestSeverity : Nat
  deriving DecidableEq, Repr

/-- The statics of libepan, and the two environment variables that epan_init asks for. -/
structure EpanState where
  envAbortOnDissectorBug : Bool
  envAbortOnTooManyItems : Bool
  wiresharkAbortOnTooManyItems : Bool
  registry : Registry
  expert : ExpertStatics
  register : Register.RegisterState

/-- The statics when the program starts in an environment. -/
def EpanState.initial (envAbortOnDissectorBug envAbortOnTooManyItems : Bool) : EpanState where
  envAbortOnDissectorBug := envAbortOnDissectorBug
  envAbortOnTooManyItems := envAbortOnTooManyItems
  wiresharkAbortOnTooManyItems := false
  registry := .initial
  expert := { gpaExpertinfo := [], gpaNameMap := none, highestSeverity := 0 }
  register := .initial

/-- Code that reads and changes the statics of libepan. -/
abbrev EpanM := EStateM Stop EpanState

/-- Code of proto.c run on the whole state. -/
def onRegistry {α : Type} (x : Registrar α) : EpanM α :=
  focus EpanState.registry (fun registry s => { s with registry }) x

/-- expert_init. -/
def expertInit : EpanM Unit :=
  modify fun s =>
    { s with expert := { s.expert with gpaExpertinfo := [], gpaNameMap := some [] } }

/-- expert_register_protocol, whose body is commented out: it answers NULL. -/
def expertRegisterProtocol (_id : Int) : EpanM (Option ExpertModule) :=
  pure none

/-- expert_register_field_init, whose body is commented out: it answers 0. -/
def expertRegisterFieldInit (_expinfo : ExpertFieldInfo) (_module : Option ExpertModule)
    : EpanM Int :=
  pure 0

/-- expert_register_field_array, whose body is commented out. -/
def expertRegisterFieldArray (_module : Option ExpertModule) (_exp : List EiRegisterInfo)
    : EpanM Unit :=
  pure ()

def piSeverityMask : Nat := 0x00F00000
def piComment : Nat := 0x00100000
def piWarn : Nat := 0x00600000
def piError : Nat := 0x00800000
def piGroupMask : Nat := 0xFF000000
def piUndecoded : Nat := 0x05000000
def piMalformed : Nat := 0x07000000

/-- An entry of an ei_register_info array as the sources write it. -/
def eiEntry (ids name : String) (group severity : Nat) (summary : String)
    : EiRegisterInfo where
  ids := ids
  eiinfo := { name, group, severity, summary, hfPId := ids ++ ".hf" }

/-- The array of register_type_length_mismatch. -/
def eiTypeLengthMismatch : List EiRegisterInfo :=
  [eiEntry "ei_type_length_mismatch_error" "_ws.type_length.mismatch" piMalformed piError
      "Trying to fetch X with length Y",
    eiEntry "ei_type_length_mismatch_warn" "_ws.type_length.mismatch" piMalformed piWarn
      "Trying to fetch X with length Y"]

/-- The array of register_number_string_decoding_error. -/
def eiNumberStringDecodingError : List EiRegisterInfo :=
  [eiEntry "ei_number_string_decoding_failed_error"
      "_ws.number_string.decoding_error.failed" piMalformed piError
      "Failed to decode number from string",
    eiEntry "ei_number_string_decoding_erange_error"
      "_ws.number_string.decoding_error.erange" piMalformed piError
      "Decoded number from string is out of valid range"]

/-- The array of register_string_errors. -/
def eiStringErrors : List EiRegisterInfo :=
  [eiEntry "ei_string_trailing_characters" "_ws.string.trailing_stray_characters"
      piUndecoded piWarn "Trailing stray characters"]

/-- A pseudo-protocol with its expert information, kept from being disabled. -/
def registerPseudoProtocol (idVariable name shortName filterName : String)
    (ei : List EiRegisterInfo)
    : EpanM Unit := do
  let proto ← onRegistry (protoRegisterProtocol name shortName filterName)
  onRegistry (setVariable idVariable proto)
  let expertModule ← expertRegisterProtocol proto
  expertRegisterFieldArray expertModule ei
  onRegistry (protoSetCantToggle proto)

/-- register_type_length_mismatch. -/
def registerTypeLengthMismatch : EpanM Unit :=
  registerPseudoProtocol "proto_type_length_mismatch" "Type Length Mismatch"
    "Type length mismatch" "_ws.type_length" eiTypeLengthMismatch

/-- register_number_string_decoding_error. -/
def registerNumberStringDecodingError : EpanM Unit :=
  registerPseudoProtocol "proto_number_string_decoding_error"
    "Number-String Decoding Error" "Number-string decoding error"
    "_ws.number_string.decoding_error" eiNumberStringDecodingError

/-- register_string_errors. -/
def registerStringErrors : EpanM Unit :=
  registerPseudoProtocol "proto_string_errors" "String Errors" "String errors" "_ws.string"
    eiStringErrors

/-- The field hfi_text_only. -/
def hfiTextOnly : HeaderFieldInfo where
  name := "Text item"
  abbr := "text"
  type := .ftNone
  display := baseNone
  strings := .null
  bitmask := 0

/-- The loop of proto_cleanup_base over the protocols. -/
def cleanupProtocols : List Protocol → Registrar Unit
  | [] => pure ()
  | protocol :: rest => do
      let hfinfo ← protoRegistrarGetNth protocol.protoId
      dissectorAssert (protocol.protoId = hfinfo.id) "protocol->proto_id == hfinfo->id"
      modify fun s => { s with protocols := rest }
      cleanupProtocols rest

/-- proto_cleanup_base. -/
def protoCleanupBase : Registrar Unit := do
  modify fun s => { s with gpaNameMap := none }
  cleanupProtocols (← get).protocols
  modify fun s =>
    { s with
      protoNames := none, protoShortNames := none, protoFilterNames := none
      gpaHfinfo := [] }

/-- The dissector tables of this port, which have no entries. -/
def dissectorTables : Register.Tables where
  dissectorRegProto := []
  dissectorRegHandoff := []

/-- A registration driver run on the whole state; one that never returns ends the run. -/
def onDrivers (driver : Register.RegisterState → Register.DriverCall) : EpanM Unit := do
  let call := driver (← get).register
  modify fun s => { s with register := call.state }
  if call.returned then pure ()
  else throw (.terminated (.abort "waits forever on cur_cb_name_mtx"))

/-- proto_init. -/
def protoInit (cb : Bool) : EpanM Unit := do
  onRegistry protoCleanupBase
  onRegistry (modify fun s =>
    { s with
      protoNames := some [], protoShortNames := some [], protoFilterNames := some []
      gpaHfinfo := [], gpaNameMap := some [] })
  let hfTextOnly ← onRegistry (protoRegisterFieldInit hfiTextOnly (-1))
  onRegistry (setVariable "hf_text_only" hfTextOnly)
  registerTypeLengthMismatch
  registerNumberStringDecodingError
  registerStringErrors
  onDrivers (Register.registerAllProtocols dissectorTables cb)
  onDrivers (Register.registerAllProtocolHandoffs dissectorTables cb)

/-- The TRY block of epan_init. -/
def epanInitTry (cb : Bool) : EpanM Unit := do
  expertInit
  protoInit cb

/-- epan_init: a DissectorError in the TRY block is reported and makes the status FALSE,
unless the user asked for an abort. Any other stop goes on.
-/
def epanInit (cb : Bool) : EpanM Bool := do
  modify fun s =>
    { s with
      registry := { s.registry with wiresharkAbortOnDissectorBug := s.envAbortOnDissectorBug }
      wiresharkAbortOnTooManyItems := s.envAbortOnTooManyItems }
  let tryBlock : EpanM Bool := do
    epanInitTry cb
    pure true
  tryCatch tryBlock fun stop => do
    match stop with
    | .thrown (.dissectorError message) =>
        if (← get).envAbortOnDissectorBug then throw (.terminated (.abort message))
        else pure false
    | other => throw other

end PacketDissector.Epan
