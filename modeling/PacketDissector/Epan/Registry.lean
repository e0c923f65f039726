import Mathlib.Logic.Function.Basic
import PacketDissector.Epan.HeaderField

/-! The registry of proto.c: the protocols, the three tables of their names, the array of
header fields with the table of their abbreviations, and the integer variables in which
dissectors keep the ids they were given.
-/

namespace PacketDissector.Epan.Proto

/-- A GHashTable with string keys, or NULL. -/
abbrev GHashTable := Option (List (String × Nat))

/-- g_hash_table_lookup: on NULL a critical warning and NULL. -/
def gHashTableLookup (table : GHashTable) (key : String) : Option Nat :=
  table.bind fun entries => entries.lookup key

/-- g_hash_table_insert of a key: on NULL a critical warning and nothing else. -/
def gHashTableInsert (table : GHashTable) (key : String) (value : Nat) : GHashTable :=
  table.map fun entries => (key, value) :: entries.filter fun entry => entry.1 ≠ key

/-- A protocol_t. Its fields are known by their places in gpa_hfinfo. -/
structure Protocol where
  address : Nat
  name : String
  shortName : String
  filterName : String
  fields : Option (List Nat)
  protoId : Int
  isEnabled : Bool
  enabledByDefault : Bool
  canToggle : Bool
  deriving DecidableEq, Repr

/-- The statics of proto.c, with the integer variables that registration writes through a
pointer, each under its own name. The head of the list of protocols is the newest.
-/
structure Registry where
  wiresharkAbortOnDissectorBug : Bool
  protocols : List Protocol
  nextAddress : Nat
  protoNames : GHashTable
  protoShortNames : GHashTable
  protoFilterNames : GHashTable
  gpaHfinfo : List HeaderFieldInfo
  gpaNameMap : GHashTable
  numTreeTypes : Int
  statics : String → Int

/-- The statics when the program starts; every id variable is initialised to -1. -/
def Registry.initial : Registry where
  wiresharkAbortOnDissectorBug := false
  protocols := []
  nextAddress := 1
  protoNames := none
  protoShortNames := none
  protoFilterNames := none
  gpaHfinfo := []
  gpaNameMap := none
  numTreeTypes := 0
  statics := fun _ => -1

/-- Code that reads and changes the registry. -/
abbrev Registrar := EStateM Stop Registry

/-- An assignment to one of the integer variables. -/
def setVariable (name : String) (value : Int) : Registrar Unit :=
  modify fun s => { s with statics := Function.update s.statics name value }

/-- What proto_report_dissector_bug does with a message. -/
def dissectorBug (abortOnBug : Bool) (message : String) : Stop :=
  if abortOnBug then .terminated (.abort message) else .thrown (.dissectorError message)

/-- proto_report_dissector_bug. -/
def protoReportDissectorBug {α : Type} (message : String) : Registrar α := do
  let s ← get
  throw (dissectorBug s.wiresharkAbortOnDissectorBug message)

/-- DISSECTOR_ASSERT in proto.c, with the text it reports. -/
def dissectorAssert (condition : Prop) [Decidable condition] (text : String)
    : Registrar Unit :=
  if condition then pure ()
  else protoReportDissectorBug s!"proto.c: failed assertion \"{text}\""

/-- The header field at an index taken as unsigned, as PROTO_REGISTRAR_GET_NTH finds it. -/
def Registry.hfinfoAt? (s : Registry) (hfindex : Int) : Option HeaderFieldInfo :=
  if 0 ≤ hfindex then s.gpaHfinfo[hfindex.toNat]? else none

/-- Why PROTO_REGISTRAR_GET_NTH does not answer. -/
def unregisteredHf (abortOnBug : Bool) (hfindex : Int) : Stop :=
  if abortOnBug then .terminated (.gError s!"Unregistered hf! index={hfindex}")
  else .thrown (.dissectorError "Unregistered hf!")

/-- PROTO_REGISTRAR_GET_NTH. -/
def protoRegistrarGetNth (hfindex : Int) : Registrar HeaderFieldInfo := do
  let s ← get
  match s.hfinfoAt? hfindex with
  | some hfinfo => pure hfinfo
  | none => throw (unregisteredHf s.wiresharkAbortOnDissectorBug hfindex)

/-- The protocol_t at an address. -/
def Registry.protocolAt? (s : Registry) (address : Nat) : Option Protocol :=
  s.protocols.find? fun protocol => protocol.address = address

/-- A change of the protocol_t at an address. -/
def Registry.changeProtocol (s : Registry) (address : Nat) (change : Protocol → Protocol)
    : Registry :=
  { s with
    protocols := s.protocols.map fun protocol =>
      if protocol.address = address then change protocol else protocol }

/-- find_protocol_by_id; the answer is an address, or none for NULL. -/
def findProtocolById (protoId : Int) : Registrar (Option Nat) := do
  if protoId < 0 then pure none
  else
    let hfinfo ← protoRegistrarGetNth protoId
    if hfinfo.type ≠ .ftProtocol then
      dissectorAssert (hfinfo.display &&& baseProtocolInfo ≠ 0)
        "hfinfo->display & BASE_PROTOCOL_INFO"
    match hfinfo.strings with
    | .protocol address => pure (some address)
    | _ => pure none

/-- The relinking of proto_register_field_init when its abbreviation was in the table: the
record at a place goes before the one found there.
-/
def linkSameName (fields : List HeaderFieldInfo) (place same : Nat) : List HeaderFieldInfo :=
  match fields[same]? with
  | none => fields
  | some sameHfinfo =>
      let next := sameHfinfo.sameNameNext
      let linked := fields.modify place fun hfinfo =>
        { hfinfo with sameNameNext := next, sameNamePrevId := sameHfinfo.id }
      let linked :=
        match next with
        | some next =>
            linked.modify next fun hfinfo => { hfinfo with sameNamePrevId := place }
        | none => linked
      linked.modify same fun hfinfo => { hfinfo with sameNameNext := some place }

/-- proto_register_field_init. -/
def protoRegisterFieldInit (hfinfo : HeaderFieldInfo) (parent : Int) : Registrar Int := do
  tmpFldCheckAssert hfinfo
  let place := (← get).gpaHfinfo.length
  let entered : HeaderFieldInfo :=
    { hfinfo with parent, sameNameNext := none, sameNamePrevId := -1, id := place }
  modify fun s => { s with gpaHfinfo := s.gpaHfinfo ++ [entered] }
  if hfinfo.name ≠ "" ∧ hfinfo.abbr ≠ "" then
    if protoCheckFieldName hfinfo.abbr ≠ Char.ofNat 0 then
      protoReportDissectorBug "proto.c: failed assertion \"DISSECTOR_ASSERT_NOT_REACHED\""
    -- The table's destroy callback hands over the record it replaces.
    let sameNameHfinfo := gHashTableLookup (← get).gpaNameMap hfinfo.abbr
    modify fun s => { s with gpaNameMap := gHashTableInsert s.gpaNameMap hfinfo.abbr place }
    match sameNameHfinfo with
    | some same =>
        modify fun s => { s with gpaHfinfo := linkSameName s.gpaHfinfo place same }
    | none => pure ()
  pure place

/-- The message of a second protocol with a name that is taken. -/
def duplicateProtocol (which name : String) : String :=
  s!"Duplicate protocol {which} \"{name}\"!"
    ++ " This might be caused by an inappropriate plugin or a development error."

/-- proto_register_protocol. -/
def protoRegisterProtocol (name shortName filterName : String) : Registrar Int := do
  let s ← get
  gErrorIf (gHashTableLookup s.protoNames name ≠ none) (duplicateProtocol "name" name)
  gErrorIf (gHashTableLookup s.protoShortNames shortName ≠ none)
    (duplicateProtocol "short_name" shortName)
  checkValidFilterNameOrFail filterName
  gErrorIf (gHashTableLookup s.protoFilterNames filterName ≠ none)
    (duplicateProtocol "filter_name" filterName)
  let address := s.nextAddress
  let protocol : Protocol :=
    { address, name, shortName, filterName, fields := none, protoId := 0, isEnabled := true
      enabledByDefault := true, canToggle := true }
  modify fun s =>
    { s with
      nextAddress := address + 1
      protocols := protocol :: s.protocols
      protoNames := gHashTableInsert s.protoNames name address
      protoFilterNames := gHashTableInsert s.protoFilterNames filterName address
      protoShortNames := gHashTableInsert s.protoShortNames shortName address }
  let hfinfo : HeaderFieldInfo :=
    { name, abbr := filterName, type := .ftProtocol, display := baseNone
      strings := .protocol address, bitmask := 0, refType := .none, parent := -1 }
  let protoId ← protoRegisterFieldInit hfinfo hfinfo.parent
  modify fun s => s.changeProtocol address fun protocol => { protocol with protoId }
  pure protoId

/-- proto_register_field_common. The field joins its protocol's list at the place that
proto_register_field_init is about to give it.
-/
def protoRegisterFieldCommon (proto : Option Nat) (hfi : HeaderFieldInfo) (parent : Int)
    : Registrar Int := do
  match proto with
  | some address =>
      modify fun s =>
        s.changeProtocol address fun protocol =>
          { protocol with fields := protocol.fields.map (· ++ [s.gpaHfinfo.length]) }
  | none => pure ()
  protoRegisterFieldInit hfi parent

/-- An hf_register_info: the variable that p_id points to, and the field. -/
structure HfRegisterInfo where
  pId : String
  hfinfo : HeaderFieldInfo
  deriving DecidableEq, Repr

/-- The loop of proto_register_field_array. A variable that holds an id already is reported
as a duplicate field on stderr and ends it.
-/
def registerFields (proto : Nat) (parent : Int) : List HfRegisterInfo → Registrar Unit
  | [] => pure ()
  | ptr :: rest => do
      let current := (← get).statics ptr.pId
      if current ≠ -1 ∧ current ≠ 0 then pure ()
      else
        let id ← protoRegisterFieldCommon (some proto) ptr.hfinfo parent
        setVariable ptr.pId id
        registerFields proto parent rest

/-- proto_register_field_array; the parent's protocol is dereferenced without a check. -/
def protoRegisterFieldArray (parent : Int) (hf : List HfRegisterInfo) : Registrar Unit := do
  match ← findProtocolById parent with
  | none => throw (.terminated (.nullDereference "proto_register_field_array: proto"))
  | some proto =>
      modify fun s =>
        s.changeProtocol proto fun protocol =>
          { protocol with fields := some (protocol.fields.getD []) }
      registerFields proto parent hf

/-- proto_register_subtree_array; the bits of tree_is_expanded are left out. -/
def protoRegisterSubtreeArray : List String → Registrar Unit
  | [] => pure ()
  | index :: rest => do
      let s ← get
      gErrorIf (s.statics index ≠ -1)
        ("register_subtree_array: subtree item type (ett_...) not -1 !"
          ++ " This is a development error:"
          ++ " Either the subtree item type has already been assigned or"
          ++ " was not initialized to -1.")
      setVariable index s.numTreeTypes
      modify fun s => { s with numTreeTypes := s.numTreeTypes + 1 }
      protoRegisterSubtreeArray rest

/-- proto_set_cant_toggle; the protocol is dereferenced without a check. -/
def protoSetCantToggle (protoId : Int) : Registrar Unit := do
  match ← findProtocolById protoId with
  | none => throw (.terminated (.nullDereference "proto_set_cant_toggle: protocol"))
  | some address =>
      modify fun s => s.changeProtocol address fun protocol => { protocol with canToggle := false }

/-- proto_get_id_by_filter_name. -/
def protoGetIdByFilterName (filterName : String) : Registrar Int := do
  let s ← get
  match (gHashTableLookup s.protoFilterNames filterName).bind s.protocolAt? with
  | some protocol => pure protocol.protoId
  | none => pure (-1)

end PacketDissector.Epan.Proto
