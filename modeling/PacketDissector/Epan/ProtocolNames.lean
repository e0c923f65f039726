import PacketDissector.Epan.Registry

/-! The lookups of protocols and fields by their names in proto.c. -/

namespace PacketDissector.Epan.Proto

/-- proto_get_id_by_short_name. -/
def protoGetIdByShortName (shortName : String) : Registrar Int := do
  let s ← get
  match (gHashTableLookup s.protoShortNames shortName).bind s.protocolAt? with
  | some protocol => pure protocol.protoId
  | none => pure (-1)

/-- The protocol_t that find_protocol_by_id answers. -/
def protocolById (protoId : Int) : Registrar (Option Protocol) := do
  let address ← findProtocolById protoId
  let s ← get
  pure (address.bind s.protocolAt?)

/-- proto_get_protocol_short_name of find_protocol_by_id. -/
def protoGetProtocolShortName (protoId : Int) : Registrar String := do
  let protocol ← protocolById protoId
  pure ((protocol.map Protocol.shortName).getD "(none)")

/-- proto_get_protocol_filter_name. -/
def protoGetProtocolFilterName (protoId : Int) : Registrar String := do
  let protocol ← protocolById protoId
  pure ((protocol.map Protocol.filterName).getD "(none)")

/-- proto_registrar_get_byname. The copy of its last answer is left out, and so are the prefix
initializers, which no dissector of this program registers.
-/
def protoRegistrarGetByname (fieldName : String) : Registrar (Option HeaderFieldInfo) := do
  let s ← get
  pure ((gHashTableLookup s.gpaNameMap fieldName).bind fun place => s.gpaHfinfo[place]?)

end PacketDissector.Epan.Proto
