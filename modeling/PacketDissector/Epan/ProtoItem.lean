import PacketDissector.Epan.Expert

/-! The routines of proto.c that take an item's value from a tvbuff: proto_tree_add_item, and
proto_tree_add_bitmask with the fields of the mask under it.
-/

namespace PacketDissector.Epan.Proto

open PacketDissector.Library Expert

/-- The parts of proto.c that are not spelled out here: proto_item_fill_label, the texts that
a bitmask appends for fields other than plain flags, and the cases of proto_tree_new_item for
types that no protocol of this program has. Those answer the finished field_info and whether
stray characters follow a string.
-/
structure ProtoRest where
  fillLabel : FieldInfo → String
  fieldText : HeaderFieldInfo → Nat → Nat → Option String
  newOtherItem : FieldInfo → Tvbuff → Int → Int → Nat → Except WsException (FieldInfo × Bool)

/-- An unsigned integer of some bytes, in the byte order of an encoding. -/
def readUnsigned (size encoding : Nat) (tvb : Tvbuff) (offset : Int)
    : Except WsException Nat :=
  if encoding &&& encLittleEndian ≠ 0 then tvbGetLetoh size tvb offset
  else tvbGetNtoh size tvb offset

/-- The default case of get_uint_value and get_uint64_value, where largest bytes are read. -/
def mismatchedUnsigned (largest : Nat) (tree : Option Nat) (tvb : Tvbuff)
    (offset length : Int) (encoding : Nat)
    : DissectM Nat :=
  if length < 1 then do
    reportTypeLengthMismatch tree "an unsigned integer" length true
    pure 0
  else do
    let value ← orThrow (readUnsigned largest encoding tvb offset)
    reportTypeLengthMismatch tree "an unsigned integer" length false
    pure value

/-- get_uint_value. The largest value of one or two bytes is an invalid Zigbee length. -/
def getUintValue (tree : Option Nat) (tvb : Tvbuff) (offset length : Int) (encoding : Nat)
    : DissectM Nat :=
  if 1 ≤ length ∧ length ≤ 4 then do
    let value ← orThrow (readUnsigned length.toNat encoding tvb offset)
    let invalid := (length = 1 ∧ value = 0xFF) ∨ (length = 2 ∧ value = 0xFFFF)
    if encoding &&& encZigbee ≠ 0 ∧ invalid then pure 0 else pure value
  else mismatchedUnsigned 4 tree tvb offset length encoding

/-- get_uint64_value. -/
def getUint64Value (tree : Option Nat) (tvb : Tvbuff) (offset length : Int) (encoding : Nat)
    : DissectM Nat :=
  if 1 ≤ length ∧ length ≤ 8 then orThrow (readUnsigned length.toNat encoding tvb offset)
  else mismatchedUnsigned 8 tree tvb offset length encoding

/-- GUINT32_SWAP_LE_BE, and g_ntohl on a little-endian machine. -/
def swapBytes (value : Nat) : Nat :=
  value % 256 * 2 ^ 24 + value / 2 ^ 8 % 256 * 2 ^ 16 + value / 2 ^ 16 % 256 * 2 ^ 8
    + value / 2 ^ 24 % 256

def ftIpv4Len : Int := 4

/-- The case FT_IPv4 of proto_tree_new_item, with fvalue_set_uinteger for an address. -/
def getIpv4 (tree : Option Nat) (tvb : Tvbuff) (start length : Int) (encoding : Nat)
    : DissectM Fvalue := do
  if length ≠ ftIpv4Len then
    reportTypeLengthMismatch tree "an IPv4 address" length (length < ftIpv4Len)
  let value ← orThrow (tvbGetIpv4 tvb start)
  let value := if encoding ≠ 0 then swapBytes value else value
  pure (.ipv4 (swapBytes value))

/-- The encoding after the mapping of all values other than zero to little-endian. -/
def backwardsCompatible (encoding : Nat) : Nat :=
  if encoding ≠ 0 then encLittleEndian else encoding

/-- The flag for the byte order of an encoding. -/
def byteOrderFlag (encoding : Nat) : Nat :=
  if encoding &&& encLittleEndian ≠ 0 then fiLittleEndian else fiBigEndian

/-- The end of proto_tree_new_item for a value read with an encoding. -/
def addNewItem (tree : Nat) (fi : FieldInfo) (value : Fvalue) (encoding : Nat)
    : DissectM Nat :=
  protoTreeAddNode tree { fi with value, flags := fi.flags ||| byteOrderFlag encoding }

/-- proto_tree_new_item. -/
def protoTreeNewItem (rest : ProtoRest) (fi : FieldInfo) (tree : Nat) (tvb : Tvbuff)
    (start length : Int) (encoding : Nat)
    : DissectM Nat := do
  let other : DissectM Nat := do
    let (fi, stray) ← orThrow (rest.newOtherItem fi tvb start length encoding)
    let pi ← protoTreeAddNode tree fi
    if stray then expertAddInfo false (some pi) ⟨"ei_string_trailing_characters"⟩
    pure pi
  match fi.hfinfo.type with
  | .ftNone => addNewItem tree fi .unset encoding
  | .ftProtocol => addNewItem tree fi (.protocol (some tvb) fi.hfinfo.name) encoding
  | .ftBoolean =>
      let encoding := backwardsCompatible encoding
      let value ← getUint64Value (some tree) tvb start length encoding
      addNewItem tree fi (uint64Value fi.hfinfo value) encoding
  | .ftChar | .ftUint8 | .ftUint16 | .ftUint24 | .ftUint32 =>
      if encoding &&& encVariantMask ≠ 0 then other
      else
        let encoding := backwardsCompatible encoding
        let value ← getUintValue (some tree) tvb start length encoding
        addNewItem tree fi (uintValue fi.hfinfo value) encoding
  | .ftUint40 | .ftUint48 | .ftUint56 | .ftUint64 =>
      if encoding &&& encVariantMask ≠ 0 then other
      else
        let encoding := backwardsCompatible encoding
        let value ← getUint64Value (some tree) tvb start length encoding
        addNewItem tree fi (uint64Value fi.hfinfo value) encoding
  | .ftIpv4 =>
      let encoding := backwardsCompatible encoding
      let value ← getIpv4 (some tree) tvb start length encoding
      addNewItem tree fi value encoding
  | _ => other

/-- proto_tree_add_item_new. -/
def protoTreeAddItemNew (rest : ProtoRest) (tree : Option Nat) (hfinfo : HeaderFieldInfo)
    (tvb : Tvbuff) (start length : Int) (encoding : Nat)
    : DissectM (Option Nat) := do
  let (length, itemLength) ← getHfiLength hfinfo (some tvb) start length encoding
  testLength hfinfo (some tvb) start itemLength encoding
  match tree with
  | none => pure none
  | some tree =>
      let (hfinfo, faked) ← tryToFakeThisItem tree hfinfo.id
      if faked then pure (some tree)
      else
        let fi ← newFieldInfo hfinfo (some tvb) start itemLength
        let pi ← protoTreeNewItem rest fi tree tvb start length encoding
        pure (some pi)

/-- proto_tree_add_item. -/
def protoTreeAddItem (rest : ProtoRest) (tree : Option Nat) (hfindex : Int) (tvb : Tvbuff)
    (start length : Int) (encoding : Nat)
    : DissectM (Option Nat) := do
  let hfinfo ← inRegistry (protoRegistrarGetNth hfindex)
  protoTreeAddItemNew rest tree hfinfo tvb start length encoding

def bmtNoAppend : Nat := 0x01
def bmtNoInt : Nat := 0x02
def bmtNoFalse : Nat := 0x04
def bmtNoTfs : Nat := 0x08

/-- The wire_size of the integral types, as ftype_length answers it. -/
def ftypeLength : Ftenum → Nat
  | .ftChar | .ftUint8 | .ftInt8 => 1
  | .ftUint16 | .ftInt16 => 2
  | .ftUint24 | .ftInt24 => 3
  | .ftUint32 | .ftInt32 | .ftFramenum => 4
  | .ftUint40 | .ftInt40 => 5
  | .ftUint48 | .ftInt48 => 6
  | .ftUint56 | .ftInt56 => 7
  | .ftUint64 | .ftInt64 => 8
  | _ => 0

/-- proto_item_append_text. -/
def protoItemAppendText (rest : ProtoRest) (pi : Option Nat) (text : String)
    : DissectM Unit := do
  match pi with
  | none => pure ()
  | some node =>
      if ← treeVisible then
        changeFinfo node fun fi =>
          if fi.flags &&& fiHidden = 0 then
            let label := fi.rep.getD (rest.fillLabel fi)
            { fi with rep := some (takeChars (itemLabelLength - 1) (label ++ text)) }
          else fi

/-- The first switch of proto_item_add_bitmask_tree. -/
def addBitmaskField (tree : Option Nat) (hf : HeaderFieldInfo) (hfindex : Int) (tvb : Tvbuff)
    (offset length : Int) (value : Nat)
    : DissectM Unit := do
  let add := fun (addValue : Option Nat → Int → Option Tvbuff → Int → Int → Nat →
      DissectM (Option Nat)) => do
    let _ ← addValue tree hfindex (some tvb) offset length value
    pure ()
  match hf.type with
  | .ftChar | .ftUint8 | .ftUint16 | .ftUint24 | .ftUint32 => add protoTreeAddUint
  | .ftInt8 | .ftInt16 | .ftInt24 | .ftInt32 => add protoTreeAddInt
  | .ftUint40 | .ftUint48 | .ftUint56 | .ftUint64 => add protoTreeAddUint64
  | .ftInt40 | .ftInt48 | .ftInt56 | .ftInt64 => add protoTreeAddInt64
  | .ftBoolean => add protoTreeAddBoolean64
  | _ => assertInDissection False "DISSECTOR_ASSERT_NOT_REACHED"

/-- The text that the second switch of proto_item_add_bitmask_tree appends: for a plain flag
that is set, its name.
-/
def bitmaskText (rest : ProtoRest) (hf : HeaderFieldInfo) (flags value : Nat) : Option String :=
  if hf.type = .ftBoolean ∧ (hf.strings = .null ∨ flags &&& bmtNoTfs ≠ 0) then
    if hf.bitmask &&& value ≠ 0 then some hf.name else none
  else rest.fieldText hf flags ((value &&& hf.bitmask) >>> hfinfoBitshift hf)

/-- The loop of proto_item_add_bitmask_tree over the variables of the fields; first says
that no text was appended yet.
-/
def addBitmaskFields (rest : ProtoRest) (item tree : Option Nat) (tvb : Tvbuff)
    (offset length : Int) (flags availableBits value : Nat)
    : List String → Bool → DissectM Bool
  | [], first => pure first
  | field :: fields, first => do
      let hfindex ← readStatic field
      let hf ← inRegistry (protoRegistrarGetNth hfindex)
      assertInDissection (hf.bitmask ≠ 0) s!"hf->bitmask != 0 ({hf.abbr})"
      if availableBits &&& hf.bitmask ≠ hf.bitmask then
        addBitmaskFields rest item tree tvb offset length flags availableBits value fields first
      else
        addBitmaskField tree hf hfindex tvb offset length value
        let text :=
          if flags &&& bmtNoAppend ≠ 0 then none else bitmaskText rest hf flags value
        match text with
        | none =>
            addBitmaskFields rest item tree tvb offset length flags availableBits value fields
              first
        | some text =>
            protoItemAppendText rest item (if first then text else ", " ++ text)
            addBitmaskFields rest item tree tvb offset length flags availableBits value fields
              false

/-- proto_item_add_bitmask_tree, where the fields go under a subtree of the item. -/
def protoItemAddBitmaskTree (rest : ProtoRest) (item : Option Nat) (tvb : Tvbuff)
    (offset : Int) (length : Nat) (ett : Int) (fields : List String) (flags : Nat)
    (first : Bool) (value : Nat)
    : DissectM Bool := do
  if length > 8 then gError "g_assert_not_reached"
  let availableBits :=
    if length > 0 then (2 ^ 64 - 1) >>> ((8 - length) * 8) else 2 ^ 64 - 1
  let tree ← protoItemAddSubtree item ett
  addBitmaskFields rest item tree tvb offset length flags availableBits value fields first

/-- DISSECTOR_ASSERT_FIELD_TYPE_IS_INTEGRAL. -/
def assertIntegral (hf : HeaderFieldInfo) : DissectM Unit :=
  if isFtInt hf.type ∨ isFtUint hf.type then pure ()
  else
    inRegistry (protoReportDissectorBug
      s!"proto.c: field {hf.abbr} is not of type FT_CHAR or an FT_\x7bU\x7dINTn type")

/-- proto_tree_add_bitmask_with_flags. -/
def protoTreeAddBitmaskWithFlags (rest : ProtoRest) (parentTree : Option Nat) (tvb : Tvbuff)
    (offset hfHdr ett : Int) (fields : List String) (encoding flags : Nat)
    : DissectM (Option Nat) := do
  let hf ← inRegistry (protoRegistrarGetNth hfHdr)
  assertIntegral hf
  match parentTree with
  | none => pure none
  | some parent =>
      let length := ftypeLength hf.type
      let item ← protoTreeAddItem rest (some parent) hfHdr tvb offset length encoding
      let value ← getUint64Value (some parent) tvb offset length encoding
      let _ ← protoItemAddBitmaskTree rest item tvb offset length ett fields flags false value
      pure item

/-- proto_tree_add_bitmask. -/
def protoTreeAddBitmask (rest : ProtoRest) (parentTree : Option Nat) (tvb : Tvbuff)
    (offset hfHdr ett : Int) (fields : List String) (encoding : Nat)
    : DissectM (Option Nat) :=
  protoTreeAddBitmaskWithFlags rest parentTree tvb offset hfHdr ett fields encoding
    (bmtNoInt ||| bmtNoTfs)

end PacketDissector.Epan.Proto
