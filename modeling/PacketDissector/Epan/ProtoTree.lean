import PacketDissector.Epan.Dissection

/-! The routines of proto.c that add items with given values to a protocol tree, and what
makes them stop: a tree that is too large or too deep, an item that is not ready for a
subtree, a field of the wrong type.
-/

namespace PacketDissector.Epan.Proto

open PacketDissector.Library

def maxTreeItems : Nat := 1000000
def maxTreeLevels : Nat := 500
def itemLabelLength : Nat := 240

def fiHidden : Nat := 0x01
def fiGenerated : Nat := 0x02
def fiLittleEndian : Nat := 0x08
def fiBigEndian : Nat := 0x10

def encNa : Nat := 0
def encBigEndian : Nat := 0
def encLittleEndian : Nat := 0x80000000
def encZigbee : Nat := 0x40000000
def encVarintProtobuf : Nat := 0x02
def encVarintQuic : Nat := 0x04
def encVarintZigzag : Nat := 0x08
def encVariantMask : Nat := encVarintProtobuf ||| encVarintQuic ||| encVarintZigzag

/-- The node behind a proto_tree or proto_item pointer. -/
def nodeAt (node : Nat) : DissectM ProtoNode := do
  match (← get).nodes[node]? with
  | some found => pure found
  | none => throw (.terminated (.nullDereference "proto_node"))

/-- A change of the field_info of a node, if it has one. -/
def changeFinfo (node : Nat) (change : FieldInfo → FieldInfo) : DissectM Unit :=
  modify fun s =>
    { s with
      nodes := s.nodes.modify node fun found =>
        { found with finfo := found.finfo.map change } }

/-- FI_GET_FLAG of the field_info of a node. -/
def getFlag (node : Nat) (flag : Nat) : DissectM Nat := do
  match (← nodeAt node).finfo with
  | some fi => pure (fi.flags &&& flag)
  | none => pure 0

/-- FI_SET_FLAG of the field_info behind an item pointer, which may be NULL. -/
def setFlag (pi : Option Nat) (flag : Nat) : DissectM Unit :=
  match pi with
  | some node => changeFinfo node fun fi => { fi with flags := fi.flags ||| flag }
  | none => pure ()

/-- The field tree_data->visible that is shared by all nodes of the tree. -/
def treeVisible : DissectM Bool := do
  pure (← get).treeData.visible

/-- The message of a tree with too many items. -/
def tooManyItems (hfinfo : HeaderFieldInfo) : String :=
  s!"Adding {hfinfo.abbr} would put more than {maxTreeItems} items in the tree"
    ++ " -- possible infinite loop"

/-- The check of the number of items in TRY_TO_FAKE_THIS_ITEM. -/
def checkItemCount (hfinfo : HeaderFieldInfo) : DissectM Unit := do
  let s ← get
  if s.treeData.count ≤ maxTreeItems then pure ()
  else if s.epan.envAbortOnTooManyItems then
    throw (.terminated (.gError (tooManyItems hfinfo)))
  else do
    modify fun s => { s with treeData := { s.treeData with count := 0 } }
    throw (.thrown (.dissectorError (tooManyItems hfinfo)))

/-- TRY_TO_FAKE_THIS_ITEM. The answer says whether the caller returns the tree itself. -/
def tryToFakeThisItem (tree : Nat) (hfindex : Int) : DissectM (HeaderFieldInfo × Bool) := do
  let parent ← nodeAt tree
  modify fun s => { s with treeData := { s.treeData with count := s.treeData.count + 1 } }
  let hfinfo ← inRegistry (protoRegistrarGetNth hfindex)
  checkItemCount hfinfo
  let s ← get
  let faked := !s.treeData.visible && parent.finfo.isSome && hfinfo.refType ≠ .direct
    && (hfinfo.type ≠ .ftProtocol || s.treeData.fakeProtocols)
  pure (hfinfo, faked)

/-- The loop of proto_tree_add_node over the node and its parents, with the levels left. -/
def exceedsLevels (nodes : List ProtoNode) : Nat → Option Nat → Bool
  | _, none => false
  | 0, some _ => true
  | left + 1, some node =>
      exceedsLevels nodes left ((nodes[node]?).bind ProtoNode.parent)

/-- tree_data_add_maybe_interesting_field. -/
def addMaybeInterestingField (node : Nat) (hfinfo : HeaderFieldInfo) : DissectM Unit :=
  if hfinfo.refType = .direct then
    modify fun s =>
      { s with
        treeData :=
          { s.treeData with
            interestingHfids := s.treeData.interestingHfids ++ [(hfinfo.id, node)] } }
  else pure ()

/-- How the messages of proto_tree_add_node name an item. -/
def fieldInfoName (fi : FieldInfo) : String :=
  s!"\"{fi.hfinfo.name}\" - \"{fi.hfinfo.abbr}\""

/-- The check of the depth for the first item under a node. -/
def checkTreeDepth (tree : Nat) (fi : FieldInfo) : DissectM Unit := do
  let parent ← nodeAt tree
  if parent.children = [] ∧ exceedsLevels (← get).nodes (maxTreeLevels - 1) (some tree) then
    throw (.thrown (.dissectorError
      s!"Maximum tree depth {maxTreeLevels} exceeded for {fieldInfoName fi} (proto_tree_add_node)"))
  else pure ()

/-- The check that a node other than the root was given a subtree type. -/
def checkTreeType (tree : Nat) (fi : FieldInfo) : DissectM Unit := do
  let parent ← nodeAt tree
  let numTreeTypes := (← get).epan.registry.numTreeTypes
  match parent.finfo with
  | none => pure ()
  | some tfi =>
      if 0 ≤ tfi.treeType ∧ tfi.treeType < numTreeTypes then pure ()
      else
        inRegistry (protoReportDissectorBug
          s!"{fieldInfoName fi} tfi->tree_type: {tfi.treeType} invalid (proto.c)")

/-- The nodes with one more under a tree. -/
def appendNode (nodes : List ProtoNode) (tree : Nat) (fi : FieldInfo) : List ProtoNode :=
  nodes.modify tree (fun found => { found with children := found.children ++ [nodes.length] })
    ++ [{ parent := some tree, finfo := some fi, children := [] }]

/-- proto_tree_add_node; the answer is the new item. -/
def protoTreeAddNode (tree : Nat) (fi : FieldInfo) : DissectM Nat := do
  checkTreeDepth tree fi
  checkTreeType tree fi
  let node := (← get).nodes.length
  modify fun s => { s with nodes := appendNode s.nodes tree fi }
  addMaybeInterestingField node fi.hfinfo
  pure node

/-- The field_info that new_field_info fills in. -/
def blankFieldInfo (visible : Bool) (hfinfo : HeaderFieldInfo) (tvb : Option Tvbuff)
    (start itemLength : Int)
    : FieldInfo where
  hfinfo := hfinfo
  start := start + (tvb.map tvbRawOffset).getD 0
  length := itemLength
  treeType := -1
  flags := if visible then 0 else fiHidden
  value := .unset
  rep := none

/-- new_field_info. -/
def newFieldInfo (hfinfo : HeaderFieldInfo) (tvb : Option Tvbuff) (start itemLength : Int)
    : DissectM FieldInfo := do
  let visible ← treeVisible
  pure (blankFieldInfo visible hfinfo tvb start itemLength)

/-- DISSECTOR_ASSERT in code that dissects. -/
def assertInDissection (condition : Prop) [Decidable condition] (text : String)
    : DissectM Unit :=
  inRegistry (dissectorAssert condition text)

/-- The length of an item by the QUIC varint at its start, from the top bits of a byte. -/
def quicVarintLength (firstByte : Nat) : Nat := 2 ^ (firstByte >>> 6)

/-- The types whose length -1 means what remains in the tvbuff. -/
def extendsToEnd : Ftenum → Bool
  | .ftProtocol | .ftNone | .ftBytes | .ftString | .ftStringzpad => true
  | _ => false

/-- What a length of -1 stands for: the rest of a tvbuff that is not empty. -/
def remainingLength (tvb : Tvbuff) (start : Int) : DissectM Nat :=
  if tvbCapturedLength tvb ≠ 0 then orThrow (tvbEnsureCapturedLengthRemaining tvb start)
  else pure 0

/-- get_hfi_length: the length, which -1 may have changed, and the item length. -/
def getHfiLength (hfinfo : HeaderFieldInfo) (tvb : Option Tvbuff) (start length : Int)
    (encoding : Nat)
    : DissectM (Int × Int) := do
  assertInDissection (tvb.isSome ∨ length = 0) "tvb != NULL || *length == 0"
  match tvb with
  | none => pure (0, 0)
  | some tvb =>
      if length = -1 then
        let integral := isFtInt hfinfo.type || isFtUint hfinfo.type
        if integral ∧ encoding &&& (encVarintProtobuf ||| encVarintZigzag) ≠ 0 then
          pure (length, length)
        else
          if integral ∧ encoding &&& encVarintQuic ≠ 0 then
            -- The length read here is lost: the switch below throws for these types.
            let _ ← orThrow (tvbGetGuint8 tvb start)
          if extendsToEnd hfinfo.type then
            let remaining ← remainingLength tvb start
            assertInDissection (asGint remaining ≥ 0) "*length >= 0"
            pure (asGint remaining, asGint remaining)
          else if hfinfo.type = .ftStringz then pure (length, length)
          else throw (.thrown .reportedBoundsError)
      else
        let remaining := tvbCapturedLengthRemaining tvb start
        let interior := hfinfo.type = .ftProtocol ∨ hfinfo.type = .ftNone
        let itemLength :=
          if interior ∧ (length < 0 ∨ (length > 0 ∧ remaining < length)) then remaining
          else length
        if itemLength < 0 then throw (.thrown .reportedBoundsError)
        pure (length, itemLength)

/-- test_length. -/
def testLength (hfinfo : HeaderFieldInfo) (tvb : Option Tvbuff) (start length : Int)
    (encoding : Nat)
    : DissectM Unit := do
  match tvb with
  | none => pure ()
  | some tvb =>
      let toEnd : Bool := hfinfo.type = .ftStringz
        || (encoding &&& encVariantMask ≠ 0 && (isFtUint hfinfo.type || isFtInt hfinfo.type))
      let size := if toEnd ∧ length = -1 then 0 else length
      orThrow (tvbEnsureBytesExist tvb start size)

/-- proto_tree_add_pi: the new item, and the length that -1 stood for. -/
def protoTreeAddPi (tree : Nat) (hfinfo : HeaderFieldInfo) (tvb : Option Tvbuff)
    (start length : Int)
    : DissectM (Nat × Int) := do
  let (length, itemLength) ← getHfiLength hfinfo tvb start length encNa
  let fi ← newFieldInfo hfinfo tvb start itemLength
  let pi ← protoTreeAddNode tree fi
  pure (pi, length)

/-- ws_ctz: the place of the lowest bit that is set. -/
def wsCtz (x : Nat) : Nat := ((List.range 64).find? x.testBit).getD 64

/-- ws_count_ones. -/
def wsCountOnes (x : Nat) : Nat := (List.range 64).countP x.testBit

/-- hfinfo_bitshift. -/
def hfinfoBitshift (hfinfo : HeaderFieldInfo) : Nat := wsCtz hfinfo.bitmask

/-- The part of an integer that a bitmask selects. -/
def maskAndShift (hfinfo : HeaderFieldInfo) (integer : Nat) : Nat :=
  if hfinfo.bitmask ≠ 0 then (integer &&& hfinfo.bitmask) >>> hfinfoBitshift hfinfo
  else integer

/-- ws_sign_ext32 and ws_sign_ext64, by their width, read as a signed integer. -/
def wsSignExt (width value bits : Nat) : Int :=
  let extended :=
    if bits ≠ 0 ∧ bits ≠ width ∧ value.testBit (bits - 1) then
      value ||| (2 ^ width - 2 ^ bits)
    else value
  if extended < 2 ^ (width - 1) then extended else (extended : Int) - 2 ^ width

/-- proto_tree_set_uint. -/
def uintValue (hfinfo : HeaderFieldInfo) (value : Nat) : Fvalue :=
  .uinteger (maskAndShift hfinfo (value % 2 ^ 32))

/-- proto_tree_set_uint64, and proto_tree_set_boolean. -/
def uint64Value (hfinfo : HeaderFieldInfo) (value : Nat) : Fvalue :=
  .uinteger64 (maskAndShift hfinfo (value % 2 ^ 64))

/-- proto_tree_set_int. -/
def intValue (hfinfo : HeaderFieldInfo) (value : Nat) : Fvalue :=
  let bits := if hfinfo.bitmask ≠ 0 then wsCountOnes hfinfo.bitmask else 32
  .sinteger (wsSignExt 32 (maskAndShift hfinfo (value % 2 ^ 32)) bits)

/-- proto_tree_set_int64. -/
def int64Value (hfinfo : HeaderFieldInfo) (value : Nat) : Fvalue :=
  let bits := if hfinfo.bitmask ≠ 0 then wsCountOnes hfinfo.bitmask else 64
  .sinteger64 (wsSignExt 64 (maskAndShift hfinfo (value % 2 ^ 64)) bits)

/-- An assignment of the value of an item. -/
def setValue (pi : Nat) (value : Fvalue) : DissectM Unit :=
  changeFinfo pi fun fi => { fi with value }

/-- The shape that proto_tree_add_uint, proto_tree_add_boolean64 and their like share. -/
def protoTreeAddValue (accepts : Ftenum → Bool) (bug : String → String)
    (value : HeaderFieldInfo → Fvalue) (tree : Option Nat) (hfindex : Int)
    (tvb : Option Tvbuff) (start length : Int)
    : DissectM (Option Nat) := do
  match tree with
  | none => pure none
  | some tree =>
      let (hfinfo, faked) ← tryToFakeThisItem tree hfindex
      if faked then pure (some tree)
      else if accepts hfinfo.type then
        let (pi, _) ← protoTreeAddPi tree hfinfo tvb start length
        setValue pi (value hfinfo)
        pure (some pi)
      else inRegistry (protoReportDissectorBug (bug hfinfo.abbr))

/-- The types of proto_tree_add_uint. -/
def isUint32Type : Ftenum → Bool
  | .ftChar | .ftUint8 | .ftUint16 | .ftUint24 | .ftUint32 | .ftFramenum => true
  | _ => false

/-- The types of proto_tree_add_uint64. -/
def isUint64Type : Ftenum → Bool
  | .ftUint40 | .ftUint48 | .ftUint56 | .ftUint64 | .ftFramenum => true
  | _ => false

/-- The types of proto_tree_add_int. -/
def isInt32Type : Ftenum → Bool
  | .ftInt8 | .ftInt16 | .ftInt24 | .ftInt32 => true
  | _ => false

/-- The types of proto_tree_add_int64. -/
def isInt64Type : Ftenum → Bool
  | .ftInt40 | .ftInt48 | .ftInt56 | .ftInt64 => true
  | _ => false

/-- proto_tree_add_uint. -/
def protoTreeAddUint (tree : Option Nat) (hfindex : Int) (tvb : Option Tvbuff)
    (start length : Int) (value : Nat)
    : DissectM (Option Nat) :=
  protoTreeAddValue isUint32Type
    (fun abbr => s!"field {abbr} is not of type FT_CHAR, FT_UINT8, FT_UINT16, FT_UINT24,"
      ++ " FT_UINT32, or FT_FRAMENUM")
    (uintValue · value) tree hfindex tvb start length

/-- proto_tree_add_uint64. -/
def protoTreeAddUint64 (tree : Option Nat) (hfindex : Int) (tvb : Option Tvbuff)
    (start length : Int) (value : Nat)
    : DissectM (Option Nat) :=
  protoTreeAddValue isUint64Type
    (fun abbr => s!"field {abbr} is not of type FT_UINT40, FT_UINT48, FT_UINT56, FT_UINT64,"
      ++ " or FT_FRAMENUM")
    (uint64Value · value) tree hfindex tvb start length

/-- proto_tree_add_int. -/
def protoTreeAddInt (tree : Option Nat) (hfindex : Int) (tvb : Option Tvbuff)
    (start length : Int) (value : Nat)
    : DissectM (Option Nat) :=
  protoTreeAddValue isInt32Type
    (fun abbr => s!"field {abbr} is not of type FT_INT8, FT_INT16, FT_INT24, or FT_INT32")
    (intValue · value) tree hfindex tvb start length

/-- proto_tree_add_int64. -/
def protoTreeAddInt64 (tree : Option Nat) (hfindex : Int) (tvb : Option Tvbuff)
    (start length : Int) (value : Nat)
    : DissectM (Option Nat) :=
  protoTreeAddValue isInt64Type
    (fun abbr => s!"field {abbr} is not of type FT_INT40, FT_INT48, FT_INT56, or FT_INT64")
    (int64Value · value) tree hfindex tvb start length

/-- proto_tree_add_boolean64. -/
def protoTreeAddBoolean64 (tree : Option Nat) (hfindex : Int) (tvb : Option Tvbuff)
    (start length : Int) (value : Nat)
    : DissectM (Option Nat) :=
  protoTreeAddValue (· = .ftBoolean)
    (fun abbr => s!"proto.c: field {abbr} is not of type FT_BOOLEAN")
    (uint64Value · value) tree hfindex tvb start length

/-- A formatted label, cut by label_mark_truncated when it is too long. -/
def itemLabel (text : String) : String :=
  if text.length < itemLabelLength then text
  else takeChars (itemLabelLength - 2) (" [truncated]" ++ text)

/-- proto_tree_set_representation. -/
def protoTreeSetRepresentation (pi : Nat) (text : String) : DissectM Unit := do
  assertInDissection (((← nodeAt pi).finfo).isSome) "fi"
  if (← getFlag pi fiHidden) = 0 then
    changeFinfo pi fun fi => { fi with rep := some (itemLabel text) }

/-- TRY_TO_FAKE_THIS_REPR before the code that writes a label. -/
def setVisibleRepresentation (pi : Nat) (text : String) : DissectM Unit := do
  if ← treeVisible then protoTreeSetRepresentation pi text

/-- proto_item_add_subtree. -/
def protoItemAddSubtree (pi : Option Nat) (idx : Int) : DissectM (Option Nat) := do
  match pi with
  | none => pure none
  | some node =>
      let s ← get
      assertInDissection (0 ≤ idx ∧ idx < s.epan.registry.numTreeTypes)
        "idx >= 0 && idx < num_tree_types"
      let _ ← nodeAt node
      changeFinfo node fun fi => { fi with treeType := idx }
      pure (some node)

end PacketDissector.Epan.Proto
