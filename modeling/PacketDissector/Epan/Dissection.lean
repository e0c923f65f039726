import PacketDissector.Epan.Init
import PacketDissector.Epan.Tap
import PacketDissector.Epan.Tvbuff

/-! The state of the dissection of one packet: its columns, its protocol tree and its tap
queue, next to the statics of libepan.
-/

namespace PacketDissector.Epan

open PacketDissector.Library Proto

/-- The column formats that the modelled code writes. -/
inductive ColFormat where
  | colProtocol
  | colInfo
  | colExpert
  deriving DecidableEq, Repr

/-- A col_item_t. Without colData the data pointer is the buffer. -/
structure ColItem where
  fmtMatx : List ColFormat
  colData : Option String
  colBuf : String
  colFence : Nat
  writable : Bool
  deriving DecidableEq, Repr

/-- A column_info; col_first and col_last follow from the formats of the columns. -/
structure ColumnInfo where
  columns : List ColItem
  writable : Bool
  deriving DecidableEq, Repr

/-- A packet_info. -/
structure PacketInfo where
  num : Nat
  currentProto : String
  cinfo : Option ColumnInfo
  deriving DecidableEq, Repr

/-- The values of fields, as fvalue_t. -/
inductive Fvalue where
  | unset
  | uinteger (value : Nat)
  | uinteger64 (value : Nat)
  | sinteger (value : Int)
  | sinteger64 (value : Int)
  | ipv4 (addr : Nat)
  | protocol (tvb : Option Tvbuff) (text : String)
  | string (text : String)
  | other (bytes : List UInt8)

/-- A field_info. -/
structure FieldInfo where
  hfinfo : HeaderFieldInfo
  start : Int
  length : Int
  treeType : Int
  flags : Nat
  value : Fvalue
  rep : Option String

/-- A proto_node, whose relatives are known by their places among the nodes. -/
structure ProtoNode where
  parent : Option Nat
  finfo : Option FieldInfo
  children : List Nat

/-- The tree_data_t that the nodes of a tree share. The fields of interesting_hfids are
listed with their nodes in the order in which they were added.
-/
structure TreeData where
  visible : Bool
  fakeProtocols : Bool
  count : Nat
  interestingHfids : List (Int × Nat)
  hasPinfo : Bool

/-- An expert_info_t. -/
structure ExpertInfo where
  packetNum : Nat
  group : Nat
  severity : Nat
  hfIndex : Int
  protocol : String
  summary : String
  pitem : Option Nat
  deriving DecidableEq, Repr

/-- The statics of libepan and the packet at hand. A program of the filter engine is known
by its text; an expert_info_t by its place, counted from 1. An array on the stack that is
read before it is written holds indeterminate.
-/
structure DissectState where
  epan : EpanState
  tap : Tap.TapState String
  pinfo : PacketInfo
  nodes : List ProtoNode
  treeData : TreeData
  expertInfos : List ExpertInfo
  indeterminate : String

/-- The state before any item of the first packet, with the nodes of its visible tree. -/
def DissectState.ofEpan (epan : EpanState) (nodes : List ProtoNode) : DissectState where
  epan := epan
  tap := ⟨false, [], [], []⟩
  pinfo := ⟨1, "", none⟩
  nodes := nodes
  treeData := ⟨true, true, 0, [], true⟩
  expertInfos := []
  indeterminate := ""

/-- Code that dissects a packet. -/
abbrev DissectM := EStateM Stop DissectState

/-- Code of proto.c that works on the registry. -/
def inRegistry {α : Type} (x : Registrar α) : DissectM α :=
  focus (fun s => s.epan.registry)
    (fun registry s => { s with epan := { s.epan with registry } }) x

/-- A variable of a dissector. -/
def readStatic (name : String) : DissectM Int := do
  let s ← get
  pure (s.epan.registry.statics name)

def colMaxLen : Nat := 256
def colMaxInfoLen : Nat := 4096

/-- The first characters of a string; a C string has one for each byte. -/
def takeChars (n : Nat) (text : String) : String := String.ofList (text.toList.take n)

/-- CHECK_COL, with col_get_writable. -/
def checkCol (cinfo : ColumnInfo) (el : ColFormat) : Bool :=
  cinfo.writable && (cinfo.columns.find? fun item => el ∈ item.fmtMatx).any ColItem.writable

/-- The loop of a column routine over the columns of a format. -/
def writeColumns (el : ColFormat) (change : ColItem → ColItem) (cinfo : ColumnInfo)
    : ColumnInfo :=
  if checkCol cinfo el then
    let columns := cinfo.columns.map fun item =>
      if el ∈ item.fmtMatx then change item else item
    { cinfo with columns }
  else cinfo

/-- A column routine on the columns of the packet, which may have none. -/
def onColumns (el : ColFormat) (change : ColItem → ColItem) : DissectM Unit :=
  modify fun s =>
    { s with pinfo := { s.pinfo with cinfo := s.pinfo.cinfo.map (writeColumns el change) } }

/-- The length of the buffers of a format. -/
def colMax (el : ColFormat) : Nat := if el = .colInfo then colMaxInfoLen else colMaxLen

/-- COL_CHECK_APPEND. -/
def ColItem.checkAppend (item : ColItem) (maxLen : Nat) : ColItem :=
  match item.colData with
  | some data => { item with colBuf := takeChars (maxLen - 1) data, colData := none }
  | none => item

/-- The g_strlcpy to the part of the buffer after the fence. -/
def ColItem.copyAfterFence (item : ColItem) (str : String) (maxLen : Nat) : ColItem :=
  { item with
    colBuf := takeChars item.colFence item.colBuf
      ++ takeChars (maxLen - item.colFence - 1) str }

/-- col_set_str. -/
def colSetStr (el : ColFormat) (str : String) : DissectM Unit :=
  onColumns el fun item =>
    if item.colFence ≠ 0 then (item.checkAppend (colMax el)).copyAfterFence str (colMax el)
    else { item with colData := some str }

/-- col_add_str. -/
def colAddStr (el : ColFormat) (str : String) : DissectM Unit :=
  onColumns el fun item =>
    let item :=
      if item.colFence ≠ 0 then item.checkAppend (colMax el) else { item with colData := none }
    item.copyAfterFence str (colMax el)

/-- col_clear; the column expressions are left out. -/
def colClear (el : ColFormat) : DissectM Unit :=
  onColumns el fun item =>
    if item.colData = none ∨ item.colFence = 0 then
      { item with colBuf := takeChars item.colFence item.colBuf, colData := none }
    else item

end PacketDissector.Epan
