import PacketDissector.Epan.ProtoItem
import PacketDissector.Host.PacketFoo

/-! The dissector of the FOO protocol, and what a tree shows of a payload that it has
dissected.
-/

namespace PacketDissector.Host

open PacketDissector.Library PacketDissector.Epan PacketDissector.Epan.Proto

/-- The array bits of dissect_foo, by the variables it points to. -/
def fooBits : List String :=
  ["hf_foo_startflag", "hf_foo_endflag", "hf_foo_priorityflag"]

/-- One call of proto_tree_add_item in dissect_foo, by the variable of the field. -/
def addFooItem (rest : ProtoRest) (fooTree : Option Nat) (pId : String) (tvb : Tvbuff)
    (offset length : Int)
    : DissectM Unit := do
  let hfindex ← readStatic pId
  let _ ← protoTreeAddItem rest fooTree hfindex tvb offset length encBigEndian
  pure ()

/-- The call of proto_tree_add_bitmask in dissect_foo. -/
def addFooFlags (rest : ProtoRest) (fooTree : Option Nat) (tvb : Tvbuff) (offset : Int)
    : DissectM Unit := do
  let hfFooFlags ← readStatic "hf_foo_flags"
  let ettFoo ← readStatic "ett_foo"
  let _ ←
    protoTreeAddBitmask rest fooTree tvb offset hfFooFlags ettFoo fooBits encBigEndian
  pure ()

/-- The item for the whole protocol and its subtree. -/
def addFooTree (rest : ProtoRest) (tvb : Tvbuff) (tree : Option Nat)
    : DissectM (Option Nat) := do
  let protoFoo ← readStatic "proto_foo"
  let ti ← protoTreeAddItem rest tree protoFoo tvb 0 (-1) encNa
  let ettFoo ← readStatic "ett_foo"
  protoItemAddSubtree ti ettFoo

/-- dissect_foo. -/
def dissectFoo (rest : ProtoRest) (tvb : Tvbuff) (tree : Option Nat) : DissectM Int := do
  colSetStr .colProtocol "FOO"
  colClear .colInfo
  let fooTree ← addFooTree rest tvb tree
  addFooItem rest fooTree "hf_foo_pdu_type" tvb 0 1
  addFooFlags rest fooTree tvb 1
  addFooItem rest fooTree "hf_foo_sequenceno" tvb 2 2
  addFooItem rest fooTree "hf_foo_initialip" tvb 4 4
  pure (asGint (tvbCapturedLength tvb))

/-- What the eight bytes of a payload stand for. -/
structure FooPdu where
  pduType : UInt8
  flags : UInt8
  sequenceno : UInt16
  initialip : UInt32
  deriving DecidableEq, Repr

/-- The bytes of a PDU on the wire. -/
def FooPdu.encode (pdu : FooPdu) : List UInt8 :=
  [pdu.pduType, pdu.flags, UInt8.ofNat (pdu.sequenceno.toNat / 2 ^ 8),
    UInt8.ofNat pdu.sequenceno.toNat, UInt8.ofNat (pdu.initialip.toNat / 2 ^ 24),
    UInt8.ofNat (pdu.initialip.toNat / 2 ^ 16), UInt8.ofNat (pdu.initialip.toNat / 2 ^ 8),
    UInt8.ofNat pdu.initialip.toNat]

/-- A byte of a payload as a number. -/
def byteAt (tvb : Tvbuff) (offset : Nat) : Nat := ((tvb.bytes[offset]?).getD 0).toNat

/-- The item at a node is for a field at a place in the tvbuff, with a value and children. -/
structure ItemIs (s : DissectState) (node : Nat) (abbr : String) (tvb : Tvbuff)
    (start length : Nat) (value : Fvalue) (children : List Nat)
    : Prop where
  here : ∃ found fi, s.nodes[node]? = some found ∧ found.finfo = some fi
    ∧ found.children = children ∧ fi.hfinfo.abbr = abbr
    ∧ fi.start = start + tvbRawOffset tvb ∧ fi.length = length ∧ fi.value = value

/-- The tree has one more item, which covers the tvbuff and holds exactly the fields of FOO
with the values in the payload.
-/
def ShowsFoo (tvb : Tvbuff) (tree : Nat) (before after : DissectState) : Prop :=
  ∃ top pduType flags startflag endflag priorityflag sequenceno initialip : Nat,
    (after.nodes[tree]?).map ProtoNode.children
        = (before.nodes[tree]?).map (fun node => node.children ++ [top])
    ∧ ItemIs after top "foo" tvb 0 (tvbCapturedLength tvb) (.protocol (some tvb) "FOO Protocol")
        [pduType, flags, sequenceno, initialip]
    ∧ ItemIs after pduType "foo.type" tvb 0 1 (.uinteger (byteAt tvb 0)) []
    ∧ ItemIs after flags "foo.flags" tvb 1 1 (.uinteger (byteAt tvb 1))
        [startflag, endflag, priorityflag]
    ∧ ItemIs after startflag "foo.flags.start" tvb 1 1
        (.uinteger64 ((byteAt tvb 1).testBit 0).toNat) []
    ∧ ItemIs after endflag "foo.flags.end" tvb 1 1
        (.uinteger64 ((byteAt tvb 1).testBit 1).toNat) []
    ∧ ItemIs after priorityflag "foo.flags.priority" tvb 1 1
        (.uinteger64 ((byteAt tvb 1).testBit 2).toNat) []
    ∧ ItemIs after sequenceno "foo.seqn" tvb 2 2
        (.uinteger (256 * byteAt tvb 2 + byteAt tvb 3)) []
    ∧ ItemIs after initialip "foo.initialip" tvb 4 4
        (.ipv4 (byteAt tvb 4 * 2 ^ 24 + byteAt tvb 5 * 2 ^ 16 + byteAt tvb 6 * 2 ^ 8
          + byteAt tvb 7)) []

/-- The promise of dissect_foo for a payload and a tree: from eight bytes on it returns their
number and a visible tree shows them, and fewer bytes raise a bounds exception.
-/
structure DissectsFoo (rest : ProtoRest) (tvb : Tvbuff) (tree : Option Nat)
    (s : DissectState) : Prop where
  whole : 8 ≤ tvbCapturedLength tvb →
    ∃ t, Returns (dissectFoo rest tvb tree) s (tvbCapturedLength tvb : Int) t
      ∧ ∀ node, tree = some node → s.treeData.visible = true → ShowsFoo tvb node s t
  short : tvbCapturedLength tvb < 8 →
    ∃ stop t, Raises (dissectFoo rest tvb tree) s stop t ∧ stop.isBoundsException = true

end PacketDissector.Host
