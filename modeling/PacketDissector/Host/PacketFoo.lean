import PacketDissector.Epan.Registry

/-! Registration of the FOO protocol, as the plugin packet-foo.cpp does it. -/

namespace PacketDissector.Host

open PacketDissector.Epan PacketDissector.Epan.Proto

/-- The value string packettypenames. -/
def packettypenames : List (Nat × String) :=
  [(1, "Initialise"), (2, "Terminate"), (3, "Data")]

def fooStartFlag : Nat := 0x01
def fooEndFlag : Nat := 0x02
def fooPriorityFlag : Nat := 0x04

/-- An entry of the array hf of proto_register_foo. -/
def fooField (pId name abbr : String) (type : Ftenum) (display : Nat)
    (strings : FieldStrings) (bitmask : Nat)
    : HfRegisterInfo where
  pId := pId
  hfinfo := { name, abbr, type, display, strings, bitmask }

/-- The array hf of proto_register_foo. -/
def hf : List HfRegisterInfo :=
  [fooField "hf_foo_pdu_type" "FOO PDU Type" "foo.type" .ftUint8 baseDec
      (.valueString packettypenames) 0,
    fooField "hf_foo_flags" "FOO PDU Flags" "foo.flags" .ftUint8 baseHex .null 0,
    fooField "hf_foo_sequenceno" "FOO PDU Sequence Number" "foo.seqn" .ftUint16 baseDec
      .null 0,
    fooField "hf_foo_initialip" "FOO PDU Initial IP" "foo.initialip" .ftIpv4 baseNone
      .null 0,
    fooField "hf_foo_startflag" "FOO PDU Start Flags" "foo.flags.start" .ftBoolean 8 .null
      fooStartFlag,
    fooField "hf_foo_endflag" "FOO PDU End Flags" "foo.flags.end" .ftBoolean 8 .null
      fooEndFlag,
    fooField "hf_foo_priorityflag" "FOO PDU Priority Flags" "foo.flags.priority" .ftBoolean
      8 .null fooPriorityFlag]

/-- proto_register_foo. Its call of proto_register_subtree_array for ett_foo is left out by
the preprocessor.
-/
def protoRegisterFoo : Registrar Unit := do
  let protoFoo ← protoRegisterProtocol "FOO Protocol" "FOO" "foo"
  setVariable "proto_foo" protoFoo
  let protoFoo := (← get).statics "proto_foo"
  protoRegisterFieldArray protoFoo hf

end PacketDissector.Host
