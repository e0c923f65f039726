import PacketDissector.Epan.ProtoTree

/-! The reporting half of expert.c: the packet-time set-up, and the four entry points that add
expert information to a tree, a column and the expert tap.
-/

namespace PacketDissector.Epan.Expert

open PacketDissector.Library Proto

/-- An expert_field, whose members ei and hf are variables of the dissector. -/
structure ExpertField where
  ids : String
  deriving DecidableEq, Repr

/-- The member ei of an expert_field. -/
def ExpertField.ei (field : ExpertField) : String := field.ids ++ ".ei"

def expertGroupVals : List (Nat × String) :=
  [(0x01000000, "Checksum"), (0x02000000, "Sequence"), (0x03000000, "Response"),
    (0x04000000, "Request"), (piUndecoded, "Undecoded"), (0x06000000, "Reassemble"),
    (piMalformed, "Malformed"), (0x08000000, "Debug"), (0x09000000, "Protocol"),
    (0x0a000000, "Security"), (0x0b000000, "Comment"), (0x0c000000, "Decryption"),
    (0x0d000000, "Assumption"), (0x0e000000, "Deprecated")]

def expertSeverityVals : List (Nat × String) :=
  [(piError, "Error"), (piWarn, "Warning"), (0x00400000, "Note"), (0x00200000, "Chat"),
    (piComment, "Comment"), (1, "Ok")]

/-- The array hf of expert_packet_init. -/
def expertHf : List HfRegisterInfo :=
  [{ pId := "hf_expert_msg"
     hfinfo := { name := "Message", abbr := "_ws.expert.message", type := .ftString
                 display := baseNone, strings := .null, bitmask := 0 } },
    { pId := "hf_expert_group"
      hfinfo := { name := "Group", abbr := "_ws.expert.group", type := .ftUint32
                  display := baseNone, strings := .valueString expertGroupVals, bitmask := 0 } },
    { pId := "hf_expert_severity"
      hfinfo := { name := "Severity level", abbr := "_ws.expert.severity", type := .ftUint32
                  display := baseNone, strings := .valueString expertSeverityVals
                  bitmask := 0 } }]

/-- The registration of the pseudo-protocol in expert_packet_init; the preference for custom
severities is left out.
-/
def registerProtoExpert : Registrar Unit := do
  let protoExpert ← protoRegisterProtocol "Expert Info" "Expert" "_ws.expert"
  setVariable "proto_expert" protoExpert
  protoRegisterFieldArray protoExpert expertHf
  protoRegisterSubtreeArray ["ett_expert", "ett_subexpert"]
  protoSetCantToggle protoExpert

/-- The first condition of expert_packet_init. -/
def registerExpertTap : DissectM Unit := do
  if (← readStatic "expert_tap") = -1 then
    let (expertTap, tap) := Tap.registerTap "expert" (← get).tap
    modify fun s => { s with tap }
    inRegistry (setVariable "expert_tap" expertTap)

/-- The second condition of expert_packet_init. -/
def registerProtoExpertOnce : DissectM Unit := do
  if (← readStatic "proto_expert") = -1 then inRegistry registerProtoExpert

/-- expert_packet_init. -/
def expertPacketInit : DissectM Unit := do
  registerExpertTap
  registerProtoExpertOnce
  modify fun s =>
    { s with epan := { s.epan with expert := { s.epan.expert with highestSeverity := 0 } } }
  let protoMalformed ← inRegistry (protoGetIdByFilterName "_ws.malformed")
  inRegistry (setVariable "proto_malformed" protoMalformed)

/-- The record at an index taken as unsigned. -/
def expertAt? (s : ExpertStatics) (eiindex : Int) : Option ExpertFieldInfo :=
  if 0 ≤ eiindex then s.gpaExpertinfo[eiindex.toNat]? else none

/-- Why EXPERT_REGISTRAR_GET_NTH does not answer. -/
def unregisteredExpertInfo (abortOnBug : Bool) (eiindex : Int) : Stop :=
  if abortOnBug then .terminated (.gError s!"Unregistered expert info! index={eiindex}")
  else .thrown (.dissectorError
    ("expert.c: failed assertion \"(guint)eiindex < gpa_expertinfo.len\""
      ++ " (Unregistered expert info!)"))

/-- EXPERT_REGISTRAR_GET_NTH; no entry of the array is NULL here. -/
def expertRegistrarGetNth (expindex : ExpertField) : DissectM ExpertFieldInfo := do
  let eiindex ← readStatic expindex.ei
  let s ← get
  match expertAt? s.epan.expert eiindex with
  | some expinfo => pure expinfo
  | none =>
      throw (unregisteredExpertInfo s.epan.registry.wiresharkAbortOnDissectorBug eiindex)

/-- The loop of expert_set_item_flags from an item up, over at most as many items as there
are nodes.
-/
def setItemFlagsUp (group severity : Nat) : Nat → Option Nat → List ProtoNode → List ProtoNode
  | 0, _, nodes => nodes
  | _, none, nodes => nodes
  | fuel + 1, some pi, nodes =>
      match nodes[pi]? with
      | some { parent, finfo := some fi, .. } =>
          if severity ≥ fi.flags &&& piSeverityMask then
            let flags := fi.flags - (fi.flags &&& piGroupMask) ||| group
            let flags := flags - (flags &&& piSeverityMask) ||| severity
            setItemFlagsUp group severity fuel parent
              (nodes.modify pi fun node => { node with finfo := some { fi with flags } })
          else nodes
      | _ => nodes

/-- expert_set_item_flags. -/
def expertSetItemFlags (pi : Option Nat) (group severity : Nat) : DissectM Unit :=
  modify fun s =>
    { s with nodes := setItemFlagsUp group severity s.nodes.length pi s.nodes }

/-- proto_tree_add_protocol_format without a tvbuff. -/
def protoTreeAddProtocolFormat (tree : Option Nat) (hfindex : Int) (text : String)
    : DissectM (Option Nat) := do
  match tree with
  | none => pure none
  | some tree =>
      let (hfinfo, faked) ← tryToFakeThisItem tree hfindex
      if faked then pure (some tree)
      else
        if hfinfo.type ≠ .ftProtocol then
          inRegistry (protoReportDissectorBug
            s!"proto.c: field {hfinfo.abbr} is not of type FT_PROTOCOL")
        let (pi, _) ← protoTreeAddPi tree hfinfo none 0 0
        setValue pi (.protocol none text)
        setVisibleRepresentation pi text
        pure (some pi)

/-- proto_tree_add_item of a field without a value and without a tvbuff, as for
proto_malformed. A field of another type would have its value read from no tvbuff.
-/
def protoTreeAddMalformed (tree : Option Nat) (hfindex : Int) : DissectM (Option Nat) := do
  let hfinfo ← inRegistry (protoRegistrarGetNth hfindex)
  let (_, itemLength) ← getHfiLength hfinfo none 0 0 encNa
  testLength hfinfo none 0 itemLength encNa
  match tree with
  | none => pure none
  | some tree =>
      let (hfinfo, faked) ← tryToFakeThisItem tree hfinfo.id
      if faked then pure (some tree)
      else
        let fi ← newFieldInfo hfinfo none 0 itemLength
        if hfinfo.type = .ftProtocol then
          let fi :=
            { fi with
              value := .protocol none hfinfo.name, flags := fi.flags ||| fiBigEndian }
          let pi ← protoTreeAddNode tree fi
          pure (some pi)
        else throw (.terminated (.nullDereference "proto_tree_new_item: tvb"))

/-- expert_create_tree. The names of the severity and the group are empty in this port. -/
def expertCreateTree (pi : Option Nat) (group : Nat) (msg : String)
    : DissectM (Option Nat) := do
  let ettExpert ← readStatic "ett_expert"
  let tree ← protoItemAddSubtree pi ettExpert
  let protoExpert ← readStatic "proto_expert"
  let ti ← protoTreeAddProtocolFormat tree protoExpert s!"Expert Info (/): {msg}"
  setFlag ti fiGenerated
  if group = piMalformed then
    let protoMalformed ← readStatic "proto_malformed"
    let malformedTi ← protoTreeAddMalformed tree protoMalformed
    setFlag malformedTi fiHidden
  let ettSubexpert ← readStatic "ett_subexpert"
  protoItemAddSubtree ti ettSubexpert

/-- proto_tree_add_string without a tvbuff. -/
def protoTreeAddString (tree : Option Nat) (hfindex : Int) (value : String)
    : DissectM (Option Nat) := do
  let hfinfo ← inRegistry (protoRegistrarGetNth hfindex)
  let _ ← getHfiLength hfinfo none 0 0 encNa
  match tree with
  | none => pure none
  | some tree =>
      let (hfinfo, faked) ← tryToFakeThisItem tree hfindex
      if faked then pure (some tree)
      else
        if hfinfo.type ≠ .ftString ∧ hfinfo.type ≠ .ftStringz
            ∧ hfinfo.type ≠ .ftStringzpad then
          inRegistry (protoReportDissectorBug
            (s!"proto.c: field {hfinfo.abbr} is not of type FT_STRING, FT_STRINGZ,"
              ++ " or FT_STRINGZPAD"))
        let (pi, length) ← protoTreeAddPi tree hfinfo none 0 0
        assertInDissection (length ≥ 0) "length >= 0"
        setValue pi (.string value)
        pure (some pi)

/-- proto_tree_add_none_format without a tvbuff. -/
def protoTreeAddNoneFormat (tree : Option Nat) (hfindex : Int) (text : String)
    : DissectM (Option Nat) := do
  match tree with
  | none => pure none
  | some tree =>
      let (hfinfo, faked) ← tryToFakeThisItem tree hfindex
      if faked then pure (some tree)
      else
        if hfinfo.type ≠ .ftNone then
          inRegistry (protoReportDissectorBug
            s!"proto.c: field {hfinfo.abbr} is not of type FT_NONE")
        let (pi, _) ← protoTreeAddPi tree hfinfo none 0 0
        setVisibleRepresentation pi text
        pure (some pi)

/-- proto_tree_add_uint_format_value of a field without a bitmask, with no text for the
value and without a tvbuff.
-/
def protoTreeAddUintNoText (tree : Option Nat) (hfindex : Int) (value : Nat)
    : DissectM (Option Nat) := do
  let pi ← protoTreeAddUint tree hfindex none 0 0 value
  match pi with
  | some node =>
      if pi ≠ tree then
        match (← nodeAt node).finfo with
        | some fi => setVisibleRepresentation node s!"{fi.hfinfo.name}: "
        | none => pure ()
  | none => pure ()
  pure pi

/-- proto_tree_add_text_node for hfi_text_only. -/
def protoTreeAddTextNode (tree : Nat) (tvb : Tvbuff) (start length : Int) : DissectM Nat := do
  let hfTextOnly ← readStatic "hf_text_only"
  let registered := (← get).epan.registry.hfinfoAt? hfTextOnly
  let (pi, _) ← protoTreeAddPi tree (registered.getD hfiTextOnly) (some tvb) start length
  pure pi

/-- proto_tree_add_text_internal, and proto_tree_add_text_valist_internal. -/
def protoTreeAddTextInternal (tree : Option Nat) (tvb : Tvbuff) (start length : Int)
    (text : String)
    : DissectM (Option Nat) := do
  let length ←
    if length = -1 then asGint <$> remainingLength tvb start
    else do
      orThrow (tvbEnsureBytesExist tvb start length)
      pure length
  match tree with
  | none => pure none
  | some tree =>
      let hfTextOnly ← readStatic "hf_text_only"
      let (_, faked) ← tryToFakeThisItem tree hfTextOnly
      if faked then pure (some tree)
      else
        let pi ← protoTreeAddTextNode tree tvb start length
        setVisibleRepresentation pi text
        pure (some pi)

/-- The item, if it is not NULL and has a field_info. -/
def realItem (pi : Option Nat) : DissectM (Option Nat) := do
  match pi with
  | none => pure none
  | some node =>
      match (← nodeAt node).finfo with
      | some _ => pure (some node)
      | none => pure none

/-- have_tap_listener. -/
def haveTapListener (tapId : Int) : DissectM Bool := do
  pure ((← get).tap.tapListenerQueue.any fun listener => listener.tapId = tapId)

/-- The last part of expert_set_info_vformat: the record for the expert tap. -/
def queueExpertInfo (pi : Option Nat) (group severity : Nat) (hfIndex : Int)
    (formatted : String)
    : DissectM Unit := do
  let expertTap ← readStatic "expert_tap"
  if ← haveTapListener expertTap then
    let pitem ← realItem pi
    modify fun s =>
      let ei : ExpertInfo :=
        { packetNum := s.pinfo.num, group, severity, hfIndex
          protocol := s.pinfo.currentProto, summary := formatted, pitem }
      let call : Tap.TapQueueCall :=
        { tapId := expertTap, inErrorPkt := false, pinfo := 1
          tapSpecificData := s.expertInfos.length + 1 }
      { s with
        expertInfos := s.expertInfos ++ [ei]
        tap := Tap.tapQueuePacket call s.tap }

/-- expert_set_info_vformat. The call that fills the message from the format and its
arguments is commented out, so that use_vaformat leaves it as it was on the stack.
-/
def expertSetInfoVformat (hasPinfo : Bool) (pi : Option Nat) (group severity : Nat)
    (hfIndex : Int) (useVaformat : Bool) (format : String)
    : DissectM Unit := do
  let s ← get
  let pinfoKnown := hasPinfo || (pi.isSome && s.treeData.hasPinfo)
  if pinfoKnown = false ∨ s.pinfo.num = 0 then pure ()
  else
    if severity > s.epan.expert.highestSeverity then
      modify fun s =>
        { s with
          epan :=
            { s.epan with expert := { s.epan.expert with highestSeverity := severity } } }
    let item ← realItem pi
    match item with
    | some _ => expertSetItemFlags pi group severity
    | none => pure ()
    match item with
    | some node =>
        if severity ≥ (← getFlag node piSeverityMask) then colAddStr .colExpert ""
    | none => colAddStr .colExpert ""
    let formatted :=
      if useVaformat then s.indeterminate else takeChars (itemLabelLength - 1) format
    let tree ← expertCreateTree pi group formatted
    let hfExpertMsg ← readStatic "hf_expert_msg"
    if hfIndex = -1 then
      setFlag (← protoTreeAddString tree hfExpertMsg formatted) fiGenerated
    else
      setFlag (← protoTreeAddNoneFormat tree hfIndex formatted) fiGenerated
      setFlag (← protoTreeAddString tree hfExpertMsg formatted) fiHidden
    let hfExpertSeverity ← readStatic "hf_expert_severity"
    setFlag (← protoTreeAddUintNoText tree hfExpertSeverity severity) fiGenerated
    let hfExpertGroup ← readStatic "hf_expert_group"
    setFlag (← protoTreeAddUintNoText tree hfExpertGroup group) fiGenerated
    queueExpertInfo pi group severity hfIndex formatted

/-- expert_add_info. -/
def expertAddInfo (hasPinfo : Bool) (pi : Option Nat) (expindex : ExpertField)
    : DissectM Unit := do
  let eiinfo ← expertRegistrarGetNth expindex
  let hf ← readStatic eiinfo.hfPId
  expertSetInfoVformat hasPinfo pi eiinfo.group eiinfo.severity hf false eiinfo.summary

/-- expert_add_info_format; its format comes with its arguments filled in. -/
def expertAddInfoFormat (hasPinfo : Bool) (pi : Option Nat) (expindex : ExpertField)
    (text : String)
    : DissectM Unit := do
  let eiinfo ← expertRegistrarGetNth expindex
  let hf ← readStatic eiinfo.hfPId
  expertSetInfoVformat hasPinfo pi eiinfo.group eiinfo.severity hf true text

/-- The part that proto_tree_add_expert and proto_tree_add_expert_format share. -/
def addExpertItem (tree : Option Nat) (hasPinfo : Bool) (eiinfo : ExpertFieldInfo)
    (tvb : Tvbuff) (start length : Int) (useVaformat : Bool) (text : String)
    : DissectM (Option Nat) := do
  let capturedLength := tvbCapturedLengthRemaining tvb start
  let itemLength :=
    if capturedLength < 0 then 0
    else if capturedLength < length then capturedLength
    else length
  let ti ← protoTreeAddTextInternal tree tvb start itemLength text
  let hf ← readStatic eiinfo.hfPId
  expertSetInfoVformat hasPinfo ti eiinfo.group eiinfo.severity hf useVaformat text
  if length ≠ -1 then orThrow (tvbEnsureBytesExist tvb start length)
  pure ti

/-- proto_tree_add_expert. -/
def protoTreeAddExpert (tree : Option Nat) (hasPinfo : Bool) (expindex : ExpertField)
    (tvb : Tvbuff) (start length : Int)
    : DissectM (Option Nat) := do
  let eiinfo ← expertRegistrarGetNth expindex
  addExpertItem tree hasPinfo eiinfo tvb start length false eiinfo.summary

/-- proto_tree_add_expert_format; its format comes with its arguments filled in. -/
def protoTreeAddExpertFormat (tree : Option Nat) (hasPinfo : Bool) (expindex : ExpertField)
    (tvb : Tvbuff) (start length : Int) (text : String)
    : DissectM (Option Nat) := do
  let eiinfo ← expertRegistrarGetNth expindex
  addExpertItem tree hasPinfo eiinfo tvb start length true text

/-- report_type_length_mismatch. -/
def reportTypeLengthMismatch (tree : Option Nat) (descr : String) (length : Int)
    (isError : Bool)
    : DissectM Unit := do
  let expindex : ExpertField :=
    if isError then ⟨"ei_type_length_mismatch_error"⟩ else ⟨"ei_type_length_mismatch_warn"⟩
  expertAddInfoFormat false tree expindex s!"Trying to fetch {descr} with length {length}"
  if isError then throw (.thrown .reportedBoundsError)

end PacketDissector.Epan.Expert
