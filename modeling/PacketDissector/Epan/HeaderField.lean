import PacketDissector.Epan.Exceptions

/-! The header fields that protocols register, and the checks that registration makes of one
field before it is entered anywhere.
-/

namespace PacketDissector.Epan.Proto

/-- The field types of ftypes.h. -/
inductive Ftenum where
  | ftNone | ftProtocol | ftBoolean | ftChar | ftUint8 | ftUint16 | ftUint24 | ftUint32
  | ftUint40 | ftUint48 | ftUint56 | ftUint64 | ftInt8 | ftInt16 | ftInt24 | ftInt32
  | ftInt40 | ftInt48 | ftInt56 | ftInt64 | ftIeee11073Sfloat | ftIeee11073Float
  | ftFloat | ftDouble | ftAbsoluteTime | ftRelativeTime | ftString | ftStringz
  | ftUintString | ftEther | ftBytes | ftUintBytes | ftIpv4 | ftIpv6 | ftIpxnet
  | ftFramenum | ftPcre | ftGuid | ftOid | ftEui64 | ftAx25 | ftVines | ftRelOid
  | ftSystemId | ftStringzpad | ftFcwwn
  deriving DecidableEq, Repr

/-- ftype_name. -/
def ftypeName : Ftenum → String
  | .ftNone => "FT_NONE"
  | .ftProtocol => "FT_PROTOCOL"
  | .ftBoolean => "FT_BOOLEAN"
  | .ftChar => "FT_CHAR"
  | .ftUint8 => "FT_UINT8"
  | .ftUint16 => "FT_UINT16"
  | .ftUint24 => "FT_UINT24"
  | .ftUint32 => "FT_UINT32"
  | .ftUint40 => "FT_UINT40"
  | .ftUint48 => "FT_UINT48"
  | .ftUint56 => "FT_UINT56"
  | .ftUint64 => "FT_UINT64"
  | .ftInt8 => "FT_INT8"
  | .ftInt16 => "FT_INT16"
  | .ftInt24 => "FT_INT24"
  | .ftInt32 => "FT_INT32"
  | .ftInt40 => "FT_INT40"
  | .ftInt48 => "FT_INT48"
  | .ftInt56 => "FT_INT56"
  | .ftInt64 => "FT_INT64"
  | .ftIeee11073Sfloat => "FT_IEEE_11073_SFLOAT"
  | .ftIeee11073Float => "FT_IEEE_11073_FLOAT"
  | .ftFloat => "FT_FLOAT"
  | .ftDouble => "FT_DOUBLE"
  | .ftAbsoluteTime => "FT_ABSOLUTE_TIME"
  | .ftRelativeTime => "FT_RELATIVE_TIME"
  | .ftString => "FT_STRING"
  | .ftStringz => "FT_STRINGZ"
  | .ftUintString => "FT_UINT_STRING"
  | .ftEther => "FT_ETHER"
  | .ftBytes => "FT_BYTES"
  | .ftUintBytes => "FT_UINT_BYTES"
  | .ftIpv4 => "FT_IPv4"
  | .ftIpv6 => "FT_IPv6"
  | .ftIpxnet => "FT_IPXNET"
  | .ftFramenum => "FT_FRAMENUM"
  | .ftPcre => "FT_PCRE"
  | .ftGuid => "FT_GUID"
  | .ftOid => "FT_OID"
  | .ftEui64 => "FT_EUI64"
  | .ftAx25 => "FT_AX25"
  | .ftVines => "FT_VINES"
  | .ftRelOid => "FT_REL_OID"
  | .ftSystemId => "FT_SYSTEM_ID"
  | .ftStringzpad => "FT_STRINGZPAD"
  | .ftFcwwn => "FT_FCWWN"

/-- IS_FT_INT. -/
def isFtInt : Ftenum → Bool
  | .ftInt8 | .ftInt16 | .ftInt24 | .ftInt32 => true
  | .ftInt40 | .ftInt48 | .ftInt56 | .ftInt64 => true
  | _ => false

/-- IS_FT_UINT. -/
def isFtUint : Ftenum → Bool
  | .ftChar | .ftUint8 | .ftUint16 | .ftUint24 | .ftUint32 | .ftFramenum => true
  | .ftUint40 | .ftUint48 | .ftUint56 | .ftUint64 => true
  | _ => false

def baseNone : Nat := 0
def baseDec : Nat := 1
def baseHex : Nat := 2
def baseOct : Nat := 3
def baseDecHex : Nat := 4
def baseHexDec : Nat := 5
def baseCustom : Nat := 6
def strAscii : Nat := 0
def strUnicode : Nat := 7
def sepDot : Nat := 8
def sepDash : Nat := 9
def sepColon : Nat := 10
def sepSpace : Nat := 11
def baseNetmask : Nat := 12
def basePtUdp : Nat := 13
def basePtTcp : Nat := 14
def basePtDccp : Nat := 15
def basePtSctp : Nat := 16
def baseOui : Nat := 17
def baseRangeString : Nat := 0x100
def baseVal64String : Nat := 0x400
def baseUnitString : Nat := 0x1000
def baseProtocolInfo : Nat := 0x4000
def baseSpecialVals : Nat := 0x8000
def absoluteTimeLocal : Nat := 1000
def absoluteTimeUtc : Nat := 1001
def absoluteTimeDoyUtc : Nat := 1002
def absoluteTimeNtpUtc : Nat := 1003

/-- FIELD_DISPLAY. -/
def fieldDisplay (display : Nat) : Nat := display &&& 0xFF

/-- IS_BASE_PORT. -/
def isBasePort (display : Nat) : Bool :=
  display = basePtUdp || display = basePtTcp || display = basePtDccp || display = basePtSctp

/-- The value string hf_display. -/
def hfDisplay : List (Nat × String) :=
  [(baseNone, "BASE_NONE"), (baseDec, "BASE_DEC"), (baseHex, "BASE_HEX"),
    (baseOct, "BASE_OCT"), (baseDecHex, "BASE_DEC_HEX"), (baseHexDec, "BASE_HEX_DEC"),
    (baseCustom, "BASE_CUSTOM"),
    (baseNone ||| baseRangeString, "BASE_NONE|BASE_RANGE_STRING"),
    (baseDec ||| baseRangeString, "BASE_DEC|BASE_RANGE_STRING"),
    (baseHex ||| baseRangeString, "BASE_HEX|BASE_RANGE_STRING"),
    (baseOct ||| baseRangeString, "BASE_OCT|BASE_RANGE_STRING"),
    (baseDecHex ||| baseRangeString, "BASE_DEC_HEX|BASE_RANGE_STRING"),
    (baseHexDec ||| baseRangeString, "BASE_HEX_DEC|BASE_RANGE_STRING"),
    (baseCustom ||| baseRangeString, "BASE_CUSTOM|BASE_RANGE_STRING"),
    (baseNone ||| baseVal64String, "BASE_NONE|BASE_VAL64_STRING"),
    (baseDec ||| baseVal64String, "BASE_DEC|BASE_VAL64_STRING"),
    (baseHex ||| baseVal64String, "BASE_HEX|BASE_VAL64_STRING"),
    (baseOct ||| baseVal64String, "BASE_OCT|BASE_VAL64_STRING"),
    (baseDecHex ||| baseVal64String, "BASE_DEC_HEX|BASE_VAL64_STRING"),
    (baseHexDec ||| baseVal64String, "BASE_HEX_DEC|BASE_VAL64_STRING"),
    (baseCustom ||| baseVal64String, "BASE_CUSTOM|BASE_VAL64_STRING"),
    (strUnicode, "STR_UNICODE"), (absoluteTimeLocal, "ABSOLUTE_TIME_LOCAL"),
    (absoluteTimeUtc, "ABSOLUTE_TIME_UTC"), (absoluteTimeDoyUtc, "ABSOLUTE_TIME_DOY_UTC"),
    (basePtUdp, "BASE_PT_UDP"), (basePtTcp, "BASE_PT_TCP"), (basePtDccp, "BASE_PT_DCCP"),
    (basePtSctp, "BASE_PT_SCTP"), (baseOui, "BASE_OUI")]

/-- val_to_str_wmem over hf_display; format gives the text of an unknown value. -/
def displayToStr (display : Nat) (format : Nat → String) : String :=
  match hfDisplay.lookup display with
  | some name => name
  | none => format display

/-- The format "(Unknown: 0x%x)". -/
def unknownDisplay (display : Nat) : String :=
  s!"(Unknown: 0x{String.ofList (Nat.toDigits 16 display)})"

/-- The format "(Bit count: %d)". -/
def bitCountDisplay (display : Nat) : String := s!"(Bit count: {display})"

/-- Whether a filter refers to a field. -/
inductive HfRefType where
  | none
  | indirect
  | direct
  deriving DecidableEq, Repr

/-- What the strings pointer of a header field points to. A protocol_t is known by its
address.
-/
inductive FieldStrings where
  | null
  | valueString (entries : List (Nat × String))
  | protocol (address : Nat)
  deriving DecidableEq, Repr

/-- A header_field_info, whose name and abbreviation are never NULL here. The field
same_name_next is the place of the next record in gpa_hfinfo.
-/
structure HeaderFieldInfo where
  name : String
  abbr : String
  type : Ftenum
  display : Nat
  strings : FieldStrings
  bitmask : Nat
  id : Int := -1
  parent : Int := 0
  refType : HfRefType := .none
  sameNamePrevId : Int := -1
  sameNameNext : Option Nat := Option.none
  deriving DecidableEq, Repr

variable {σ : Type}

/-- g_error when the condition holds. -/
def gErrorIf (condition : Prop) [Decidable condition] (message : String)
    : EStateM Stop σ Unit :=
  if condition then gError message else pure ()

/-- The first part of tmp_fld_check_assert: the names, and which types may have strings. -/
def checkNamesAndStrings (hfinfo : HeaderFieldInfo) : EStateM Stop σ Unit := do
  gErrorIf (hfinfo.name = "") s!"Field (abbrev='{hfinfo.abbr}') does not have a name\n"
  gErrorIf (hfinfo.abbr = "") s!"Field '{hfinfo.name}' does not have an abbreviation\n"
  let mayHaveStrings : Bool :=
    isFtInt hfinfo.type || isFtUint hfinfo.type || hfinfo.type = .ftBoolean
    || hfinfo.type = .ftProtocol
    || ((hfinfo.type = .ftFloat || hfinfo.type = .ftDouble)
      && hfinfo.display &&& baseUnitString ≠ 0)
    || ((hfinfo.type = .ftFloat || hfinfo.type = .ftDouble || hfinfo.type = .ftBytes)
      && hfinfo.display &&& baseProtocolInfo ≠ 0)
  gErrorIf (hfinfo.strings ≠ .null ∧ mayHaveStrings = false)
    (s!"Field '{hfinfo.name}' ({hfinfo.abbr}) has a 'strings' value but is of type "
      ++ s!"{ftypeName hfinfo.type} (which is not allowed to have strings)\n")

/-- The start of most messages of tmp_fld_check_assert. -/
def fieldText (hfinfo : HeaderFieldInfo) : String :=
  s!"Field '{hfinfo.name}' ({hfinfo.abbr})"

/-- The check that a type has no bitmask. -/
def checkNoBitmask (hfinfo : HeaderFieldInfo) : EStateM Stop σ Unit :=
  gErrorIf (hfinfo.bitmask ≠ 0)
    s!"{fieldText hfinfo} is an {ftypeName hfinfo.type} but has a bitmask\n"

/-- The check that a type has no strings value, unless its display has the given flag. -/
def checkNoStrings (hfinfo : HeaderFieldInfo) (flag : Nat) : EStateM Stop σ Unit :=
  gErrorIf (hfinfo.strings ≠ .null ∧ hfinfo.display &&& flag = 0)
    s!"{fieldText hfinfo} is an {ftypeName hfinfo.type} but has a strings value\n"

/-- The check of an integral field that is displayed with BASE_NONE. -/
def checkHasStrings (hfinfo : HeaderFieldInfo) : EStateM Stop σ Unit :=
  gErrorIf (hfinfo.strings = .null)
    (s!"{fieldText hfinfo} is an integral value ({ftypeName hfinfo.type})"
      ++ " but is being displayed as BASE_NONE but without a strings conversion")

/-- The case FT_CHAR. -/
def checkChar (hfinfo : HeaderFieldInfo) : EStateM Stop σ Unit := do
  let shown := fieldDisplay hfinfo.display
  if shown = baseHex ∨ shown = baseOct ∨ shown = baseCustom then pure ()
  else if shown = baseNone then checkHasStrings hfinfo
  else
    gError (s!"{fieldText hfinfo} is a character value ({ftypeName hfinfo.type})"
      ++ s!" but is being displayed as {displayToStr hfinfo.display unknownDisplay}\n")
  gErrorIf (hfinfo.display &&& baseUnitString ≠ 0)
    s!"{fieldText hfinfo} is a character value ({ftypeName hfinfo.type}) but has a unit string\n"

/-- A display that only one integral type may have, which then has neither strings nor a
bitmask.
-/
def checkDedicatedDisplay (hfinfo : HeaderFieldInfo) (type : Ftenum) : EStateM Stop σ Unit := do
  let shown := displayToStr hfinfo.display unknownDisplay
  gErrorIf (hfinfo.type ≠ type)
    (s!"{fieldText hfinfo} has 'display' value {shown} but it can only be used with "
      ++ s!"{ftypeName type}, not {ftypeName hfinfo.type}\n")
  gErrorIf (hfinfo.strings ≠ .null)
    s!"{fieldText hfinfo} is an {ftypeName hfinfo.type} ({shown}) but has a strings value\n"
  gErrorIf (hfinfo.bitmask ≠ 0)
    s!"{fieldText hfinfo} is an {ftypeName hfinfo.type} ({shown}) but has a bitmask\n"

/-- The cases of the signed and unsigned integral types. -/
def checkIntegral (hfinfo : HeaderFieldInfo) : EStateM Stop σ Unit := do
  let shown := fieldDisplay hfinfo.display
  gErrorIf (isFtInt hfinfo.type
      ∧ (shown = baseHex ∨ shown = baseOct ∨ shown = baseDecHex ∨ shown = baseHexDec))
    (s!"{fieldText hfinfo} is signed ({ftypeName hfinfo.type})"
      ++ s!" but is being displayed unsigned ({displayToStr hfinfo.display bitCountDisplay})\n")
  if isBasePort hfinfo.display then checkDedicatedDisplay hfinfo .ftUint16
  else if hfinfo.display = baseOui then checkDedicatedDisplay hfinfo .ftUint24
  else if shown = baseNone then do
    checkHasStrings hfinfo
    gErrorIf (hfinfo.display &&& baseSpecialVals ≠ 0)
      (s!"{fieldText hfinfo} is an integral value ({ftypeName hfinfo.type})"
        ++ " that is being displayed as BASE_NONE but with BASE_SPECIAL_VALS")
  else
    gErrorIf (shown > baseCustom)
      (s!"{fieldText hfinfo} is an integral value ({ftypeName hfinfo.type})"
        ++ s!" but is being displayed as {displayToStr hfinfo.display unknownDisplay}\n")

/-- The cases FT_BYTES and FT_UINT_BYTES. -/
def checkBytes (hfinfo : HeaderFieldInfo) : EStateM Stop σ Unit := do
  let shown := fieldDisplay hfinfo.display
  gErrorIf (shown ∉ [baseNone, sepDot, sepDash, sepColon, sepSpace])
    (s!"{fieldText hfinfo} is an byte array but is being displayed as "
      ++ s!"{displayToStr hfinfo.display bitCountDisplay}"
      ++ " instead of BASE_NONE, SEP_DOT, SEP_DASH, SEP_COLON, or SEP_SPACE\n")
  checkNoBitmask hfinfo
  checkNoStrings hfinfo baseProtocolInfo

/-- The message of a type that can only be displayed with BASE_NONE. -/
def notBaseNone (hfinfo : HeaderFieldInfo) : String :=
  s!"{fieldText hfinfo} is an {ftypeName hfinfo.type} but is being displayed as "
    ++ s!"{displayToStr hfinfo.display bitCountDisplay} instead of BASE_NONE\n"

/-- The case FT_ABSOLUTE_TIME. -/
def checkAbsoluteTime (hfinfo : HeaderFieldInfo) : EStateM Stop σ Unit := do
  gErrorIf
    (hfinfo.display
      ∉ [absoluteTimeLocal, absoluteTimeUtc, absoluteTimeNtpUtc, absoluteTimeDoyUtc])
    (s!"{fieldText hfinfo} is a {ftypeName hfinfo.type} but is being displayed as "
      ++ s!"{displayToStr hfinfo.display bitCountDisplay} instead of as a time\n")
  checkNoBitmask hfinfo

/-- The cases of the string types. -/
def checkString (hfinfo : HeaderFieldInfo) : EStateM Stop σ Unit := do
  gErrorIf (hfinfo.display ∉ [strAscii, strUnicode])
    (s!"{fieldText hfinfo} is an string value ({ftypeName hfinfo.type})"
      ++ s!" but is being displayed as {displayToStr hfinfo.display unknownDisplay}\n")
  checkNoBitmask hfinfo
  checkNoStrings hfinfo 0

/-- tmp_fld_check_assert. -/
def tmpFldCheckAssert (hfinfo : HeaderFieldInfo) : EStateM Stop σ Unit := do
  checkNamesAndStrings hfinfo
  match hfinfo.type with
  | .ftChar => checkChar hfinfo
  | .ftInt8 | .ftInt16 | .ftInt24 | .ftInt32 | .ftInt40 | .ftInt48 | .ftInt56 | .ftInt64
  | .ftUint8 | .ftUint16 | .ftUint24 | .ftUint32 | .ftUint40 | .ftUint48 | .ftUint56
  | .ftUint64 => checkIntegral hfinfo
  | .ftBytes | .ftUintBytes => checkBytes hfinfo
  | .ftProtocol | .ftFramenum => do
      gErrorIf (hfinfo.display ≠ baseNone) (notBaseNone hfinfo)
      checkNoBitmask hfinfo
  | .ftBoolean => pure ()
  | .ftAbsoluteTime => checkAbsoluteTime hfinfo
  | .ftString | .ftStringz | .ftUintString | .ftStringzpad => checkString hfinfo
  | .ftIpv4 =>
      gErrorIf (hfinfo.display ∉ [baseNone, baseNetmask])
        (s!"{fieldText hfinfo} is an IPv4 value ({ftypeName hfinfo.type})"
          ++ s!" but is being displayed as {displayToStr hfinfo.display unknownDisplay}\n")
  | .ftFloat | .ftDouble => do
      gErrorIf (fieldDisplay hfinfo.display ≠ baseNone) (notBaseNone hfinfo)
      checkNoBitmask hfinfo
      checkNoStrings hfinfo baseUnitString
  | _ => do
      gErrorIf (hfinfo.display ≠ baseNone) (notBaseNone hfinfo)
      checkNoBitmask hfinfo
      checkNoStrings hfinfo 0

/-- The characters marked in fld_abbrev_chars: letters, digits, '-', '_' and '.'. -/
def fldAbbrevChar (c : Char) : Bool :=
  c.isAlphanum || c = '-' || c = '_' || c = '.'

/-- The loop of proto_check_field_name over the characters left, where the end of the text
is the NUL of the C string. It answers the character it stopped at and the one before it.
-/
def scanFieldName : Char → List Char → Char × Char
  | lastc, [] => (lastc, Char.ofNat 0)
  | lastc, c :: rest =>
      if c = '.' ∧ lastc = '.' then (lastc, c)
      else if fldAbbrevChar c then scanFieldName c rest
      else (lastc, c)

/-- proto_check_field_name: NUL for a legal name, else the character that is wrong. -/
def protoCheckFieldName (fieldName : String) : Char :=
  let (lastc, c) := scanFieldName '.' fieldName.toList
  if lastc = '.' then '.' else c

/-- The test of check_valid_filter_name_or_fail: no wrong character and no upper case. -/
def validFilterName (filterName : String) : Bool :=
  protoCheckFieldName filterName = Char.ofNat 0 && !filterName.toList.any Char.isUpper

/-- check_valid_filter_name_or_fail. -/
def checkValidFilterNameOrFail (filterName : String) : EStateM Stop σ Unit :=
  gErrorIf (validFilterName filterName = false)
    (s!"Protocol filter name \"{filterName}\" has one or more invalid characters."
      ++ " Allowed are lower characters, digits, '-', '_' and non-repeating '.'."
      ++ " This might be caused by an inappropriate plugin or a development error.")

end PacketDissector.Epan.Proto
