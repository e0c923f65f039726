import PacketDissector.Sharkd.Columns
import PacketDissector.Wsutil.JsonDumper
import PacketDissector.Wsutil.Strtoi

/-! The state that the requests of a sharkd session share, and the helpers of sharkd_session.c
that find attributes and write members.
-/

namespace PacketDissector.Sharkd

open PacketDissector.Library PacketDissector.Epan PacketDissector.Wsutil

/-- A frame_data. The color filter is known by its background and foreground colors. -/
structure FrameData where
  num : Nat
  pktLen : Nat
  absSecs : Int
  absNsecs : Int
  hasUserComment : Bool
  hasPhdrComment : Bool
  ignored : Bool
  marked : Bool
  needColorize : Bool
  colorFilter : Option (Nat × Nat)
  refTime : Bool
  frameRefNum : Nat
  prevDisNum : Nat
  deriving DecidableEq, Repr

/-- The capture_file cfile, with the frames of its provider; NULL frames are none. An open
file is known by its size.
-/
structure CaptureFile where
  count : Nat
  frames : Option (List FrameData)
  cinfo : List ColumnItem
  filename : Option String
  fileSize : Option Int
  elapsedSecs : Int
  elapsedNsecs : Int

/-- A struct sharkd_filter_item. -/
structure SharkdFilterItem where
  filtered : Option (List UInt8)
  deriving DecidableEq, Repr

/-- The statics of the session, with the frames that were handed to the frame dissector. -/
structure Session where
  dumper : JsonDumper
  filterTable : List (String × SharkdFilterItem)
  cfile : CaptureFile
  dissected : List FrameData

/-- Code of the session. -/
abbrev SessionM := EStateM Stop Session

/-- Code that writes to the dumper of the session. -/
def onDumper {α : Type} (x : DumperM α) : SessionM α :=
  focus Session.dumper (fun dumper s => { s with dumper }) x

/-- frame_data_sequence_find. -/
def frameDataSequenceFind (fds : Option (List FrameData)) (num : Nat) : Option FrameData :=
  match fds with
  | none => none
  | some frames => if num = 0 then none else frames[num - 1]?

/-- sharkd_get_frame. -/
def sharkdGetFrame (framenum : Nat) : SessionM (Option FrameData) := do
  pure (frameDataSequenceFind (← get).cfile.frames framenum)

/-- The attributes of a request: the strings of its name tokens and value tokens. -/
abbrev Attributes := List (String × String)

/-- json_find_attr. -/
def jsonFindAttr (attributes : Attributes) (attr : String) : Option String :=
  (attributes.find? fun pair => pair.1 = attr).map Prod.snd

/-- The member name that the helpers write unless their key is NULL. -/
def setKey (key : Option String) : DumperM Unit :=
  match key with
  | some name => jsonDumperSetMemberName name
  | none => pure ()

/-- sharkd_json_value_anyf, with the text of the formatted arguments unless format is NULL. -/
def sharkdJsonValueAnyf (key : Option String) (text : Option Text) : DumperM Unit := do
  setKey key
  match text with
  | some text => jsonDumperValueVaList text
  | none => pure ()

/-- sharkd_json_value_string. -/
def sharkdJsonValueString (key : Option String) (str : Option String) : DumperM Unit := do
  setKey key
  match str with
  | some str => jsonDumperValueString str
  | none => pure ()

/-- sharkd_json_value_base64. -/
def sharkdJsonValueBase64 (key : Option String) (data : List UInt8) : DumperM Unit := do
  setKey key
  jsonDumperBeginBase64
  jsonDumperWriteBase64 data
  jsonDumperEndBase64

/-- sharkd_json_value_stringf, with the text of the formatted arguments. -/
def sharkdJsonValueStringf (key : Option String) (text : Text) : DumperM Unit := do
  setKey key
  jsonDumperValueVaList ('"' :: text ++ ['"'])

/-- sharkd_json_array_open. -/
def sharkdJsonArrayOpen (key : Option String) : DumperM Unit := do
  setKey key
  jsonDumperBeginArray

/-- sharkd_json_array_close. -/
def sharkdJsonArrayClose : DumperM Unit := jsonDumperEndArray

/-- sharkd_filter, whose body is commented out: it answers 0 and leaves the result alone. -/
def sharkdFilter (_dftext : String) (result : Option (List UInt8))
    : Int × Option (List UInt8) :=
  (0, result)

/-- sharkd_session_filter_data. -/
def sharkdSessionFilterData (filter : String) : SessionM (Option SharkdFilterItem) := do
  match ((← get).filterTable.find? fun entry => entry.1 = filter).map Prod.snd with
  | some item => pure (some item)
  | none =>
      let (ret, filtered) := sharkdFilter filter none
      if ret = -1 then pure none
      else
        let item : SharkdFilterItem := { filtered }
        modify fun s => { s with filterTable := (filter, item) :: s.filterTable }
        pure (some item)

end PacketDissector.Sharkd
