import PacketDissector.Epan.Registry
import PacketDissector.Sharkd.Session

/-! The frames request: a slice of the frames of the capture, as rows with their columns. -/

namespace PacketDissector.Sharkd

open PacketDissector.Library PacketDissector.Epan PacketDissector.Wsutil

/-- NUM_COL_FMTS. -/
def numColFmts : Nat := 50

/-- COL_CUSTOM. -/
def colCustom : Nat := 6

/-- The part of a string before a colon and the part after it, when there is one. -/
def splitColon (str : String) : Option (String × String) :=
  if ':' ∈ str.toList then
    some (String.ofList (str.toList.takeWhile (· ≠ ':')),
      String.ofList ((str.toList.dropWhile (· ≠ ':')).drop 1))
  else none

/-- The body of the first loop of sharkd_session_create_columns for one attribute. -/
def parseColumn (tokColumn : String) : Option ColumnItem :=
  match splitColon tokColumn with
  | some (custom, occurrence) =>
      (wsStrtoi16 occurrence).map fun occur => .fresh colCustom custom occur
  | none =>
      match wsStrtou16 tokColumn with
      | none => none
      | some fmt => if fmt ≥ numColFmts ∨ fmt = colCustom then none else some (.fresh fmt none 0)

/-- The first loop of sharkd_session_create_columns, with the columns left. -/
def parseColumns (attributes : Attributes) : Nat → Nat → Option (List ColumnItem)
  | 0, _ => some []
  | left + 1, i =>
      match jsonFindAttr attributes s!"column{i}" with
      | none => some []
      | some tokColumn =>
          match parseColumn tokColumn with
          | none => none
          | some column =>
              (parseColumns attributes left (i + 1)).map fun columns => column :: columns

/-- sharkd_session_create_columns. -/
def sharkdSessionCreateColumns (attributes : Attributes) : Option (List ColumnItem) :=
  parseColumns attributes 32 0

/-- The cinfo of the request: the one of the capture file or user_cinfo. -/
inductive RequestColumns where
  | capture
  | user (columns : List ColumnItem)
  deriving DecidableEq, Repr

/-- The columns that cinfo points to. -/
def RequestColumns.columns (cinfo : RequestColumns) (s : Session) : List ColumnItem :=
  match cinfo with
  | .capture => s.cfile.cinfo
  | .user columns => columns

/-- The columns that cinfo points to are changed. -/
def RequestColumns.store (cinfo : RequestColumns) (columns : List ColumnItem)
    : SessionM RequestColumns :=
  match cinfo with
  | .capture => do
      modify fun s => { s with cfile := { s.cfile with cinfo := columns } }
      pure .capture
  | .user _ => pure (.user columns)

/-- col_cleanup of user_cinfo frees what col_finalize never set. -/
def colCleanup (columns : RequestColumns) : SessionM Unit :=
  match columns with
  | .capture => pure ()
  | .user [] => pure ()
  | .user (_ :: _) => throw (.terminated (.uninitialisedUse "fmt_matx"))

/-- A dissector for whole frames, with what epan_dissect_fill_in_columns adds: what becomes of
the frame and of the text of each column. It leaves the number of the frame alone.
-/
structure FrameDissector where
  dissect : FrameData → List ColumnItem → Except Stop (FrameData × (Nat → String))
  num
    : ∀ fdata columns result, dissect fdata columns = .ok result → result.1.num = fdata.num

/-- What a session has from libepan and libwiretap: the flag of the environment, the static
frame_handle, and the types of the records that wtap_seek_read reads. Nothing in this port
sets frame_handle, since the call of packet_cache_proto_handles is commented out.
-/
structure Dissectors where
  wiresharkAbortOnDissectorBug : Bool
  frameHandle : Option FrameDissector
  wtapSeekRead : FrameData → Option Nat

/-- The frames with one of them changed. -/
def updateFrame (framenum : Nat) (fdata : FrameData) : SessionM Unit :=
  modify fun s =>
    { s with
      cfile :=
        { s.cfile with
          frames := s.cfile.frames.map fun frames => frames.set (framenum - 1) fdata } }

/-- The fields of a frame that sharkd_dissect_columns sets before the dissection. -/
def FrameData.prepared (fdata : FrameData) (frameRefNum prevDisNum : Nat) : FrameData :=
  { fdata with
    needColorize := fdata.needColorize || fdata.colorFilter = none
    refTime := fdata.num = frameRefNum
    frameRefNum
    prevDisNum }

/-- call_dissector_with_data on frame_handle. -/
def callFrameDissector (dissectors : Dissectors) (fdata : FrameData)
    (columns : List ColumnItem)
    : SessionM (FrameData × (Nat → String)) :=
  match dissectors.frameHandle with
  | none =>
      throw (Proto.dissectorBug dissectors.wiresharkAbortOnDissectorBug
        "packet.c: failed assertion \"handle != NULL\"")
  | some handle => do
      modify fun s => { s with dissected := s.dissected ++ [fdata] }
      match handle.dissect fdata columns with
      | .ok result => pure result
      | .error stop => throw stop

/-- The CATCH clauses of dissect_record: do_throw never sets except_obj, whose code they
compare.
-/
def catchInDissectRecord (stop : Stop) : Stop :=
  match stop with
  | .thrown _ => .terminated (.uninitialisedUse "except_obj")
  | .terminated how => .terminated how

/-- dissect_record on a record of a type, with the columns it leaves. -/
def dissectRecord (dissectors : Dissectors) (recType : Nat) (fdata : FrameData)
    (columns : List ColumnItem)
    : SessionM (FrameData × List ColumnItem) := do
  if recType > 3 then throw (.terminated (.abort "packet.c: code should not be reached"))
  match colInit columns with
  | none => throw (.terminated (.uninitialisedUse "col_buf"))
  | some columns =>
      let (fdata, texts) ← tryCatch (callFrameDissector dissectors fdata columns) fun stop =>
        throw (catchInDissectRecord stop)
      pure (fdata, columns.mapIdx fun i item =>
        { item with colData := .buffer, colBuf := texts i })

/-- sharkd_dissect_columns, with the columns it leaves and the frame. -/
def sharkdDissectColumns (dissectors : Dissectors) (framenum : Nat) (fdata : FrameData)
    (frameRefNum prevDisNum : Nat) (cinfo : RequestColumns)
    : SessionM (RequestColumns × FrameData) := do
  let columns := cinfo.columns (← get)
  match dissectors.wtapSeekRead fdata with
  | none =>
      let cinfo ← cinfo.store (colFillInError columns)
      pure (cinfo, fdata)
  | some recType =>
      let (fdata, columns) ←
        dissectRecord dissectors recType (fdata.prepared frameRefNum prevDisNum) columns
      updateFrame framenum fdata
      let cinfo ← cinfo.store columns
      pure (cinfo, fdata)

/-- The col_data of the columns. -/
def columnTexts (cinfo : RequestColumns) : SessionM (List String) := do
  match (cinfo.columns (← get)).mapM ColumnItem.string with
  | some texts => pure texts
  | none => throw (.terminated (.uninitialisedUse "col_data"))

/-- sharkd_get_user_comment, whose body is commented out. -/
def sharkdGetUserComment (_fd : FrameData) : Option String := some ""

/-- The elements of the array c of a row. -/
def writeColumnTexts : List String → DumperM Unit
  | [] => pure ()
  | text :: rest => do
      sharkdJsonValueString none text
      writeColumnTexts rest

/-- A member that says true. -/
def writeFlag (key : String) (flag : Bool) : DumperM Unit :=
  if flag then sharkdJsonValueAnyf key (some "true".toList) else pure ()

/-- The members bg and fg. -/
def writeColors (colorFilter : Option (Nat × Nat)) : DumperM Unit :=
  match colorFilter with
  | none => pure ()
  | some (bg, fg) => do
      sharkdJsonValueStringf "bg" (Nat.toDigits 16 bg)
      sharkdJsonValueStringf "fg" (Nat.toDigits 16 fg)

/-- The condition for the member ct. -/
def FrameData.commented (fdata : FrameData) : Bool :=
  (fdata.hasUserComment || fdata.hasPhdrComment)
    && (!fdata.hasUserComment || (sharkdGetUserComment fdata).isSome)

/-- The object of a row. -/
def writeRow (texts : List String) (framenum : Nat) (fdata : FrameData) : DumperM Unit := do
  jsonDumperBeginObject
  sharkdJsonArrayOpen "c"
  writeColumnTexts texts
  sharkdJsonArrayClose
  sharkdJsonValueAnyf "num" (some (decimal framenum))
  writeFlag "ct" fdata.commented
  writeFlag "i" fdata.ignored
  writeFlag "m" fdata.marked
  writeColors fdata.colorFilter
  jsonDumperEndObject

/-- G_MAXUINT32. -/
def gMaxUint32 : Nat := 2 ^ 32 - 1

/-- The cursor into the list refs: what is left of it, and the two reference frames. -/
structure RefsCursor where
  tokRefs : List Char
  currentRefFrame : Nat
  nextRefFrame : Nat
  deriving DecidableEq, Repr

/-- The loop that reads on in refs while the next reference frame is reached. -/
def RefsCursor.catchUp (framenum : Nat) (tokRefs : List Char) (current next : Nat)
    : RefsCursor :=
  match tokRefs with
  | ',' :: rest =>
      if framenum ≥ next then
        let converted := wsStrtou32Endptr rest
        if converted.ok then catchUp framenum converted.endptr next converted.cint
        else ⟨converted.endptr, next, converted.cint⟩
      else ⟨',' :: rest, current, next⟩
  | other => ⟨other, current, next⟩
termination_by tokRefs.length
decreasing_by exact Nat.lt_succ_of_le (wsStrtou32Endptr_length rest)

/-- The end of the update, for a last reference frame that is reached too. -/
def RefsCursor.settle (reached : RefsCursor) (framenum : Nat) : RefsCursor :=
  if reached.tokRefs = [] ∧ framenum ≥ reached.nextRefFrame then
    { reached with currentRefFrame := reached.nextRefFrame, nextRefFrame := gMaxUint32 }
  else reached

/-- The update of the reference frames for a frame that is shown. -/
def RefsCursor.advance (cursor : RefsCursor) (framenum : Nat) : RefsCursor :=
  if framenum ≥ cursor.nextRefFrame then
    let next := if cursor.tokRefs.head? ≠ some ',' then gMaxUint32 else cursor.nextRefFrame
    (catchUp framenum cursor.tokRefs cursor.nextRefFrame next).settle framenum
  else cursor

/-- The variables of the loop over the frames; without refs there is no cursor. -/
structure FramesCursor where
  skip : Nat
  limit : Nat
  prevDisNum : Nat
  refs : Option RefsCursor
  deriving DecidableEq, Repr

/-- The reference frames for a frame that is shown. -/
def FramesCursor.advance (cursor : FramesCursor) (framenum : Nat) : FramesCursor :=
  { cursor with refs := cursor.refs.map fun (refs : RefsCursor) => refs.advance framenum }

/-- ref_frame for a frame that is shown. -/
def FramesCursor.refFrame (cursor : FramesCursor) (framenum : Nat) : Nat :=
  let current := (cursor.refs.map RefsCursor.currentRefFrame).getD 0
  if current ≠ 0 then current else if framenum ≠ 1 then 1 else 0

/-- The bit of a frame in filter_data, where NULL lets every frame pass. -/
def filterPasses (filterData : Option (List UInt8)) (framenum : Nat) : Bool :=
  match filterData with
  | none => true
  | some bits => ((bits[framenum / 8]?).getD 0).toNat.testBit (framenum % 8)

/-- A frame that is shown: its dissection and its row. -/
def showFrame (dissectors : Dissectors) (framenum refFrame prevDisNum : Nat)
    (cinfo : RequestColumns)
    : SessionM RequestColumns := do
  match ← sharkdGetFrame framenum with
  | none => throw (.terminated (.nullDereference "fdata"))
  | some fdata =>
      let (cinfo, fdata) ←
        sharkdDissectColumns dissectors framenum fdata refFrame prevDisNum cinfo
      let texts ← columnTexts cinfo
      onDumper (writeRow texts framenum fdata)
      pure cinfo

/-- The loop over the frames from framenum on, with the frames left up to cfile.count. After
frame 2^32 - 1 framenum wraps to 0, where there is no frame.
-/
def framesLoop (dissectors : Dissectors) (filterData : Option (List UInt8))
    : Nat → Nat → FramesCursor → RequestColumns → SessionM RequestColumns
  | 0, framenum, _, cinfo =>
      if framenum > gMaxUint32 then throw (.terminated (.nullDereference "fdata"))
      else pure cinfo
  | left + 1, framenum, cursor, cinfo =>
      if !filterPasses filterData framenum then
        framesLoop dissectors filterData left (framenum + 1) cursor cinfo
      else if cursor.skip > 0 then
        framesLoop dissectors filterData left (framenum + 1)
          { cursor with skip := cursor.skip - 1, prevDisNum := framenum } cinfo
      else do
        let cursor := cursor.advance framenum
        let cinfo ←
          showFrame dissectors framenum (cursor.refFrame framenum) cursor.prevDisNum cinfo
        if cursor.limit = 1 then pure cinfo
        else
          framesLoop dissectors filterData left (framenum + 1)
            { cursor with prevDisNum := framenum, limit := cursor.limit - 1 } cinfo

/-- A number in an attribute, with its default. None stands for a text that is no number. -/
def numberAttr (attributes : Attributes) (attr : String) (default : Nat) : Option Nat :=
  match jsonFindAttr attributes attr with
  | none => some default
  | some text => wsStrtou32 text

/-- The cursor at the start of the attribute refs. None stands for a text that does not start
with a number.
-/
def refsAttr (attributes : Attributes) : Option (Option RefsCursor) :=
  match jsonFindAttr attributes "refs" with
  | none => some none
  | some text =>
      let converted := wsStrtou32Endptr text.toList
      if converted.ok then some (some ⟨converted.endptr, 0, converted.cint⟩) else none

/-- The columns of the request. None stands for columns that are not well formed. -/
def columnsAttr (attributes : Attributes) : Option RequestColumns :=
  match jsonFindAttr attributes "column0" with
  | none => some .capture
  | some _ => (sharkdSessionCreateColumns attributes).map .user

/-- The filter of the request. None stands for a filter that is refused. -/
def filterAttr (attributes : Attributes) : SessionM (Option (Option (List UInt8))) :=
  match jsonFindAttr attributes "filter" with
  | none => pure (some none)
  | some text => do
      let item ← sharkdSessionFilterData text
      pure (item.map SharkdFilterItem.filtered)

/-- The array that answers the request. -/
def writeFrames (dissectors : Dissectors) (filterData : Option (List UInt8))
    (cursor : FramesCursor) (cinfo : RequestColumns)
    : SessionM Unit := do
  onDumper (sharkdJsonArrayOpen none)
  let cinfo ← framesLoop dissectors filterData (← get).cfile.count 1 cursor cinfo
  onDumper sharkdJsonArrayClose
  let _ ← onDumper jsonDumperFinish
  colCleanup cinfo

/-- sharkd_session_process_frames. -/
def sharkdSessionProcessFrames (dissectors : Dissectors) (attributes : Attributes)
    : SessionM Unit :=
  match columnsAttr attributes with
  | none => pure ()
  | some cinfo => do
      match ← filterAttr attributes with
      | none => pure ()
      | some filterData =>
          match numberAttr attributes "skip" 0, numberAttr attributes "limit" 0,
              refsAttr attributes with
          | some skip, some limit, some refs =>
              writeFrames dissectors filterData ⟨skip, limit, 0, refs⟩ cinfo
          | _, _, _ => pure ()

end PacketDissector.Sharkd
