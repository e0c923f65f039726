import PacketDissector.Epan.ProtocolNames
import PacketDissector.Library.Heap
import PacketDissector.Epan.Registry
import PacketDissector.Epan.Tap
import PacketDissector.Sharkd.Session

/-! The requests that listen to taps: tap, follow, iograph and download. The body of
sharkd_retap is commented out, so that no listener is ever called.
-/

namespace PacketDissector.Sharkd

open PacketDissector.Library PacketDissector.Epan PacketDissector.Epan.Tap PacketDissector.Wsutil

-----------------------------------------------------------------------------------------
-- Tables
-----------------------------------------------------------------------------------------

/-- A wmem_tree with string keys; NULL is an empty one to its lookups. -/
abbrev StringTree (α : Type) := List (String × α)

/-- wmem_tree_lookup_string. -/
def wmemTreeLookupString {α : Type} (tree : StringTree α) (key : String) : Option α :=
  (tree.find? fun entry => entry.1 = key).map Prod.snd

/-- A register_analysis. -/
structure RegisterAnalysis where
  tapListenStr : String
  tapFlags : UInt32
  analysisFunc : Callback

/-- A register_ct. -/
structure RegisterCt where
  protoId : Int
  convFunc : Option Callback
  hostFunc : Option Callback

/-- A stat_tap_table_ui. -/
structure StatTapTableUi where
  tapName : String
  packetFunc : Callback

/-- A register_rtd. The check of a filter answers the filter and an error. -/
structure RegisterRtd where
  tapListenStr : String
  rtdFunc : Callback
  numTables : Nat
  numTimestats : Nat
  filterCheck : Option (String → Option String × Option String)

/-- A call of init_srt_table, with the names that init_srt_table_row gives to its rows. -/
structure SrtTableInit where
  filterString : Option String
  procedures : List (Option String)

/-- A register_srt, with the tables that its srt_init makes. -/
structure RegisterSrt where
  tapListenStr : String
  srtFunc : Callback
  srtInit : List SrtTableInit

/-- A register_eo. -/
structure RegisterEo where
  protoId : Int
  tapListenStr : String
  eoFunc : Callback

/-- A register_follow. -/
structure RegisterFollow where
  tapListenStr : String
  tapHandler : Callback
  portToDisplay : Nat → String

/-- The trees of registered tables. -/
structure Tables where
  registeredSeqAnalysis : StringTree RegisterAnalysis
  registeredCtTables : StringTree RegisterCt
  registeredStatTables : StringTree StatTapTableUi
  registeredRtdTables : StringTree RegisterRtd
  registeredSrtTables : StringTree RegisterSrt
  registeredEoTables : StringTree RegisterEo
  registeredFollowers : StringTree RegisterFollow

/-- rtd_table_get_filter with an empty argument, which is shorter than any tap string. -/
def rtdTableGetFilter (rtd : RegisterRtd) : Option String × Option String :=
  match rtd.filterCheck with
  | some filterCheck => filterCheck ""
  | none => (none, none)

-----------------------------------------------------------------------------------------
-- State
-----------------------------------------------------------------------------------------

/-- An export_object_entry_t. -/
structure ExportObjectEntry where
  contentType : Option String
  filename : Option String
  payloadData : List UInt8
  deriving DecidableEq, Repr

/-- A struct sharkd_export_object_list. -/
structure ExportObjectList where
  type : String
  proto : String
  entries : List ExportObjectEntry
  deriving DecidableEq, Repr

/-- What the requests allocate, by its type. -/
inductive TapData where
  | expertTap
  | gStringChunk
  | seqAnalysisInfo
  | gQueue
  | gHashTable
  | convTapData
  | statData
  | rtdData
  | rtdTimestat
  | timestat
  | srtData
  | gArray
  | srtStatTable
  | srtProcedure
  | exportObjectList
  | sharkdExportObjectList
  | analyseRtp
  | ipv4Address
  | followInfo
  deriving DecidableEq, Repr

/-- The allocator, the layout of structures, the places of the variables on the stack, and the
resolver of host names.
-/
structure TapHost where
  malloc : Heap → Nat → Ptr
  sizeOf : TapData → Nat
  hashOffset : Nat
  rtpTapinfo : Ptr
  rtpReq : Ptr
  graphs : Nat → Ptr
  getHostIpaddr : List Char → Bool

/-- The statics that these requests work on, and the heap. -/
structure TapsState (Program : Type) where
  session : Session
  registry : Proto.Registry
  tap : TapState Program
  heap : Heap
  sharkdEoList : List ExportObjectList

variable {Program : Type}

/-- Code of a request that listens to taps. -/
abbrev TapsM (Program : Type) := EStateM Stop (TapsState Program)

/-- Code that writes the answer. -/
def onTapsDumper {α : Type} (x : DumperM α) : TapsM Program α :=
  focus TapsState.session (fun session s => { s with session }) (onDumper x)

/-- Code of proto.c. -/
def inTapsRegistry {α : Type} (x : Proto.Registrar α) : TapsM Program α :=
  focus TapsState.registry (fun registry s => { s with registry }) x

/-- g_malloc, which answers NULL for no bytes. -/
def gMalloc (host : TapHost) (nBytes : Nat) : TapsM Program Ptr := do
  if nBytes = 0 then pure 0
  else
    let base := host.malloc (← get).heap nBytes
    modify fun s => { s with heap := s.heap.allocate ⟨base, nBytes⟩ }
    pure base

/-- g_new of a structure. The objects of GLib are blocks of their own. -/
def gNew (host : TapHost) (type : TapData) : TapsM Program Ptr :=
  gMalloc host (host.sizeOf type)

/-- g_strdup. -/
def gStrdup (host : TapHost) (str : Option String) : TapsM Program Ptr :=
  match str with
  | some str => gMalloc host (str.utf8ByteSize + 1)
  | none => pure 0

/-- The message of free for an address that it did not give out, or gave out before. -/
def invalidFree : Stop := .terminated (.abort "free(): invalid pointer")

/-- g_free. -/
def gFree (mem : Ptr) : TapsM Program Unit := do
  if mem = 0 then pure ()
  else
    match (← get).heap.release mem with
    | some heap => modify fun s => { s with heap }
    | none => throw invalidFree

/-- Calls of g_free one after the other. -/
def gFreeEach : List Ptr → TapsM Program Unit
  | [] => pure ()
  | mem :: rest => do
      gFree mem
      gFreeEach rest

/-- register_tap_listener without a finish callback. -/
def addTapListener (tapname : String) (tapdata : Ptr) (fstring : Option String)
    (flags : UInt32) (reset packet draw : Option Callback)
    : TapsM Program (Option String) := do
  let (error, tap) :=
    registerTapListener tapname tapdata fstring flags reset packet draw none (← get).tap
  modify fun s => { s with tap }
  pure error

/-- remove_tap_listener; the listeners of these requests have no finish callback. -/
def dropTapListener (tapdata : Ptr) : TapsM Program Unit :=
  modify fun s => { s with tap := (removeTapListener tapdata s.tap).2 }

-----------------------------------------------------------------------------------------
-- RTP streams
-----------------------------------------------------------------------------------------

/-- g_strsplit for a string that is not empty, into at most a number of pieces. -/
def gStrsplit (delimiter : Char) : Nat → List Char → List (List Char)
  | 0, _ => []
  | 1, text => [text]
  | more + 2, text =>
      if delimiter ∈ text then
        text.takeWhile (· ≠ delimiter)
          :: gStrsplit delimiter (more + 1) ((text.dropWhile (· ≠ delimiter)).drop 1)
      else [text]

/-- The checks of sharkd_rtp_match_init. -/
def rtpMatches (host : TapHost) (initStr : List Char) : Bool :=
  match gStrsplit '_' 7 initStr with
  | [src, srcPort, dst, dstPort, ssrc] =>
      host.getHostIpaddr src && (wsStrtou16 (String.ofList srcPort)).isSome
        && host.getHostIpaddr dst && (wsStrtou16 (String.ofList dstPort)).isSome
        && (wsHexstrtou32 (String.ofList ssrc)).isSome
  | _ => false

/-- sharkd_rtp_match_init. The two addresses that it copies on success are never released. -/
def sharkdRtpMatchInit (host : TapHost) (initStr : List Char) : TapsM Program Bool := do
  if rtpMatches host initStr then
    let _srcAddr ← gNew host .ipv4Address
    let _dstAddr ← gNew host .ipv4Address
    pure true
  else pure false

-----------------------------------------------------------------------------------------
-- What hangs off the data of a tap
-----------------------------------------------------------------------------------------

/-- The loop of rtd_table_dissector_init over the tables that are left. -/
def rtdTimestats (host : TapHost) (rtd : RegisterRtd) : Nat → TapsM Program (List Ptr)
  | 0 => pure []
  | left + 1 => do
      let stats ← gMalloc host (host.sizeOf .timestat * rtd.numTimestats)
      let rest ← rtdTimestats host rtd left
      pure (stats :: rest)

/-- rtd_table_dissector_init: time_stats, and the rtd of each of its elements. -/
def rtdTableDissectorInit (host : TapHost) (rtd : RegisterRtd)
    : TapsM Program (Ptr × List Ptr) := do
  let timeStats ← gMalloc host (host.sizeOf .rtdTimestat * rtd.numTables)
  let rtds ← rtdTimestats host rtd rtd.numTables
  pure (timeStats, rtds)

/-- free_rtd_table. -/
def freeRtdTable (timeStats : Ptr) (rtds : List Ptr) : TapsM Program Unit := do
  gFreeEach rtds
  gFree timeStats

/-- A srt_stat_table, with the names of its procedures. -/
structure SrtStatTable where
  table : Ptr
  filterString : Ptr
  procedures : Ptr
  names : List Ptr
  deriving DecidableEq, Repr

/-- The names of procedures one after the other. -/
def gStrdupEach (host : TapHost) : List (Option String) → TapsM Program (List Ptr)
  | [] => pure []
  | name :: rest => do
      let name ← gStrdup host name
      let rest ← gStrdupEach host rest
      pure (name :: rest)

/-- init_srt_table, and init_srt_table_row for its rows. -/
def initSrtTable (host : TapHost) (init : SrtTableInit) : TapsM Program SrtStatTable := do
  let table ← gNew host .srtStatTable
  let filterString ← gStrdup host init.filterString
  let procedures ← gMalloc host (host.sizeOf .srtProcedure * init.procedures.length)
  let names ← gStrdupEach host init.procedures
  pure { table, filterString, procedures, names }

/-- srt_table_dissector_init. -/
def srtTableDissectorInit (host : TapHost) : List SrtTableInit → TapsM Program (List SrtStatTable)
  | [] => pure []
  | init :: rest => do
      let table ← initSrtTable host init
      let rest ← srtTableDissectorInit host rest
      pure (table :: rest)

/-- A round of the loop of free_srt_table, with free_srt_table_data. -/
def freeSrtStatTable (table : SrtStatTable) : TapsM Program Unit := do
  gFreeEach table.names
  gFree table.filterString
  gFree table.procedures
  gFree table.table

/-- free_srt_table. The param_data is NULL, since only a param_cb sets it. -/
def freeSrtTable : List SrtStatTable → TapsM Program Unit
  | [] => pure ()
  | table :: rest => do
      freeSrtStatTable table
      freeSrtTable rest

-----------------------------------------------------------------------------------------
-- The tap request
-----------------------------------------------------------------------------------------

/-- The functions that taps_free points to, with the pointers that they find in the data; no
packet has changed the data since it was made. The function for conversations finds its data
through the user_data of the hash.
-/
inductive TapFree where
  | expert (text : Ptr)
  | flow (items ht : Ptr)
  | conv (userData : Ptr)
  | nstat
  | rtd (timeStats : Ptr) (rtds : List Ptr)
  | srt (srtArray : Ptr) (tables : List SrtStatTable)
  | exportObject
  | rtpStreams
  | rtpAnalyse
  deriving DecidableEq, Repr

/-- The call of a tap_free. The lists that packets would fill are empty. The function for
nstat releases only the tables of the registered stat_tap_table_ui, which are not followed, and
rtpstream_reset_cb has no stream to release.
-/
def TapFree.call (tapFree : TapFree) (tapData : Ptr) : TapsM Program Unit :=
  match tapFree with
  | .expert text => do
      gFree text
      gFree tapData
  | .flow items ht => do
      gFree items
      gFree ht
      gFree tapData
  | .conv userData => gFree userData
  | .rtd timeStats rtds => do
      freeRtdTable timeStats rtds
      gFree tapData
  | .srt srtArray tables => do
      freeSrtTable tables
      gFree srtArray
      gFree tapData
  | .exportObject | .rtpAnalyse => gFree tapData
  | .nstat | .rtpStreams => pure ()

/-- tap_error, tap_data and tap_free at the end of a round of the loop. -/
structure TapEntry where
  tapError : Option String
  tapData : Ptr
  tapFree : Option TapFree

/-- The rest of a token after a prefix. -/
def afterPrefix (before token : String) : Option String :=
  if before.toList <+: token.toList then
    some (String.ofList (token.toList.drop before.toList.length))
  else none

/-- The branch for expert. -/
def tapExpert (host : TapHost) : TapsM Program TapEntry := do
  let expertTap ← gNew host .expertTap
  let text ← gNew host .gStringChunk
  let tapError ← addTapListener "expert" expertTap none 0 none
    (some "sharkd_session_packet_tap_expert_cb") (some "sharkd_session_process_tap_expert_cb")
  pure ⟨tapError, expertTap, some (.expert text)⟩

/-- The branch for seqa:, for an analysis that was found, with sequence_analysis_info_new. -/
def tapSeqa (host : TapHost) (analysis : RegisterAnalysis) : TapsM Program TapEntry := do
  let graphAnalysis ← gNew host .seqAnalysisInfo
  let items ← gNew host .gQueue
  let ht ← gNew host .gHashTable
  let tapError ← addTapListener analysis.tapListenStr graphAnalysis none analysis.tapFlags none
    (some analysis.analysisFunc) (some "sharkd_session_process_tap_flow_cb")
  pure ⟨tapError, graphAnalysis, some (.flow items ht)⟩

/-- get_conversation_by_proto_id of the protocol with a short name. -/
def conversationByShortName (tables : Tables) (shortName : String)
    : TapsM Program (Option RegisterCt) := do
  let protoId ← inTapsRegistry (Proto.protoGetIdByShortName shortName)
  let key ← inTapsRegistry (Proto.protoGetProtocolShortName protoId)
  pure (wmemTreeLookupString tables.registeredCtTables key)

/-- The branch for conv: and endpt:, for a table with its function. -/
def tapConv (host : TapHost) (ct : RegisterCt) (tapFunc : Callback) : TapsM Program TapEntry := do
  let ctTapname ← inTapsRegistry (Proto.protoGetProtocolFilterName ct.protoId)
  let ctData ← gNew host .convTapData
  let hash := ctData + host.hashOffset
  let tapError ← addTapListener ctTapname hash "" 0 none (some tapFunc)
    (some "sharkd_session_process_tap_conv_cb")
  pure ⟨tapError, hash, some (.conv ctData)⟩

/-- The lookup of a table and its function, and then the branch for conv: or endpt:. -/
def tapConvNamed (host : TapHost) (tables : Tables) (func : RegisterCt → Option Callback)
    (shortName : String)
    : TapsM Program (Option TapEntry) := do
  let ct ← conversationByShortName tables shortName
  match ct, ct.bind func with
  | some ct, some tapFunc => some <$> tapConv host ct tapFunc
  | _, _ => pure none

/-- The branch for nstat:, for a table that was found. -/
def tapNstat (host : TapHost) (statTap : StatTapTableUi) : TapsM Program TapEntry := do
  let statData ← gNew host .statData
  let tapError ← addTapListener statTap.tapName statData "" 0 none (some statTap.packetFunc)
    (some "sharkd_session_process_tap_nstat_cb")
  pure ⟨tapError, statData, some .nstat⟩

/-- The branch for rtd:, for a table that was found. -/
def tapRtd (host : TapHost) (rtd : RegisterRtd) : TapsM Program (Option TapEntry) := do
  match rtdTableGetFilter rtd with
  | (_, some _) => pure none
  | (tapFilter, none) =>
      let rtdData ← gNew host .rtdData
      let (timeStats, rtds) ← rtdTableDissectorInit host rtd
      let tapError ← addTapListener rtd.tapListenStr rtdData tapFilter 0 none (some rtd.rtdFunc)
        (some "sharkd_session_process_tap_rtd_cb")
      pure (some ⟨tapError, rtdData, some (.rtd timeStats rtds)⟩)

/-- The branch for srt:, for a table that was found. With an empty argument the filter of
srt_table_get_filter is NULL and there is no error.
-/
def tapSrt (host : TapHost) (srt : RegisterSrt) : TapsM Program TapEntry := do
  let srtData ← gNew host .srtData
  let srtArray ← gNew host .gArray
  let tables ← srtTableDissectorInit host srt.srtInit
  let tapError ← addTapListener srt.tapListenStr srtData none 0 none (some srt.srtFunc)
    (some "sharkd_session_process_tap_srt_cb")
  pure ⟨tapError, srtData, some (.srt srtArray tables)⟩

/-- The search for the list of a tap token, which is emptied. -/
def clearEoList (tokTap : String) : List ExportObjectList → Option (List ExportObjectList)
  | [] => none
  | objectList :: rest =>
      if objectList.type = tokTap then some ({ objectList with entries := [] } :: rest)
      else (clearEoList tokTap rest).map (objectList :: ·)

/-- The list of the objects of a tap token: emptied when there is one, else a new one, which is
never released. Only packets add objects, so that their blocks are not followed.
-/
def resetEoList (host : TapHost) (tokTap : String) (eo : RegisterEo) : TapsM Program Unit := do
  match clearEoList tokTap (← get).sharkdEoList with
  | some cleared => modify fun s => { s with sharkdEoList := cleared }
  | none =>
      let _objectList ← gNew host .sharkdExportObjectList
      let _type ← gStrdup host tokTap
      let proto ← inTapsRegistry (Proto.protoGetProtocolShortName eo.protoId)
      modify fun s => { s with sharkdEoList := ⟨tokTap, proto, []⟩ :: s.sharkdEoList }

/-- The branch for eo:, for a table that was found. -/
def tapEo (host : TapHost) (tokTap : String) (eo : RegisterEo) : TapsM Program TapEntry := do
  resetEoList host tokTap eo
  let eoObject ← gNew host .exportObjectList
  let tapError ← addTapListener eo.tapListenStr eoObject none 0 none (some eo.eoFunc)
    (some "sharkd_session_process_tap_eo_cb")
  pure ⟨tapError, eoObject, some .exportObject⟩

/-- The branch for rtp-streams, with the tapdata on the stack. -/
def tapRtpStreams (host : TapHost) : TapsM Program TapEntry := do
  let tapError ← addTapListener "rtp" host.rtpTapinfo "" 0 (some "rtpstream_reset_cb")
    (some "rtpstream_packet_cb") (some "sharkd_session_process_tap_rtp_cb")
  pure ⟨tapError, host.rtpTapinfo, some .rtpStreams⟩

/-- The branch for rtp-analyse:. -/
def tapRtpAnalyse (host : TapHost) (initStr : String) : TapsM Program (Option TapEntry) := do
  let rtpReq ← gNew host .analyseRtp
  if ← sharkdRtpMatchInit host initStr.toList then
    let tapError ← addTapListener "rtp" rtpReq "" 0 none
      (some "sharkd_session_packet_tap_rtp_analyse_cb")
      (some "sharkd_session_process_tap_rtp_analyse_cb")
    pure (some ⟨tapError, rtpReq, some .rtpAnalyse⟩)
  else
    gFree rtpReq
    pure none

/-- A table that was looked up, and the branch for it. -/
def whenFound {α : Type} (found : Option α) (branch : α → TapsM Program TapEntry)
    : TapsM Program (Option TapEntry) :=
  match found with
  | some table => some <$> branch table
  | none => pure none

/-- The branches of the loop for one token; none is a token that is passed over. The block for
stat: is commented out and leaves NULL.
-/
def tapEntry (host : TapHost) (tables : Tables) (tokTap : String)
    : TapsM Program (Option TapEntry) :=
  if (afterPrefix "stat:" tokTap).isSome then pure (some ⟨none, 0, none⟩)
  else if tokTap = "expert" then some <$> tapExpert host
  else
    match afterPrefix "seqa:" tokTap, afterPrefix "conv:" tokTap, afterPrefix "endpt:" tokTap,
        afterPrefix "nstat:" tokTap, afterPrefix "rtd:" tokTap, afterPrefix "srt:" tokTap,
        afterPrefix "eo:" tokTap with
    | some name, _, _, _, _, _, _ =>
        whenFound (wmemTreeLookupString tables.registeredSeqAnalysis name) (tapSeqa host)
    | _, some name, _, _, _, _, _ => tapConvNamed host tables RegisterCt.convFunc name
    | _, _, some name, _, _, _, _ => tapConvNamed host tables RegisterCt.hostFunc name
    | _, _, _, some name, _, _, _ =>
        whenFound (wmemTreeLookupString tables.registeredStatTables name) (tapNstat host)
    | _, _, _, _, some name, _, _ =>
        match wmemTreeLookupString tables.registeredRtdTables name with
        | some rtd => tapRtd host rtd
        | none => pure none
    | _, _, _, _, _, some name, _ =>
        whenFound (wmemTreeLookupString tables.registeredSrtTables name) (tapSrt host)
    | _, _, _, _, _, _, some name =>
        whenFound (wmemTreeLookupString tables.registeredEoTables name) (tapEo host tokTap)
    | _, _, _, _, _, _, _ =>
        if tokTap = "rtp-streams" then some <$> tapRtpStreams host
        else
          match afterPrefix "rtp-analyse:" tokTap with
          | some initStr => tapRtpAnalyse host initStr
          | none => pure none

/-- An element of taps_data with the one of taps_free. -/
abbrev TapRow := Ptr × Option TapFree

/-- The call of a tap_free that may be NULL. -/
def callTapFree (row : TapRow) : TapsM Program Unit :=
  match row.2 with
  | some tapFree => tapFree.call row.1
  | none => pure ()

/-- One round of the loop: the row that it adds, if any. -/
def tapRound (host : TapHost) (tables : Tables) (tokTap : String)
    : TapsM Program (Option TapRow) := do
  match ← tapEntry host tables tokTap with
  | none => pure none
  | some entry =>
      match entry.tapError with
      | some _ => do
          callTapFree (entry.tapData, entry.tapFree)
          pure none
      | none => pure (some (entry.tapData, entry.tapFree))

/-- The loop over tap0 to tap15, with the rounds left. -/
def tapLoop (host : TapHost) (tables : Tables) (attributes : Attributes)
    : Nat → Nat → List TapRow → TapsM Program (List TapRow)
  | 0, _, rows => pure rows
  | left + 1, i, rows =>
      match jsonFindAttr attributes s!"tap{i}" with
      | none => pure rows
      | some tokTap => do
          let row ← tapRound host tables tokTap
          tapLoop host tables attributes left (i + 1) (rows ++ row.toList)

/-- The removal of the listener of a row. -/
def removeRow (row : TapRow) : TapsM Program Unit :=
  if row.1 = 0 then pure () else dropTapListener row.1

/-- The last loop of the request. -/
def removeRows : List TapRow → TapsM Program Unit
  | [] => pure ()
  | row :: rest => do
      removeRow row
      callTapFree row
      removeRows rest

/-- The answer of a tap request; sharkd_retap adds nothing to the array. -/
def tapAnswer : DumperM Unit := do
  jsonDumperBeginObject
  sharkdJsonArrayOpen "taps"
  sharkdJsonArrayClose
  sharkdJsonValueAnyf "err" (some "0".toList)
  jsonDumperEndObject
  let _ ← jsonDumperFinish
  pure ()

/-- sharkd_session_process_tap. -/
def sharkdSessionProcessTap (host : TapHost) (tables : Tables) (attributes : Attributes)
    : TapsM Program Unit := do
  let rows ← tapLoop host tables attributes 16 0 []
  match rows with
  | [] => pure ()
  | rows => do
      onTapsDumper tapAnswer
      removeRows rows

-----------------------------------------------------------------------------------------
-- The follow request
-----------------------------------------------------------------------------------------

/-- address_to_name of an address of type AT_NONE. -/
def noneName : String := "NONE"

/-- The answer of a follow request, for a follow_info of zeroes. -/
def followAnswer (follower : RegisterFollow) : DumperM Unit := do
  jsonDumperBeginObject
  sharkdJsonValueAnyf "err" (some "0".toList)
  sharkdJsonValueString "shost" noneName
  sharkdJsonValueString "sport" (follower.portToDisplay 0)
  sharkdJsonValueAnyf "sbytes" (some (decimal 0))
  sharkdJsonValueString "chost" noneName
  sharkdJsonValueString "cport" (follower.portToDisplay 0)
  sharkdJsonValueAnyf "cbytes" (some (decimal 0))
  jsonDumperEndObject
  let _ ← jsonDumperFinish
  pure ()

/-- sharkd_session_process_follow for a follower that was found. -/
def followStream (host : TapHost) (follower : RegisterFollow) (tokFilter : String)
    : TapsM Program Unit := do
  let followInfo ← gNew host .followInfo
  match ← addTapListener follower.tapListenStr followInfo tokFilter 0 none
      (some follower.tapHandler) none with
  | some _ => gFree followInfo
  | none => do
      onTapsDumper (followAnswer follower)
      dropTapListener followInfo
      gFree followInfo

/-- sharkd_session_process_follow. -/
def sharkdSessionProcessFollow (host : TapHost) (tables : Tables) (attributes : Attributes)
    : TapsM Program Unit :=
  match jsonFindAttr attributes "follow", jsonFindAttr attributes "filter" with
  | some tokFollow, some tokFilter =>
      match wmemTreeLookupString tables.registeredFollowers tokFollow with
      | some follower => followStream host follower tokFilter
      | none => pure ()
  | _, _ => pure ()

-----------------------------------------------------------------------------------------
-- The iograph request
-----------------------------------------------------------------------------------------

/-- io_graph_item_unit_t. -/
inductive IoGraphItemUnit where
  | packets
  | bytes
  | bits
  | calcSum
  | calcFrames
  | calcFields
  | calcMax
  | calcMin
  | calcAverage
  | calcLoad
  deriving DecidableEq, Repr

/-- item_unit_names in check_field_unit. -/
def IoGraphItemUnit.name : IoGraphItemUnit → String
  | .packets => "Packets"
  | .bytes => "Bytes"
  | .bits => "Bits"
  | .calcSum => "SUM"
  | .calcFrames => "COUNT FRAMES"
  | .calcFields => "COUNT FIELDS"
  | .calcMax => "MAX"
  | .calcMin => "MIN"
  | .calcAverage => "AVG"
  | .calcLoad => "LOAD"

/-- The last check of check_field_unit, by the type of the field. -/
def checkFieldType (fieldName : String) (type : Proto.Ftenum) (itemUnit : IoGraphItemUnit)
    : Option String :=
  match type with
  | .ftUint8 | .ftUint16 | .ftUint24 | .ftUint32 | .ftUint64 | .ftInt8 | .ftInt16 | .ftInt24
  | .ftInt32 | .ftInt64 | .ftFloat | .ftDouble =>
      if itemUnit = .calcLoad then some "LOAD is only supported for relative-time fields."
      else none
  | .ftRelativeTime => none
  | _ =>
      if itemUnit ≠ .calcFrames ∧ itemUnit ≠ .calcFields then
        some (s!"\"{fieldName}\" doesn't have integral or float values."
          ++ s!" {itemUnit.name} calculations are not supported on it.")
      else none

/-- check_field_unit; hf_index is set for graphs that have items, of which there are none. -/
def checkFieldUnit (fieldName : Option String) (itemUnit : IoGraphItemUnit)
    : TapsM Program (Option String) :=
  match itemUnit with
  | .packets | .bytes | .bits => pure none
  | _ =>
      match fieldName with
      | none | some "" => pure (some "You didn't specify a field name.")
      | some fieldName => do
          match ← inTapsRegistry (Proto.protoRegistrarGetByname fieldName) with
          | none => pure (some s!"There is no field named '{fieldName}'.")
          | some hfi => pure (checkFieldType fieldName hfi.type itemUnit)

/-- The chain of comparisons for calc_type. -/
def graphCalcType (tokGraph : String) : Option IoGraphItemUnit :=
  if tokGraph = "packets" then some .packets
  else if tokGraph = "bytes" then some .bytes
  else if tokGraph = "bits" then some .bits
  else
    [("sum:", IoGraphItemUnit.calcSum), ("frames:", .calcFrames), ("fields:", .calcFields),
      ("max:", .calcMax), ("min:", .calcMin), ("avg:", .calcAverage),
      ("load:", .calcLoad)].findSome?
      fun unit => (afterPrefix unit.1 tokGraph).map fun _ => unit.2

/-- field_name: the part of a graph token after its first colon. -/
def graphFieldName (tokGraph : String) : Option String :=
  if ':' ∈ tokGraph.toList then
    some (String.ofList ((tokGraph.toList.dropWhile (· ≠ ':')).drop 1))
  else none

/-- What graph->error becomes for a graph on the stack. -/
def startGraph (host : TapHost) (graphCount : Nat) (tokGraph : String)
    (calcType : IoGraphItemUnit) (tokFilter : Option String)
    : TapsM Program (Option String) := do
  match ← checkFieldUnit (graphFieldName tokGraph) calcType with
  | some error => pure (some error)
  | none =>
      addTapListener "frame" (host.graphs graphCount) tokFilter tlRequiresProtoTree none
        (some "sharkd_iograph_packet") none

/-- The loop over graph0 to graph9: the errors of the graphs so far, with the rounds left. -/
def graphLoop (host : TapHost) (attributes : Attributes)
    : Nat → Nat → List (Option String) → TapsM Program (List (Option String))
  | 0, _, errors => pure errors
  | left + 1, i, errors =>
      match jsonFindAttr attributes s!"graph{i}" with
      | none => pure errors
      | some tokGraph =>
          match graphCalcType tokGraph with
          | none => pure errors
          | some calcType => do
              let error ← startGraph host errors.length tokGraph calcType
                (jsonFindAttr attributes s!"filter{i}")
              graphLoop host attributes left (i + 1) (errors ++ [error])

/-- The object of a graph; without packets it has no items. -/
def graphObject (error : Option String) : DumperM Unit := do
  jsonDumperBeginObject
  match error with
  | some error => sharkdJsonValueString "errmsg" error
  | none => do
      sharkdJsonArrayOpen "items"
      sharkdJsonArrayClose
  jsonDumperEndObject

/-- The second loop, from a graph on. -/
def answerGraphs (host : TapHost) : Nat → List (Option String) → TapsM Program Unit
  | _, [] => pure ()
  | i, error :: rest => do
      onTapsDumper (graphObject error)
      dropTapListener (host.graphs i)
      answerGraphs host (i + 1) rest

/-- interval_ms. None stands for an interval that is refused. -/
def intervalAttr (attributes : Attributes) : Option Nat :=
  match jsonFindAttr attributes "interval" with
  | none => some 1000
  | some tokInterval => (wsStrtou32 tokInterval).filter (· ≠ 0)

/-- The beginning of the answer of an iograph request. -/
def openGraphs : DumperM Unit := do
  jsonDumperBeginObject
  sharkdJsonArrayOpen "iograph"

/-- Its end. -/
def closeGraphs : DumperM Unit := do
  sharkdJsonArrayClose
  jsonDumperEndObject
  let _ ← jsonDumperFinish
  pure ()

/-- sharkd_session_process_iograph. -/
def sharkdSessionProcessIograph (host : TapHost) (attributes : Attributes)
    : TapsM Program Unit :=
  match intervalAttr attributes with
  | none => pure ()
  | some _ => do
      let errors ← graphLoop host attributes 10 0 []
      onTapsDumper openGraphs
      answerGraphs host 0 errors
      onTapsDumper closeGraphs

-----------------------------------------------------------------------------------------
-- The download request
-----------------------------------------------------------------------------------------

/-- The number that sscanf reads for %d, unless there is none. A number that does not fit is cut
to 32 bits after it was cut to the range of a long.
-/
def sscanfInt (text : List Char) : Option Int :=
  let (value, _, rest) := gAsciiStrtoll 10 text
  if rest.length = text.length then none else some ((value + 2 ^ 31) % 2 ^ 32 - 2 ^ 31)

/-- The object that a token for eo: names: the first list whose type comes before an
underscore decides.
-/
def eoEntry (tokToken : String) : List ExportObjectList → Option ExportObjectEntry
  | [] => none
  | objectList :: rest =>
      match afterPrefix (objectList.type ++ "_") tokToken with
      | some row =>
          (sscanfInt row.toList).bind fun row =>
            if row < 0 then none else objectList.entries[row.toNat]?
      | none => eoEntry tokToken rest

/-- The answer with an object. -/
def objectAnswer (tokToken : String) (entry : ExportObjectEntry) : DumperM Unit := do
  jsonDumperBeginObject
  sharkdJsonValueString "file" (entry.filename.getD tokToken)
  sharkdJsonValueString "mime" (entry.contentType.getD "application/octet-stream")
  sharkdJsonValueBase64 "data" entry.payloadData
  jsonDumperEndObject
  let _ ← jsonDumperFinish
  pure ()

/-- The branch for rtp:, with the tapdata on the stack; no packet is ever collected. -/
def downloadRtp (host : TapHost) (initStr : String) : TapsM Program Unit := do
  if ← sharkdRtpMatchInit host initStr.toList then
    match ← addTapListener "rtp" host.rtpReq none 0 none
        (some "sharkd_session_packet_download_tap_rtp_cb") none with
    | some _ => pure ()
    | none => dropTapListener host.rtpReq
  else pure ()

/-- The branch for eo:. -/
def downloadEo (tokToken : String) : TapsM Program Unit := do
  match eoEntry tokToken (← get).sharkdEoList with
  | some entry => onTapsDumper (objectAnswer tokToken entry)
  | none => pure ()

/-- sharkd_session_process_download; the branch for ssl-secrets is commented out. -/
def sharkdSessionProcessDownload (host : TapHost) (attributes : Attributes)
    : TapsM Program Unit :=
  match jsonFindAttr attributes "token" with
  | none => pure ()
  | some tokToken =>
      if (afterPrefix "eo:" tokToken).isSome then downloadEo tokToken
      else if tokToken = "ssl-secrets" then pure ()
      else
        match afterPrefix "rtp:" tokToken with
        | some initStr => downloadRtp host initStr
        | none => pure ()

end PacketDissector.Sharkd
