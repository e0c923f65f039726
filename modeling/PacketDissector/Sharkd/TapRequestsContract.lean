import PacketDissector.Library.Runs
import PacketDissector.Sharkd.TapListening

/-! No request leaves a tap listener behind: the queue of listeners is the same before and after
each request, and nothing that a request released is in it.
-/

namespace PacketDissector.Sharkd

open PacketDissector.Library PacketDissector.Epan PacketDissector.Epan.Tap PacketDissector.Wsutil

variable {Program : Type} {start : TapsState Program} {listening owned : List Ptr}
  {s : TapsState Program} {host : TapHost}

-----------------------------------------------------------------------------------------
-- What hangs off the data of a tap
-----------------------------------------------------------------------------------------

/-- The blocks of a srt_stat_table. -/
def SrtStatTable.blocks (table : SrtStatTable) : List Ptr :=
  table.names ++ [table.filterString, table.procedures, table.table]

/-- The blocks that a tap_free releases. -/
def TapFree.owns (tapFree : TapFree) (tapData : Ptr) : List Ptr :=
  match tapFree with
  | .expert text => [text, tapData]
  | .flow items ht => [items, ht, tapData]
  | .conv userData => [userData]
  | .rtd timeStats rtds => rtds ++ [timeStats] ++ [tapData]
  | .srt srtArray tables => tables.flatMap SrtStatTable.blocks ++ [srtArray, tapData]
  | .exportObject | .rtpAnalyse => [tapData]
  | .nstat | .rtpStreams => []

/-- The blocks that a row releases. -/
def ownedBy (row : TapRow) : List Ptr :=
  match row.2 with
  | some tapFree => tapFree.owns row.1
  | none => []

/-- The tapdata that a row removes. -/
def listensTo (row : TapRow) : List Ptr := if row.1 = 0 then [] else [row.1]

theorem frees_freeSrtStatTable (table : SrtStatTable)
    : Frees (freeSrtStatTable table : TapsM Program Unit) table.blocks :=
  (frees_gFreeEach table.names).bind
    ((frees_gFree table.filterString).bind
      ((frees_gFree table.procedures).bind (frees_gFree table.table)))

theorem frees_freeSrtTable (tables : List SrtStatTable)
    : Frees (freeSrtTable tables : TapsM Program Unit) (tables.flatMap SrtStatTable.blocks) := by
  induction tables with
  | nil => exact frees_pure
  | cons table rest ih => exact (frees_freeSrtStatTable table).bind ih

/-- A call of a tap_free releases what its row owns. -/
theorem frees_callTapFree (row : TapRow)
    : Frees (callTapFree row : TapsM Program Unit) (ownedBy row) := by
  obtain ⟨tapData, - | tapFree⟩ := row
  · exact frees_pure
  · cases tapFree with
    | expert text => exact (frees_gFree text).bind (frees_gFree tapData)
    | flow items ht =>
        exact (frees_gFree items).bind ((frees_gFree ht).bind (frees_gFree tapData))
    | conv userData => exact frees_gFree userData
    | nstat => exact frees_pure
    | rtd timeStats rtds =>
        exact ((frees_gFreeEach rtds).bind (frees_gFree timeStats)).bind (frees_gFree tapData)
    | srt srtArray tables =>
        exact (frees_freeSrtTable tables).bind ((frees_gFree srtArray).bind (frees_gFree tapData))
    | exportObject => exact frees_gFree tapData
    | rtpStreams => exact frees_pure
    | rtpAnalyse => exact frees_gFree tapData

theorem rtdTimestats_ends (surrounds : Surrounds host start.tap.tapListenerQueue)
    (rtd : RegisterRtd) (left : Nat) (holds : Holds host start listening owned s)
    : Ends (rtdTimestats host rtd left) s
        (fun rtds t => Holds host start listening (rtds ++ owned) t) NoInvalidFree := by
  induction left generalizing owned s with
  | zero => exact returns_pure.ends holds
  | succ left ih =>
      refine Ends.bind (gMalloc_ends surrounds _ holds) ?_
      rintro stats t ⟨-, held⟩
      refine Ends.bind (ih held) fun rest u held' => ?_
      exact returns_pure.ends (held'.perm (.refl _) List.perm_middle)

theorem rtdTableDissectorInit_ends (surrounds : Surrounds host start.tap.tapListenerQueue)
    (rtd : RegisterRtd) (holds : Holds host start listening owned s)
    : Ends (rtdTableDissectorInit host rtd) s
        (fun made t => Holds host start listening (made.2 ++ made.1 :: owned) t)
        NoInvalidFree := by
  refine Ends.bind (gMalloc_ends surrounds _ holds) ?_
  rintro timeStats t ⟨-, held⟩
  refine Ends.bind (rtdTimestats_ends surrounds rtd _ held) fun rtds u held' => ?_
  exact returns_pure.ends held'

theorem gStrdupEach_ends (surrounds : Surrounds host start.tap.tapListenerQueue)
    (names : List (Option String)) (holds : Holds host start listening owned s)
    : Ends (gStrdupEach host names) s
        (fun ptrs t => Holds host start listening (ptrs ++ owned) t) NoInvalidFree := by
  induction names generalizing owned s with
  | nil => exact returns_pure.ends holds
  | cons name rest ih =>
      refine Ends.bind (gStrdup_ends surrounds name holds) fun ptr t held => ?_
      refine Ends.bind (ih held) fun ptrs u held' => ?_
      exact returns_pure.ends (held'.perm (.refl _) List.perm_middle)

theorem initSrtTable_ends (surrounds : Surrounds host start.tap.tapListenerQueue)
    (init : SrtTableInit) (holds : Holds host start listening owned s)
    : Ends (initSrtTable host init) s
        (fun table t => Holds host start listening (table.blocks ++ owned) t)
        NoInvalidFree := by
  refine Ends.bind (gNew_ends surrounds _ holds) ?_
  rintro table t ⟨-, held⟩
  refine Ends.bind (gStrdup_ends surrounds _ held) fun filterString u held' => ?_
  refine Ends.bind (gMalloc_ends surrounds _ held') ?_
  rintro procedures v ⟨-, held''⟩
  refine Ends.bind (gStrdupEach_ends surrounds _ held'') fun names w named => ?_
  refine returns_pure.ends (named.perm (.refl _) ?_)
  simp only [SrtStatTable.blocks, List.append_assoc, List.cons_append, List.nil_append]
  exact (List.Perm.swap filterString procedures _).append_left names

theorem srtTableDissectorInit_ends (surrounds : Surrounds host start.tap.tapListenerQueue)
    (inits : List SrtTableInit) (holds : Holds host start listening owned s)
    : Ends (srtTableDissectorInit host inits) s
        (fun tables t => Holds host start listening
          (tables.flatMap SrtStatTable.blocks ++ owned) t)
        NoInvalidFree := by
  induction inits generalizing owned s with
  | nil => exact returns_pure.ends holds
  | cons init rest ih =>
      refine Ends.bind (initSrtTable_ends surrounds init holds) fun table t held => ?_
      refine Ends.bind (ih held) fun tables u held' => ?_
      refine returns_pure.ends (held'.perm (.refl _) ?_)
      rw [List.flatMap_cons, ← List.append_assoc]
      exact (List.perm_append_comm.append_right owned)

-----------------------------------------------------------------------------------------
-- The branches for a token
-----------------------------------------------------------------------------------------

/-- What is held after the branch for a token: the listener unless it was refused, and the
blocks in any case.
-/
def EntryHeld (host : TapHost) (start : TapsState Program) (listening owned : List Ptr)
    (entry : TapEntry) (t : TapsState Program) : Prop :=
  Holds host start
    (if entry.tapError = none then listensTo (entry.tapData, entry.tapFree) ++ listening
      else listening)
    (ownedBy (entry.tapData, entry.tapFree) ++ owned) t

/-- The end of a branch: a listener with data that its tap_free releases. -/
theorem listen_ends (tapname : String) {tapData : Ptr} (tapFree : TapFree)
    (fstring : Option String) (flags : UInt32) (reset packet draw : Option Callback)
    (notNull : tapData ≠ 0)
    (holds : Holds host start listening (tapFree.owns tapData ++ owned) s)
    : Ends (do
          let tapError ← addTapListener tapname tapData fstring flags reset packet draw
          pure (⟨tapError, tapData, some tapFree⟩ : TapEntry)) s
        (EntryHeld host start listening owned) NoInvalidFree := by
  refine Ends.bind (addTapListener_ends tapname tapData fstring flags reset packet draw holds) ?_
  intro tapError u added
  refine returns_pure.ends ?_
  simpa only [EntryHeld, listensTo, notNull, if_false, ownedBy, List.singleton_append]
    using added

theorem noInvalidFree_dissectorBug (abortOnBug : Bool) {message : String}
    (different : message ≠ "free(): invalid pointer")
    : NoInvalidFree (Proto.dissectorBug abortOnBug message) := by
  cases abortOnBug with
  | false => simp [Proto.dissectorBug, NoInvalidFree, invalidFree]
  | true =>
      intro same
      simp only [Proto.dissectorBug, if_true, invalidFree, Stop.terminated.injEq,
        Termination.abort.injEq] at same
      exact different same

theorem noInvalidFree_unregisteredHf (abortOnBug : Bool) (hfindex : Int)
    : NoInvalidFree (Proto.unregisteredHf abortOnBug hfindex) := by
  cases abortOnBug <;> simp [Proto.unregisteredHf, NoInvalidFree, invalidFree]

/-- find_protocol_by_id answers or reports a bug. -/
theorem findProtocolById_ends (protoId : Int) (registry : Proto.Registry)
    : Ends (Proto.findProtocolById protoId) registry (fun _ _ => True) NoInvalidFree := by
  simp only [Proto.findProtocolById]
  split
  · exact returns_pure.ends trivial
  · have nth : Ends (Proto.protoRegistrarGetNth protoId) registry (fun _ _ => True)
        NoInvalidFree := by
      refine Returns.bind_ends returns_get ?_
      split
      · exact returns_pure.ends trivial
      · exact raises_throw.ends (noInvalidFree_unregisteredHf _ _)
    refine Ends.bind nth fun hfinfo u _ => ?_
    split
    · refine Ends.bind (P := fun _ _ => True) ?_ fun _ v _ => ?_
      · simp only [Proto.dissectorAssert]
        split
        · exact returns_pure.ends trivial
        · refine Returns.bind_ends returns_get ?_
          exact raises_throw.ends (noInvalidFree_dissectorBug _ (by decide))
      · split <;> exact returns_pure.ends trivial
    · split <;> exact returns_pure.ends trivial

/-- So do the lookups of names. -/
theorem protocolById_ends (protoId : Int) (registry : Proto.Registry)
    : Ends (Proto.protocolById protoId) registry (fun _ _ => True) NoInvalidFree := by
  refine Ends.bind (findProtocolById_ends protoId registry) fun address u _ => ?_
  exact Returns.bind_ends returns_get (returns_pure.ends trivial)

theorem shortName_ends (protoId : Int) (registry : Proto.Registry)
    : Ends (Proto.protoGetProtocolShortName protoId) registry (fun _ _ => True)
        NoInvalidFree :=
  Ends.bind (protocolById_ends protoId registry) fun _ _ _ => returns_pure.ends trivial

theorem filterName_ends (protoId : Int) (registry : Proto.Registry)
    : Ends (Proto.protoGetProtocolFilterName protoId) registry (fun _ _ => True)
        NoInvalidFree :=
  Ends.bind (protocolById_ends protoId registry) fun _ _ _ => returns_pure.ends trivial

theorem idByShortName_ends (shortName : String) (registry : Proto.Registry)
    : Ends (Proto.protoGetIdByShortName shortName) registry (fun _ _ => True)
        NoInvalidFree := by
  refine Returns.bind_ends returns_get ?_
  split <;> exact returns_pure.ends trivial

/-- What is held when a token is passed over, and when its branch ends with an entry. -/
def RoundHeld (host : TapHost) (start : TapsState Program) (listening owned : List Ptr)
    (entry : Option TapEntry) (t : TapsState Program) : Prop :=
  match entry with
  | none => Holds host start listening owned t
  | some entry => EntryHeld host start listening owned entry t

theorem some_ends {x : TapsM Program TapEntry}
    (branch : Ends x s (EntryHeld host start listening owned) NoInvalidFree)
    : Ends (some <$> x) s (RoundHeld host start listening owned) NoInvalidFree := by
  rw [map_eq_pure_bind]
  exact Ends.bind branch fun entry t held => returns_pure.ends held

/-- A branch that is taken for tables that were found. -/
theorem whenFound_ends {α : Type} (found : Option α) {branch : α → TapsM Program TapEntry}
    (holds : Holds host start listening owned s)
    (each : ∀ table, Ends (branch table) s (EntryHeld host start listening owned) NoInvalidFree)
    : Ends (whenFound found branch) s (RoundHeld host start listening owned)
        NoInvalidFree := by
  cases found with
  | none => exact returns_pure.ends holds
  | some table => exact some_ends (each table)

theorem tapConvNamed_ends (surrounds : Surrounds host start.tap.tapListenerQueue) (tables : Tables)
    (func : RegisterCt → Option Callback) (shortName : String)
    (holds : Holds host start listening owned s)
    : Ends (tapConvNamed host tables func shortName) s (RoundHeld host start listening owned)
        NoInvalidFree := by
  refine Ends.bind (P := fun _ t => Holds host start listening owned t) ?_ ?_
  · refine Ends.bind (inTapsRegistry_ends holds (idByShortName_ends _ _)) fun protoId u held => ?_
    refine Ends.bind (inTapsRegistry_ends held (shortName_ends _ _)) fun key v held' => ?_
    exact returns_pure.ends held'
  · intro ct u held
    split
    · rename_i ct' tapFunc _
      refine some_ends ?_
      refine Ends.bind (inTapsRegistry_ends held (filterName_ends _ _)) fun name v held' => ?_
      refine Ends.bind (gNew_ends surrounds .convTapData held') ?_
      rintro ctData w ⟨notNull, made⟩
      have hash : ctData + host.hashOffset ≠ 0 := by simp [notNull]
      exact listen_ends name (.conv ctData) "" 0 none _ _ hash made
    · exact returns_pure.ends held

theorem tapRtd_ends (surrounds : Surrounds host start.tap.tapListenerQueue) (rtd : RegisterRtd)
    (holds : Holds host start listening owned s)
    : Ends (tapRtd host rtd) s (RoundHeld host start listening owned) NoInvalidFree := by
  simp only [tapRtd]
  split
  · exact returns_pure.ends holds
  · rename_i tapFilter _
    refine Ends.bind (gNew_ends surrounds .rtdData holds) ?_
    rintro rtdData t ⟨notNull, held⟩
    refine Ends.bind (rtdTableDissectorInit_ends surrounds rtd held) ?_
    rintro ⟨timeStats, rtds⟩ u made
    have owned' : Holds host start listening
        ((TapFree.rtd timeStats rtds).owns rtdData ++ owned) u := by
      simpa only [TapFree.owns, List.append_assoc, List.cons_append, List.nil_append] using made
    have branch := listen_ends rtd.tapListenStr (.rtd timeStats rtds) tapFilter 0 none
      (some rtd.rtdFunc) (some "sharkd_session_process_tap_rtd_cb") notNull owned'
    simpa only [map_eq_pure_bind, bind_assoc, pure_bind] using some_ends branch

theorem tapExpert_ends (surrounds : Surrounds host start.tap.tapListenerQueue)
    (holds : Holds host start listening owned s)
    : Ends (tapExpert host) s (EntryHeld host start listening owned) NoInvalidFree := by
  refine Ends.bind (gNew_ends surrounds .expertTap holds) ?_
  rintro expertTap t ⟨notNull, held⟩
  refine Ends.bind (gNew_ends surrounds .gStringChunk held) ?_
  rintro text u ⟨-, made⟩
  exact listen_ends "expert" (.expert text) none 0 none _ _ notNull made

theorem tapSeqa_ends (surrounds : Surrounds host start.tap.tapListenerQueue)
    (analysis : RegisterAnalysis) (holds : Holds host start listening owned s)
    : Ends (tapSeqa host analysis) s (EntryHeld host start listening owned) NoInvalidFree := by
  refine Ends.bind (gNew_ends surrounds .seqAnalysisInfo holds) ?_
  rintro graphAnalysis t ⟨notNull, held⟩
  refine Ends.bind (gNew_ends surrounds .gQueue held) ?_
  rintro items u ⟨-, held'⟩
  refine Ends.bind (gNew_ends surrounds .gHashTable held') ?_
  rintro ht v ⟨-, made⟩
  exact listen_ends analysis.tapListenStr (.flow items ht) none _ none _ _ notNull
    (made.perm (.refl _) (.swap items ht _))

/-- The data of a statistic is left behind. -/
theorem tapNstat_ends (surrounds : Surrounds host start.tap.tapListenerQueue)
    (statTap : StatTapTableUi) (holds : Holds host start listening owned s)
    : Ends (tapNstat host statTap) s (EntryHeld host start listening owned) NoInvalidFree := by
  refine Ends.bind (gNew_ends surrounds .statData holds) ?_
  rintro statData t ⟨notNull, made⟩
  exact listen_ends statTap.tapName .nstat "" 0 none _ _ notNull made.forget

theorem tapSrt_ends (surrounds : Surrounds host start.tap.tapListenerQueue) (srt : RegisterSrt)
    (holds : Holds host start listening owned s)
    : Ends (tapSrt host srt) s (EntryHeld host start listening owned) NoInvalidFree := by
  refine Ends.bind (gNew_ends surrounds .srtData holds) ?_
  rintro srtData t ⟨notNull, held⟩
  refine Ends.bind (gNew_ends surrounds .gArray held) ?_
  rintro srtArray u ⟨-, held'⟩
  refine Ends.bind (srtTableDissectorInit_ends surrounds _ held') fun tables v made => ?_
  have owned' : Holds host start listening
      ((TapFree.srt srtArray tables).owns srtData ++ owned) v := by
    simpa only [TapFree.owns, List.append_assoc, List.cons_append, List.nil_append] using made
  exact listen_ends srt.tapListenStr (.srt srtArray tables) none 0 none _ _ notNull owned'

theorem resetEoList_ends (surrounds : Surrounds host start.tap.tapListenerQueue)
    (tokTap : String) (eo : RegisterEo) (holds : Holds host start listening owned s)
    : Ends (resetEoList host tokTap eo) s (fun _ t => Holds host start listening owned t)
        NoInvalidFree := by
  refine Returns.bind_ends returns_get ?_
  split
  · exact (returns_modify _).ends ⟨holds.queue, holds.since, holds.owned, holds.answered⟩
  · refine Ends.bind (gNew_ends surrounds _ holds) ?_
    rintro objectList t ⟨-, made⟩
    refine Ends.bind (gStrdup_ends surrounds tokTap made.forget) fun type u named => ?_
    refine Ends.bind (inTapsRegistry_ends named.forget (shortName_ends _ _)) fun proto v held => ?_
    exact (returns_modify _).ends ⟨held.queue, held.since, held.owned, held.answered⟩

theorem tapEo_ends (surrounds : Surrounds host start.tap.tapListenerQueue) (tokTap : String)
    (eo : RegisterEo) (holds : Holds host start listening owned s)
    : Ends (tapEo host tokTap eo) s (EntryHeld host start listening owned) NoInvalidFree := by
  refine Ends.bind (resetEoList_ends surrounds tokTap eo holds) fun _ t held => ?_
  refine Ends.bind (gNew_ends surrounds .exportObjectList held) ?_
  rintro eoObject u ⟨notNull, made⟩
  exact listen_ends eo.tapListenStr .exportObject none 0 none _ _ notNull made

/-- The addresses that are copied are left behind. -/
theorem sharkdRtpMatchInit_ends (surrounds : Surrounds host start.tap.tapListenerQueue)
    (initStr : List Char) (holds : Holds host start listening owned s)
    : Ends (sharkdRtpMatchInit host initStr) s
        (fun _ t => Holds host start listening owned t) NoInvalidFree := by
  simp only [sharkdRtpMatchInit]
  split
  · refine Ends.bind (gNew_ends surrounds _ holds) ?_
    rintro srcAddr t ⟨-, held⟩
    refine Ends.bind (gNew_ends surrounds _ held.forget) ?_
    rintro dstAddr u ⟨-, held'⟩
    exact returns_pure.ends held'.forget
  · exact returns_pure.ends holds

theorem tapRtpStreams_ends (surrounds : Surrounds host start.tap.tapListenerQueue)
    (holds : Holds host start listening owned s)
    : Ends (tapRtpStreams host) s (EntryHeld host start listening owned) NoInvalidFree :=
  listen_ends "rtp" .rtpStreams "" 0 _ _ _ surrounds.rtpTapinfo holds

theorem tapRtpAnalyse_ends (surrounds : Surrounds host start.tap.tapListenerQueue)
    (initStr : String) (holds : Holds host start listening owned s)
    : Ends (tapRtpAnalyse host initStr) s (RoundHeld host start listening owned)
        NoInvalidFree := by
  refine Ends.bind (gNew_ends surrounds .analyseRtp holds) ?_
  rintro rtpReq t ⟨notNull, held⟩
  refine Ends.bind (sharkdRtpMatchInit_ends surrounds _ held) fun succeeded u held' => ?_
  split
  · have branch := listen_ends "rtp" .rtpAnalyse "" 0 none
      (some "sharkd_session_packet_tap_rtp_analyse_cb")
      (some "sharkd_session_process_tap_rtp_analyse_cb") notNull held'
    simpa only [map_eq_pure_bind, bind_assoc, pure_bind] using some_ends branch
  · refine Ends.bind (frees_gFree rtpReq host start listening owned u held') fun _ v freed => ?_
    exact returns_pure.ends freed

/-- Every branch holds what its entry says, and passes over a token with nothing held. -/
theorem tapEntry_ends (surrounds : Surrounds host start.tap.tapListenerQueue) (tables : Tables)
    (tokTap : String) (holds : Holds host start listening owned s)
    : Ends (tapEntry host tables tokTap) s (RoundHeld host start listening owned)
        NoInvalidFree := by
  simp only [tapEntry]
  split
  · exact returns_pure.ends holds
  · split
    · exact some_ends (tapExpert_ends surrounds holds)
    · split
      · exact whenFound_ends _ holds fun analysis => tapSeqa_ends surrounds analysis holds
      · exact tapConvNamed_ends surrounds tables _ _ holds
      · exact tapConvNamed_ends surrounds tables _ _ holds
      · exact whenFound_ends _ holds fun statTap => tapNstat_ends surrounds statTap holds
      · split
        · exact tapRtd_ends surrounds _ holds
        · exact returns_pure.ends holds
      · exact whenFound_ends _ holds fun srt => tapSrt_ends surrounds srt holds
      · exact whenFound_ends _ holds fun eo => tapEo_ends surrounds tokTap eo holds
      · split
        · exact some_ends (tapRtpStreams_ends surrounds holds)
        · split
          · exact tapRtpAnalyse_ends surrounds _ holds
          · exact returns_pure.ends holds

/-- A round holds what its row removes and releases, or nothing. -/
theorem tapRound_ends (surrounds : Surrounds host start.tap.tapListenerQueue) (tables : Tables)
    (tokTap : String) (holds : Holds host start listening owned s)
    : Ends (tapRound host tables tokTap) s
        (fun row t => Holds host start (row.toList.flatMap listensTo ++ listening)
          (row.toList.flatMap ownedBy ++ owned) t)
        NoInvalidFree := by
  refine Ends.bind (tapEntry_ends surrounds tables tokTap holds) ?_
  rintro (- | ⟨tapError, tapData, tapFree⟩) t held
  · exact returns_pure.ends held
  · cases tapError with
    | none =>
        refine returns_pure.ends ?_
        simpa [RoundHeld, EntryHeld] using held
    | some error =>
        have kept : Holds host start listening (ownedBy (tapData, tapFree) ++ owned) t := by
          simpa [RoundHeld, EntryHeld] using held
        refine Ends.bind (frees_callTapFree _ host start listening owned t kept) fun _ u freed => ?_
        exact returns_pure.ends freed

/-- The rows of the loop name all that is held, by induction over the rounds left. -/
theorem tapLoop_ends (surrounds : Surrounds host start.tap.tapListenerQueue) (tables : Tables)
    (attributes : Attributes) (left i : Nat) {rows : List TapRow}
    (holds : Holds host start (rows.flatMap listensTo) (rows.flatMap ownedBy) s)
    : Ends (tapLoop host tables attributes left i rows) s
        (fun rows t => Holds host start (rows.flatMap listensTo) (rows.flatMap ownedBy) t)
        NoInvalidFree := by
  induction left generalizing i rows s with
  | zero => exact returns_pure.ends holds
  | succ left ih =>
      cases asked : jsonFindAttr attributes s!"tap{i}" with
      | none =>
          simp only [tapLoop, asked]
          exact returns_pure.ends holds
      | some tokTap =>
          simp only [tapLoop, asked]
          refine Ends.bind (tapRound_ends surrounds tables tokTap holds) fun row t held => ?_
          apply ih
          rw [List.flatMap_append, List.flatMap_append]
          exact held.perm List.perm_append_comm List.perm_append_comm

theorem removeRow_ends (row : TapRow)
    (holds : Holds host start (listensTo row ++ listening) owned s)
    : Ends (removeRow row) s (fun _ t => Holds host start listening owned t)
        NoInvalidFree := by
  by_cases null : row.1 = 0
  · simp only [removeRow, null, if_true]
    refine returns_pure.ends ?_
    simpa [listensTo, null] using holds
  · simp only [removeRow, null, if_false]
    apply dropTapListener_ends
    simpa [listensTo, null] using holds

/-- The last loop gives back all that the rows name, by induction over them. -/
theorem removeRows_ends (rows : List TapRow)
    (holds : Holds host start (rows.flatMap listensTo) (rows.flatMap ownedBy) s)
    : Ends (removeRows rows) s (fun _ t => Holds host start [] [] t) NoInvalidFree := by
  induction rows generalizing s with
  | nil => exact returns_pure.ends holds
  | cons row rest ih =>
      rw [List.flatMap_cons, List.flatMap_cons] at holds
      refine Ends.bind (removeRow_ends row holds) fun _ t removed => ?_
      refine Ends.bind (frees_callTapFree row host start _ _ t removed) fun _ u freed => ?_
      exact ih freed

end PacketDissector.Sharkd
