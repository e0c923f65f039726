import PacketDissector.Epan.Tap
import PacketDissector.Library.Runs
import PacketDissector.Sharkd.FrameRows
import PacketDissector.Sharkd.RequestedFrames

/-! The frames request answers with the requested slice of the frames, and exactly when. -/

namespace PacketDissector.Sharkd

open PacketDissector.Library PacketDissector.Epan PacketDissector.Wsutil

/-- A request for a slice of the frames. -/
structure FramesRequest where
  filter : Option String
  skip : Nat
  limit : Nat
  refs : List Nat

/-- The attributes of a frames request in its proper form. -/
structure Asks (attributes : Attributes) (request : FramesRequest) : Prop where
  filter : jsonFindAttr attributes "filter" = request.filter
  skip : numberAttr attributes "skip" 0 = some request.skip
  limit : numberAttr attributes "limit" 0 = some request.limit
  refs : jsonFindAttr attributes "refs" = refsText request.refs
  refsOk : RefsOk request.refs
  columns : columnsAttr attributes ≠ none

/-- The frames that pass the filter of the request, unless it does not compile. A text that
compiles to no program lets every frame pass.
-/
def FramesRequest.passes {Program : Type} (request : FramesRequest)
    (engine : Tap.DfilterEngine Program Nat)
    : Option (Nat → Bool) :=
  match request.filter with
  | none => some fun _ => true
  | some text =>
      match engine.dfilterCompile text with
      | .error _ => none
      | .ok code => some fun f => code.all fun code => engine.dfilterApplyEdt code f

/-- The request is answered from a state. When the filter does not compile nothing is handed
to the frame dissector and nothing is written. Otherwise the frames of the requested rows are
handed to it, in order and with their reference frames, and one array is written on a line
of its own whose elements are just what came of them.
-/
structure ServesFrames {Program : Type} (dissectors : Dissectors)
    (engine : Tap.DfilterEngine Program Nat) (n : Nat) (attributes : Attributes)
    (request : FramesRequest) (s : Session)
    : Prop where
  refused
    : request.passes engine = none →
        ∃ t, Returns (sharkdSessionProcessFrames dissectors attributes) s ⟨⟩ t
          ∧ t.dissected = s.dissected ∧ t.dumper.outputFile = s.dumper.outputFile
  served
    : ∀ passes, request.passes engine = some passes →
        ∃ t given texts,
          Returns (sharkdSessionProcessFrames dissectors attributes) s ⟨⟩ t
          ∧ List.Forall₂ (fun row fdata => s.cfile.given row = some fdata)
              (requestedRows passes n request.skip request.limit request.refs) given
          ∧ t.dissected = s.dissected ++ given
          ∧ List.Forall₂ (RowOf dissectors s.cfile.cinfo) given texts
          ∧ t.dumper.outputFile = s.dumper.outputFile ++ textLines [jsonArray texts]

/-- Frame 2^32 - 1 is not reached, or the limit ends the request before it or with it; in the
last case refs has to be such that its reference frame is found.
-/
def BelowWrap (n : Nat) (request : FramesRequest) : Prop :=
  n = gMaxUint32 →
    request.limit ≠ 0 ∧ request.skip + request.limit ≤ n
    ∧ (request.skip + request.limit = n →
        request.refs = [] ∨ gMaxUint32 ∈ request.refs
        ∨ (request.limit = 1 ∧ 2 ≤ request.refs.length))

/-- The requests that get their rows: for the columns of the capture file, with a filter that
every frame up to the last row passes, away from the end of the frame numbers, and for rows
whose frames can be dissected.
-/
structure GetsRows {Program : Type} (dissectors : Dissectors)
    (engine : Tap.DfilterEngine Program Nat) (n : Nat) (attributes : Attributes)
    (request : FramesRequest) (s : Session)
    : Prop where
  columns : jsonFindAttr attributes "column0" = none
  filter
    : ∃ passes, request.passes engine = some passes
        ∧ ShownPass passes n request.skip request.limit
        ∧ ∀ row ∈ requestedRows passes n request.skip request.limit request.refs,
            s.cfile.Dissects dissectors row
  wrap : BelowWrap n request

variable {s t : Session} {n : Nat} {attributes : Attributes} {request : FramesRequest}

-----------------------------------------------------------------------------------------
-- The parts of a request
-----------------------------------------------------------------------------------------

/-- sharkd_filter never refuses and never has data. -/
theorem filterData_returns (loaded : s.Loaded n) (filter : String)
    : ∃ item filterTable,
        Returns (sharkdSessionFilterData filter) s (some item) { s with filterTable }
        ∧ item.filtered = none ∧ ∀ entry ∈ filterTable, entry.2.filtered = none := by
  cases known : s.filterTable.find? fun entry => entry.1 = filter with
  | some entry =>
      have unfiltered := loaded.unfiltered entry (List.mem_of_find?_eq_some known)
      refine ⟨entry.2, s.filterTable, Returns.bind returns_get ?_, unfiltered,
        loaded.unfiltered⟩
      simp only [known, Option.map_some]
      exact returns_pure
  | none =>
      refine ⟨⟨none⟩, (filter, ⟨none⟩) :: s.filterTable, Returns.bind returns_get ?_, rfl, ?_⟩
      · simp only [known, Option.map_none, sharkdFilter]
        exact Returns.bind (returns_modify _) returns_pure
      · intro entry member
        rcases List.mem_cons.mp member with rfl | old
        · rfl
        · exact loaded.unfiltered entry old

/-- So the filter of a request lets every frame pass. -/
theorem filterAttr_returns (loaded : s.Loaded n) (attributes : Attributes)
    : ∃ filterTable, Returns (filterAttr attributes) s (some none) { s with filterTable }
        ∧ ∀ entry ∈ filterTable, entry.2.filtered = none := by
  simp only [filterAttr]
  cases jsonFindAttr attributes "filter" with
  | none => exact ⟨s.filterTable, returns_pure, loaded.unfiltered⟩
  | some text =>
      obtain ⟨item, filterTable, returned, unfiltered, kept⟩ := filterData_returns loaded text
      refine ⟨filterTable, Returns.bind returned ?_, kept⟩
      simp only [Option.map_some, unfiltered]
      exact returns_pure

/-- The cursor of a list of refs starts before the first of them. -/
theorem refsAttr_refsText (asks : Asks attributes request)
    : refsAttr attributes = some (refsCursor request.refs 0) := by
  have ok := asks.refsOk
  rw [refsAttr, asks.refs]
  cases written : request.refs with
  | nil => rfl
  | cons r rest =>
      rw [written] at ok
      have read := wsStrtou32Endptr_decimal (ok.small r List.mem_cons_self)
        (laterRefs_endsNumber rest)
      have start : cursorFor (r :: rest) 0 = ⟨laterRefs rest, 0, r⟩ := by
        have positive := Nat.ne_of_gt (ok.positive r List.mem_cons_self)
        simp [cursorFor, cursorAt, positive]
      simp only [refsText, String.toList_ofList]
      rw [show (rest.flatMap fun r => ',' :: decimal r) = laterRefs rest from rfl, read]
      simp [refsCursor, start]

/-- What a request shows from a state until the next: the outcome of each row, in one array
on a line of its own.
-/
structure Session.Answers (dissectors : Dissectors) (s : Session) (n : Nat)
    (rows : List DissectedRow) (t : Session)
    : Prop extends t.Loaded n where
  idle : t.dumper.Idle
  columns : colInit t.cfile.cinfo = colInit s.cfile.cinfo
  written
    : ∃ shown, List.Forall₂ (RowShown dissectors s.cfile) rows shown
        ∧ t.dissected = s.dissected ++ shown.filterMap Prod.fst
        ∧ t.dumper.outputFile
          = s.dumper.outputFile ++ textLines [jsonArray (shown.map Prod.snd)]

/-- Without filter data and for the columns of the capture file, the loop's rows are written
to one array on a line of its own.
-/
theorem writeFrames_capture (dissectors : Dissectors) (cursor : FramesCursor)
    (loaded : s.Loaded n) (idle : s.dumper.Idle)
    : Ends (writeFrames dissectors none cursor .capture) s
        (fun _ t => s.Answers dissectors n (walkedRows n 1 cursor) t
          ∧ (n < gMaxUint32 ∨ cursor.Stops n))
        fun _ => (∃ row ∈ walkedRows n 1 cursor, ¬ s.cfile.Dissects dissectors row)
          ∨ (gMaxUint32 ≤ n ∧ ¬ cursor.Stops n) := by
  have slot := idle.slot
  have room : s.dumper.currentDepth + 1 < jsonDumperMaxDepth := idle.depth ▸ by decide
  have canOpen : s.dumper.allows .begin .array = true := by simp [JsonDumper.allows, room]
  have opened : Returns (sharkdJsonArrayOpen none) s.dumper ⟨⟩ (s.dumper.opened .array '[') :=
    Returns.bind returns_pure (jsonDumperChange_returns slot.toPlain slot.room canOpen)
  have nothing : (s.dumper.opened .array '[').Inside .array s.dumper [] :=
    opened_inside slot room
  have started : Session.Shows dissectors s n 1 []
      { s with dumper := s.dumper.opened .array '[' } :=
    ⟨⟨⟨loaded.count, loaded.frames, loaded.unfiltered⟩, fun _ _ => rfl, rfl⟩,
      [], .nil, (List.append_nil _).symm, nothing⟩
  refine Returns.bind_ends (returns_focus opened) ?_
  refine Returns.bind_ends returns_get ?_
  rw [started.count]
  refine Ends.bind (framesLoop_capture n 1 cursor started idle.depth (Nat.le_refl 1)
    (Nat.add_comm 1 n)) ?_
  rintro _ t ⟨rfl, ⟨last, shows⟩, stopped⟩
  obtain ⟨shown, same, noted, inside⟩ := shows.written
  have canClose : t.dumper.allows .end .array = true := by
    simp [JsonDumper.allows, inside.prevState]
  have stillRoom : t.dumper.currentDepth < jsonDumperMaxDepth := inside.depth ▸ room
  have closed : Returns sharkdJsonArrayClose t.dumper ⟨⟩ (t.dumper.closed ']') :=
    jsonDumperChange_returns inside.toPlain stillRoom canClose
  refine Returns.bind_ends (returns_focus closed) ?_
  have filled : s.dumper.Filled (jsonArray (shown.map Prod.snd)) (t.dumper.closed ']') :=
    closed_filled inside (by decide)
  obtain ⟨u, finished, idle', output⟩ :=
    jsonDumperFinish_returns filled.toPlain (filled.depth.trans idle.depth)
  refine Returns.bind_ends (returns_focus finished) ?_
  refine returns_pure.ends ⟨⟨⟨shows.count, shows.frames, shows.unfiltered⟩, idle',
    shows.columns, shown, same, noted, ?_⟩, stopped⟩
  have top : s.dumper.prepareToken = s.dumper := by
    simp [JsonDumper.prepareToken, idle.depth]
  rw [output, filled.output, top]
  simp [textLines]

-----------------------------------------------------------------------------------------
-- Columns of the user
-----------------------------------------------------------------------------------------

/-- The columns of a user, of which there is at least one. -/
def RequestColumns.IsUser (cinfo : RequestColumns) : Prop :=
  ∃ column rest, cinfo = .user (column :: rest)

theorem columnsAttr_user {cinfo : RequestColumns}
    (present : jsonFindAttr attributes "column0" ≠ none)
    (wellFormed : columnsAttr attributes = some cinfo)
    : cinfo.IsUser := by
  obtain ⟨text, found⟩ := Option.ne_none_iff_exists'.mp present
  simp only [columnsAttr, found, sharkdSessionCreateColumns, Option.map_eq_some_iff]
    at wellFormed
  obtain ⟨columns, parsed, rfl⟩ := wellFormed
  have first : jsonFindAttr attributes s!"column{0}" = some text := found
  rw [parseColumns, first] at parsed
  cases one : parseColumn text with
  | none => simp [one] at parsed
  | some column =>
      simp only [one, Option.map_eq_some_iff] at parsed
      obtain ⟨rest, -, rfl⟩ := parsed
      exact ⟨column, rest, rfl⟩

/-- A frame that is shown leaves the columns of a user, if it can be shown. -/
theorem showFrame_user (dissectors : Dissectors) (framenum refFrame prevDisNum : Nat)
    {cinfo : RequestColumns} (user : cinfo.IsUser)
    : Ends (showFrame dissectors framenum refFrame prevDisNum cinfo) s
        (fun cinfo' _ => cinfo'.IsUser) fun _ => True := by
  obtain ⟨column, rest, rfl⟩ := user
  refine Ends.bind (ends_any _ _) fun fdata t _ => ?_
  cases fdata with
  | none => exact raises_throw.ends trivial
  | some fdata =>
      refine Ends.bind (P := fun result _ => result.1.IsUser) ?_ ?_
      · refine Returns.bind_ends returns_get ?_
        cases dissectors.wtapSeekRead fdata with
        | none =>
            refine returns_pure.ends ?_
            simp only [RequestColumns.columns, colFillInError]
            split
            · exact ⟨_, _, rfl⟩
            · split <;> exact ⟨_, _, rfl⟩
        | some recType =>
            refine Ends.bind ((dissectRecord_ends dissectors recType _ _ t).imp
              (fun _ _ holds => holds) fun _ _ => trivial) ?_
            rintro ⟨fdata', columns'⟩ u ⟨-, columns, -, texts, init, -, -, rfl, -⟩
            refine Ends.bind (ends_any _ _) fun _ v _ => ?_
            refine returns_pure.ends ?_
            obtain ⟨first, others, rfl⟩ := colInit_cons init
            exact ⟨_, _, congrArg RequestColumns.user List.mapIdx_cons⟩
      · rintro ⟨cinfo', fdata'⟩ u user
        refine Ends.bind (ends_any _ _) fun texts v _ => ?_
        exact Ends.bind (ends_any _ _) fun _ w _ => returns_pure.ends user

/-- So does the loop, by induction over the frames that are left. -/
theorem framesLoop_user (dissectors : Dissectors) (filterData : Option (List UInt8))
    (left framenum : Nat) (cursor : FramesCursor) {cinfo : RequestColumns} (user : cinfo.IsUser)
    : Ends (framesLoop dissectors filterData left framenum cursor cinfo) s
        (fun cinfo' _ => cinfo'.IsUser) fun _ => True := by
  induction left generalizing framenum cursor cinfo s with
  | zero =>
      simp only [framesLoop]
      split
      · exact raises_throw.ends trivial
      · exact returns_pure.ends user
  | succ left ih =>
      simp only [framesLoop]
      split
      · exact ih _ _ user
      · split
        · exact ih _ _ user
        · refine Ends.bind (showFrame_user dissectors _ _ _ user) fun cinfo' t user' => ?_
          split
          · exact returns_pure.ends user'
          · exact ih _ _ user'

/-- In the end col_cleanup frees what was never set. -/
theorem writeFrames_user (dissectors : Dissectors) (filterData : Option (List UInt8))
    (cursor : FramesCursor) {cinfo : RequestColumns} (user : cinfo.IsUser)
    : Ends (writeFrames dissectors filterData cursor cinfo) s (fun _ _ => False)
        fun _ => True := by
  refine Ends.bind (ends_any _ _) fun _ t _ => ?_
  refine Ends.bind (ends_any _ _) fun _ u _ => ?_
  refine Ends.bind (framesLoop_user dissectors filterData _ _ cursor user) ?_
  rintro _ v ⟨column, rest, rfl⟩
  refine Ends.bind (ends_any _ _) fun _ w _ => ?_
  exact Ends.bind (ends_any _ _) fun _ z _ => raises_throw.ends trivial

-----------------------------------------------------------------------------------------
-- Requests in a session
-----------------------------------------------------------------------------------------

/-- A capture of n frames is open, and nothing is being written. -/
structure Session.Ready (s : Session) (n : Nat) : Prop extends s.Loaded n where
  idle : s.dumper.Idle

/-- The rows that the loop walks through for a request. -/
def FramesRequest.walked (request : FramesRequest) (n : Nat) : List DissectedRow :=
  walkedRows n 1 ⟨request.skip, request.limit, 0, refsCursor request.refs 0⟩

/-- The limit of the request is reached before frame 2^32 - 1 is passed. -/
def FramesRequest.StaysBelow (request : FramesRequest) (n : Nat) : Prop :=
  n < gMaxUint32 ∨ request.limit ≠ 0 ∧ request.skip + request.limit ≤ n

/-- A request in its proper form, with the columns of the capture file. -/
theorem processFrames_capture (dissectors : Dissectors) (ready : s.Ready n)
    (asks : Asks attributes request) (columns : jsonFindAttr attributes "column0" = none)
    : Ends (sharkdSessionProcessFrames dissectors attributes) s
        (fun _ t => s.Answers dissectors n (request.walked n) t ∧ request.StaysBelow n)
        fun _ => (∃ row ∈ request.walked n, ¬ s.cfile.Dissects dissectors row)
          ∨ ¬ request.StaysBelow n := by
  obtain ⟨filterTable, filtered, unfiltered⟩ := filterAttr_returns ready.toLoaded attributes
  have written := writeFrames_capture dissectors
    ⟨request.skip, request.limit, 0, refsCursor request.refs 0⟩
    (show Session.Loaded { s with filterTable } n from
      ⟨ready.count, ready.frames, unfiltered⟩) ready.idle
  simp only [sharkdSessionProcessFrames, columnsAttr, columns]
  refine Returns.bind_ends filtered ?_
  simp only [asks.skip, asks.limit, refsAttr_refsText asks]
  refine written.imp (fun _ t shown => ?_) fun _ fails => ?_
  · obtain ⟨⟨loaded, idle, columns, answered⟩, below⟩ := shown
    exact ⟨⟨loaded, idle, columns, answered⟩, below⟩
  · refine fails.imp_right fun wraps below => ?_
    rcases below with short | stops
    · omega
    · exact wraps.2 stops

/-- So when it returns it can be repeated. -/
theorem Session.Ready.again {dissectors : Dissectors} (ready : s.Ready n)
    (asks : Asks attributes request) (columns : jsonFindAttr attributes "column0" = none)
    (returned : Returns (sharkdSessionProcessFrames dissectors attributes) s ⟨⟩ t)
    : t.Ready n ∧ colInit t.cfile.cinfo = colInit s.cfile.cinfo := by
  obtain ⟨answers, -⟩ := returned.value (processFrames_capture dissectors ready asks columns)
  exact ⟨⟨answers.toLoaded, answers.idle⟩, answers.columns⟩

/-- A request in its proper form with columns of its own never returns. -/
theorem processFrames_user (dissectors : Dissectors) (ready : s.Ready n)
    (asks : Asks attributes request) (columns : jsonFindAttr attributes "column0" ≠ none)
    : Ends (sharkdSessionProcessFrames dissectors attributes) s (fun _ _ => False)
        fun _ => True := by
  obtain ⟨cinfo, wellFormed⟩ := Option.ne_none_iff_exists'.mp asks.columns
  obtain ⟨filterTable, filtered, -⟩ := filterAttr_returns ready.toLoaded attributes
  simp only [sharkdSessionProcessFrames, wellFormed]
  refine Returns.bind_ends filtered ?_
  simp only [asks.skip, asks.limit, refsAttr_refsText asks]
  exact writeFrames_user dissectors none _ (columnsAttr_user columns wellFormed)

/-- Any frames request, in its proper form or not, keeps the session ready if it returns. -/
theorem processFrames_ready (dissectors : Dissectors) (ready : s.Ready n)
    (attributes : Attributes)
    : Ends (sharkdSessionProcessFrames dissectors attributes) s (fun _ t => t.Ready n)
        fun _ => True := by
  simp only [sharkdSessionProcessFrames]
  cases wellFormed : columnsAttr attributes with
  | none => exact returns_pure.ends ready
  | some cinfo =>
      obtain ⟨filterTable, filtered, unfiltered⟩ :=
        filterAttr_returns ready.toLoaded attributes
      have loaded : Session.Loaded { s with filterTable } n :=
        ⟨ready.count, ready.frames, unfiltered⟩
      refine Returns.bind_ends filtered ?_
      simp only
      split
      · by_cases columns : jsonFindAttr attributes "column0" = none
        · have capture : cinfo = .capture := by
            simpa [columnsAttr, columns] using wellFormed.symm
          rw [capture]
          exact (writeFrames_capture dissectors _ loaded ready.idle).imp
            (fun _ t answered => ⟨answered.1.toLoaded, answered.1.idle⟩) fun _ _ => trivial
        · exact (writeFrames_user dissectors none _ (columnsAttr_user columns wellFormed)).imp
            (fun _ _ impossible => impossible.elim) fun _ _ => trivial
      · exact returns_pure.ends ⟨loaded, ready.idle⟩

/-- A frames request as a step of the session, if it returns. -/
def framesStep (dissectors : Dissectors) (s : Session) (attributes : Attributes)
    : Option Session :=
  match (sharkdSessionProcessFrames dissectors attributes).run s with
  | .ok _ t => some t
  | .error _ _ => none

theorem runLabels_framesStep {dissectors : Dissectors}
    (returned : Returns (sharkdSessionProcessFrames dissectors attributes) s ⟨⟩ t)
    : runLabels (framesStep dissectors) s [attributes] = some t := by
  have stepped : framesStep dissectors s attributes = some t := by
    simp only [framesStep, Returns] at returned ⊢
    rw [returned]
  simp only [runLabels, stepped]

/-- Frames requests keep the session ready. -/
theorem Session.Ready.run {dissectors : Dissectors} {earlier : List Attributes}
    (ready : s.Ready n) (reached : runLabels (framesStep dissectors) s earlier = some t)
    : t.Ready n := by
  refine runLabels_keeps (Session.Ready · n) (fun u attributes v ready taken => ?_) ready reached
  have kept := processFrames_ready dissectors ready attributes
  simp only [Ends, framesStep] at kept taken
  cases result : EStateM.run (sharkdSessionProcessFrames dissectors attributes) u with
  | ok value w =>
      rw [result] at kept taken
      exact Option.some.inj taken ▸ kept
  | error stop w =>
      rw [result] at taken
      cases taken

/-- The rows that the loop walks through are the requested ones exactly when the filter
compiles and is passed by the frames up to the last row, away from the wrap.
-/
theorem walked_requested_iff {passes : Nat → Bool} (asks : Asks attributes request)
    (small : n ≤ gMaxUint32) (below : request.StaysBelow n)
    : request.walked n = requestedRows passes n request.skip request.limit request.refs
      ↔ ShownPass passes n request.skip request.limit ∧ BelowWrap n request := by
  have unfiltered := walkedRows_iff asks.refsOk request.skip request.limit small
  have wrap : (gMaxUint32 ∈ slice request.skip request.limit (List.range' 1 n) →
        request.refs = [] ∨ gMaxUint32 ∈ request.refs
        ∨ (gMaxUint32 = request.skip + 1 ∧ 2 ≤ request.refs.length))
      ↔ BelowWrap n request := by
    rw [mem_slice_range']
    constructor
    · intro shown top
      have stops := below.resolve_left (by omega)
      refine ⟨stops.1, stops.2, fun whole => ?_⟩
      rcases shown ⟨by omega, by omega, Or.inr (by omega)⟩ with none | itself | ⟨only, two⟩
      · exact Or.inl none
      · exact Or.inr (Or.inl itself)
      · exact Or.inr (Or.inr ⟨by omega, two⟩)
    · rintro belowWrap ⟨after, inside, limited⟩
      obtain ⟨isLimited, within, last⟩ := belowWrap (by omega)
      rcases last (by omega) with none | itself | ⟨only, two⟩
      · exact Or.inl none
      · exact Or.inr (Or.inl itself)
      · exact Or.inr (Or.inr ⟨by omega, two⟩)
  have nums : (request.walked n).map DissectedRow.num
      = slice request.skip request.limit (List.range' 1 n) := by
    have walked := walkedRows_eq asks.refsOk.increasing asks.refsOk.small n 1 request.skip
      request.limit 0 (by omega) (by omega) (by omega)
    rw [FramesRequest.walked, walked, ← slice_map, List.map_map]
    exact congrArg _ (List.map_id _)
  constructor
  · intro same
    have pass := pass_of_requestedRows same.symm nums
    refine ⟨pass, wrap.mp (unfiltered.mp ?_)⟩
    rw [← requestedRows_of_pass pass, ← same]
    rfl
  · rintro ⟨pass, belowWrap⟩
    rw [requestedRows_of_pass pass]
    exact unfiltered.mpr (wrap.mpr belowWrap)

/-- Rows that hand over the same frames are the same. -/
theorem Session.Loaded.rows_eq {rows rows' : List DissectedRow} {given : List FrameData}
    (loaded : s.Loaded n)
    (first : List.Forall₂ (fun row fdata => s.cfile.given row = some fdata) rows given)
    (second : List.Forall₂ (fun row fdata => s.cfile.given row = some fdata) rows' given)
    : rows = rows' := by
  induction first generalizing rows' with
  | nil =>
      cases second
      rfl
  | cons here _ ih =>
      cases second with
      | cons here' later' =>
          rw [loaded.row_of_given here, loaded.row_of_given here', ih later']

/-- An answer serves the request exactly when its rows are the requested ones and each of them
was dissected.
-/
theorem Session.Answers.served_iff {dissectors : Dissectors} {rows requested : List DissectedRow}
    (answers : s.Answers dissectors n rows t) (loaded : s.Loaded n)
    : (∃ given texts,
          List.Forall₂ (fun row fdata => s.cfile.given row = some fdata) requested given
          ∧ t.dissected = s.dissected ++ given
          ∧ List.Forall₂ (RowOf dissectors s.cfile.cinfo) given texts
          ∧ t.dumper.outputFile = s.dumper.outputFile ++ textLines [jsonArray texts])
      ↔ rows = requested ∧ ∀ row ∈ rows, s.cfile.Dissects dissectors row := by
  obtain ⟨shown, same, noted, output⟩ := answers.written
  constructor
  · rintro ⟨given, texts, isGiven, log, rowOfs, output'⟩
    obtain rfl : given = shown.filterMap Prod.fst :=
      List.append_cancel_left (log.symm.trans noted)
    have dissected := forall₂_rowOf_unique rowOfs (forall₂_rowOf_shown same)
    have sameArray : jsonArray texts = jsonArray (shown.map Prod.snd) := by
      have lines := List.append_cancel_left (output'.symm.trans output)
      simpa [textLines] using lines
    rw [dissected] at sameArray
    -- No row was written without a dissection, or the array would be longer.
    have sublist : (shown.filter fun entry => entry.1.isSome).Sublist shown :=
      List.filter_sublist
    have allTexts := eq_of_jsonArray_sublist (sublist.map Prod.snd) (shown_ne_nil same) sameArray
    have lengths := congrArg List.length allTexts
    rw [List.length_map, List.length_map] at lengths
    obtain ⟨givens, each⟩ := forall₂_given_shown same (sublist.eq_of_length lengths)
    exact ⟨loaded.rows_eq givens isGiven, each⟩
  · rintro ⟨rfl, each⟩
    have all := shown_of_dissects same each
    have rowOfs := forall₂_rowOf_shown same
    rw [all] at rowOfs
    exact ⟨_, _, (forall₂_given_shown same all).1, noted, rowOfs, output⟩

/-- A request that is served returns when its filter compiles. -/
theorem ServesFrames.returns {Program : Type} {dissectors : Dissectors}
    {engine : Tap.DfilterEngine Program Nat} {passes : Nat → Bool}
    (serves : ServesFrames dissectors engine n attributes request s)
    (compiled : request.passes engine = some passes)
    : ∃ t, Returns (sharkdSessionProcessFrames dissectors attributes) s ⟨⟩ t := by
  obtain ⟨t, given, texts, returned, -⟩ := serves.served passes compiled
  exact ⟨t, returned⟩

/-- From a ready state a request in its proper form is answered with the requested rows
exactly when it gets its rows.
-/
theorem Session.Ready.servesFrames_iff_getsRows {Program : Type} {dissectors : Dissectors}
    (ready : s.Ready n) (engine : Tap.DfilterEngine Program Nat) (small : n ≤ gMaxUint32)
    (asks : Asks attributes request)
    : ServesFrames dissectors engine n attributes request s
      ↔ GetsRows dissectors engine n attributes request s := by
  constructor
  · intro serves
    have columns : jsonFindAttr attributes "column0" = none := by
      by_contra present
      obtain ⟨stop, u, raised, -⟩ := (processFrames_user dissectors ready asks present).raises
      cases compiled : request.passes engine with
      | none =>
          obtain ⟨v, returned, -⟩ := serves.refused compiled
          exact raised.not_returns returned
      | some passes =>
          obtain ⟨v, returned⟩ := serves.returns compiled
          exact raised.not_returns returned
    have ends := processFrames_capture dissectors ready asks columns
    cases compiled : request.passes engine with
    | none =>
        -- The code writes an answer, although the filter does not compile.
        obtain ⟨u, returned, -, same⟩ := serves.refused compiled
        obtain ⟨answers, -⟩ := returned.value ends
        obtain ⟨shown, -, -, output⟩ := answers.written
        rw [same] at output
        simp [textLines] at output
    | some passes =>
        obtain ⟨u, given, texts, returned, served⟩ := serves.served passes compiled
        obtain ⟨answers, below⟩ := returned.value ends
        obtain ⟨sameRows, each⟩ := (answers.served_iff ready.toLoaded).mp ⟨given, texts, served⟩
        obtain ⟨pass, wrap⟩ := (walked_requested_iff asks small below).mp sameRows
        exact ⟨columns, ⟨passes, compiled, pass, sameRows ▸ each⟩, wrap⟩
  · intro gets
    obtain ⟨passes, compiled, pass, each⟩ := gets.filter
    have below : request.StaysBelow n := by
      rcases Nat.lt_or_ge n gMaxUint32 with short | top
      · exact Or.inl short
      · obtain ⟨limited, within, -⟩ := gets.wrap (by omega)
        exact Or.inr ⟨limited, within⟩
    have sameRows := (walked_requested_iff asks small below).mpr ⟨pass, gets.wrap⟩
    have ends := processFrames_capture dissectors ready asks gets.columns
    obtain ⟨⟨⟩, u, returned, answers, -⟩ := (ends.imp (fun _ _ holds => holds) (by
      rintro stop (⟨row, member, fails⟩ | above)
      · exact fails (each row (sameRows ▸ member))
      · exact above below)).returns
    obtain ⟨given, texts, served⟩ :=
      (answers.served_iff ready.toLoaded).mpr ⟨sameRows, sameRows ▸ each⟩
    refine ⟨fun refused => ?_, fun passes' compiled' => ?_⟩
    · rw [compiled] at refused
      cases refused
    · obtain rfl : passes = passes' := Option.some.inj (compiled.symm.trans compiled')
      exact ⟨u, given, texts, returned, served⟩

/-- In every state that frames requests reach, a request in its proper form is answered with
the requested rows exactly when it gets its rows.
-/
theorem servesFrames_iff {Program : Type} (dissectors : Dissectors)
    (engine : Tap.DfilterEngine Program Nat) (n : Nat) (attributes : Attributes)
    (request : FramesRequest) (earlier : List Attributes) (s t : Session)
    (ready : s.Ready n) (small : n ≤ gMaxUint32)
    (reached : runLabels (framesStep dissectors) s earlier = some t)
    (asks : Asks attributes request)
    : ServesFrames dissectors engine n attributes request t
      ↔ GetsRows dissectors engine n attributes request t :=
  (ready.run reached).servesFrames_iff_getsRows engine small asks

/-- A frame with nothing special about it. -/
def FrameData.plain (num : Nat) : FrameData where
  num := num
  pktLen := 60
  absSecs := 0
  absNsecs := 0
  hasUserComment := false
  hasPhdrComment := false
  ignored := false
  marked := false
  needColorize := false
  colorFilter := none
  refTime := false
  frameRefNum := 0
  prevDisNum := 0

/-- A session with a capture of n such frames and the columns with given formats, which have
their buffers.
-/
def Session.ofFrames (n : Nat) (formats : List Nat) : Session where
  dumper := .initial
  filterTable := []
  cfile :=
    { count := n
      frames := some ((List.range' 1 n).map .plain)
      cinfo := formats.map fun fmt => { ColumnItem.fresh fmt none 0 with colBuf := some "" }
      filename := none
      fileSize := none
      elapsedSecs := 0
      elapsedNsecs := 0 }
  dissected := []

theorem Session.ready_ofFrames (n : Nat) (formats : List Nat)
    : (Session.ofFrames n formats).Ready n where
  count := rfl
  frames := by
    refine ⟨_, rfl, by simp, fun i fdata found => ?_⟩
    rw [List.getElem?_map, Option.map_eq_some_iff] at found
    obtain ⟨num, counted, rfl⟩ := found
    obtain ⟨inside, rfl⟩ := List.getElem?_eq_some_iff.mp counted
    rw [List.getElem_range']
    simp only [FrameData.plain]
    omega
  unfiltered := by simp [Session.ofFrames]
  idle := ⟨⟨rfl, rfl, rfl⟩, rfl, rfl⟩

/-- A frame dissector that says which frame it was given, and after which. -/
def tellingDissector : FrameDissector where
  dissect fdata _ :=
    .ok (fdata, fun i => if i = 0 then toString fdata.num else toString fdata.frameRefNum)
  num := by
    intro fdata columns result dissected
    cases dissected
    rfl

/-- A session where every record can be read. -/
def tellingDissectors : Dissectors := ⟨false, some tellingDissector, fun _ => some 0⟩

/-- The attributes of a request for three frames. -/
def sliceAttributes : Attributes :=
  [("filter", "ip"), ("skip", "2"), ("limit", "3"), ("refs", "2,3,5")]

theorem asks_slice : Asks sliceAttributes ⟨some "ip", 2, 3, [2, 3, 5]⟩ where
  filter := by decide
  skip := by decide
  limit := by decide
  refs := by decide
  refsOk := ⟨by decide, by decide, by decide⟩
  columns := by decide

/-- An engine whose every text compiles to a program that only frame 6 does not pass. -/
def notSixEngine : Tap.DfilterEngine Unit Nat := ⟨fun _ => .ok (some ()), fun _ f => f ≠ 6⟩

theorem passes_slice
    : FramesRequest.passes ⟨some "ip", 2, 3, [2, 3, 5]⟩ notSixEngine
      = some fun f => decide (f ≠ 6) :=
  rfl

/-- The three frames can be had from every ready state whose columns have their buffers. -/
theorem getsRows_slice {s : Session} (ready : s.Ready 6) {columns : List ColumnItem}
    (init : colInit s.cfile.cinfo = some columns)
    : GetsRows tellingDissectors notSixEngine 6 sliceAttributes ⟨some "ip", 2, 3, [2, 3, 5]⟩
        s := by
  refine ⟨by decide, ⟨fun f => f ≠ 6, passes_slice, Or.inr fun f _ _ shown => ?_,
    fun row member => ?_⟩, fun top => by cases top⟩
  · have limited : 3 = 0 ∨ f ≤ 2 + 3 := shown
    have notSix : f ≠ 6 := by omega
    simpa using notSix
  · have within : ∀ row ∈ requestedRows (fun f => f ≠ 6) 6 2 3 [2, 3, 5],
        1 ≤ row.num ∧ row.num ≤ 6 := by
      decide
    obtain ⟨first, last⟩ := within row member
    obtain ⟨fdata, found, -⟩ := ready.find first last
    exact ⟨fdata, 0, _, found, rfl, by decide, columns, tellingDissector, _, _, init, rfl, rfl,
      rfl⟩

/-- So the request returns. -/
theorem returns_slice {s : Session} (ready : s.Ready 6) {columns : List ColumnItem}
    (init : colInit s.cfile.cinfo = some columns)
    : ∃ t, Returns (sharkdSessionProcessFrames tellingDissectors sliceAttributes) s ⟨⟩ t := by
  have serves := (ready.servesFrames_iff_getsRows notSixEngine (by decide) asks_slice).mpr
    (getsRows_slice ready init)
  exact serves.returns passes_slice

/-- Three of six frames are asked for twice, with a filter that only frame 6 does not pass. -/
theorem servesFrames_slice
    : ∃ t, runLabels (framesStep tellingDissectors) (.ofFrames 6 [35, 28]) [sliceAttributes]
          = some t
      ∧ ServesFrames tellingDissectors notSixEngine 6 sliceAttributes
          ⟨some "ip", 2, 3, [2, 3, 5]⟩ t := by
  have ready := Session.ready_ofFrames 6 [35, 28]
  obtain ⟨t, returned⟩ := returns_slice ready rfl
  refine ⟨t, runLabels_framesStep returned, ?_⟩
  obtain ⟨ready', columns⟩ := ready.again asks_slice (by decide) returned
  exact (servesFrames_iff tellingDissectors notSixEngine 6 sliceAttributes _ [sliceAttributes]
    (.ofFrames 6 [35, 28]) t ready (by decide) (runLabels_framesStep returned) asks_slice).mpr
    (getsRows_slice ready' columns)

end PacketDissector.Sharkd
