import PacketDissector.Library.Runs
import PacketDissector.Sharkd.FramesContract
import PacketDissector.Sharkd.TapRequestsContract

/-! No request leaves a tap listener behind: the queue of listeners is the same before and after
each request, blocks that were in use stay in use, and what a request releases it was handed out
itself.
-/

namespace PacketDissector.Sharkd

open PacketDissector.Library PacketDissector.Epan PacketDissector.Epan.Tap PacketDissector.Wsutil

variable {Program : Type} {start : TapsState Program} {listening owned : List Ptr}
  {s t u : TapsState Program} {host : TapHost} {tables : Tables}

/-- No listener was left, only new blocks were taken and released, and complete lines of JSON
were written if nothing was being written before.
-/
structure Restored (host : TapHost) (s t : TapsState Program) : Prop where
  tap : t.tap = s.tap
  heap : s.heap.Since host.malloc t.heap
  answered : s.session.dumper.Idle → Answered s.session.dumper t.session.dumper

/-- The taps are the same with their listeners, the blocks in use are still in use, and what was
released was handed out since and reaches to the data of no listener.
-/
structure LeavesNoListener (host : TapHost) (s t : TapsState Program) : Prop where
  tap : t.tap = s.tap
  live : ∀ block ∈ s.heap.live, block ∈ t.heap.live
  released
    : ∃ own, t.heap.released = own ++ s.heap.released
        ∧ ∀ block ∈ own, NewSince host.malloc s.heap block
          ∧ ∀ tl ∈ t.tap.tapListenerQueue, ¬ block.Contains tl.tapdata

/-- The data of every listener lies in a block in use, or apart from all that is handed out. -/
def DataPlaced (host : TapHost) (s : TapsState Program) : Prop :=
  ∀ tl ∈ s.tap.tapListenerQueue, s.heap.Places host.malloc tl.tapdata

/-- Who holds no listener any more has restored the queue. -/
theorem Holds.restored (holds : Holds host s [] owned t) : Restored host s t :=
  ⟨holds.done, holds.since, holds.answered⟩

/-- Then no listener is left with data that was released. -/
theorem Restored.leavesNoListener (restored : Restored host s t) (placed : DataPlaced host s)
    : LeavesNoListener host s t := by
  obtain ⟨own, released, each⟩ := restored.heap.released
  refine ⟨restored.tap, restored.heap.live, own, released, fun block member => ?_⟩
  have new := each block member
  refine ⟨new, fun tl listens => ?_⟩
  rw [restored.tap] at listens
  exact new.not_contains (placed tl listens)

theorem Restored.refl (host : TapHost) (s : TapsState Program) : Restored host s s :=
  ⟨rfl, .refl _ _, fun idle => .refl idle⟩

theorem Restored.trans (first : Restored host s t) (rest : Restored host t u)
    : Restored host s u := by
  refine ⟨rest.tap.trans first.tap, first.heap.trans rest.heap, fun idle => ?_⟩
  have here := first.answered idle
  exact here.trans (rest.answered here.idle)

-----------------------------------------------------------------------------------------
-- Answers
-----------------------------------------------------------------------------------------

theorem isJson_zero : IsJson "0".toList := isJson_decimal 0

theorem tapAnswer_ends {dumper : JsonDumper} (idle : dumper.Idle)
    : Ends tapAnswer dumper (fun _ t => Answered dumper t) fun _ => False := by
  have members : WritesMembers 1 (do
      sharkdJsonArrayOpen "taps"
      sharkdJsonArrayClose
      sharkdJsonValueAnyf "err" (some "0".toList)) := by
    have array := (WritesElements.nil 2).arrayMember "taps" (by decide)
    have both := array.bind (writesMembers_anyf 1 "err" isJson_zero)
    simpa only [bind_assoc, pure_bind] using both
  have answer := (members.object (by decide)).answer idle
  simpa only [tapAnswer, bind_assoc] using answer

theorem tapAnswer_neverFrees : NeverFrees tapAnswer :=
  (neverFrees_change _ _ _).bind fun _ => (neverFrees_arrayOpen _).bind fun _ =>
    (neverFrees_change _ _ _).bind fun _ => (neverFrees_anyf _ _).bind fun _ =>
    (neverFrees_change _ _ _).finish

theorem followAnswer_ends (follower : RegisterFollow) {dumper : JsonDumper}
    (idle : dumper.Idle)
    : Ends (followAnswer follower) dumper (fun _ t => Answered dumper t) fun _ => False := by
  have zero := isJson_decimal 0
  have members :=
    (writesMembers_anyf 1 "err" isJson_zero).bind <|
    (writesMembers_string 1 "shost" noneName).bind <|
    (writesMembers_string 1 "sport" (follower.portToDisplay 0)).bind <|
    (writesMembers_anyf 1 "sbytes" zero).bind <|
    (writesMembers_string 1 "chost" noneName).bind <|
    (writesMembers_string 1 "cport" (follower.portToDisplay 0)).bind <|
    writesMembers_anyf 1 "cbytes" zero
  have answer := (members.object (by decide)).answer idle
  simpa only [followAnswer, bind_assoc] using answer

theorem followAnswer_neverFrees (follower : RegisterFollow)
    : NeverFrees (followAnswer follower) :=
  (neverFrees_change _ _ _).bind fun _ => (neverFrees_anyf _ _).bind fun _ =>
    (neverFrees_string _ _).bind fun _ => (neverFrees_string _ _).bind fun _ =>
    (neverFrees_anyf _ _).bind fun _ => (neverFrees_string _ _).bind fun _ =>
    (neverFrees_string _ _).bind fun _ => (neverFrees_anyf _ _).bind fun _ =>
    (neverFrees_change _ _ _).finish

theorem objectAnswer_ends (tokToken : String) (entry : ExportObjectEntry) {dumper : JsonDumper}
    (idle : dumper.Idle)
    : Ends (objectAnswer tokToken entry) dumper (fun _ t => Answered dumper t)
        fun _ => False := by
  have members :=
    (writesMembers_string 1 "file" (entry.filename.getD tokToken)).bind <|
    (writesMembers_string 1 "mime" (entry.contentType.getD "application/octet-stream")).bind <|
    writesMembers_base64 "data" entry.payloadData (by decide)
  have answer := (members.object (by decide)).answer idle
  simpa only [objectAnswer, bind_assoc] using answer

theorem objectAnswer_neverFrees (tokToken : String) (entry : ExportObjectEntry)
    : NeverFrees (objectAnswer tokToken entry) :=
  (neverFrees_change _ _ _).bind fun _ => (neverFrees_string _ _).bind fun _ =>
    (neverFrees_string _ _).bind fun _ => (neverFrees_base64 _ _).bind fun _ =>
    (neverFrees_change _ _ _).finish

-----------------------------------------------------------------------------------------
-- Tap, follow and download
-----------------------------------------------------------------------------------------

/-- A request that does nothing. -/
theorem silent_ends : Ends (pure () : TapsM Program Unit) s (fun _ t => Restored host s t)
    NoInvalidFree :=
  returns_pure.ends (.refl host s)

theorem processTap_ends (surrounds : Surrounds host s.tap.tapListenerQueue) (tables : Tables)
    (attributes : Attributes)
    : Ends (sharkdSessionProcessTap host tables attributes) s (fun _ t => Restored host s t)
        NoInvalidFree := by
  have nothing : Holds host s (([] : List TapRow).flatMap listensTo)
      (([] : List TapRow).flatMap ownedBy) s := .initial host s
  refine Ends.bind (tapLoop_ends surrounds tables attributes 16 0 nothing) ?_
  intro rows t held
  split
  · exact returns_pure.ends held.restored
  · refine Ends.bind (onTapsDumper_ends held tapAnswer_neverFrees fun _ => tapAnswer_ends) ?_
    intro _ u held'
    exact (removeRows_ends rows held').imp (fun _ v done => done.restored) fun _ h => h

theorem followStream_ends (surrounds : Surrounds host s.tap.tapListenerQueue)
    (follower : RegisterFollow) (tokFilter : String)
    : Ends (followStream host follower tokFilter) s (fun _ t => Restored host s t)
        NoInvalidFree := by
  refine Ends.bind (gNew_ends surrounds .followInfo (.initial host s)) ?_
  rintro followInfo t ⟨-, held⟩
  refine Ends.bind (addTapListener_ends _ _ _ _ _ _ _ held) fun error u added => ?_
  cases error with
  | some error =>
      exact (frees_gFree followInfo host s [] [] u added).imp (fun _ v freed => freed.restored)
        fun _ h => h
  | none =>
      refine Ends.bind (onTapsDumper_ends added (followAnswer_neverFrees follower) fun _ =>
        followAnswer_ends follower) fun _ v held' => ?_
      refine Ends.bind (dropTapListener_ends held') fun _ w dropped => ?_
      exact (frees_gFree followInfo host s [] [] w dropped).imp
        (fun _ x freed => freed.restored) fun _ h => h

theorem processFollow_ends (surrounds : Surrounds host s.tap.tapListenerQueue)
    (tables : Tables) (attributes : Attributes)
    : Ends (sharkdSessionProcessFollow host tables attributes) s (fun _ t => Restored host s t)
        NoInvalidFree := by
  simp only [sharkdSessionProcessFollow]
  split
  · split
    · exact followStream_ends surrounds _ _
    · exact silent_ends
  · exact silent_ends

theorem downloadRtp_ends (surrounds : Surrounds host s.tap.tapListenerQueue) (initStr : String)
    : Ends (downloadRtp host initStr) s (fun _ t => Restored host s t) NoInvalidFree := by
  refine Ends.bind (sharkdRtpMatchInit_ends surrounds _ (.initial host s)) ?_
  intro succeeded t held
  split
  · refine Ends.bind (addTapListener_ends _ _ _ _ _ _ _ held) fun error u added => ?_
    cases error with
    | some error => exact returns_pure.ends added.restored
    | none =>
        exact (dropTapListener_ends added).imp (fun _ v dropped => dropped.restored)
          fun _ h => h
  · exact returns_pure.ends held.restored

theorem processDownload_ends (surrounds : Surrounds host s.tap.tapListenerQueue)
    (attributes : Attributes)
    : Ends (sharkdSessionProcessDownload host attributes) s (fun _ t => Restored host s t)
        NoInvalidFree := by
  simp only [sharkdSessionProcessDownload]
  split
  · exact silent_ends
  · rename_i tokToken _
    split
    · refine Returns.bind_ends returns_get ?_
      split
      · rename_i entry _
        exact (onTapsDumper_ends (.initial host s) (objectAnswer_neverFrees tokToken entry)
          fun _ => objectAnswer_ends tokToken entry).imp (fun _ t held => held.restored)
          fun _ h => h
      · exact silent_ends
    · split
      · exact silent_ends
      · split
        · exact downloadRtp_ends surrounds _
        · exact silent_ends

-----------------------------------------------------------------------------------------
-- Graphs
-----------------------------------------------------------------------------------------

/-- The graphs that listen: those without an error. -/
def listeningGraphs (host : TapHost) : Nat → List (Option String) → List Ptr
  | _, [] => []
  | i, none :: rest => host.graphs i :: listeningGraphs host (i + 1) rest
  | i, some _ :: rest => listeningGraphs host (i + 1) rest

theorem listeningGraphs_concat (host : TapHost) (i : Nat) (errors : List (Option String))
    (error : Option String)
    : listeningGraphs host i (errors ++ [error])
      = listeningGraphs host i errors
        ++ if error = none then [host.graphs (i + errors.length)] else [] := by
  induction errors generalizing i with
  | nil => cases error <;> simp [listeningGraphs]
  | cons first rest ih =>
      have shifted : i + (rest.length + 1) = i + 1 + rest.length := by omega
      cases first <;> simp [listeningGraphs, ih, shifted]

/-- A graph before the others is none of them. -/
theorem notMem_listeningGraphs {queue : List (TapListener Program)}
    (surrounds : Surrounds host queue) {i j : Nat} (errors : List (Option String))
    (earlier : i < j) (room : j + errors.length ≤ 10)
    : host.graphs i ∉ listeningGraphs host j errors := by
  induction errors generalizing j with
  | nil => simp [listeningGraphs]
  | cons first rest ih =>
      simp only [List.length_cons] at room
      have later := ih (j := j + 1) (by omega) (by omega)
      cases first with
      | some error => exact later
      | none =>
          rw [listeningGraphs, List.mem_cons, not_or]
          refine ⟨fun same => ?_, later⟩
          have := surrounds.graphs i (by omega) j (by omega) same
          omega

theorem checkFieldUnit_ends (fieldName : Option String) (itemUnit : IoGraphItemUnit)
    (holds : Holds host start listening owned s)
    : Ends (checkFieldUnit fieldName itemUnit) s
        (fun _ t => Holds host start listening owned t) NoInvalidFree := by
  have looked : ∀ name, Ends (Proto.protoRegistrarGetByname name) s.registry (fun _ _ => True)
      NoInvalidFree := fun name => returns_get.bind_ends (returns_pure.ends trivial)
  simp only [checkFieldUnit]
  split
  · exact returns_pure.ends holds
  · exact returns_pure.ends holds
  · exact returns_pure.ends holds
  · split
    · exact returns_pure.ends holds
    · exact returns_pure.ends holds
    · refine Ends.bind (inTapsRegistry_ends holds (looked _)) fun hfi t held => ?_
      cases hfi <;> exact returns_pure.ends held

theorem startGraph_ends (graphCount : Nat) (tokGraph : String) (calcType : IoGraphItemUnit)
    (tokFilter : Option String) (holds : Holds host start listening owned s)
    : Ends (startGraph host graphCount tokGraph calcType tokFilter) s
        (fun error t => Holds host start
          (if error = none then host.graphs graphCount :: listening else listening) owned t)
        NoInvalidFree := by
  refine Ends.bind (checkFieldUnit_ends _ calcType holds) fun error t held => ?_
  cases error with
  | some error => exact returns_pure.ends held
  | none => exact addTapListener_ends _ _ _ _ _ _ _ held

/-- The graphs of the loop are at most those asked for, by induction over the rounds left. -/
theorem graphLoop_ends (attributes : Attributes) (left i : Nat)
    {errors : List (Option String)} (room : errors.length + left ≤ 10)
    (holds : Holds host start (listeningGraphs host 0 errors) owned s)
    : Ends (graphLoop host attributes left i errors) s
        (fun errors t => errors.length ≤ 10
          ∧ Holds host start (listeningGraphs host 0 errors) owned t)
        NoInvalidFree := by
  induction left generalizing i errors s with
  | zero => exact returns_pure.ends ⟨room, holds⟩
  | succ left ih =>
      have here : errors.length ≤ 10 := by omega
      simp only [graphLoop]
      split
      · exact returns_pure.ends ⟨here, holds⟩
      · split
        · exact returns_pure.ends ⟨here, holds⟩
        · refine Ends.bind (startGraph_ends _ _ _ _ holds) fun error t held => ?_
          apply ih
          · rw [List.length_append, List.length_singleton]
            omega
          · rw [listeningGraphs_concat, Nat.zero_add]
            refine held.perm ?_ (.refl owned)
            cases error with
            | none => exact (List.perm_append_singleton _ _).symm
            | some error => simp

/-- The removals of the second loop. -/
def dropGraphs (host : TapHost) : Nat → List (Option String) → TapsM Program Unit
  | _, [] => pure ()
  | i, _ :: rest => do
      dropTapListener (host.graphs i)
      dropGraphs host (i + 1) rest

/-- They leave no graph behind; for a graph with an error there is nothing to remove. -/
theorem dropGraphs_ends (surrounds : Surrounds host start.tap.tapListenerQueue) {i : Nat}
    (errors : List (Option String)) (room : i + errors.length ≤ 10)
    (holds : Holds host start (listeningGraphs host i errors) owned s)
    : Ends (dropGraphs host i errors) s (fun _ t => Holds host start [] owned t)
        NoInvalidFree := by
  induction errors generalizing i s with
  | nil => exact returns_pure.ends holds
  | cons error rest ih =>
      simp only [List.length_cons] at room
      have dropped : Ends (dropTapListener (host.graphs i)) s
          (fun _ t => Holds host start (listeningGraphs host (i + 1) rest) owned t)
          NoInvalidFree := by
        cases error with
        | none => exact dropTapListener_ends holds
        | some error =>
            have notHeld := notMem_listeningGraphs surrounds rest (Nat.lt_succ_self i) (by omega)
            exact dropTapListener_absent holds notHeld (surrounds.graphsApart i (by omega))
      exact Ends.bind dropped fun _ t held => ih (by omega) held

/-- The texts of the second loop. -/
def graphObjects : List (Option String) → DumperM Unit
  | [] => pure ()
  | error :: rest => do
      graphObject error
      graphObjects rest

theorem onTapsDumper_bind {α β : Type} (x : DumperM α) (y : α → DumperM β)
    : (onTapsDumper (x >>= y) : TapsM Program β)
      = onTapsDumper x >>= fun a => onTapsDumper (y a) := by
  funext s
  simp only [onTapsDumper, onDumper, focus, EStateM.run, bind, EStateM.bind]
  cases x s.session.dumper <;> rfl

/-- A text can be written before a listener is removed. -/
theorem dropTapListener_textFirst {α β : Type} {x : DumperM α} {k : α → TapsM Program β}
    {tapdata : Ptr} {Q : β → TapsState Program → Prop} {E : Stop → Prop}
    (ends : Ends (onTapsDumper x >>= fun a => dropTapListener tapdata >>= fun _ => k a) s Q E)
    : Ends (dropTapListener tapdata >>= fun _ => onTapsDumper x >>= k) s Q E := by
  have dropped : Returns (dropTapListener tapdata) s ⟨⟩
      { s with tap := (removeTapListener tapdata s.tap).2 } := returns_modify _
  refine dropped.bind_ends ?_
  rcases returns_or_raises x s.session.dumper with ⟨a, dumper, written⟩ | ⟨e, dumper, raised⟩
  · have first : Returns (onTapsDumper x) s a _ := returns_focus (returns_focus written)
    have rest := (returns_modify _).ends_rest (first.ends_rest ends)
    have second : Returns (onTapsDumper x)
      { s with tap := (removeTapListener tapdata s.tap).2 } a _ :=
      returns_focus (returns_focus written)
    exact second.bind_ends rest
  · have first : Raises (onTapsDumper x) s e _ := raises_focus (raises_focus raised)
    have second : Raises (onTapsDumper x)
      { s with tap := (removeTapListener tapdata s.tap).2 } e _ :=
      raises_focus (raises_focus raised)
    exact second.bind_first.ends (first.bind_first.ends_error ends)

/-- All texts of the second loop can be written before the removals, by induction over the
graphs.
-/
theorem answerGraphs_textsFirst {Q : Unit → TapsState Program → Prop} {E : Stop → Prop}
    {closing : DumperM Unit} (i : Nat) (errors : List (Option String))
    (ends : Ends (onTapsDumper (graphObjects errors >>= fun _ => closing) >>= fun _ =>
      dropGraphs host i errors) s Q E)
    : Ends (answerGraphs host i errors >>= fun _ => onTapsDumper closing) s Q E := by
  induction errors generalizing i s with
  | nil => simpa only [graphObjects, pure_bind, dropGraphs, answerGraphs, bind_pure_unit] using ends
  | cons error rest ih =>
      simp only [graphObjects, dropGraphs, answerGraphs, bind_assoc] at ends ⊢
      rw [onTapsDumper_bind, bind_assoc] at ends
      refine ends.bind_mono (fun _ h => h) fun _ t later => ?_
      have textFirst := dropTapListener_textFirst later
      exact textFirst.bind_mono (fun _ h => h) fun _ u rest => ih (i + 1) rest

-----------------------------------------------------------------------------------------
-- Iograph
-----------------------------------------------------------------------------------------

theorem graphObjects_writesElements (errors : List (Option String))
    : WritesElements 2 (graphObjects errors) := by
  induction errors with
  | nil => exact .nil 2
  | cons error rest ih =>
      have object : WritesJson 2 (graphObject error) := by
        cases error with
        | some error => exact (writesMembers_string 3 "errmsg" error).object (by decide)
        | none =>
            have array := (WritesElements.nil 4).arrayMember "items" (by decide)
            simpa only [graphObject, pure_bind, bind_assoc] using array.object (by decide)
      exact object.element.bind ih

/-- The texts of an iograph request are one object. -/
theorem graphsAnswer_ends (errors : List (Option String)) {dumper : JsonDumper}
    (idle : dumper.Idle)
    : Ends (do openGraphs; graphObjects errors; closeGraphs) dumper
        (fun _ t => Answered dumper t) fun _ => False := by
  have members := (graphObjects_writesElements errors).arrayMember "iograph" (by decide)
  have answer := (members.object (by decide)).answer idle
  simpa only [openGraphs, closeGraphs, bind_assoc] using answer

theorem graphObjects_neverFrees (errors : List (Option String))
    : NeverFrees (graphObjects errors) := by
  induction errors with
  | nil => exact neverFrees_pure _
  | cons error rest ih =>
      have object : NeverFrees (graphObject error) := by
        refine (neverFrees_change _ _ _).bind fun _ => ?_
        cases error with
        | some error => exact (neverFrees_string _ _).bind fun _ => neverFrees_change _ _ _
        | none =>
            exact (neverFrees_arrayOpen _).bind fun _ => (neverFrees_change _ _ _).bind fun _ =>
              neverFrees_change _ _ _
      exact object.bind fun _ => ih

theorem graphsAnswer_neverFrees (errors : List (Option String))
    : NeverFrees (do openGraphs; graphObjects errors; closeGraphs) := by
  refine ((neverFrees_change _ _ _).bind fun _ => neverFrees_arrayOpen _).bind fun _ => ?_
  refine (graphObjects_neverFrees errors).bind fun _ => ?_
  exact (neverFrees_change _ _ _).bind fun _ => (neverFrees_change _ _ _).finish

theorem processIograph_ends (surrounds : Surrounds host s.tap.tapListenerQueue)
    (attributes : Attributes)
    : Ends (sharkdSessionProcessIograph host attributes) s (fun _ t => Restored host s t)
        NoInvalidFree := by
  simp only [sharkdSessionProcessIograph]
  split
  · exact silent_ends
  · have nothing : Holds host s (listeningGraphs host 0 []) [] s := .initial host s
    refine Ends.bind (graphLoop_ends attributes 10 0 (Nat.le_refl 10) nothing) ?_
    rintro errors t ⟨room, held⟩
    -- The loop writes a graph and drops its listener. All texts may as well come first.
    have texts := onTapsDumper_ends held (graphsAnswer_neverFrees errors) fun _ =>
      graphsAnswer_ends errors
    have removed : Ends (onTapsDumper (do openGraphs; graphObjects errors; closeGraphs)
          >>= fun _ => dropGraphs host 0 errors) t (fun _ u => Restored host s u)
        NoInvalidFree := by
      refine Ends.bind texts fun _ u held' => ?_
      exact (dropGraphs_ends surrounds errors (by omega) held').imp (fun _ v done =>
        done.restored) fun _ h => h
    rw [onTapsDumper_bind, bind_assoc] at removed
    exact removed.bind_mono (fun _ h => h) fun _ u later =>
      answerGraphs_textsFirst 0 errors later

-----------------------------------------------------------------------------------------
-- Runs
-----------------------------------------------------------------------------------------

/-- A request that listens to taps. -/
inductive TapsRequest where
  | tap (attributes : Attributes)
  | follow (attributes : Attributes)
  | iograph (attributes : Attributes)
  | download (attributes : Attributes)

/-- The function that serves a request. -/
def TapsRequest.process (host : TapHost) (tables : Tables) : TapsRequest → TapsM Program Unit
  | .tap attributes => sharkdSessionProcessTap host tables attributes
  | .follow attributes => sharkdSessionProcessFollow host tables attributes
  | .iograph attributes => sharkdSessionProcessIograph host attributes
  | .download attributes => sharkdSessionProcessDownload host attributes

/-- The state after a request, unless the process ended. -/
def serveTaps (host : TapHost) (tables : Tables) (s : TapsState Program)
    (request : TapsRequest)
    : Option (TapsState Program) :=
  match (request.process host tables).run s with
  | .ok _ t => some t
  | .error _ _ => none

/-- A request that is served returns. -/
theorem returns_of_served {request : TapsRequest}
    (served : (serveTaps host tables s request).isSome = true)
    : ∃ t, Returns (request.process host tables) s ⟨⟩ t := by
  cases result : (request.process host tables).run s with
  | ok value t => exact ⟨t, result⟩
  | error stop t =>
      simp only [serveTaps, result] at served
      cases served

/-- One request. -/
theorem process_ends (surrounds : Surrounds host s.tap.tapListenerQueue) (tables : Tables)
    (request : TapsRequest)
    : Ends (request.process host tables) s (fun _ t => Restored host s t) NoInvalidFree := by
  cases request with
  | tap attributes => exact processTap_ends surrounds tables attributes
  | follow attributes => exact processFollow_ends surrounds tables attributes
  | iograph attributes => exact processIograph_ends surrounds attributes
  | download attributes => exact processDownload_ends surrounds attributes

/-- Requests in any order restore the queue. -/
theorem runTaps_restored (surrounds : Surrounds host s.tap.tapListenerQueue)
    {requests : List TapsRequest}
    (ends : runLabels (serveTaps host tables) s requests = some t)
    : Restored host s t := by
  refine runLabels_keeps (Restored host s) ?_ (Restored.refl host s) ends
  intro u request v restored served
  have same : u.tap = s.tap := restored.tap
  have step := process_ends (same ▸ surrounds) tables request
  simp only [serveTaps] at served
  simp only [Ends] at step
  split at served
  · rename_i result
    rw [result] at step
    obtain rfl := Option.some.inj served
    exact restored.trans step
  · cases served

/-- A tap, follow, iograph or download request that returns has left the queue of listeners as
it was. Only blocks that it was handed out itself are released, none of them reaches to the
data of a listener, and free is never called for what is not in use.
-/
theorem request_leavesNoListener (host : TapHost) (tables : Tables) (s : TapsState Program)
    (request : TapsRequest) (surrounds : Surrounds host s.tap.tapListenerQueue)
    (placed : DataPlaced host s)
    : Ends (request.process host tables) s (fun _ t => LeavesNoListener host s t)
        NoInvalidFree :=
  (process_ends surrounds tables request).imp
    (fun _ _ restored => restored.leavesNoListener placed) fun _ h => h

/-- After any requests that listen to taps no listener is left behind, all blocks that were in
use before the first are in use, only blocks that the requests were handed out are released,
and the answers are lines of JSON. The same holds after any further request, which never calls
free for what is not in use.
-/
theorem tapsRequests_restoreListeners (host : TapHost) (tables : Tables) (s : TapsState Program)
    (requests : List TapsRequest) (surrounds : Surrounds host s.tap.tapListenerQueue)
    (placed : DataPlaced host s) (idle : s.session.dumper.Idle) (t : TapsState Program)
    (ends : runLabels (serveTaps host tables) s requests = some t)
    : LeavesNoListener host s t
      ∧ Answered s.session.dumper t.session.dumper
      ∧ ∀ request : TapsRequest,
        Ends (request.process host tables) t
          (fun _ u => LeavesNoListener host s u ∧ Answered s.session.dumper u.session.dumper)
          NoInvalidFree := by
  have restored := runTaps_restored surrounds ends
  have same : t.tap = s.tap := restored.tap
  refine ⟨restored.leavesNoListener placed, restored.answered idle, fun request => ?_⟩
  refine (process_ends (same ▸ surrounds) tables request).imp (fun _ u later => ?_) fun _ h => h
  have both := restored.trans later
  exact ⟨both.leavesNoListener placed, both.answered idle⟩

/-- The sum of the ends of blocks. -/
def sumOfEnds : List Block → Nat
  | [] => 0
  | block :: rest => block.base + block.size + sumOfEnds rest

/-- An allocator that starts each block above all others. -/
def bumpHost : TapHost where
  malloc heap _ := 1000 + sumOfEnds heap.live
  sizeOf _ := 8
  hashOffset := 4
  rtpTapinfo := 100
  rtpReq := 110
  graphs i := 200 + i
  getHostIpaddr _ := true

/-- A sequence analysis and a table of response times are registered. -/
def twoTables : Tables where
  registeredSeqAnalysis := [("any", ⟨"frame", 0, "frame_seq_packet"⟩)]
  registeredCtTables := []
  registeredStatTables := []
  registeredRtdTables := [("mgcp", ⟨"mgcp", "mgcp_packet", 1, 2, none⟩)]
  registeredSrtTables := []
  registeredEoTables := []
  registeredFollowers := []

/-- One listener of the tap frame, with its data at address 7 of a block that starts at 4. -/
def frameListening : TapsState Unit where
  session := .ofFrames 0 []
  registry := .initial
  tap :=
    { tappingIsActive := false
      tapDissectorList := ["frame", "expert", "rtp"]
      tapPacketArray := []
      tapListenerQueue :=
        [⟨1, true, false, 0, none, none, 7, none, some "frame_packet", none, none⟩] }
  heap := ⟨[⟨4, 8⟩], []⟩
  sharkdEoList := []

theorem end_le_sum {block : Block} {live : List Block} (member : block ∈ live)
    : block.base + block.size ≤ sumOfEnds live := by
  induction live with
  | nil => cases member
  | cons first rest ih =>
      rw [sumOfEnds]
      rcases List.mem_cons.mp member with rfl | later
      · exact Nat.le_add_right _ _
      · exact Nat.le_add_left_of_le (ih later)

theorem surrounds_bumpHost : Surrounds bumpHost frameListening.tap.tapListenerQueue where
  fresh :=
    { notNull := fun h size _ => by simp [bumpHost]
      apart := fun h size _ block member => by
        have bound := end_le_sum member
        refine ⟨?_, fun address inside other => ?_⟩
        · simp only [bumpHost, ne_eq]
          omega
        · simp only [Block.Contains, bumpHost] at inside other
          omega }
  sized := by simp [bumpHost]
  rtpTapinfo := by simp [bumpHost]
  graphs i _ j _ same := Nat.add_left_cancel same
  graphsApart i _ member := by
    have seven : 200 + i = 7 := List.mem_singleton.mp member
    omega

theorem dataPlaced_frameListening : DataPlaced bumpHost frameListening := by
  intro tl listens
  obtain rfl := List.mem_singleton.mp listens
  exact Or.inl ⟨⟨4, 8⟩, List.mem_singleton_self _, by simp [Block.Contains]⟩

/-- An unknown tap, a sequence analysis and rtp-streams twice. -/
def fourTaps : TapsRequest :=
  .tap [("tap0", "rtd:mgcp"), ("tap1", "seqa:any"), ("tap2", "rtp-streams"),
    ("tap3", "rtp-streams")]

theorem served_fourTaps
    : (serveTaps bumpHost twoTables frameListening fourTaps).isSome = true := by
  decide +kernel

theorem request_leavesNoListener_taps
    : ∃ t, Returns (fourTaps.process bumpHost twoTables) frameListening ⟨⟩ t
        ∧ LeavesNoListener bumpHost frameListening t := by
  obtain ⟨t, returned⟩ := returns_of_served served_fourTaps
  have ends := request_leavesNoListener bumpHost twoTables frameListening fourTaps
    surrounds_bumpHost dataPlaced_frameListening
  exact ⟨t, returned, returned.value ends⟩

/-- Taps, and then a graph. -/
def tapsThenGraph : List TapsRequest := [fourTaps, .iograph [("graph0", "packets")]]

theorem served_tapsThenGraph
    : (runLabels (serveTaps bumpHost twoTables) frameListening tapsThenGraph).isSome = true := by
  decide +kernel

theorem tapsRequests_restoreListeners_graph
    : ∃ t, runLabels (serveTaps bumpHost twoTables) frameListening tapsThenGraph = some t
      ∧ LeavesNoListener bumpHost frameListening t := by
  have idle : frameListening.session.dumper.Idle := ⟨⟨rfl, rfl, rfl⟩, rfl, rfl⟩
  obtain ⟨t, ends⟩ := Option.isSome_iff_exists.mp served_tapsThenGraph
  have restored := tapsRequests_restoreListeners bumpHost twoTables frameListening tapsThenGraph
    surrounds_bumpHost dataPlaced_frameListening idle t ends
  exact ⟨t, ends, restored.1⟩

end PacketDissector.Sharkd
