import PacketDissector.Epan.Register

/-! What the registration drivers promise about their mutex and their completion token, and
exactly which runs keep the promise.
-/

namespace PacketDissector.Epan.Register

open PacketDissector.Library

-----------------------------------------------------------------------------------------
-- The contract
-----------------------------------------------------------------------------------------

/-- The index and the current name of a cb_func call. -/
@[simp]
def Event.cbFunc? : Event → Option (Nat × Option String)
  | .cbFunc index curCbName => some (index, curCbName)
  | .mutexLock _ => none
  | .clientCallback _ _ => none

/-- The message of a client callback. -/
@[simp]
def Event.clientCallback? : Event → Option String
  | .clientCallback _ message => some message
  | .mutexLock _ => none
  | .cbFunc _ _ => none

/-- The visits a call owes its table: each entry once, in order, under its own name. -/
def tableVisits (table : List DissectorReg) : List (Nat × Option String) :=
  table.zipIdx.map fun (entry, index) => (index, entry.cbName)

/-- What a straight-line call promises: it asks for the mutex only while it is free,
returns with it free, visits its table, and calls a non-NULL client callback once.
-/
structure DriverCall.KeepsContract (table : List DissectorReg) (cb : Bool)
    (call : DriverCall)
    : Prop where
  locksWhileFree : ∀ held, Event.mutexLock held ∈ call.events → held = false
  returnsFree : call.returned = true ∧ call.state.curCbNameMtx = false
  visitsTable : call.events.filterMap Event.cbFunc? = tableVisits table
  callsBackOnce :
    (call.events.filterMap Event.clientCallback?).length = if cb then 1 else 0

/-- While the worker has returned and the loop has not popped its token, the token waits in
register_cb_done_q.
-/
def System.TokenWaits (s : System) : Prop :=
  ∀ call, s.phase = .threaded call → call.worker = .returned → call.polling →
    ∃ tokens, s.state.registerCbDoneQ = .live (tokens + 1)

/-- What the drivers promise of one step of the system. -/
def KeepsProtocol (tables : Tables) (s : System) (label : Label) (next : System) : Prop :=
  next.TokenWaits
  ∧ match label with
    | .registerAllProtocols cb =>
        (registerAllProtocols tables cb s.state).KeepsContract tables.dissectorRegProto cb
    | .registerAllProtocolHandoffs cb =>
        (registerAllProtocolHandoffs tables cb s.state).KeepsContract
          tables.dissectorRegHandoff cb
    | _ => True

/-- The worker's next step is its return: it stands at the loop head past its table. -/
def System.WorkerReturns (tables : Tables) (s : System) : Prop :=
  ∃ call, s.phase = .threaded call
    ∧ call.worker = .loopHead (call.driver.table tables).length

/-- A step that is neither a call of register_all_protocols nor the return of a worker. -/
def SparesHandshake (tables : Tables) (s : System) (label : Label) : Prop :=
  (∀ cb, label ≠ .registerAllProtocols cb)
  ∧ (label = .worker → ¬ s.WorkerReturns tables)

-----------------------------------------------------------------------------------------
-- The straight-line drivers
-----------------------------------------------------------------------------------------

/-- The worker loop changes neither the mutex nor the done queue, by induction over the
table.
-/
theorem runWorker_frame (table : List DissectorReg) (index : Nat) (s : RegisterState)
    : (runWorker index table s).1.curCbNameMtx = s.curCbNameMtx
      ∧ (runWorker index table s).1.registerCbDoneQ = s.registerCbDoneQ := by
  induction table generalizing index s with
  | nil => exact ⟨rfl, rfl⟩
  | cons entry rest ih => exact ih (index + 1) (setCbName entry.cbName s)

/-- The worker loop calls the entries' functions in order, each under its own name, and
does nothing else that shows. Induction over the table.
-/
theorem runWorker_events (table : List DissectorReg) (index : Nat) (s : RegisterState)
    : (runWorker index table s).2
      = (table.zipIdx index).map fun (entry, place) => .cbFunc place entry.cbName := by
  induction table generalizing index s with
  | nil => rfl
  | cons entry rest ih =>
      simp only [runWorker, List.zipIdx_cons, List.map_cons, List.cons.injEq]
      exact ⟨rfl, ih (index + 1) (setCbName entry.cbName s)⟩

/-- The events of a worker loop hold no lock. -/
theorem mutexLock_not_mem_runWorker (table : List DissectorReg) (index : Nat)
    (s : RegisterState) (held : Bool)
    : Event.mutexLock held ∉ (runWorker index table s).2 := by
  simp [runWorker_events]

/-- The events of a worker loop visit exactly the table. -/
theorem runWorker_visits (table : List DissectorReg) (s : RegisterState)
    : (runWorker 0 table s).2.filterMap Event.cbFunc? = tableVisits table := by
  rw [runWorker_events, List.filterMap_map]
  simp only [tableVisits, Function.comp_def, Event.cbFunc?, List.filterMap_eq_map']

/-- The events of a worker loop hold no client callback. -/
theorem runWorker_callbacks (table : List DissectorReg) (index : Nat) (s : RegisterState)
    : (runWorker index table s).2.filterMap Event.clientCallback? = [] := by
  simp [runWorker_events]

/-- A non-NULL client callback is called once whether or not a name is current. -/
theorem clientCallbacks_length (action : RegisterAction) (cb : Bool)
    (cbName : Option String)
    : ((clientCallbacks action cb cbName).filterMap Event.clientCallback?).length
      = if cb then 1 else 0 := by
  cases cb <;> cases cbName <;> rfl

/-- The client callbacks contain no lock and no table visit. -/
theorem clientCallbacks_quiet (action : RegisterAction) (cb : Bool)
    (cbName : Option String)
    : (∀ held, Event.mutexLock held ∉ clientCallbacks action cb cbName)
      ∧ (clientCallbacks action cb cbName).filterMap Event.cbFunc? = [] := by
  cases cb <;> cases cbName <;> simp [clientCallbacks]

/-- register_all_protocol_handoffs keeps its whole contract whenever the mutex is free. -/
theorem registerAllProtocolHandoffs_keepsContract (tables : Tables) (cb : Bool)
    {s : RegisterState} (free : s.curCbNameMtx = false)
    : (registerAllProtocolHandoffs tables cb s).KeepsContract
        tables.dissectorRegHandoff cb where
  locksWhileFree held member := by
    rcases List.mem_append.mp member with visit | callback
    · exact (mutexLock_not_mem_runWorker _ _ _ _ visit).elim
    · exact ((clientCallbacks_quiet _ _ _).1 held callback).elim
  returnsFree := ⟨rfl, (runWorker_frame _ _ _).1.trans free⟩
  visitsTable := by
    rw [registerAllProtocolHandoffs, List.filterMap_append, (clientCallbacks_quiet _ _ _).2,
      List.append_nil]
    exact runWorker_visits _ _
  callsBackOnce := by
    rw [registerAllProtocolHandoffs, List.filterMap_append, List.length_append,
      clientCallbacks_length]
    simp [registerAllProtocolHandoffsWorker, runWorker_callbacks]

/-- A call of register_all_protocols with the mutex free still visits its table and calls
the client back once; what it breaks is only the mutex, which it returns with.
-/
theorem registerAllProtocols_of_free (tables : Tables) (cb : Bool) {s : RegisterState}
    (free : s.curCbNameMtx = false)
    : (registerAllProtocols tables cb s).returned = true
      ∧ (registerAllProtocols tables cb s).state.curCbNameMtx = true
      ∧ (registerAllProtocols tables cb s).events.filterMap Event.cbFunc?
          = tableVisits tables.dissectorRegProto
      ∧ ((registerAllProtocols tables cb s).events.filterMap Event.clientCallback?).length
          = if cb then 1 else 0 := by
  have unlocked :
      (registerAllProtocolsWorker tables { s with registerCbDoneQ := .live 0 }).1.curCbNameMtx
        = false :=
    (runWorker_frame _ _ _).1.trans free
  simp only [registerAllProtocols, unlocked, Bool.false_eq_true, if_false]
  refine ⟨trivial, trivial, ?_, ?_⟩
  · simp only [List.filterMap_append, (clientCallbacks_quiet _ _ _).2, List.filterMap_cons,
      Event.cbFunc?, List.filterMap_nil, List.append_nil]
    exact runWorker_visits _ _
  · simp only [List.filterMap_append, List.length_append, clientCallbacks_length]
    simp [registerAllProtocolsWorker, runWorker_callbacks]

/-- A call of register_all_protocols made while the mutex is held never returns. -/
theorem registerAllProtocols_of_held (tables : Tables) (cb : Bool) {s : RegisterState}
    (held : s.curCbNameMtx = true)
    : (registerAllProtocols tables cb s).returned = false := by
  have locked :
      (registerAllProtocolsWorker tables { s with registerCbDoneQ := .live 0 }).1.curCbNameMtx
        = true :=
    (runWorker_frame _ _ _).1.trans held
  simp [registerAllProtocols, locked]

/-- No call of register_all_protocols keeps the contract: it returns with the mutex held,
or not at all.
-/
theorem registerAllProtocols_breaksContract (tables : Tables) (cb : Bool)
    (s : RegisterState)
    : ¬ (registerAllProtocols tables cb s).KeepsContract tables.dissectorRegProto cb := by
  intro keeps
  obtain ⟨returns, free⟩ := keeps.returnsFree
  cases mutex : s.curCbNameMtx with
  | false => simp [(registerAllProtocols_of_free tables cb mutex).2.1] at free
  | true => simp [registerAllProtocols_of_held tables cb mutex] at returns

-----------------------------------------------------------------------------------------
-- The threaded drivers
-----------------------------------------------------------------------------------------

/-- The mutex is held exactly where the polling loop is between its lock and its unlock. -/
def ThreadedCall.holdsMutex (call : ThreadedCall) : Bool :=
  call.loop = .readName || call.loop = .mutexUnlock

/-- The states that a run sparing the handshake reaches: nothing has pushed a token, no
worker has returned, and the mutex is held only inside the polling loop.
-/
structure System.Unsettled (tables : Tables) (s : System) : Prop where
  noToken : ∀ tokens, s.state.registerCbDoneQ ≠ .live (tokens + 1)
  notBlocked : s.phase ≠ .blocked
  idleFree : s.phase = .idle → s.state.curCbNameMtx = false
  running : ∀ call, s.phase = .threaded call →
    call.worker ≠ .returned ∧ call.polling
      ∧ (∀ index, call.worker = .loopHead index →
          index ≤ (call.driver.table tables).length)
      ∧ (∀ index, call.worker = .callFunc index →
          index < (call.driver.table tables).length)
      ∧ s.state.curCbNameMtx = call.holdsMutex

/-- Before any call nothing is settled. -/
theorem System.initial_unsettled (tables : Tables)
    : System.initial.Unsettled tables where
  noToken tokens := by simp [System.initial, RegisterState.initial]
  notBlocked := by simp [System.initial]
  idleFree _ := rfl
  running call phase := by simp [System.initial] at phase

/-- In an unsettled state no worker has returned, so no token is owed. -/
theorem System.Unsettled.tokenWaits {tables : Tables} {s : System}
    (unsettled : s.Unsettled tables)
    : s.TokenWaits :=
  fun call phase returned _ => ((unsettled.running call phase).1 returned).elim

/-- Starting a threaded driver with the mutex free leaves the system unsettled. -/
theorem startThreaded_unsettled (tables : Tables) (driver : Driver) (cb : Bool)
    {s : RegisterState} (noToken : ∀ tokens, s.registerCbDoneQ ≠ .live (tokens + 1))
    (free : s.curCbNameMtx = false)
    : (startThreaded driver cb s).Unsettled tables where
  noToken tokens := by
    cases driver with
    | registerAllProtocols2 => simp [startThreaded]
    | registerAllProtocolHandoffs2 => exact noToken tokens
  notBlocked := by simp [startThreaded]
  idleFree idle := by simp [startThreaded] at idle
  running call phase := by
    obtain rfl : _ = call := Phase.threaded.inj phase
    cases driver <;>
      simp [startThreaded, ThreadedCall.polling, ThreadedCall.holdsMutex, setCbName, free]

/-- A worker step other than the return keeps the system unsettled. -/
theorem workerStep_unsettled {tables : Tables} {s next : System} {call : ThreadedCall}
    (unsettled : s.Unsettled tables) (phase : s.phase = .threaded call)
    (stays : ¬ s.WorkerReturns tables)
    (taken : workerStep tables s.state call = some next)
    : next.Unsettled tables := by
  obtain ⟨alive, polling, atHead, atFunc, mutex⟩ := unsettled.running call phase
  cases place : call.worker with
  | loopHead index =>
      have inside : index < (call.driver.table tables).length := by
        refine Nat.lt_of_le_of_ne (atHead index place) ?_
        rintro rfl
        exact stays ⟨call, phase, place⟩
      simp only [workerStep, place, List.getElem?_eq_getElem inside, Option.some.injEq]
        at taken
      subst taken
      refine ⟨unsettled.noToken, by simp, by simp, ?_⟩
      rintro call' ⟨⟩
      exact ⟨by simp, polling, by simp, by simpa using inside, mutex⟩
  | callFunc index =>
      have inside := atFunc index place
      simp only [workerStep, place, Option.some.injEq] at taken
      subst taken
      refine ⟨unsettled.noToken, by simp, by simp, ?_⟩
      rintro call' ⟨⟩
      refine ⟨by simp, polling, ?_, by simp, mutex⟩
      rintro index' ⟨⟩
      exact inside
  | returned => exact (alive place).elim

/-- The return of the worker loses the token: it leaves the loop polling an empty queue. -/
theorem workerStep_loses_token {tables : Tables} {s next : System} {call : ThreadedCall}
    (unsettled : s.Unsettled tables) (phase : s.phase = .threaded call)
    (returns : s.WorkerReturns tables)
    (taken : workerStep tables s.state call = some next)
    : ¬ next.TokenWaits := by
  obtain ⟨call', phase', place⟩ := returns
  obtain rfl : call = call' := Phase.threaded.inj (phase.symm.trans phase')
  obtain ⟨_, polling, _⟩ := unsettled.running call phase
  simp only [workerStep, place, List.getElem?_eq_none (Nat.le_refl _), Option.some.injEq]
    at taken
  subst taken
  intro waits
  obtain ⟨tokens, token⟩ := waits _ rfl rfl polling
  exact unsettled.noToken tokens token

/-- A step of the polling loop keeps the system unsettled: with no token to pop it only
goes around its body. One case for each place of the loop.
-/
theorem loopStep_unsettled {tables : Tables} {s next : System} {call : ThreadedCall}
    (unsettled : s.Unsettled tables) (phase : s.phase = .threaded call)
    (taken : loopStep s.state call = some next)
    : next.Unsettled tables := by
  obtain ⟨alive, polling, atHead, atFunc, mutex⟩ := unsettled.running call phase
  -- Every place but the pop moves within the body; only the mutex and the place change.
  have moved : ∀ (state : RegisterState) (call' : ThreadedCall),
      state.registerCbDoneQ = s.state.registerCbDoneQ →
      call'.driver = call.driver → call'.worker = call.worker → call'.polling →
      state.curCbNameMtx = call'.holdsMutex →
      System.Unsettled tables { state, phase := .threaded call' } := by
    intro state call' queue driver worker polls holds
    refine ⟨by simpa only [queue] using unsettled.noToken, by simp, by simp, ?_⟩
    rintro _ ⟨⟩
    rw [driver, worker]
    exact ⟨alive, polls, atHead, atFunc, holds⟩
  simp only [ThreadedCall.holdsMutex] at mutex
  cases place : call.loop with
  | timeoutPop =>
      have timesOut :
          next = { state := s.state, phase := .threaded { call with loop := .mutexLock } } := by
        simp only [loopStep, place] at taken
        split at taken
        · exact (unsettled.noToken _ ‹_›).elim
        · exact (Option.some.inj taken).symm
        · exact (Option.some.inj taken).symm
        · simp at taken
      subst timesOut
      exact moved _ _ rfl rfl rfl (by simp [ThreadedCall.polling])
        (by simpa [ThreadedCall.holdsMutex, place] using mutex)
  | mutexLock =>
      simp only [loopStep, place, mutex, reduceCtorEq, decide_false, Bool.or_self,
        Bool.false_eq_true, if_false, Option.some.injEq] at taken
      subst taken
      exact moved _ _ rfl rfl rfl (by simp [ThreadedCall.polling])
        (by simp [ThreadedCall.holdsMutex])
  | readName =>
      simp only [loopStep, place, Option.some.injEq] at taken
      subst taken
      exact moved _ _ rfl rfl rfl (by simp [ThreadedCall.polling])
        (by simpa [ThreadedCall.holdsMutex, place] using mutex)
  | mutexUnlock =>
      simp only [loopStep, place, Option.some.injEq] at taken
      subst taken
      exact moved _ _ rfl rfl rfl (by simp [ThreadedCall.polling])
        (by simp [ThreadedCall.holdsMutex])
  | callClient =>
      simp only [loopStep, place] at taken
      split at taken <;>
        · simp only [Option.some.injEq] at taken
          subst taken
          exact moved _ _ rfl rfl rfl (by simp [ThreadedCall.polling])
            (by simpa [ThreadedCall.holdsMutex, place] using mutex)
  | threadJoin => simp [ThreadedCall.polling, place] at polling
  | callFinished => simp [ThreadedCall.polling, place] at polling
  | queueUnref => simp [ThreadedCall.polling, place] at polling

-----------------------------------------------------------------------------------------
-- Whole runs
-----------------------------------------------------------------------------------------

/-- Each step that spares the handshake keeps the system unsettled, by cases on the label.
-/
theorem System.Unsettled.step {tables : Tables} {s next : System} {label : Label}
    (unsettled : s.Unsettled tables) (taken : s.step tables label = some next)
    (spares : SparesHandshake tables s label)
    : next.Unsettled tables := by
  cases phase : s.phase with
  | blocked => exact (unsettled.notBlocked phase).elim
  | idle =>
      have free := unsettled.idleFree phase
      cases label with
      | registerAllProtocols cb => exact (spares.1 cb rfl).elim
      | registerAllProtocolHandoffs cb =>
          simp only [System.step, phase, Option.some.injEq] at taken
          subst taken
          have frame := runWorker_frame tables.dissectorRegHandoff 0 (setCbName none s.state)
          refine ⟨?_, by simp [DriverCall.toSystem, registerAllProtocolHandoffs],
            fun _ => frame.1.trans free,
            by simp [DriverCall.toSystem, registerAllProtocolHandoffs]⟩
          intro tokens token
          exact unsettled.noToken tokens (frame.2.symm.trans token)
      | registerAllProtocols2 cb =>
          simp only [System.step, phase, Option.some.injEq] at taken
          exact taken ▸ startThreaded_unsettled tables _ cb unsettled.noToken free
      | registerAllProtocolHandoffs2 cb =>
          simp only [System.step, phase, Option.some.injEq] at taken
          exact taken ▸ startThreaded_unsettled tables _ cb unsettled.noToken free
      | worker => simp [System.step, phase] at taken
      | loop => simp [System.step, phase] at taken
  | threaded call =>
      cases label with
      | worker =>
          simp only [System.step, phase] at taken
          exact workerStep_unsettled unsettled phase (spares.2 rfl) taken
      | loop =>
          simp only [System.step, phase] at taken
          exact loopStep_unsettled unsettled phase taken
      | registerAllProtocols _ | registerAllProtocolHandoffs _ | registerAllProtocols2 _
      | registerAllProtocolHandoffs2 _ =>
          simp [System.step, phase] at taken

/-- From an unsettled state a step keeps the protocol exactly when it spares the
handshake: the two ways not to spare it break a driver's contract or lose a token.
-/
theorem System.Unsettled.keepsProtocol_iff {tables : Tables} {s next : System}
    {label : Label} (unsettled : s.Unsettled tables)
    (taken : s.step tables label = some next)
    : KeepsProtocol tables s label next ↔ SparesHandshake tables s label := by
  constructor
  · rintro ⟨waits, contract⟩
    refine ⟨?_, ?_⟩
    · rintro cb rfl
      exact registerAllProtocols_breaksContract tables cb s.state contract
    · rintro rfl returns
      obtain ⟨call, phase, _⟩ := id returns
      simp only [System.step, phase] at taken
      exact workerStep_loses_token unsettled phase returns taken waits
  · intro spares
    refine ⟨(unsettled.step taken spares).tokenWaits, ?_⟩
    cases label with
    | registerAllProtocols cb => exact (spares.1 cb rfl).elim
    | registerAllProtocolHandoffs cb =>
        cases phase : s.phase with
        | idle =>
            exact registerAllProtocolHandoffs_keepsContract tables cb
              (unsettled.idleFree phase)
        | blocked => simp [System.step, phase] at taken
        | threaded call => simp [System.step, phase] at taken
    | registerAllProtocols2 _ | registerAllProtocolHandoffs2 _ | worker | loop => trivial

/-- A run of the drivers from the program's start keeps the lock and completion protocol
exactly when none of its steps calls register_all_protocols and in none a worker returns.
-/
theorem run_keepsProtocol_iff (tables : Tables) (labels : List Label)
    : StepsMeet (System.step tables) (KeepsProtocol tables) .initial labels
      ↔ StepsMeet (System.step tables) (fun s label _ => SparesHandshake tables s label)
          .initial labels := by
  -- The first step that does not spare the handshake breaks the protocol.
  refine stepsMeet_iff (System.Unsettled tables) ?_ ?_ (System.initial_unsettled tables)
  · intro s label next unsettled taken
    exact unsettled.keepsProtocol_iff taken
  · intro s label next unsettled taken spares
    exact unsettled.step taken spares

/-- With the empty tables of this port, one call of register_all_protocols returns with the
mutex held, and a second one waits for it forever; a worker of register_all_protocols2
returns at once and leaves the loop polling an empty queue.
-/
theorem run_breaksProtocol
    : ¬ StepsMeet (System.step ⟨[], []⟩) (KeepsProtocol ⟨[], []⟩) .initial
          [.registerAllProtocols false]
      ∧ ¬ StepsMeet (System.step ⟨[], []⟩) (KeepsProtocol ⟨[], []⟩) .initial
          [.registerAllProtocols2 false, .worker] := by
  constructor
  · intro meets
    exact registerAllProtocols_breaksContract ⟨[], []⟩ false .initial (meets _ rfl).1.2
  · intro meets
    have waits := ((meets _ rfl).2 _ rfl).1.1
    obtain ⟨tokens, token⟩ := waits _ rfl rfl (by simp [ThreadedCall.polling])
    simp [startThreaded] at token

end PacketDissector.Epan.Register
