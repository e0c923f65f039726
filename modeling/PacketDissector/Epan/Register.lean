import PacketDissector.Library.Runs

/-! The protocol and handoff registration drivers of register.c: the straight-line pair that
the port calls, and the threaded pair it keeps under the names ending in 2.
-/

namespace PacketDissector.Epan.Register

/-- The actions a registration callback can be told of by these drivers. -/
inductive RegisterAction where
  | raRegister
  | raHandoff
  deriving DecidableEq, Repr

/-- One entry of a registration table. Its cb_func is known by its place in the table. -/
structure DissectorReg where
  cbName : Option String
  deriving DecidableEq, Repr

/-- The two generated tables; the counts of the source are their lengths. -/
structure Tables where
  dissectorRegProto : List DissectorReg
  dissectorRegHandoff : List DissectorReg

/-- What a driver does that others can observe. A lock records whether the mutex was held
when it was asked for, and a cb_func call records the name then current.
-/
inductive Event where
  | mutexLock (held : Bool)
  | cbFunc (index : Nat) (curCbName : Option String)
  | clientCallback (action : RegisterAction) (message : String)
  deriving DecidableEq, Repr

/-- The static register_cb_done_q: NULL, a queue holding some tokens, or a pointer to a
queue whose last reference was dropped.
-/
inductive DoneQueue where
  | null
  | live (tokens : Nat)
  | freed
  deriving DecidableEq, Repr

/-- The statics of register.c. -/
structure RegisterState where
  curCbName : Option String
  curCbNameMtx : Bool
  registerCbDoneQ : DoneQueue
  deriving DecidableEq, Repr

/-- The statics when the program starts. -/
def RegisterState.initial : RegisterState where
  curCbName := none
  curCbNameMtx := false
  registerCbDoneQ := .null

/-- set_cb_name, whose lock and unlock are commented out. -/
def setCbName (proto : Option String) (s : RegisterState) : RegisterState :=
  { s with curCbName := proto }

/-- The table loop of a worker from entry index on. -/
def runWorker : Nat → List DissectorReg → RegisterState → RegisterState × List Event
  | _, [], s => (s, [])
  | index, entry :: rest, s =>
      let named := setCbName entry.cbName s
      let (last, events) := runWorker (index + 1) rest named
      (last, .cbFunc index named.curCbName :: events)

/-- The worker over the protocol table. Its push to the done queue is commented out. -/
def registerAllProtocolsWorker (tables : Tables) (s : RegisterState)
    : RegisterState × List Event :=
  runWorker 0 tables.dissectorRegProto s

/-- The worker over the handoff table. Its push to the done queue is commented out. -/
def registerAllProtocolHandoffsWorker (tables : Tables) (s : RegisterState)
    : RegisterState × List Event :=
  runWorker 0 tables.dissectorRegHandoff s

/-- What one call of a straight-line driver did; returned is false when it waits forever on
a mutex that nobody releases.
-/
structure DriverCall where
  returned : Bool
  state : RegisterState
  events : List Event
  deriving DecidableEq, Repr

/-- The calls to the client callback at the end of each driver: once with the current name,
and with "finished" when no name was current.
-/
def clientCallbacks (action : RegisterAction) (cb : Bool) (cbName : Option String)
    : List Event :=
  let named : List Event :=
    match cb, cbName with
    | true, some name => [.clientCallback action name]
    | _, _ => []
  let calledBack := !named.isEmpty
  if cb && !calledBack then named ++ [.clientCallback action "finished"] else named

/-- register_all_protocols, which takes the mutex and keeps it. -/
def registerAllProtocols (tables : Tables) (cb : Bool) (s : RegisterState) : DriverCall :=
  let fresh := { s with registerCbDoneQ := .live 0 }
  let (worked, events) := registerAllProtocolsWorker tables fresh
  let locking := events ++ [.mutexLock worked.curCbNameMtx]
  if worked.curCbNameMtx then
    -- The mutex is not recursive: the thread that holds it waits for itself.
    { returned := false, state := worked, events := locking }
  else
    { returned := true
      state := { worked with curCbNameMtx := true }
      events := locking ++ clientCallbacks .raRegister cb worked.curCbName }

/-- register_all_protocol_handoffs, which takes no lock. -/
def registerAllProtocolHandoffs (tables : Tables) (cb : Bool) (s : RegisterState)
    : DriverCall :=
  let (worked, events) := registerAllProtocolHandoffsWorker tables (setCbName none s)
  { returned := true
    state := worked
    events := events ++ clientCallbacks .raHandoff cb worked.curCbName }

/-- The two drivers that start a worker thread and poll for its token. -/
inductive Driver where
  | registerAllProtocols2
  | registerAllProtocolHandoffs2
  deriving DecidableEq, Repr

/-- The table a driver's worker walks. -/
def Driver.table (tables : Tables) : Driver → List DissectorReg
  | .registerAllProtocols2 => tables.dissectorRegProto
  | .registerAllProtocolHandoffs2 => tables.dissectorRegHandoff

/-- The action a driver reports to the client callback. -/
def Driver.action : Driver → RegisterAction
  | .registerAllProtocols2 => .raRegister
  | .registerAllProtocolHandoffs2 => .raHandoff

/-- Where the polling loop stands: before the statement it names. -/
inductive LoopPc where
  | timeoutPop
  | mutexLock
  | readName
  | mutexUnlock
  | callClient
  | threadJoin
  | callFinished
  | queueUnref
  deriving DecidableEq, Repr

/-- Where the worker stands: at the loop head for an entry, before an entry's cb_func, or
returned.
-/
inductive WorkerPc where
  | loopHead (index : Nat)
  | callFunc (index : Nat)
  | returned
  deriving DecidableEq, Repr

/-- A threaded driver between its g_thread_new and its return. -/
structure ThreadedCall where
  driver : Driver
  cb : Bool
  cbName : Option String
  calledBack : Bool
  loop : LoopPc
  worker : WorkerPc
  events : List Event
  deriving DecidableEq, Repr

/-- The loop has not popped the worker's token yet. -/
def ThreadedCall.polling (call : ThreadedCall) : Prop :=
  call.loop ∉ [LoopPc.threadJoin, .callFinished, .queueUnref]

/-- What the program's main thread is doing. -/
inductive Phase where
  | idle
  | blocked
  | threaded (call : ThreadedCall)
  deriving DecidableEq, Repr

/-- The registration code between two steps. -/
structure System where
  state : RegisterState
  phase : Phase
  deriving DecidableEq, Repr

/-- The state before any driver was called. -/
def System.initial : System where
  state := .initial
  phase := .idle

/-- What may happen next: a call of one of the four drivers, or a step of either thread of
a threaded driver.
-/
inductive Label where
  | registerAllProtocols (cb : Bool)
  | registerAllProtocolHandoffs (cb : Bool)
  | registerAllProtocols2 (cb : Bool)
  | registerAllProtocolHandoffs2 (cb : Bool)
  | worker
  | loop
  deriving DecidableEq, Repr

/-- A straight-line call as one step of the system. -/
def DriverCall.toSystem (call : DriverCall) : System where
  state := call.state
  phase := if call.returned then .idle else .blocked

/-- A threaded driver up to and including its g_thread_new. -/
def startThreaded (driver : Driver) (cb : Bool) (s : RegisterState) : System where
  state :=
    match driver with
    | .registerAllProtocols2 => { s with registerCbDoneQ := .live 0 }
    | .registerAllProtocolHandoffs2 => setCbName none s
  phase := .threaded
    { driver, cb, cbName := none, calledBack := false, loop := .timeoutPop
      worker := .loopHead 0, events := [] }

/-- One step of the worker thread, or none when it has returned. -/
def workerStep (tables : Tables) (s : RegisterState) (call : ThreadedCall)
    : Option System :=
  match call.worker with
  | .loopHead index =>
      match (call.driver.table tables)[index]? with
      | some entry =>
          some
            { state := setCbName entry.cbName s
              phase := .threaded { call with worker := .callFunc index } }
      | none =>
          -- The push of the token is commented out in both workers.
          some { state := s, phase := .threaded { call with worker := .returned } }
  | .callFunc index =>
      some
        { state := s
          phase := .threaded
            { call with
              worker := .loopHead (index + 1)
              events := call.events ++ [.cbFunc index s.curCbName] } }
  | .returned => none

/-- One step of the polling thread, or none when it has to wait. A pop that times out is a
step to the loop body; a pop on NULL answers NULL at once.
-/
def loopStep (s : RegisterState) (call : ThreadedCall) : Option System :=
  match call.loop with
  | .timeoutPop =>
      match s.registerCbDoneQ with
      | .live (tokens + 1) =>
          some
            { state := { s with registerCbDoneQ := .live tokens }
              phase := .threaded { call with loop := .threadJoin } }
      | .live 0 | .null =>
          some { state := s, phase := .threaded { call with loop := .mutexLock } }
      | .freed => none
  | .mutexLock =>
      if s.curCbNameMtx then none
      else
        some
          { state := { s with curCbNameMtx := true }
            phase := .threaded
              { call with
                loop := .readName, events := call.events ++ [.mutexLock false] } }
  | .readName =>
      some
        { state := s
          phase := .threaded { call with loop := .mutexUnlock, cbName := s.curCbName } }
  | .mutexUnlock =>
      some
        { state := { s with curCbNameMtx := false }
          phase := .threaded { call with loop := .callClient } }
  | .callClient =>
      match call.cb, call.cbName with
      | true, some name =>
          some
            { state := s
              phase := .threaded
                { call with
                  loop := .timeoutPop, calledBack := true
                  events := call.events ++ [.clientCallback call.driver.action name] } }
      | _, _ => some { state := s, phase := .threaded { call with loop := .timeoutPop } }
  | .threadJoin =>
      if call.worker = .returned then
        some { state := s, phase := .threaded { call with loop := .callFinished } }
      else none
  | .callFinished =>
      let finished : List Event :=
        if call.cb && !call.calledBack then
          [.clientCallback call.driver.action "finished"]
        else []
      match call.driver with
      | .registerAllProtocols2 => some { state := s, phase := .idle }
      | .registerAllProtocolHandoffs2 =>
          some
            { state := s
              phase := .threaded
                { call with loop := .queueUnref, events := call.events ++ finished } }
  | .queueUnref => some { state := { s with registerCbDoneQ := .freed }, phase := .idle }

/-- One step of the whole system. The drivers are called one at a time, by the thread that
runs epan_init.
-/
def System.step (tables : Tables) (s : System) : Label → Option System
  | .registerAllProtocols cb =>
      match s.phase with
      | .idle => some (registerAllProtocols tables cb s.state).toSystem
      | _ => none
  | .registerAllProtocolHandoffs cb =>
      match s.phase with
      | .idle => some (registerAllProtocolHandoffs tables cb s.state).toSystem
      | _ => none
  | .registerAllProtocols2 cb =>
      match s.phase with
      | .idle => some (startThreaded .registerAllProtocols2 cb s.state)
      | _ => none
  | .registerAllProtocolHandoffs2 cb =>
      match s.phase with
      | .idle => some (startThreaded .registerAllProtocolHandoffs2 cb s.state)
      | _ => none
  | .worker =>
      match s.phase with
      | .threaded call => workerStep tables s.state call
      | _ => none
  | .loop =>
      match s.phase with
      | .threaded call => loopStep s.state call
      | _ => none

end PacketDissector.Epan.Register
