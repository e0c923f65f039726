import Mathlib.Data.List.Basic

/-! The tap system of tap.c: the list of tap names, the queue of tapped packets of the packet
at hand, and the queue of listeners.
-/

namespace PacketDissector.Epan.Tap

/-- An address of the C program; 0 is NULL. -/
abbrev Ptr := Nat

/-- A function of a tap client, known by its name. -/
abbrev Callback := String

/-- What a packet callback answers. -/
inductive TapPacketStatus where
  | dontRedraw
  | redraw
  | failed
  deriving DecidableEq, Repr

/-- TAP_PACKET_IS_ERROR_PACKET. -/
def tapPacketIsErrorPacket : UInt32 := 0x00000001

/-- TAP_PACKET_QUEUE_LEN. -/
def tapPacketQueueLen : Nat := 5000

/-- TL_REQUIRES_NOTHING. -/
def tlRequiresNothing : UInt32 := 0x00000000

/-- TL_REQUIRES_PROTO_TREE. -/
def tlRequiresProtoTree : UInt32 := 0x00000001

/-- TL_REQUIRES_ERROR_PACKETS. -/
def tlRequiresErrorPackets : UInt32 := 0x00000004

/-- One queued entry, as tap_packet_t. -/
structure TapPacket where
  tapId : Int
  flags : UInt32
  pinfo : Ptr
  tapSpecificData : Ptr
  deriving DecidableEq, Repr

/-- A tap_listener_t; the next pointer is the order in the queue. -/
structure TapListener (Program : Type) where
  tapId : Int
  needsRedraw : Bool
  failed : Bool
  flags : UInt32
  fstring : Option String
  code : Option Program
  tapdata : Ptr
  reset : Option Callback
  packet : Option Callback
  draw : Option Callback
  finish : Option Callback
  deriving DecidableEq, Repr

/-- The statics of tap.c. The list of queued entries is the part of tap_packet_array below
tap_packet_index.
-/
structure TapState (Program : Type) where
  tappingIsActive : Bool
  tapDissectorList : List String
  tapPacketArray : List TapPacket
  tapListenerQueue : List (TapListener Program)
  deriving DecidableEq, Repr

/-- The display-filter engine as its callers see it: a compiler that answers an error message
or a program, which may be NULL, and the verdict of a program on a dissected packet.
-/
structure DfilterEngine (Program Edt : Type) where
  dfilterCompile : String → Except String (Option Program)
  dfilterApplyEdt : Program → Edt → Bool

/-- The tap clients: what their packet and finish callbacks do to their own state σ. -/
structure TapClients (Edt σ : Type) where
  packet : Callback → Ptr → Ptr → Edt → Ptr → σ → TapPacketStatus × σ
  finish : Callback → Ptr → σ → σ

variable {Program Edt σ : Type}

/-- The loop of find_tap_id from the list element numbered i on. -/
def findTapIdFrom (name : String) : Int → List String → Int
  | _, [] => 0
  | i, td :: rest => if td = name then i else findTapIdFrom name (i + 1) rest

/-- find_tap_id: the number of a tap, or 0. -/
def findTapId (name : String) (s : TapState Program) : Int :=
  findTapIdFrom name 1 s.tapDissectorList

/-- register_tap: the number of a tap, which is added when it is new. -/
def registerTap (name : String) (s : TapState Program) : Int × TapState Program :=
  if findTapId name s = 0 then
    (s.tapDissectorList.length + 1,
      { s with tapDissectorList := s.tapDissectorList ++ [name] })
  else (findTapId name s, s)

/-- register_tap_listener, whose call of dfilter_compile is commented out: the compiled
filter of the new listener stays NULL. The answer is the error text, or none.
-/
def registerTapListener (tapname : String) (tapdata : Ptr) (fstring : Option String)
    (flags : UInt32) (reset packet draw finish : Option Callback) (s : TapState Program)
    : Option String × TapState Program :=
  let tapId := findTapId tapname s
  if tapId = 0 then (some s!"Tap {tapname} not found", s)
  else
    let tl : TapListener Program :=
      { tapId, needsRedraw := true, failed := false, flags, fstring, code := none
        tapdata, reset, packet, draw, finish }
    (none, { s with tapListenerQueue := tl :: s.tapListenerQueue })

/-- What set_tap_dfilter does to the listener it found. -/
def TapListener.setDfilter (engine : DfilterEngine Program Edt) (fstring : Option String)
    (tl : TapListener Program)
    : Option String × TapListener Program :=
  match fstring with
  | none => (none, { tl with needsRedraw := true, fstring := none, code := none })
  | some text =>
      match engine.dfilterCompile text with
      | .error errMsg =>
          (some s!"Filter \"{text}\" is invalid - {errMsg}",
            { tl with needsRedraw := true, fstring := none, code := none })
      | .ok code =>
          (none, { tl with needsRedraw := true, fstring := some text, code })

/-- The search of set_tap_dfilter: the first listener with the tapdata is changed. -/
def setDfilterFirst (engine : DfilterEngine Program Edt) (tapdata : Ptr)
    (fstring : Option String)
    : List (TapListener Program) → Option String × List (TapListener Program)
  | [] => (none, [])
  | tl :: rest =>
      if tl.tapdata = tapdata then
        let (error, tl') := tl.setDfilter engine fstring
        (error, tl' :: rest)
      else
        let (error, rest') := setDfilterFirst engine tapdata fstring rest
        (error, tl :: rest')

/-- set_tap_dfilter: the answer is the error text, or none. -/
def setTapDfilter (engine : DfilterEngine Program Edt) (tapdata : Ptr)
    (fstring : Option String) (s : TapState Program)
    : Option String × TapState Program :=
  let (error, queue) := setDfilterFirst engine tapdata fstring s.tapListenerQueue
  (error, { s with tapListenerQueue := queue })

/-- The search of remove_tap_listener: the first listener with the tapdata is taken out. -/
def unlinkFirst (tapdata : Ptr)
    : List (TapListener Program) → Option (TapListener Program) × List (TapListener Program)
  | [] => (none, [])
  | tl :: rest =>
      if tl.tapdata = tapdata then (some tl, rest)
      else
        let (found, rest') := unlinkFirst tapdata rest
        (found, tl :: rest')

/-- remove_tap_listener. The answer is the listener handed to free_tap_listener; none means
that nothing was found, which is at most a warning.
-/
def removeTapListener (tapdata : Ptr) (s : TapState Program)
    : Option (TapListener Program) × TapState Program :=
  let (found, queue) := unlinkFirst tapdata s.tapListenerQueue
  (found, { s with tapListenerQueue := queue })

/-- The call of the finish callback in free_tap_listener. -/
def freeTapListener (clients : TapClients Edt σ) (tl : TapListener Program) (client : σ)
    : σ :=
  match tl.finish with
  | some finish => clients.finish finish tl.tapdata client
  | none => client

/-- tap_queue_init; priming the dissection with the listeners' filters is left out. -/
def tapQueueInit (s : TapState Program) : TapState Program :=
  if s.tapListenerQueue.isEmpty then s
  else { s with tappingIsActive := true, tapPacketArray := [] }

/-- The arguments of one call of tap_queue_packet, with the flag it reads from pinfo. -/
structure TapQueueCall where
  tapId : Int
  inErrorPkt : Bool
  pinfo : Ptr
  tapSpecificData : Ptr
  deriving DecidableEq, Repr

/-- The entry that tap_queue_packet writes. -/
def TapQueueCall.entry (call : TapQueueCall) : TapPacket where
  tapId := call.tapId
  flags := if call.inErrorPkt then 0 ||| tapPacketIsErrorPacket else 0
  pinfo := call.pinfo
  tapSpecificData := call.tapSpecificData

/-- tap_queue_packet: too many taps queued is a warning and drops the entry. -/
def tapQueuePacket (call : TapQueueCall) (s : TapState Program) : TapState Program :=
  if !s.tappingIsActive then s
  else if s.tapPacketArray.length ≥ tapPacketQueueLen then s
  else { s with tapPacketArray := s.tapPacketArray ++ [call.entry] }

/-- The listener after its packet routine answered. -/
def TapListener.answered (tl : TapListener Program) : TapPacketStatus → TapListener Program
  | .dontRedraw => tl
  | .redraw => { tl with needsRedraw := true }
  | .failed => { tl with failed := true }

/-- One call of a packet routine: the place of its listener in the queue, the routine, what
it is given and what it answers.
-/
structure PacketCall where
  place : Nat
  routine : Callback
  tapdata : Ptr
  pinfo : Ptr
  tapSpecificData : Ptr
  status : TapPacketStatus
  deriving DecidableEq, Repr

/-- The body of the inner loop of tap_push_tapped_queue for one entry and the listener at a
place, with the call of its packet routine when there was one.
-/
def offerPacket (engine : DfilterEngine Program Edt) (clients : TapClients Edt σ)
    (edt : Edt) (tp : TapPacket) (place : Nat) (tl : TapListener Program) (client : σ)
    : Option PacketCall × TapListener Program × σ :=
  if tp.flags &&& tapPacketIsErrorPacket = 0 ∨ tl.flags &&& tlRequiresErrorPackets ≠ 0 then
    if tp.tapId = tl.tapId then
      match tl.packet with
      | none => (none, tl, client)
      | some packet =>
          if tl.failed then (none, tl, client)
          else if tl.code.all fun code => engine.dfilterApplyEdt code edt then
            let (status, client') :=
              clients.packet packet tl.tapdata tp.pinfo edt tp.tapSpecificData client
            let call : PacketCall :=
              { place, routine := packet, tapdata := tl.tapdata, pinfo := tp.pinfo
                tapSpecificData := tp.tapSpecificData, status }
            (some call, tl.answered status, client')
          else (none, tl, client)
    else (none, tl, client)
  else (none, tl, client)

/-- The inner loop of tap_push_tapped_queue over the listeners from a place on. -/
def pushToListeners (engine : DfilterEngine Program Edt) (clients : TapClients Edt σ)
    (edt : Edt) (tp : TapPacket)
    : Nat → List (TapListener Program) → σ →
        List PacketCall × List (TapListener Program) × σ
  | _, [], client => ([], [], client)
  | place, tl :: rest, client =>
      let (call, tl', client') := offerPacket engine clients edt tp place tl client
      let (calls, rest', client'') :=
        pushToListeners engine clients edt tp (place + 1) rest client'
      (call.toList ++ calls, tl' :: rest', client'')

/-- The outer loop of tap_push_tapped_queue over the queued entries. -/
def pushEntries (engine : DfilterEngine Program Edt) (clients : TapClients Edt σ)
    (edt : Edt)
    : List TapPacket → List (TapListener Program) → σ →
        List PacketCall × List (TapListener Program) × σ
  | [], queue, client => ([], queue, client)
  | tp :: rest, queue, client =>
      let (calls, queue', client') := pushToListeners engine clients edt tp 0 queue client
      let (later, queue'', client'') := pushEntries engine clients edt rest queue' client'
      (calls ++ later, queue'', client'')

/-- tap_push_tapped_queue, with the calls it made. -/
def tapPushTappedQueue (engine : DfilterEngine Program Edt) (clients : TapClients Edt σ)
    (edt : Edt) (s : TapState Program) (client : σ)
    : List PacketCall × TapState Program × σ :=
  if !s.tappingIsActive then ([], s, client)
  else
    let (calls, queue, client') :=
      pushEntries engine clients edt s.tapPacketArray s.tapListenerQueue client
    (calls, { s with tappingIsActive := false, tapListenerQueue := queue }, client')

/-- A whole packet: tap_queue_init, the calls of tap_queue_packet made while it is
dissected, and tap_push_tapped_queue.
-/
def tapPacket (engine : DfilterEngine Program Edt) (clients : TapClients Edt σ) (edt : Edt)
    (queued : List TapQueueCall) (s : TapState Program) (client : σ)
    : List PacketCall × TapState Program × σ :=
  let filled := queued.foldl (fun s call => tapQueuePacket call s) (tapQueueInit s)
  tapPushTappedQueue engine clients edt filled client

end PacketDissector.Epan.Tap
