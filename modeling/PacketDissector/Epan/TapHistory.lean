import PacketDissector.Library.Runs
import PacketDissector.Epan.TapDelivery

/-! The calls of the tap system, what they answer, and the history of taps and listeners that
these calls and answers make up. What a call owes is judged by this history and never by the
records that tap.c keeps.
-/

namespace PacketDissector.Epan.Tap

open PacketDissector.Library

variable {Program Edt σ : Type}

/-- The arguments of register_tap_listener besides the filter text. -/
structure Registration where
  tapname : String
  tapdata : Ptr
  flags : UInt32
  reset : Option Callback
  packet : Option Callback
  draw : Option Callback
  finish : Option Callback

/-- register_tap_listener with a filter text. -/
def Registration.register (r : Registration) (fstring : Option String)
    (s : TapState Program)
    : Option String × TapState Program :=
  registerTapListener r.tapname r.tapdata fstring r.flags r.reset r.packet r.draw r.finish s

/-- Registration without a filter and, when it succeeds, set_tap_dfilter with the text. -/
def Registration.registerThenSet (engine : DfilterEngine Program Edt) (r : Registration)
    (fstring : Option String) (s : TapState Program)
    : Option String × TapState Program :=
  match r.register none s with
  | (some error, s') => (some error, s')
  | (none, s') => setTapDfilter engine r.tapdata fstring s'

/-- The calls of the tap system, and whole packets. -/
inductive TapOp (Edt : Type) where
  | registerTap (name : String)
  | registerTapListener (r : Registration) (fstring : Option String)
  | setTapDfilter (tapdata : Ptr) (fstring : Option String)
  | removeTapListener (tapdata : Ptr)
  | packet (edt : Edt) (queued : List TapQueueCall)

/-- What a caller gets back, and for a whole packet the calls of packet routines made. -/
inductive TapAnswer where
  | tapId (tapId : Int)
  | errorString (errorString : Option String)
  | removed
  | pushed (calls : List PacketCall)

/-- One operation on the tap system and its clients. -/
def TapOp.perform (engine : DfilterEngine Program Edt) (clients : TapClients Edt σ)
    (s : TapState Program) (client : σ)
    : TapOp Edt → TapAnswer × TapState Program × σ
  | .registerTap name =>
      let (tapId, s') := Tap.registerTap name s
      (.tapId tapId, s', client)
  | .registerTapListener r fstring =>
      let (error, s') := r.register fstring s
      (.errorString error, s', client)
  | .setTapDfilter tapdata fstring =>
      let (error, s') := Tap.setTapDfilter engine tapdata fstring s
      (.errorString error, s', client)
  | .removeTapListener tapdata =>
      let (found, s') := Tap.removeTapListener tapdata s
      (.removed, s', found.elim client fun tl => freeTapListener clients tl client)
  | .packet edt queued =>
      let (calls, s', client') := tapPacket engine clients edt queued s client
      (.pushed calls, s', client')

/-- A sequence of operations: all that the callers see of it, and the clients after it. -/
def performAll (engine : DfilterEngine Program Edt) (clients : TapClients Edt σ)
    : List (TapOp Edt) → TapState Program → σ → List TapAnswer × σ
  | [], _, client => ([], client)
  | op :: rest, s, client =>
      let (answer, s', client') := op.perform engine clients s client
      let (answers, client'') := performAll engine clients rest s' client'
      (answer :: answers, client'')

/-- A listener as the calls made for it describe it: the tap and the routines it was
registered with, the filter text in force, and whether a call of its packet routine failed.
-/
structure Listening where
  tapname : String
  tapdata : Ptr
  filter : Option String
  flags : UInt32
  packet : Option Callback
  finish : Option Callback
  failed : Bool

/-- A listener at its registration. -/
def Registration.listening (r : Registration) (filter : Option String) : Listening where
  tapname := r.tapname
  tapdata := r.tapdata
  filter := filter
  flags := r.flags
  packet := r.packet
  finish := r.finish
  failed := false

/-- The numbers answered for the taps, and the listeners, the latest first. -/
structure TapHistory where
  taps : List (String × Int)
  listeners : List Listening

/-- A listener after the calls made to it. -/
def Listening.called (calls : List PacketCall) (place : Nat) (l : Listening) : Listening :=
  { l with failed := l.failed || anyFailed (callsAt place calls) }

/-- The history goes on with one operation and its answer. A tapdata names the latest
listener registered with it, and a listener whose new filter is refused has none.
-/
def TapHistory.record (history : TapHistory) : TapOp Edt → TapAnswer → TapHistory
  | .registerTap name, .tapId tapId => { history with taps := (name, tapId) :: history.taps }
  | .registerTapListener r fstring, .errorString none =>
      { history with listeners := r.listening fstring :: history.listeners }
  | .setTapDfilter tapdata fstring, .errorString error =>
      { history with
        listeners := adjustFirst (fun l => l.tapdata = tapdata)
          (fun l => { l with filter := if error.isNone then fstring else none })
          history.listeners }
  | .removeTapListener tapdata, .removed =>
      { history with listeners := history.listeners.eraseP fun l => l.tapdata = tapdata }
  | .packet _ _, .pushed calls =>
      { history with listeners := history.listeners.mapIdx fun place => .called calls place }
  | _, _ => history

/-- The tap system, its clients and its history. -/
structure TapSystem (Program σ : Type) where
  tap : TapState Program
  client : σ
  history : TapHistory

/-- No tap and no listener is registered. -/
def TapSystem.start (client : σ) : TapSystem Program σ :=
  ⟨⟨false, [], [], []⟩, client, ⟨[], []⟩⟩

/-- One operation; each of them can be made in every state. -/
def TapSystem.step (engine : DfilterEngine Program Edt) (clients : TapClients Edt σ)
    (s : TapSystem Program σ) (op : TapOp Edt)
    : Option (TapSystem Program σ) :=
  let (answer, tap, client) := op.perform engine clients s.tap s.client
  some { tap, client, history := s.history.record op answer }

/-- The filter text is none or compiles. -/
def Compiles (engine : DfilterEngine Program Edt) (fstring : Option String) : Prop :=
  ∀ text, fstring = some text → ∃ code, engine.dfilterCompile text = .ok code

/-- The verdict of a filter given by its text: none lets every packet pass, and a text that
does not compile lets no packet pass.
-/
def filterPasses (engine : DfilterEngine Program Edt) (edt : Edt) : Option String → Bool
  | none => true
  | some text =>
      match engine.dfilterCompile text with
      | .ok code => code.all fun code => engine.dfilterApplyEdt code edt
      | .error _ => false

/-- The calls of tap_queue_packet that a listener has to be called for: those made with a
number that was answered for its tap, in no error packet unless it asked for these, when
the packet satisfies its filter text.
-/
def Listening.wants (engine : DfilterEngine Program Edt) (taps : List (String × Int))
    (edt : Edt) (l : Listening) (call : TapQueueCall)
    : Bool :=
  (!call.inErrorPkt || l.flags &&& tlRequiresErrorPackets ≠ 0)
    && decide ((l.tapname, call.tapId) ∈ taps) && filterPasses engine edt l.filter

/-- What a packet routine is given of a call of tap_queue_packet. -/
def TapQueueCall.given (call : TapQueueCall) : Ptr × Ptr := (call.pinfo, call.tapSpecificData)

/-- No caller can tell the states from each other, whatever is done next. -/
def BehavesAs (engine : DfilterEngine Program Edt) (clients : TapClients Edt σ)
    (s t : TapState Program)
    : Prop :=
  ∀ ops client, performAll engine clients ops s client = performAll engine clients ops t client

/-- Registering with a filter text answers what registering without one and then setting
it answers, and when that is no error nobody can tell afterwards which of the two was done.
-/
def AgreesWithSetting (engine : DfilterEngine Program Edt) (clients : TapClients Edt σ)
    (r : Registration) (fstring : Option String) (s : TapState Program)
    : Prop :=
  (r.register fstring s).1 = (r.registerThenSet engine fstring s).1
  ∧ ((r.register fstring s).1 = none →
      BehavesAs engine clients (r.register fstring s).2 (r.registerThenSet engine fstring s).2)

/-- Each listener with a packet routine is called for what it wants, and every call is made
to such a listener, with its routine and its data.
-/
structure DeliversWanted (engine : DfilterEngine Program Edt) (history : TapHistory)
    (edt : Edt) (queued : List TapQueueCall) (calls : List PacketCall)
    : Prop where
  wanted
    : ∀ place l, history.listeners[place]? = some l → l.packet.isSome →
        Delivers l.failed
          ((queued.filter (l.wants engine history.taps edt)).map TapQueueCall.given)
          (callsAt place calls)
  made
    : ∀ call ∈ calls, ∃ l, history.listeners[call.place]? = some l
        ∧ l.packet = some call.routine ∧ l.tapdata = call.tapdata

/-- What one operation owes by the history before it. A tap keeps its number and shares it
with no other. A registration is refused, and then changes nothing, exactly when its tap is
unknown or its text does not compile; a new filter is refused exactly when its text does
not compile. A removal runs the finish routine of the listener that goes, and a packet with
no more entries than fit delivers what is wanted. The clients' routines are not run
otherwise.
-/
def RespectsFilters (engine : DfilterEngine Program Edt) (clients : TapClients Edt σ)
    (s : TapSystem Program σ) (op : TapOp Edt) (next : TapSystem Program σ)
    : Prop :=
  match op, (op.perform engine clients s.tap s.client).1 with
  | .registerTap name, .tapId tapId =>
      (∀ known ∈ s.history.taps, known.2 = tapId ↔ known.1 = name) ∧ next.client = s.client
  | .registerTapListener r fstring, .errorString error =>
      (error.isSome ↔ (∀ known ∈ s.history.taps, known.1 ≠ r.tapname)
        ∨ ¬ Compiles engine fstring)
      ∧ (error.isSome → next.tap.tapListenerQueue = s.tap.tapListenerQueue)
      ∧ AgreesWithSetting engine clients r fstring s.tap ∧ next.client = s.client
  | .setTapDfilter tapdata fstring, .errorString error =>
      (error.isSome ↔ (∃ l ∈ s.history.listeners, l.tapdata = tapdata)
        ∧ ¬ Compiles engine fstring)
      ∧ next.client = s.client
  | .removeTapListener tapdata, .removed =>
      next.client
        = ((s.history.listeners.find? fun l => l.tapdata = tapdata).bind Listening.finish).elim
            s.client fun finish => clients.finish finish tapdata s.client
  | .packet edt queued, .pushed calls =>
      Replays clients edt calls s.client next.client
      ∧ (queued.length ≤ tapPacketQueueLen →
          DeliversWanted engine s.history edt queued calls)
  | _, _ => False

/-- A registration names a tap that was never registered, or gives no filter text or one that
compiles and holds no packet back from a packet routine.
-/
def RegistersUnfiltered (engine : DfilterEngine Program Edt) (s : TapSystem Program σ)
    : TapOp Edt → Prop
  | .registerTapListener r fstring =>
      (∀ known ∈ s.history.taps, known.1 ≠ r.tapname)
      ∨ (Compiles engine fstring
        ∧ (r.packet.isSome → ∀ edt, filterPasses engine edt fstring = true))
  | _ => True

end PacketDissector.Epan.Tap
