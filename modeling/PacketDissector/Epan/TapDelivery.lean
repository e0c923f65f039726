import PacketDissector.Library.Delivery
import PacketDissector.Epan.Tap

/-! What a pushed packet does for the listener at each place of the queue: which calls of its
packet routine are made, and how it is left.
-/

namespace PacketDissector.Epan.Tap

open PacketDissector.Library

variable {Program Edt σ : Type}

/-- An entry that the listener is open to: it is not an error packet, unless the listener
asked for these, and it was queued for the listener's tap.
-/
def TapListener.listensTo (tl : TapListener Program) (tp : TapPacket) : Bool :=
  (tp.flags &&& tapPacketIsErrorPacket = 0 ∨ tl.flags &&& tlRequiresErrorPackets ≠ 0)
    ∧ tp.tapId = tl.tapId

/-- The verdict of the compiled filter installed in a listener; NULL lets all pass. -/
def TapListener.codePasses (engine : DfilterEngine Program Edt) (edt : Edt)
    (tl : TapListener Program)
    : Bool :=
  tl.code.all fun code => engine.dfilterApplyEdt code edt

/-- The entries that the loop body calls the listener's routine with, unless it failed. -/
def TapListener.takes (engine : DfilterEngine Program Edt) (edt : Edt)
    (tl : TapListener Program) (tp : TapPacket)
    : Bool :=
  tl.listensTo tp && tl.codePasses engine edt

/-- What one offer can do: leave everything as it is, for want of a packet routine, after an
earlier failure or because the entry is not taken, or call the routine and note its answer.
-/
theorem offerPacket_cases (engine : DfilterEngine Program Edt) (clients : TapClients Edt σ)
    (edt : Edt) (tp : TapPacket) (place : Nat) (tl : TapListener Program) (client : σ)
    : (offerPacket engine clients edt tp place tl client = (none, tl, client)
        ∧ (tl.packet = none ∨ tl.failed = true ∨ tl.takes engine edt tp = false))
      ∨ ∃ packet status client',
          tl.packet = some packet ∧ tl.failed = false ∧ tl.takes engine edt tp = true
          ∧ clients.packet packet tl.tapdata tp.pinfo edt tp.tapSpecificData client
              = (status, client')
          ∧ offerPacket engine clients edt tp place tl client
              = (some ⟨place, packet, tl.tapdata, tp.pinfo, tp.tapSpecificData, status⟩,
                  tl.answered status, client') := by
  simp only [offerPacket, TapListener.takes, TapListener.listensTo, TapListener.codePasses,
    Bool.and_eq_true, Bool.and_eq_false_iff, decide_eq_true_eq, decide_eq_false_iff_not]
  split
  · rename_i errorAllowed
    split
    · rename_i sameTap
      cases routine : tl.packet with
      | none => exact Or.inl ⟨rfl, Or.inl rfl⟩
      | some packet =>
          cases failed : tl.failed with
          | true => exact Or.inl ⟨by simp, Or.inr (Or.inl rfl)⟩
          | false =>
              simp only [Bool.false_eq_true, if_false]
              split
              · rename_i passes
                exact Or.inr ⟨packet, _, _, rfl, trivial, ⟨⟨errorAllowed, sameTap⟩, passes⟩,
                  rfl, rfl⟩
              · rename_i blocked
                exact Or.inl ⟨rfl, Or.inr (Or.inr (Or.inr (by simpa using blocked)))⟩
    · rename_i otherTap
      exact Or.inl ⟨rfl, Or.inr (Or.inr (Or.inl fun open' => otherTap open'.2))⟩
  · rename_i errorPacket
    exact Or.inl ⟨rfl, Or.inr (Or.inr (Or.inl fun open' => errorPacket open'.1))⟩

/-- The listener is changed at most in what the answers of its packet routine change. -/
def TapListener.Same (tl tl' : TapListener Program) : Prop :=
  tl' = { tl with needsRedraw := tl'.needsRedraw, failed := tl'.failed }

theorem TapListener.Same.trans {tl middle tl' : TapListener Program} (first : tl.Same middle)
    (second : middle.Same tl')
    : tl.Same tl' := by
  rw [Same, second, first]

/-- What decides the offers to a listener does not change, failures apart. -/
theorem TapListener.Same.takes_eq {tl tl' : TapListener Program} (same : tl.Same tl')
    (engine : DfilterEngine Program Edt) (edt : Edt)
    : tl'.takes engine edt = tl.takes engine edt := by
  rw [same]
  rfl

theorem TapListener.answered_same (tl : TapListener Program) (status : TapPacketStatus)
    : tl.Same (tl.answered status) := by
  cases status <;> rfl

/-- Only the answer TAP_PACKET_FAILED stops a listener. -/
theorem TapListener.answered_failed (tl : TapListener Program) (status : TapPacketStatus)
    : (tl.answered status).failed = (tl.failed || status = .failed) := by
  cases status <;> simp [answered]

/-- What a packet routine is given of an entry. -/
def TapPacket.given (tp : TapPacket) : Ptr × Ptr := (tp.pinfo, tp.tapSpecificData)

/-- What the routine of the listener at a place is called with, and what it answers. -/
def callsAt (place : Nat) (calls : List PacketCall) : List ((Ptr × Ptr) × TapPacketStatus) :=
  calls.filterMap fun call =>
    if call.place = place then some ((call.pinfo, call.tapSpecificData), call.status) else none

@[simp]
theorem callsAt_nil (place : Nat) : callsAt place [] = [] := rfl

@[simp]
theorem callsAt_append (place : Nat) (first later : List PacketCall)
    : callsAt place (first ++ later) = callsAt place first ++ callsAt place later :=
  List.filterMap_append

/-- An offer to the listener at a place makes no call at another place. -/
theorem callsAt_offerPacket_of_ne (engine : DfilterEngine Program Edt)
    (clients : TapClients Edt σ) (edt : Edt) (tp : TapPacket) {place other : Nat}
    (tl : TapListener Program) (client : σ) (apart : other ≠ place)
    : callsAt place (offerPacket engine clients edt tp other tl client).1.toList = [] := by
  obtain ⟨idle, -⟩ | ⟨packet, status, client', -, -, -, -, called⟩ :=
    offerPacket_cases engine clients edt tp other tl client
  · rw [idle]
    rfl
  · simp [called, callsAt, apart]

/-- The inner loop calls no listener before the place it starts at. -/
theorem callsAt_pushToListeners_of_lt (engine : DfilterEngine Program Edt)
    (clients : TapClients Edt σ) (edt : Edt) (tp : TapPacket)
    (queue : List (TapListener Program)) {place start : Nat} (client : σ)
    (before : place < start)
    : callsAt place (pushToListeners engine clients edt tp start queue client).1 = [] := by
  induction queue generalizing start client with
  | nil => rfl
  | cons tl rest ih =>
      simp only [pushToListeners, callsAt_append, ih _ (Nat.lt_succ_of_lt before),
        callsAt_offerPacket_of_ne engine clients edt tp tl client (Nat.ne_of_gt before),
        List.append_nil]

/-- One entry offered along the queue reaches the listener at each place once: whatever the
clients' state is by then, the listener there sees exactly one offer. Induction over the
queue.
-/
theorem pushToListeners_at (engine : DfilterEngine Program Edt)
    (clients : TapClients Edt σ) (edt : Edt) (tp : TapPacket)
    {queue : List (TapListener Program)} (start : Nat) (client : σ) {place : Nat}
    {tl : TapListener Program} (found : queue[place]? = some tl)
    : ∃ here : σ,
        callsAt (start + place) (pushToListeners engine clients edt tp start queue client).1
          = callsAt (start + place)
              (offerPacket engine clients edt tp (start + place) tl here).1.toList
        ∧ (pushToListeners engine clients edt tp start queue client).2.1[place]?
          = some (offerPacket engine clients edt tp (start + place) tl here).2.1 := by
  induction queue generalizing start client place with
  | nil => simp at found
  | cons head rest ih =>
      cases place with
      | zero =>
          obtain rfl : head = tl := by simpa using found
          refine ⟨client, ?_, by simp [pushToListeners]⟩
          simp only [pushToListeners, callsAt_append, Nat.add_zero,
            callsAt_pushToListeners_of_lt engine clients edt tp rest _ (Nat.lt_succ_self start),
            List.append_nil]
      | succ place =>
          have foundLater : rest[place]? = some tl := by simpa using found
          obtain ⟨here, calls, after⟩ := ih (start + 1)
            (offerPacket engine clients edt tp start head client).2.2 foundLater
          have samePlace : start + (place + 1) = start + 1 + place := by omega
          have apart : start ≠ start + 1 + place := by omega
          refine ⟨here, ?_, ?_⟩
          · simp only [pushToListeners, callsAt_append, samePlace, calls,
              callsAt_offerPacket_of_ne engine clients edt tp head client apart,
              List.nil_append]
          · simpa [pushToListeners, samePlace] using after

/-- A listener that failed before is called no more; any other is called with each wanted
item in order until a call fails.
-/
def Delivers (failedBefore : Bool) (wanted : List (Ptr × Ptr))
    (calls : List ((Ptr × Ptr) × TapPacketStatus))
    : Prop :=
  if failedBefore then calls = [] else OfferedUntil (· = .failed) wanted calls

/-- One of the calls was answered with TAP_PACKET_FAILED. -/
def anyFailed (calls : List ((Ptr × Ptr) × TapPacketStatus)) : Bool :=
  calls.any fun call => call.2 = .failed

/-- What the double loop does for the listener at a place. -/
structure PushedTo (engine : DfilterEngine Program Edt) (edt : Edt) (entries : List TapPacket)
    (tl tl' : TapListener Program) (calls : List ((Ptr × Ptr) × TapPacketStatus))
    : Prop where
  same : tl.Same tl'
  failed : tl'.failed = (tl.failed || anyFailed calls)
  delivers
    : tl.packet.isSome →
        Delivers tl.failed ((entries.filter (tl.takes engine edt)).map TapPacket.given) calls

/-- The double loop delivers to the listener at each place the entries that it listens to
and that its compiled filter passes. Induction over the entries, with the sticky failure
flag carried from each call to the entries after it.
-/
theorem pushEntries_at (engine : DfilterEngine Program Edt) (clients : TapClients Edt σ)
    (edt : Edt) (entries : List TapPacket) {queue : List (TapListener Program)} (client : σ)
    {place : Nat} {tl : TapListener Program} (found : queue[place]? = some tl)
    : ∃ tl',
        (pushEntries engine clients edt entries queue client).2.1[place]? = some tl'
        ∧ PushedTo engine edt entries tl tl'
            (callsAt place (pushEntries engine clients edt entries queue client).1) := by
  induction entries generalizing queue client tl with
  | nil =>
      refine ⟨tl, found, rfl, by simp [pushEntries, callsAt, anyFailed], fun _ => ?_⟩
      cases failed : tl.failed with
      | true => simp [Delivers, pushEntries, callsAt]
      | false => simpa [Delivers, pushEntries, callsAt] using OfferedUntil.done
  | cons tp rest ih =>
      obtain ⟨here, calls, after⟩ :=
        pushToListeners_at engine clients edt tp 0 client found
      simp only [Nat.zero_add] at calls after
      obtain ⟨tl', last, later⟩ :=
        ih (pushToListeners engine clients edt tp 0 queue client).2.2 after
      refine ⟨tl', last, ?_⟩
      simp only [pushEntries, callsAt_append, calls]
      obtain ⟨idle, unwanted⟩ | ⟨packet, status, client', listens, running, wanted, -, called⟩ :=
        offerPacket_cases engine clients edt tp place tl here
      · simp only [idle] at later
        simp only [idle, Option.toList_none, callsAt_nil, List.nil_append]
        refine ⟨later.same, later.failed, fun listens => ?_⟩
        obtain absent | failed | blocked := unwanted
        · simp [absent] at listens
        · have silent := later.delivers listens
          simp only [Delivers, failed, if_true] at silent ⊢
          exact silent
        · rw [List.filter_cons_of_neg (by simp [blocked])]
          exact later.delivers listens
      · simp only [called] at later
        have answered := tl.answered_same status
        have hereCalled : callsAt place (some (⟨place, packet, tl.tapdata, tp.pinfo,
            tp.tapSpecificData, status⟩ : PacketCall)).toList = [(tp.given, status)] := by
          simp [callsAt, TapPacket.given]
        simp only [called, hereCalled, List.singleton_append]
        refine ⟨answered.trans later.same, ?_, fun _ => ?_⟩
        · simp only [later.failed, tl.answered_failed, anyFailed, List.any_cons, Bool.or_assoc]
        · have stillListens : (tl.answered status).packet.isSome := by
            rw [answered, listens]
            rfl
          have rest' := later.delivers stillListens
          rw [answered.takes_eq, tl.answered_failed, running, Bool.false_or] at rest'
          simp only [Delivers, running, Bool.false_eq_true, if_false,
            List.filter_cons_of_pos wanted, List.map_cons]
          by_cases fails : status = .failed
          · simp only [fails, Delivers, decide_true, if_true] at rest'
            rw [rest', fails]
            exact .stopped rfl
          · simp only [fails, Delivers, decide_false, Bool.false_eq_true, if_false] at rest'
            exact .next fails rest'

/-- The inner loop keeps the number of listeners, by induction over the queue. -/
theorem length_pushToListeners (engine : DfilterEngine Program Edt)
    (clients : TapClients Edt σ) (edt : Edt) (tp : TapPacket) (start : Nat)
    (queue : List (TapListener Program)) (client : σ)
    : (pushToListeners engine clients edt tp start queue client).2.1.length
      = queue.length := by
  induction queue generalizing start client with
  | nil => rfl
  | cons tl rest ih => simp [pushToListeners, ih]

/-- The double loop keeps the number of listeners, by induction over the entries. -/
theorem length_pushEntries (engine : DfilterEngine Program Edt) (clients : TapClients Edt σ)
    (edt : Edt) (entries : List TapPacket) (queue : List (TapListener Program)) (client : σ)
    : (pushEntries engine clients edt entries queue client).2.1.length = queue.length := by
  induction entries generalizing queue client with
  | nil => rfl
  | cons tp rest ih => simp [pushEntries, ih, length_pushToListeners]

/-- A call is made to a listener of the queue: with its routine and with its data. -/
def MadeTo (queue : List (TapListener Program)) (start : Nat) (call : PacketCall) : Prop :=
  ∃ place tl, call.place = start + place ∧ queue[place]? = some tl
    ∧ tl.packet = some call.routine ∧ tl.tapdata = call.tapdata

/-- Every call of the inner loop is made to a listener of the queue, by induction over it. -/
theorem pushToListeners_madeTo (engine : DfilterEngine Program Edt)
    (clients : TapClients Edt σ) (edt : Edt) (tp : TapPacket) (start : Nat)
    (queue : List (TapListener Program)) (client : σ)
    : ∀ call ∈ (pushToListeners engine clients edt tp start queue client).1,
        MadeTo queue start call := by
  induction queue generalizing start client with
  | nil => intro call member; simp [pushToListeners] at member
  | cons tl rest ih =>
      intro call member
      simp only [pushToListeners, List.mem_append, Option.mem_toList] at member
      obtain here | later := member
      · obtain ⟨idle, -⟩ | ⟨packet, status, client', listens, -, -, -, called⟩ :=
          offerPacket_cases engine clients edt tp start tl client
        · simp [idle] at here
        · rw [called, Option.some.injEq] at here
          subst here
          exact ⟨0, tl, rfl, rfl, listens, rfl⟩
      · obtain ⟨place, tl', counted, found, routine, tapdata⟩ := ih (start + 1) _ call later
        exact ⟨place + 1, tl', by omega, found, routine, tapdata⟩

/-- Every call of the double loop is made to a listener of the queue it started with, by
induction over the entries.
-/
theorem pushEntries_madeTo (engine : DfilterEngine Program Edt) (clients : TapClients Edt σ)
    (edt : Edt) (entries : List TapPacket) (queue : List (TapListener Program)) (client : σ)
    : ∀ call ∈ (pushEntries engine clients edt entries queue client).1,
        MadeTo queue 0 call := by
  induction entries generalizing queue client with
  | nil => intro call member; simp [pushEntries] at member
  | cons tp rest ih =>
      intro call member
      simp only [pushEntries, List.mem_append] at member
      obtain here | later := member
      · exact pushToListeners_madeTo engine clients edt tp 0 queue client call here
      · obtain ⟨place, tl', counted, found, routine, tapdata⟩ := ih _ _ call later
        have inside : place < queue.length := by
          rw [← length_pushToListeners engine clients edt tp 0 queue client]
          exact (List.getElem?_eq_some_iff.mp found).1
        have before : queue[place]? = some queue[place] := List.getElem?_eq_getElem inside
        obtain ⟨here, -, after⟩ := pushToListeners_at engine clients edt tp 0 client before
        have same : (queue[place]).Same tl' := by
          rw [found, Option.some.injEq] at after
          obtain ⟨idle, -⟩ | ⟨packet, status, client', -, -, -, -, called⟩ :=
            offerPacket_cases engine clients edt tp (0 + place) queue[place] here
          · rw [after, idle]
            rfl
          · rw [after, called]
            exact TapListener.answered_same _ status
        refine ⟨place, queue[place], counted, before, ?_, ?_⟩
        · rw [← routine, same]
        · rw [← tapdata, same]

/-- (Replays clients edt calls before after) says that making just these calls takes the
clients from one state to the other, each call answered as it is noted.
-/
def Replays (clients : TapClients Edt σ) (edt : Edt) : List PacketCall → σ → σ → Prop
  | [], before, after => after = before
  | call :: rest, before, after =>
      ∃ middle,
        clients.packet call.routine call.tapdata call.pinfo edt call.tapSpecificData before
          = (call.status, middle)
        ∧ Replays clients edt rest middle after

/-- Calls made one list after the other, by induction over the first. -/
theorem Replays.append {clients : TapClients Edt σ} {edt : Edt} {first later : List PacketCall}
    {before middle after : σ} (replayed : Replays clients edt first before middle)
    (continued : Replays clients edt later middle after)
    : Replays clients edt (first ++ later) before after := by
  induction first generalizing before with
  | nil => exact (show middle = before from replayed) ▸ continued
  | cons call rest ih =>
      obtain ⟨next, answered, restReplayed⟩ := replayed
      exact ⟨next, answered, ih restReplayed⟩

/-- The inner loop makes the calls it notes and no others, by induction over the queue. -/
theorem pushToListeners_replays (engine : DfilterEngine Program Edt)
    (clients : TapClients Edt σ) (edt : Edt) (tp : TapPacket) (start : Nat)
    (queue : List (TapListener Program)) (client : σ)
    : Replays clients edt (pushToListeners engine clients edt tp start queue client).1 client
        (pushToListeners engine clients edt tp start queue client).2.2 := by
  induction queue generalizing start client with
  | nil => rfl
  | cons tl rest ih =>
      have here : Replays clients edt
          (offerPacket engine clients edt tp start tl client).1.toList client
          (offerPacket engine clients edt tp start tl client).2.2 := by
        obtain ⟨idle, -⟩ | ⟨packet, status, client', -, -, -, answered, called⟩ :=
          offerPacket_cases engine clients edt tp start tl client
        · rw [idle]
          rfl
        · rw [called]
          exact ⟨client', answered, rfl⟩
      exact here.append (ih (start + 1) _)

/-- The double loop makes the calls it notes and no others, by induction over the entries. -/
theorem pushEntries_replays (engine : DfilterEngine Program Edt) (clients : TapClients Edt σ)
    (edt : Edt) (entries : List TapPacket) (queue : List (TapListener Program)) (client : σ)
    : Replays clients edt (pushEntries engine clients edt entries queue client).1 client
        (pushEntries engine clients edt entries queue client).2.2 := by
  induction entries generalizing queue client with
  | nil => rfl
  | cons tp rest ih =>
      exact (pushToListeners_replays engine clients edt tp 0 queue client).append (ih _ _)

/-- Queueing on an active tap system appends the entries while they fit, by induction over
the calls.
-/
theorem foldl_tapQueuePacket (queued : List TapQueueCall) {s : TapState Program}
    (active : s.tappingIsActive = true)
    (fits : s.tapPacketArray.length + queued.length ≤ tapPacketQueueLen)
    : queued.foldl (fun s call => tapQueuePacket call s) s
      = { s with tapPacketArray := s.tapPacketArray ++ queued.map TapQueueCall.entry } := by
  induction queued generalizing s with
  | nil => simp
  | cons call rest ih =>
      simp only [List.length_cons] at fits
      have room : ¬ s.tapPacketArray.length ≥ tapPacketQueueLen := by omega
      let pushed : TapState Program :=
        { s with tapPacketArray := s.tapPacketArray ++ [call.entry] }
      have step : tapQueuePacket call s = pushed := by
        simp [tapQueuePacket, active, room, pushed]
      have fitsLater : pushed.tapPacketArray.length + rest.length ≤ tapPacketQueueLen := by
        simp only [pushed, List.length_append, List.length_singleton]
        omega
      have later := @ih pushed active fitsLater
      rw [List.foldl_cons, step, later]
      simp [pushed]

/-- Queueing entries leaves the taps and the listeners alone, by induction over the calls. -/
theorem foldl_tapQueuePacket_kept (queued : List TapQueueCall) (s : TapState Program)
    : (queued.foldl (fun s call => tapQueuePacket call s) s).tapListenerQueue
        = s.tapListenerQueue
      ∧ (queued.foldl (fun s call => tapQueuePacket call s) s).tapDissectorList
        = s.tapDissectorList
      ∧ (queued.foldl (fun s call => tapQueuePacket call s) s).tappingIsActive
        = s.tappingIsActive := by
  induction queued generalizing s with
  | nil => exact ⟨rfl, rfl, rfl⟩
  | cons call rest ih =>
      have step : (tapQueuePacket call s).tapListenerQueue = s.tapListenerQueue
          ∧ (tapQueuePacket call s).tapDissectorList = s.tapDissectorList
          ∧ (tapQueuePacket call s).tappingIsActive = s.tappingIsActive := by
        simp only [tapQueuePacket]
        split
        · exact ⟨rfl, rfl, rfl⟩
        · split <;> exact ⟨rfl, rfl, rfl⟩
      obtain ⟨queue, taps, active⟩ := ih (tapQueuePacket call s)
      exact ⟨queue.trans step.1, taps.trans step.2.1, active.trans step.2.2⟩

end PacketDissector.Epan.Tap
