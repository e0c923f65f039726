import PacketDissector.Epan.TapAgreement

/-! The listener queue next to the history of the calls that made it: what every operation
answers and how it keeps each record of tap.c in step with the listener it belongs to. A
filter given at registration is the one thing that tap.c does not carry over.
-/

namespace PacketDissector.Epan.Tap

open PacketDissector.Library

variable {Program Edt σ : Type}

/-- The number of a tap counts the names before it, by induction on the list of names. -/
theorem findTapIdFrom_eq (name : String) (i : Int) (taps : List String)
    : findTapIdFrom name i taps = if name ∈ taps then i + taps.idxOf name else 0 := by
  induction taps generalizing i with
  | nil => rfl
  | cons td rest ih =>
      simp only [findTapIdFrom, List.idxOf_cons, List.mem_cons, ih]
      by_cases here : td = name
      · simp [here]
      · have other : name ≠ td := fun same => here same.symm
        simp only [here, if_false, other, false_or, beq_iff_eq, cond_eq_ite]
        split <;> push_cast <;> omega

theorem findTapId_eq (name : String) (s : TapState Program)
    : findTapId name s
      = if name ∈ s.tapDissectorList then (1 : Int) + s.tapDissectorList.idxOf name else 0 :=
  findTapIdFrom_eq name 1 s.tapDissectorList

/-- A tap has a number if and only if its name is in the list. -/
theorem findTapId_ne_zero_iff (name : String) (s : TapState Program)
    : findTapId name s ≠ 0 ↔ name ∈ s.tapDissectorList := by
  rw [findTapId_eq]
  split <;> rename_i member
  · simp only [member, iff_true]
    omega
  · simp [member]

/-- No two taps share a number. -/
theorem findTapId_inj {name other : String} {s : TapState Program}
    (known : findTapId name s ≠ 0)
    : findTapId name s = findTapId other s ↔ name = other := by
  refine ⟨fun same => ?_, fun same => by rw [same]⟩
  have here := (findTapId_ne_zero_iff name s).mp known
  have there := (findTapId_ne_zero_iff other s).mp (same ▸ known)
  rw [findTapId_eq, findTapId_eq, if_pos here, if_pos there] at same
  exact (List.idxOf_inj here).mp (by omega)

/-- register_tap answers the number that the tap has from then on, and the other taps keep
theirs.
-/
theorem findTapId_registerTap (name other : String) (s : TapState Program)
    : (registerTap name s).1 ≠ 0
      ∧ findTapId other (registerTap name s).2
        = if other = name then (registerTap name s).1 else findTapId other s := by
  simp only [registerTap]
  split
  · rename_i new
    have absent : name ∉ s.tapDissectorList := by
      rw [← findTapId_ne_zero_iff]
      exact not_not.mpr new
    refine ⟨by simp only; omega, ?_⟩
    simp only [findTapId_eq, List.mem_append, List.mem_singleton, List.idxOf_append]
    by_cases same : other = name
    · subst same
      simp only [absent, if_false, or_true, if_true, List.idxOf_cons_self]
      push_cast
      omega
    · simp only [same, or_false, if_false]
      split <;> rfl
  · rename_i known
    refine ⟨known, ?_⟩
    split <;> rename_i same
    · rw [same]
    · rfl

/-- A record of tap.c is what the history of its listener makes it, where a filter that no
packet routine waits for may be anything.
-/
structure Tracks (engine : DfilterEngine Program Edt) (s : TapState Program)
    (tl : TapListener Program) (l : Listening)
    : Prop where
  known : findTapId l.tapname s ≠ 0
  tapId : tl.tapId = findTapId l.tapname s
  tapdata : tl.tapdata = l.tapdata
  flags : tl.flags = l.flags
  packet : tl.packet = l.packet
  finish : tl.finish = l.finish
  failed : tl.failed = l.failed
  verdict
    : tl.packet.isSome → ∀ edt, tl.codePasses engine edt = filterPasses engine edt l.filter

/-- The tap system between two operations, next to its history. -/
structure TracksHistory (engine : DfilterEngine Program Edt) (s : TapState Program)
    (history : TapHistory)
    : Prop where
  idle : s.tappingIsActive = false
  taps : ∀ name tapId, (name, tapId) ∈ history.taps ↔ findTapId name s = tapId ∧ tapId ≠ 0
  listeners : List.Forall₂ (Tracks engine s) s.tapListenerQueue history.listeners

variable {engine : DfilterEngine Program Edt} {s s' : TapState Program} {history : TapHistory}

/-- A tap is unknown to tap.c exactly when it was never registered. -/
theorem TracksHistory.unknown_iff (tracks : TracksHistory engine s history) (name : String)
    : findTapId name s = 0 ↔ ∀ known ∈ history.taps, known.1 ≠ name := by
  constructor
  · rintro unknown ⟨_, tapId⟩ member rfl
    obtain ⟨number, nonzero⟩ := (tracks.taps _ tapId).mp member
    exact nonzero (number.symm.trans unknown)
  · intro never
    by_contra known
    exact never _ ((tracks.taps name _).mpr ⟨rfl, known⟩) rfl

/-- A record stays right while the numbers of the taps that have one stay. -/
theorem Tracks.of_taps {tl : TapListener Program} {l : Listening} (tracks : Tracks engine s tl l)
    (kept : findTapId l.tapname s ≠ 0 → findTapId l.tapname s' = findTapId l.tapname s)
    : Tracks engine s' tl l := by
  have same := kept tracks.known
  exact { tracks with known := same ▸ tracks.known, tapId := same ▸ tracks.tapId }

/-- An operation that keeps the list of taps keeps every record right. -/
theorem TracksHistory.of_listeners (tracks : TracksHistory engine s history)
    (sameTaps : s'.tapDissectorList = s.tapDissectorList) (idle : s'.tappingIsActive = false)
    {listeners : List Listening}
    (related : List.Forall₂ (Tracks engine s) s'.tapListenerQueue listeners)
    : TracksHistory engine s' { history with listeners } := by
  have sameId : ∀ name, findTapId name s' = findTapId name s := by
    intro name
    rw [findTapId, sameTaps, findTapId]
  refine ⟨idle, ?_, related.imp fun tl l here => here.of_taps fun _ => sameId l.tapname⟩
  intro name tapId
  rw [sameId]
  exact tracks.taps name tapId

/-- register_tap answers a number of its own for a new tap and the old one otherwise. -/
theorem TracksHistory.registerTap_answer (tracks : TracksHistory engine s history)
    (name : String)
    : ∀ known ∈ history.taps, known.2 = (registerTap name s).1 ↔ known.1 = name := by
  rintro ⟨other, tapId⟩ member
  obtain ⟨number, nonzero⟩ := (tracks.taps other tapId).mp member
  obtain ⟨-, after⟩ := findTapId_registerTap name other s
  obtain ⟨registered, self⟩ := findTapId_registerTap name name s
  rw [if_pos rfl] at self
  simp only
  constructor
  · intro same
    by_contra apart
    rw [if_neg apart, number, same, ← self] at after
    have otherKnown : findTapId other (registerTap name s).2 ≠ 0 := by
      rw [after, self]
      exact registered
    exact apart ((findTapId_inj otherKnown).mp after)
  · intro same
    subst same
    rw [registerTap, if_neg (number.symm ▸ nonzero), number]

theorem TracksHistory.registerTap (tracks : TracksHistory engine s history) (name : String)
    : TracksHistory engine (Tap.registerTap name s).2
        { history with taps := (name, (Tap.registerTap name s).1) :: history.taps } := by
  have frame : (Tap.registerTap name s).2.tappingIsActive = s.tappingIsActive
      ∧ (Tap.registerTap name s).2.tapListenerQueue = s.tapListenerQueue := by
    simp only [Tap.registerTap]
    split <;> exact ⟨rfl, rfl⟩
  obtain ⟨registered, -⟩ := findTapId_registerTap name name s
  refine ⟨frame.1.trans tracks.idle, ?_, ?_⟩
  · intro other tapId
    rw [(findTapId_registerTap name other s).2, List.mem_cons, tracks.taps, Prod.mk.injEq]
    by_cases same : other = name
    · simp only [same, true_and, if_true]
      constructor
      · rintro (rfl | ⟨number, nonzero⟩)
        · exact ⟨rfl, registered⟩
        · refine ⟨?_, nonzero⟩
          rw [Tap.registerTap, if_neg (number.symm ▸ nonzero), number]
      · rintro ⟨rfl, -⟩
        exact Or.inl rfl
    · simp only [same, false_and, false_or, if_false]
  · rw [frame.2]
    refine tracks.listeners.imp fun tl l here => here.of_taps fun known => ?_
    rw [(findTapId_registerTap name l.tapname s).2]
    split <;> rename_i same
    · rw [same] at known ⊢
      rw [Tap.registerTap, if_neg known]
    · rfl

/-- An unknown tap is an error that changes nothing, whatever the filter text. -/
theorem Registration.register_unknown {r : Registration}
    (unknown : findTapId r.tapname s = 0) (fstring : Option String)
    : r.register fstring s = (some s!"Tap {r.tapname} not found", s) := by
  simp [register, Tap.registerTapListener, unknown]

/-- A listener with the arguments of a registration. -/
def Registration.record (r : Registration) (tapId : Int) (fstring : Option String)
    (code : Option Program)
    : TapListener Program :=
  { tapId, needsRedraw := true, failed := false, flags := r.flags, fstring, code
    tapdata := r.tapdata, reset := r.reset, packet := r.packet, draw := r.draw
    finish := r.finish }

/-- A known tap gets a listener at the head of the queue; its filter is not compiled. -/
theorem Registration.register_known {r : Registration}
    (known : findTapId r.tapname s ≠ 0) (fstring : Option String)
    : r.register fstring s
      = (none, { s with
          tapListenerQueue :=
            r.record (findTapId r.tapname s) fstring none :: s.tapListenerQueue }) := by
  simp [register, Tap.registerTapListener, record, known]

/-- A listener that set_tap_dfilter found is given the filter, or is left without one when
the text does not compile.
-/
theorem TapListener.setDfilter_spec (engine : DfilterEngine Program Edt)
    (fstring : Option String) (tl : TapListener Program)
    : ((tl.setDfilter engine fstring).1.isSome ↔ ¬ Compiles engine fstring)
      ∧ ∀ edt, (tl.setDfilter engine fstring).2.codePasses engine edt
          = filterPasses engine edt
              (if (tl.setDfilter engine fstring).1.isNone then fstring else none) := by
  cases fstring with
  | none => simp [setDfilter, Compiles, codePasses, filterPasses]
  | some text =>
      cases compile : engine.dfilterCompile text with
      | error errMsg => simp [setDfilter, compile, Compiles, codePasses, filterPasses]
      | ok code => simp [setDfilter, compile, Compiles, codePasses, filterPasses]

/-- A new filter touches nothing else of the listener but its wish to be redrawn. -/
theorem TapListener.setDfilter_frame (engine : DfilterEngine Program Edt)
    (fstring : Option String) (tl : TapListener Program)
    : ∃ text code, (tl.setDfilter engine fstring).2
        = { tl with needsRedraw := true, fstring := text, code } := by
  cases fstring with
  | none => exact ⟨none, none, rfl⟩
  | some text =>
      cases compile : engine.dfilterCompile text with
      | error errMsg =>
          simp only [setDfilter, compile]
          exact ⟨none, none, rfl⟩
      | ok code =>
          simp only [setDfilter, compile]
          exact ⟨some text, code, rfl⟩

/-- Registering at a known tap without a filter and then setting one leaves the new listener
with the filter in force.
-/
theorem Registration.registerThenSet_known (engine : DfilterEngine Program Edt)
    {r : Registration} (known : findTapId r.tapname s ≠ 0) (fstring : Option String)
    : ∃ error text code,
        r.registerThenSet engine fstring s
          = (error, { s with
              tapListenerQueue :=
                r.record (findTapId r.tapname s) text code :: s.tapListenerQueue })
        ∧ (error.isSome ↔ ¬ Compiles engine fstring)
        ∧ ∀ edt, (r.record (findTapId r.tapname s) text code).codePasses engine edt
            = filterPasses engine edt (if error.isNone then fstring else none) := by
  let plain : TapListener Program := r.record (findTapId r.tapname s) none none
  obtain ⟨refused, verdict⟩ := plain.setDfilter_spec engine fstring
  obtain ⟨text, code, changed⟩ := plain.setDfilter_frame engine fstring
  rw [changed] at verdict
  refine ⟨_, text, code, ?_, refused, verdict⟩
  have found : plain.tapdata = r.tapdata := rfl
  simp only [registerThenSet, register_known known, Tap.setTapDfilter, setDfilterFirst]
  rw [if_pos found, changed]
  rfl

/-- The history notes the filter in force. -/
theorem TapListener.setDfilter_tracks {tl : TapListener Program} {l : Listening}
    (tracks : Tracks engine s tl l) (fstring : Option String)
    : Tracks engine s (tl.setDfilter engine fstring).2
        { l with
          filter := if (tl.setDfilter engine fstring).1.isNone then fstring else none } := by
  have verdict := (tl.setDfilter_spec engine fstring).2
  obtain ⟨text, code, changed⟩ := tl.setDfilter_frame engine fstring
  rw [changed] at verdict ⊢
  exact { tracks with verdict := fun _ => verdict }

/-- The error of a new filter depends on the text alone. -/
theorem TapListener.setDfilter_error (engine : DfilterEngine Program Edt)
    (fstring : Option String) (tl tl' : TapListener Program)
    : (tl.setDfilter engine fstring).1 = (tl'.setDfilter engine fstring).1 := by
  cases fstring with
  | none => rfl
  | some text => cases compile : engine.dfilterCompile text <;> simp [setDfilter, compile]

/-- Both search for the same tapdata. -/
theorem Tracks.picks (tapdata : Ptr) (tl : TapListener Program) (l : Listening)
    (tracks : Tracks engine s tl l)
    : decide (tl.tapdata = tapdata) = decide (l.tapdata = tapdata) := by
  rw [tracks.tapdata]

/-- set_tap_dfilter refuses exactly a text that does not compile, when it finds a listener. -/
theorem TracksHistory.setTapDfilter_answer (tracks : TracksHistory engine s history)
    (tapdata : Ptr) (fstring : Option String)
    : (Tap.setTapDfilter engine tapdata fstring s).1.isSome
      ↔ (∃ l ∈ history.listeners, l.tapdata = tapdata) ∧ ¬ Compiles engine fstring := by
  have found := rel_find? tracks.listeners (Tracks.picks tapdata)
  have searched := @List.find?_isSome _ history.listeners fun l => l.tapdata = tapdata
  simp only [decide_eq_true_eq] at searched
  simp only [Tap.setTapDfilter, setDfilterFirst_error]
  rw [← searched]
  generalize s.tapListenerQueue.find? _ = here at found ⊢
  generalize history.listeners.find? _ = there at found ⊢
  cases found with
  | none => simp
  | @some tl l _ =>
      simp only [Option.bind_some, Option.isSome_some, true_and]
      exact (tl.setDfilter_spec engine fstring).1

theorem TracksHistory.setTapDfilter (tracks : TracksHistory engine s history) (tapdata : Ptr)
    (fstring : Option String)
    : TracksHistory engine (Tap.setTapDfilter engine tapdata fstring s).2
        { history with
          listeners := adjustFirst (fun l => l.tapdata = tapdata)
            (fun l =>
              { l with
                filter :=
                  if (Tap.setTapDfilter engine tapdata fstring s).1.isNone then fstring
                  else none })
            history.listeners } := by
  refine tracks.of_listeners ?_ ?_ ?_
  · rfl
  · exact tracks.idle
  simp only [Tap.setTapDfilter, setDfilterFirst_eq, setDfilterFirst_error]
  have found := @List.find?_isSome _ s.tapListenerQueue fun tl => tl.tapdata = tapdata
  have answered : ∀ tl ∈ s.tapListenerQueue, tl.tapdata = tapdata →
      ((s.tapListenerQueue.find? fun tl => tl.tapdata = tapdata).bind
        fun tl => (tl.setDfilter engine fstring).1) = (tl.setDfilter engine fstring).1 := by
    intro tl member same
    obtain ⟨first, isFirst⟩ :=
      Option.isSome_iff_exists.mp (found.mpr ⟨tl, member, by simpa using same⟩)
    rw [isFirst, Option.bind_some]
    exact first.setDfilter_error engine fstring tl
  generalize (s.tapListenerQueue.find? fun tl => tl.tapdata = tapdata).bind _ = error
    at answered
  -- The answer is that of the listener changed, so the history notes the filter in force.
  have related : List.Forall₂ (fun tl l => Tracks engine s tl l
      ∧ (tl.tapdata = tapdata → error = (tl.setDfilter engine fstring).1))
      s.tapListenerQueue history.listeners := by
    apply List.forall₂_iff_get.mpr
    obtain ⟨sameLength, pointwise⟩ := List.forall₂_iff_get.mp tracks.listeners
    refine ⟨sameLength, fun place inside inside' => ⟨pointwise place inside inside', ?_⟩⟩
    exact answered _ (List.getElem_mem inside)
  refine (forall₂_adjustFirst related ?_ ?_).imp fun _ _ both => both.1
  · intro tl l here
    exact here.1.picks tapdata
  · intro tl l here picked
    have error_eq := here.2 (by simpa using picked)
    have changed := TapListener.setDfilter_tracks here.1 fstring
    rw [← error_eq] at changed
    refine ⟨changed, fun _ => ?_⟩
    rw [error_eq]
    exact tl.setDfilter_error engine fstring _

theorem TracksHistory.removeTapListener (tracks : TracksHistory engine s history)
    (tapdata : Ptr)
    : TracksHistory engine (Tap.removeTapListener tapdata s).2
        { history with
          listeners := history.listeners.eraseP fun l => l.tapdata = tapdata } := by
  refine tracks.of_listeners ?_ ?_ ?_
  · rfl
  · exact tracks.idle
  simp only [Tap.removeTapListener, unlinkFirst_eq]
  exact forall₂_eraseP tracks.listeners (Tracks.picks tapdata)

/-- A whole packet pushes entries along the queue: those queued, when there is a listener
and no more of them than fit.
-/
theorem tapPacket_spec (engine : DfilterEngine Program Edt) (clients : TapClients Edt σ)
    (edt : Edt) (queued : List TapQueueCall) (client : σ) (idle : s.tappingIsActive = false)
    : ∃ entries,
        (queued.length ≤ tapPacketQueueLen → s.tapListenerQueue ≠ [] →
          entries = queued.map TapQueueCall.entry)
        ∧ (tapPacket engine clients edt queued s client).1
          = (pushEntries engine clients edt entries s.tapListenerQueue client).1
        ∧ (tapPacket engine clients edt queued s client).2.1.tapListenerQueue
          = (pushEntries engine clients edt entries s.tapListenerQueue client).2.1
        ∧ (tapPacket engine clients edt queued s client).2.1.tapDissectorList
          = s.tapDissectorList
        ∧ (tapPacket engine clients edt queued s client).2.1.tappingIsActive = false
        ∧ (tapPacket engine clients edt queued s client).2.2
          = (pushEntries engine clients edt entries s.tapListenerQueue client).2.2 := by
  obtain ⟨keptQueue, keptTaps, keptActive⟩ := foldl_tapQueuePacket_kept queued (tapQueueInit s)
  cases listening : s.tapListenerQueue with
  | nil =>
      have inert : tapQueueInit s = s := by simp [tapQueueInit, listening]
      rw [inert] at keptQueue keptTaps keptActive
      rw [idle] at keptActive
      refine ⟨[], fun _ some => (some rfl).elim, ?_⟩
      simp only [tapPacket, inert, tapPushTappedQueue, keptActive, Bool.not_false, if_true,
        pushEntries, keptTaps, keptQueue, listening, and_self]
  | cons tl rest =>
      have active : (tapQueueInit s).tappingIsActive = true := by
        simp [tapQueueInit, listening]
      have sameQueue : (tapQueueInit s).tapListenerQueue = tl :: rest := by
        simp [tapQueueInit, listening]
      have sameTaps : (tapQueueInit s).tapDissectorList = s.tapDissectorList := by
        simp [tapQueueInit, listening]
      have empty : (tapQueueInit s).tapPacketArray = [] := by
        simp [tapQueueInit, listening]
      rw [sameQueue] at keptQueue
      rw [sameTaps] at keptTaps
      rw [active] at keptActive
      refine ⟨(queued.foldl (fun s call => tapQueuePacket call s)
        (tapQueueInit s)).tapPacketArray, ?_, ?_⟩
      · intro fits _
        rw [foldl_tapQueuePacket queued active (by simpa [empty] using fits)]
        simp [empty]
      · simp only [tapPacket, tapPushTappedQueue, keptActive, Bool.not_true,
          Bool.false_eq_true, if_false, keptQueue, keptTaps, and_self]

/-- A listener takes the entries that its history wants. -/
theorem TracksHistory.takes_eq (tracks : TracksHistory engine s history)
    {tl : TapListener Program} {l : Listening} (here : Tracks engine s tl l)
    (listens : tl.packet.isSome) (edt : Edt) (queued : List TapQueueCall)
    : ((queued.map TapQueueCall.entry).filter (tl.takes engine edt)).map TapPacket.given
      = (queued.filter (l.wants engine history.taps edt)).map TapQueueCall.given := by
  rw [List.filter_map, List.map_map]
  congr 1
  refine congrArg (List.filter · queued) (funext fun call => ?_)
  have sameTap : call.tapId = tl.tapId ↔ (l.tapname, call.tapId) ∈ history.taps := by
    rw [tracks.taps, here.tapId]
    constructor
    · intro same
      exact ⟨same.symm, same ▸ here.known⟩
    · rintro ⟨same, -⟩
      exact same.symm
  simp only [Function.comp_apply, TapListener.takes, TapListener.listensTo, Listening.wants,
    here.verdict listens edt, here.flags, Bool.decide_and, TapQueueCall.entry, sameTap]
  cases call.inErrorPkt <;> simp [tapPacketIsErrorPacket]

/-- A packet delivers what the history wants delivered. -/
theorem TracksHistory.tapPacket_delivers (tracks : TracksHistory engine s history)
    (clients : TapClients Edt σ) (edt : Edt) {queued : List TapQueueCall} (client : σ)
    (fits : queued.length ≤ tapPacketQueueLen)
    : DeliversWanted engine history edt queued
        (tapPacket engine clients edt queued s client).1 := by
  obtain ⟨entries, entries_eq, calls, -⟩ :=
    tapPacket_spec engine clients edt queued client tracks.idle
  rw [calls]
  constructor
  · intro place l found listens
    obtain ⟨tl, foundRecord, here⟩ := forall₂_getElem? tracks.listeners found
    have nonempty : s.tapListenerQueue ≠ [] := by
      rintro empty
      simp [empty] at foundRecord
    rw [entries_eq fits nonempty]
    obtain ⟨tl', -, pushed⟩ :=
      pushEntries_at engine clients edt (queued.map TapQueueCall.entry) client foundRecord
    have delivered := pushed.delivers (here.packet ▸ listens)
    rwa [tracks.takes_eq here (here.packet ▸ listens), here.failed] at delivered
  · intro call member
    obtain ⟨place, tl, counted, found, routine, tapdata⟩ :=
      pushEntries_madeTo engine clients edt entries s.tapListenerQueue client call member
    rw [Nat.zero_add] at counted
    obtain ⟨l, foundHistory, here⟩ := forall₂_getElem? tracks.listeners.flip found
    rw [counted]
    exact ⟨l, foundHistory, here.packet ▸ routine, here.tapdata ▸ tapdata⟩

theorem TracksHistory.tapPacket (tracks : TracksHistory engine s history)
    (clients : TapClients Edt σ) (edt : Edt) (queued : List TapQueueCall) (client : σ)
    : TracksHistory engine (Tap.tapPacket engine clients edt queued s client).2.1
        { history with
          listeners := history.listeners.mapIdx fun place =>
            .called (Tap.tapPacket engine clients edt queued s client).1 place } := by
  obtain ⟨entries, -, calls, queue, taps, active, -⟩ :=
    tapPacket_spec engine clients edt queued client tracks.idle
  refine tracks.of_listeners taps active ?_
  rw [queue, calls]
  obtain ⟨sameLength, pointwise⟩ := List.forall₂_iff_get.mp tracks.listeners
  apply List.forall₂_iff_get.mpr
  refine ⟨by rw [length_pushEntries, List.length_mapIdx, sameLength], ?_⟩
  intro place inside inside'
  rw [length_pushEntries] at inside
  rw [List.length_mapIdx] at inside'
  have here := pointwise place inside inside'
  obtain ⟨tl', found, pushed⟩ := pushEntries_at engine clients edt entries client
    (List.getElem?_eq_getElem inside)
  simp only [List.get_eq_getElem, List.getElem_mapIdx] at here ⊢
  rw [(List.getElem?_eq_some_iff.mp found).2, pushed.same]
  exact { here with failed := by simp [Listening.called, pushed.failed, here.failed] }

end PacketDissector.Epan.Tap
