import PacketDissector.Epan.TapTracking

/-! Sequences of tap system calls and packets, and exactly when the filter a listener was
registered with is respected: as long as every filter that holds a packet back is set by
set_tap_dfilter. The port no longer compiles the filter of a registration.
-/

namespace PacketDissector.Epan.Tap

open PacketDissector.Library

variable {Program Edt σ : Type}

/-- The entry that a tap queues in a packet of its own. -/
def ownEntry (tapId : Int) : TapQueueCall := ⟨tapId, false, 0, 0⟩

/-- The listener at the head of the queue is called for an entry of its tap exactly when its
compiled filter passes.
-/
theorem tapPacket_own_iff (engine : DfilterEngine Program Edt) (clients : TapClients Edt σ)
    (edt : Edt) (client : σ) {s : TapState Program} {tl : TapListener Program}
    {rest : List (TapListener Program)}
    (idle : s.tappingIsActive = false) (head : s.tapListenerQueue = tl :: rest)
    (listens : tl.packet.isSome) (running : tl.failed = false)
    : callsAt 0 (tapPacket engine clients edt [ownEntry tl.tapId] s client).1 = []
      ↔ tl.codePasses engine edt = false := by
  obtain ⟨entries, entries_eq, calls, -⟩ :=
    tapPacket_spec engine clients edt [ownEntry tl.tapId] client idle
  have pushedEntries := entries_eq (Nat.le_of_ble_eq_true rfl) (by simp [head])
  obtain ⟨tl', -, pushed⟩ := pushEntries_at engine clients edt entries client
    (show s.tapListenerQueue[0]? = some tl by simp [head])
  have delivered := pushed.delivers listens
  simp only [Delivers, running, Bool.false_eq_true, if_false] at delivered
  have takes_eq : tl.takes engine edt (ownEntry tl.tapId).entry = tl.codePasses engine edt := by
    simp [TapListener.takes, TapListener.listensTo, ownEntry, TapQueueCall.entry]
  rw [calls, delivered.eq_nil_iff, pushedEntries]
  simp [takes_eq]

variable {engine : DfilterEngine Program Edt}

/-- Without a filter text that holds something back from a packet routine the two ways to
register at a known tap are one.
-/
theorem Registration.agrees {s : TapState Program} {r : Registration}
    (known : findTapId r.tapname s ≠ 0) (clients : TapClients Edt σ) {fstring : Option String}
    (compiles : Compiles engine fstring)
    (passes : r.packet.isSome → ∀ edt, filterPasses engine edt fstring = true)
    : AgreesWithSetting engine clients r fstring s := by
  obtain ⟨error, text, code, set, refused, verdict⟩ :=
    Registration.registerThenSet_known engine known fstring
  have accepted : error = none := by simpa [compiles] using refused
  rw [accepted, Option.isNone_none, if_pos rfl] at verdict
  rw [AgreesWithSetting, Registration.register_known known, set]
  refine ⟨accepted.symm, fun _ => ?_⟩
  apply StatesAlike.behavesAs
  refine ⟨rfl, rfl, rfl, .cons ?_ (List.forall₂_same.mpr fun tl _ => .refl engine tl)⟩
  refine ⟨rfl, rfl, rfl, rfl, rfl, rfl, fun listens edt => ?_⟩
  rw [verdict edt, passes listens edt]
  rfl

/-- A packet that the filter holds back from the listener tells the two ways to register at
a known tap from each other: the listener registered with the text is called for it.
-/
theorem Registration.passes_of_agrees {s : TapState Program} {r : Registration}
    (idle : s.tappingIsActive = false) (known : findTapId r.tapname s ≠ 0)
    {clients : TapClients Edt σ} (client : σ) {fstring : Option String}
    (agrees : AgreesWithSetting engine clients r fstring s) (listens : r.packet.isSome)
    (edt : Edt)
    : filterPasses engine edt fstring = true := by
  obtain ⟨error, text, code, set, refused, verdict⟩ :=
    Registration.registerThenSet_known engine known fstring
  rw [AgreesWithSetting, Registration.register_known known, set] at agrees
  obtain ⟨sameAnswer, sameBehaviour⟩ := agrees
  have accepted : error = none := sameAnswer.symm
  rw [accepted, Option.isNone_none, if_pos rfl] at verdict
  have samePushes := sameBehaviour rfl [.packet edt [ownEntry (findTapId r.tapname s)]] client
  simp only [performAll, TapOp.perform, Prod.mk.injEq, List.cons.injEq, TapAnswer.pushed.injEq,
    and_true] at samePushes
  let registered : TapState Program :=
    { s with
      tapListenerQueue := r.record (findTapId r.tapname s) fstring none :: s.tapListenerQueue }
  let set' : TapState Program :=
    { s with
      tapListenerQueue := r.record (findTapId r.tapname s) text code :: s.tapListenerQueue }
  have unfiltered := tapPacket_own_iff engine clients edt client
    (show registered.tappingIsActive = false from idle) rfl listens rfl
  have filtered := tapPacket_own_iff engine clients edt client
    (show set'.tappingIsActive = false from idle) rfl listens rfl
  by_contra blocked
  have silent := filtered.mpr ((verdict edt).trans (by simpa using blocked))
  have alsoSilent := unfiltered.mp ((congrArg (callsAt 0) samePushes.1).trans silent)
  cases alsoSilent

/-- While the queue tracks the history, an operation respects the filters exactly when it
registers no filter that holds something back, by cases on the operation.
-/
theorem respectsFilters_iff (clients : TapClients Edt σ) {s next : TapSystem Program σ}
    {op : TapOp Edt} (tracks : TracksHistory engine s.tap s.history)
    (taken : s.step engine clients op = some next)
    : RespectsFilters engine clients s op next ↔ RegistersUnfiltered engine s op := by
  simp only [TapSystem.step, Option.some.injEq] at taken
  subst taken
  cases op with
  | registerTap name =>
      simp only [RespectsFilters, RegistersUnfiltered, TapOp.perform, iff_true, and_true]
      exact tracks.registerTap_answer name
  | registerTapListener r fstring =>
      simp only [RespectsFilters, RegistersUnfiltered, TapOp.perform, and_true,
        ← tracks.unknown_iff]
      by_cases unknown : findTapId r.tapname s.tap = 0
      · have same := Registration.register_unknown (r := r) unknown
        simp [unknown, same, AgreesWithSetting, Registration.registerThenSet]
      · simp only [unknown, false_or, Registration.register_known unknown, Option.isSome_none,
          Bool.false_eq_true, false_iff, not_not, false_imp_iff, true_and]
        constructor
        · rintro ⟨compiles, agrees⟩
          exact ⟨compiles, fun listens edt =>
            Registration.passes_of_agrees tracks.idle unknown s.client agrees listens edt⟩
        · rintro ⟨compiles, passes⟩
          exact ⟨compiles, Registration.agrees unknown clients compiles passes⟩
  | setTapDfilter tapdata fstring =>
      simp only [RespectsFilters, RegistersUnfiltered, TapOp.perform, iff_true, and_true]
      exact tracks.setTapDfilter_answer tapdata fstring
  | removeTapListener tapdata =>
      have found := rel_find? tracks.listeners (Tracks.picks tapdata)
      have picked : ∀ tl, (s.tap.tapListenerQueue.find? fun tl => tl.tapdata = tapdata) = some tl →
          tl.tapdata = tapdata := fun tl isFirst => by simpa using List.find?_some isFirst
      simp only [RespectsFilters, RegistersUnfiltered, TapOp.perform, Tap.removeTapListener,
        unlinkFirst_eq, iff_true]
      generalize s.tap.tapListenerQueue.find? _ = here at found picked ⊢
      generalize s.history.listeners.find? _ = there at found ⊢
      cases found with
      | none => rfl
      | @some tl l same =>
          simp only [Option.elim_some, Option.bind_some, freeTapListener, same.finish,
            picked tl rfl]
          cases l.finish <;> rfl
  | packet edt queued =>
      simp only [RespectsFilters, RegistersUnfiltered, TapOp.perform, iff_true]
      obtain ⟨entries, -, calls, -, -, -, client⟩ :=
        tapPacket_spec engine clients edt queued s.client tracks.idle
      refine ⟨?_, fun fits => tracks.tapPacket_delivers clients edt s.client fits⟩
      rw [calls, client]
      exact pushEntries_replays engine clients edt entries s.tap.tapListenerQueue s.client

/-- An operation that registers no filter that holds something back keeps the queue in step
with the history, by cases on the operation.
-/
theorem TapSystem.step_tracks {clients : TapClients Edt σ} {s next : TapSystem Program σ}
    {op : TapOp Edt} (tracks : TracksHistory engine s.tap s.history)
    (taken : s.step engine clients op = some next)
    (unfiltered : RegistersUnfiltered engine s op)
    : TracksHistory engine next.tap next.history := by
  simp only [TapSystem.step, Option.some.injEq] at taken
  subst taken
  cases op with
  | registerTap name => exact tracks.registerTap name
  | registerTapListener r fstring =>
      simp only [RegistersUnfiltered, ← tracks.unknown_iff] at unfiltered
      by_cases unknown : findTapId r.tapname s.tap = 0
      · simpa only [TapOp.perform, TapHistory.record, Registration.register_unknown unknown]
          using tracks
      · obtain ⟨compiles, passes⟩ := unfiltered.resolve_left unknown
        simp only [TapOp.perform, TapHistory.record, Registration.register_known unknown]
        refine tracks.of_listeners ?_ ?_ (.cons ?_ tracks.listeners)
        · rfl
        · exact tracks.idle
        · refine ⟨unknown, rfl, rfl, rfl, rfl, rfl, rfl, fun listens edt => ?_⟩
          exact (passes listens edt).symm
  | setTapDfilter tapdata fstring => exact tracks.setTapDfilter tapdata fstring
  | removeTapListener tapdata => exact tracks.removeTapListener tapdata
  | packet edt queued => exact tracks.tapPacket clients edt queued s.client

/-- From an empty tap system, a sequence of calls and packets respects every filter exactly
when each registration in it registers no filter that holds something back.
-/
theorem run_respectsFilters_iff (engine : DfilterEngine Program Edt)
    (clients : TapClients Edt σ) (client : σ) (ops : List (TapOp Edt))
    : StepsMeet (TapSystem.step engine clients) (RespectsFilters engine clients)
          (TapSystem.start client) ops
      ↔ StepsMeet (TapSystem.step engine clients)
          (fun s op _ => RegistersUnfiltered engine s op) (TapSystem.start client) ops := by
  -- A filter that was given at registration is the only one that is not compiled.
  refine stepsMeet_iff (fun s => TracksHistory engine s.tap s.history) ?_ ?_ ?_
  · intro s op next tracks taken
    exact respectsFilters_iff clients tracks taken
  · intro s op next tracks taken unfiltered
    exact TapSystem.step_tracks tracks taken unfiltered
  · refine ⟨rfl, fun name tapId => ?_, .nil⟩
    simp only [TapSystem.start, List.not_mem_nil, false_iff, not_and, not_not]
    exact Eq.symm

/-- A registration on the tap "frame". -/
def frameRegistration : Registration where
  tapname := "frame"
  tapdata := 1
  flags := tlRequiresNothing
  reset := none
  packet := some "packet_cb"
  draw := none
  finish := none

/-- An engine that accepts only the filter that no frame passes. -/
def noFrameEngine : DfilterEngine Unit Unit where
  dfilterCompile text :=
    if text = "frame.number == 0" then .ok (some ()) else .error "not a filter"
  dfilterApplyEdt _ _ := false

/-- Clients whose packet routines ask for no redraw. -/
def quietClients : TapClients Unit Unit where
  packet _ _ _ _ _ client := (.dontRedraw, client)
  finish _ _ client := client

/-- A text that does not compile is accepted at registration, and a listener registered
with a filter that nothing passes is called with the packet.
-/
theorem registered_filter_ignored
    : ¬ StepsMeet (TapSystem.step noFrameEngine quietClients)
          (RespectsFilters noFrameEngine quietClients) (TapSystem.start ())
          [.registerTap "frame", .registerTapListener frameRegistration (some "frame.number ==")]
      ∧ ∃ registered,
          runLabels (TapSystem.step noFrameEngine quietClients) (TapSystem.start ())
              [.registerTap "frame",
                .registerTapListener frameRegistration (some "frame.number == 0")]
            = some registered
          ∧ ¬ StepsMeet (TapSystem.step noFrameEngine quietClients)
              (RespectsFilters noFrameEngine quietClients) registered
              [.packet () [⟨1, false, 2, 3⟩]] := by
  constructor
  · intro meets
    obtain ⟨⟨refused, -⟩, -⟩ := (meets _ rfl).2 _ rfl
    have accepted := not_or.mp (mt refused.mpr (by decide))
    obtain ⟨code, compiles⟩ := not_not.mp accepted.2 "frame.number ==" rfl
    cases compiles
  · refine ⟨_, rfl, fun meets => ?_⟩
    obtain ⟨⟨-, delivers⟩, -⟩ := meets _ rfl
    have delivered := (delivers (by decide)).wanted 0 _ rfl rfl
    have called : OfferedUntil (· = TapPacketStatus.failed) ([] : List (Ptr × Ptr))
        [((2, 3), TapPacketStatus.dontRedraw)] := delivered
    cases called

end PacketDissector.Epan.Tap
