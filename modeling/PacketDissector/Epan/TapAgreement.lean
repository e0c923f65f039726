import PacketDissector.Epan.TapHistory

/-! Tap systems that no caller can tell from each other: their listeners agree place by place
in all that the tap system reads of them, where of a compiled filter only its verdicts count.
-/

namespace PacketDissector.Epan.Tap

open PacketDissector.Library

variable {Program Edt σ : Type}

/-- The search of set_tap_dfilter as a change of the first listener with the tapdata. -/
theorem setDfilterFirst_eq (engine : DfilterEngine Program Edt) (tapdata : Ptr)
    (fstring : Option String) (queue : List (TapListener Program))
    : (setDfilterFirst engine tapdata fstring queue).2
        = adjustFirst (fun tl => tl.tapdata = tapdata)
            (fun tl => (tl.setDfilter engine fstring).2) queue := by
  induction queue with
  | nil => rfl
  | cons tl rest ih =>
      by_cases found : tl.tapdata = tapdata
      · simp [setDfilterFirst, adjustFirst, found]
      · simp [setDfilterFirst, adjustFirst, found, ih]

/-- set_tap_dfilter reports what the compiler says, when there is a listener to change. -/
theorem setDfilterFirst_error (engine : DfilterEngine Program Edt) (tapdata : Ptr)
    (fstring : Option String) (queue : List (TapListener Program))
    : (setDfilterFirst engine tapdata fstring queue).1
        = (queue.find? fun tl => tl.tapdata = tapdata).bind
            fun tl => (tl.setDfilter engine fstring).1 := by
  induction queue with
  | nil => rfl
  | cons tl rest ih =>
      by_cases found : tl.tapdata = tapdata
      · simp [setDfilterFirst, found]
      · simp [setDfilterFirst, found, ih]

/-- The search of remove_tap_listener takes out the first listener with the tapdata. -/
theorem unlinkFirst_eq (tapdata : Ptr) (queue : List (TapListener Program))
    : unlinkFirst tapdata queue
        = (queue.find? fun tl => tl.tapdata = tapdata,
            queue.eraseP fun tl => tl.tapdata = tapdata) := by
  induction queue with
  | nil => rfl
  | cons tl rest ih =>
      by_cases found : tl.tapdata = tapdata
      · simp [unlinkFirst, found]
      · simp [unlinkFirst, found, ih]

/-- Two listeners agree in all that the tap system reads of them. -/
structure Alike (engine : DfilterEngine Program Edt) (tl tl' : TapListener Program) : Prop where
  tapId : tl.tapId = tl'.tapId
  flags : tl.flags = tl'.flags
  failed : tl.failed = tl'.failed
  tapdata : tl.tapdata = tl'.tapdata
  packet : tl.packet = tl'.packet
  finish : tl.finish = tl'.finish
  verdict
    : tl.packet.isSome → ∀ edt, tl.codePasses engine edt = tl'.codePasses engine edt

theorem Alike.refl (engine : DfilterEngine Program Edt) (tl : TapListener Program)
    : Alike engine tl tl :=
  ⟨rfl, rfl, rfl, rfl, rfl, rfl, fun _ _ => rfl⟩

namespace Alike

variable {engine : DfilterEngine Program Edt} {tl tl' : TapListener Program}

/-- With a packet routine both take the same entries. -/
theorem takes_eq (alike : Alike engine tl tl') (listens : tl.packet.isSome) (edt : Edt)
    (tp : TapPacket)
    : tl.takes engine edt tp = tl'.takes engine edt tp := by
  simp only [TapListener.takes, TapListener.listensTo, alike.flags, alike.tapId,
    alike.verdict listens edt]

/-- An answer of the packet routine changes both alike. -/
theorem answered (alike : Alike engine tl tl') (status : TapPacketStatus)
    : Alike engine (tl.answered status) (tl'.answered status) := by
  cases status with
  | dontRedraw => exact alike
  | redraw => exact { alike with }
  | failed => exact { alike with failed := rfl }

/-- A new filter makes the programs of both the same. -/
theorem setDfilter (alike : Alike engine tl tl') (fstring : Option String)
    : (tl.setDfilter engine fstring).1 = (tl'.setDfilter engine fstring).1
      ∧ Alike engine (tl.setDfilter engine fstring).2 (tl'.setDfilter engine fstring).2 := by
  cases fstring with
  | none => exact ⟨rfl, { alike with verdict := fun _ _ => rfl }⟩
  | some text =>
      cases compile : engine.dfilterCompile text with
      | error errMsg =>
          simp only [TapListener.setDfilter, compile, true_and]
          exact { alike with verdict := fun _ _ => rfl }
      | ok code =>
          simp only [TapListener.setDfilter, compile, true_and]
          exact { alike with verdict := fun _ _ => rfl }

/-- The same offer makes the same call to both and changes them alike. -/
theorem offerPacket (alike : Alike engine tl tl') (clients : TapClients Edt σ) (edt : Edt)
    (tp : TapPacket) (place : Nat) (client : σ)
    : (Tap.offerPacket engine clients edt tp place tl client).1
          = (Tap.offerPacket engine clients edt tp place tl' client).1
      ∧ Alike engine (Tap.offerPacket engine clients edt tp place tl client).2.1
          (Tap.offerPacket engine clients edt tp place tl' client).2.1
      ∧ (Tap.offerPacket engine clients edt tp place tl client).2.2
          = (Tap.offerPacket engine clients edt tp place tl' client).2.2 := by
  obtain ⟨idle, unwanted⟩ | ⟨packet, status, client', listens, running, wanted, answer, called⟩ :=
      offerPacket_cases engine clients edt tp place tl client
  · obtain ⟨idle', -⟩ | ⟨packet, -, -, listens, running, wanted, -, -⟩ :=
      offerPacket_cases engine clients edt tp place tl' client
    · rw [idle, idle']
      exact ⟨rfl, alike, rfl⟩
    · rw [← alike.packet] at listens
      rw [← alike.failed] at running
      rw [← alike.takes_eq (by simp [listens])] at wanted
      simp [listens, running, wanted] at unwanted
  · obtain ⟨-, unwanted⟩ | ⟨packet', status', client'', listens', -, -, answer', called'⟩ :=
      offerPacket_cases engine clients edt tp place tl' client
    · rw [← alike.packet, ← alike.failed, ← alike.takes_eq (by simp [listens])] at unwanted
      simp [listens, running, wanted] at unwanted
    · rw [← alike.packet, listens, Option.some.injEq] at listens'
      rw [← listens', ← alike.tapdata, answer, Prod.mk.injEq] at answer'
      rw [called, called', ← listens', ← alike.tapdata, ← answer'.1, ← answer'.2]
      exact ⟨rfl, alike.answered status, rfl⟩

end Alike

/-- Two states agree in all that the tap system reads of them. -/
structure StatesAlike (engine : DfilterEngine Program Edt) (s t : TapState Program) : Prop where
  active : s.tappingIsActive = t.tappingIsActive
  taps : s.tapDissectorList = t.tapDissectorList
  entries : s.tapPacketArray = t.tapPacketArray
  listeners : List.Forall₂ (Alike engine) s.tapListenerQueue t.tapListenerQueue

variable {engine : DfilterEngine Program Edt} {queue queue' : List (TapListener Program)}

/-- The inner loop makes the same calls along queues that agree, by induction over them. -/
theorem pushToListeners_alike (clients : TapClients Edt σ) (edt : Edt) (tp : TapPacket)
    (start : Nat) (client : σ) (alike : List.Forall₂ (Alike engine) queue queue')
    : (pushToListeners engine clients edt tp start queue client).1
          = (pushToListeners engine clients edt tp start queue' client).1
      ∧ List.Forall₂ (Alike engine)
          (pushToListeners engine clients edt tp start queue client).2.1
          (pushToListeners engine clients edt tp start queue' client).2.1
      ∧ (pushToListeners engine clients edt tp start queue client).2.2
          = (pushToListeners engine clients edt tp start queue' client).2.2 := by
  induction alike generalizing start client with
  | nil => exact ⟨rfl, .nil, rfl⟩
  | @cons tl tl' _ _ here _ ih =>
      obtain ⟨sameCall, after, sameClient⟩ := here.offerPacket clients edt tp start client
      obtain ⟨sameCalls, later, sameEnd⟩ :=
        ih (start + 1) (Tap.offerPacket engine clients edt tp start tl client).2.2
      rw [sameClient] at sameCalls later sameEnd
      simp only [pushToListeners, sameCall, sameClient, sameCalls, sameEnd, true_and, and_true]
      exact .cons after later

/-- The double loop makes the same calls along queues that agree, by induction over the
entries.
-/
theorem pushEntries_alike (clients : TapClients Edt σ) (edt : Edt) (entries : List TapPacket)
    (client : σ) (alike : List.Forall₂ (Alike engine) queue queue')
    : (pushEntries engine clients edt entries queue client).1
          = (pushEntries engine clients edt entries queue' client).1
      ∧ List.Forall₂ (Alike engine)
          (pushEntries engine clients edt entries queue client).2.1
          (pushEntries engine clients edt entries queue' client).2.1
      ∧ (pushEntries engine clients edt entries queue client).2.2
          = (pushEntries engine clients edt entries queue' client).2.2 := by
  induction entries generalizing queue queue' client with
  | nil => exact ⟨rfl, alike, rfl⟩
  | cons tp rest ih =>
      obtain ⟨sameCalls, after, sameClient⟩ :=
        pushToListeners_alike clients edt tp 0 client alike
      obtain ⟨sameLater, later, sameEnd⟩ :=
        ih (pushToListeners engine clients edt tp 0 queue client).2.2 after
      rw [sameClient] at sameLater later sameEnd
      simp only [pushEntries, sameCalls, sameClient, sameLater, sameEnd, true_and, and_true]
      exact later

namespace StatesAlike

variable {s t : TapState Program}

theorem isEmpty_eq (alike : StatesAlike engine s t)
    : s.tapListenerQueue.isEmpty = t.tapListenerQueue.isEmpty := by
  rw [Bool.eq_iff_iff, List.isEmpty_iff_length_eq_zero, List.isEmpty_iff_length_eq_zero,
    alike.listeners.length_eq]

theorem tapQueueInit (alike : StatesAlike engine s t)
    : StatesAlike engine (Tap.tapQueueInit s) (Tap.tapQueueInit t) := by
  simp only [Tap.tapQueueInit, alike.isEmpty_eq]
  split
  · exact alike
  · exact { alike with active := rfl, entries := rfl }

theorem tapQueuePacket (alike : StatesAlike engine s t) (call : TapQueueCall)
    : StatesAlike engine (Tap.tapQueuePacket call s) (Tap.tapQueuePacket call t) := by
  simp only [Tap.tapQueuePacket, alike.active, alike.entries]
  split
  · exact alike
  · split
    · exact alike
    · exact { alike with active := rfl, entries := rfl }

/-- Queueing entries keeps the agreement, by induction over the calls. -/
theorem foldl_tapQueuePacket (alike : StatesAlike engine s t) (queued : List TapQueueCall)
    : StatesAlike engine (queued.foldl (fun s call => Tap.tapQueuePacket call s) s)
        (queued.foldl (fun t call => Tap.tapQueuePacket call t) t) := by
  induction queued generalizing s t with
  | nil => exact alike
  | cons call rest ih => exact ih (alike.tapQueuePacket call)

theorem tapPushTappedQueue (alike : StatesAlike engine s t) (clients : TapClients Edt σ)
    (edt : Edt) (client : σ)
    : (Tap.tapPushTappedQueue engine clients edt s client).1
          = (Tap.tapPushTappedQueue engine clients edt t client).1
      ∧ StatesAlike engine (Tap.tapPushTappedQueue engine clients edt s client).2.1
          (Tap.tapPushTappedQueue engine clients edt t client).2.1
      ∧ (Tap.tapPushTappedQueue engine clients edt s client).2.2
          = (Tap.tapPushTappedQueue engine clients edt t client).2.2 := by
  obtain ⟨sameCalls, later, sameEnd⟩ :=
    pushEntries_alike clients edt s.tapPacketArray client alike.listeners
  simp only [Tap.tapPushTappedQueue, alike.active, ← alike.entries]
  split
  · exact ⟨rfl, alike, rfl⟩
  · exact ⟨sameCalls, ⟨rfl, alike.taps, rfl, later⟩, sameEnd⟩

theorem findTapId_eq (alike : StatesAlike engine s t) (name : String)
    : findTapId name s = findTapId name t := by
  simp only [findTapId, alike.taps]

theorem removeTapListener (alike : StatesAlike engine s t) (tapdata : Ptr)
    : Option.Rel (Alike engine) (Tap.removeTapListener tapdata s).1
          (Tap.removeTapListener tapdata t).1
      ∧ StatesAlike engine (Tap.removeTapListener tapdata s).2
          (Tap.removeTapListener tapdata t).2 := by
  have picks : ∀ tl tl' : TapListener Program, Alike engine tl tl' →
      decide (tl.tapdata = tapdata) = decide (tl'.tapdata = tapdata) := by
    intro tl tl' here
    rw [here.tapdata]
  simp only [Tap.removeTapListener, unlinkFirst_eq]
  exact ⟨rel_find? alike.listeners picks,
    { alike with listeners := forall₂_eraseP alike.listeners picks }⟩

theorem setTapDfilter (alike : StatesAlike engine s t) (tapdata : Ptr)
    (fstring : Option String)
    : (Tap.setTapDfilter engine tapdata fstring s).1
          = (Tap.setTapDfilter engine tapdata fstring t).1
      ∧ StatesAlike engine (Tap.setTapDfilter engine tapdata fstring s).2
          (Tap.setTapDfilter engine tapdata fstring t).2 := by
  have picks : ∀ tl tl' : TapListener Program, Alike engine tl tl' →
      decide (tl.tapdata = tapdata) = decide (tl'.tapdata = tapdata) := by
    intro tl tl' here
    rw [here.tapdata]
  simp only [Tap.setTapDfilter]
  refine ⟨?_, { alike with listeners := ?_ }⟩
  · have found := rel_find? alike.listeners picks
    rw [setDfilterFirst_error, setDfilterFirst_error]
    generalize s.tapListenerQueue.find? _ = here at found ⊢
    generalize t.tapListenerQueue.find? _ = there at found ⊢
    cases found with
    | none => rfl
    | some agree => exact (agree.setDfilter fstring).1
  · rw [setDfilterFirst_eq, setDfilterFirst_eq]
    apply forall₂_adjustFirst alike.listeners picks
    intro tl tl' here _
    exact (here.setDfilter fstring).2

/-- Every operation answers the same on states that agree, and keeps the agreement. -/
theorem perform (alike : StatesAlike engine s t) (clients : TapClients Edt σ) (client : σ)
    (op : TapOp Edt)
    : (op.perform engine clients s client).1 = (op.perform engine clients t client).1
      ∧ StatesAlike engine (op.perform engine clients s client).2.1
          (op.perform engine clients t client).2.1
      ∧ (op.perform engine clients s client).2.2 = (op.perform engine clients t client).2.2 := by
  cases op with
  | registerTap name =>
      simp only [TapOp.perform, registerTap, alike.findTapId_eq, alike.taps]
      split
      · exact ⟨rfl, { alike with taps := rfl }, trivial⟩
      · exact ⟨rfl, alike, trivial⟩
  | registerTapListener r fstring =>
      simp only [TapOp.perform, Registration.register, registerTapListener, alike.findTapId_eq]
      split
      · exact ⟨rfl, alike, trivial⟩
      · exact ⟨rfl, { alike with listeners := .cons (Alike.refl engine _) alike.listeners },
          trivial⟩
  | setTapDfilter tapdata fstring =>
      obtain ⟨sameError, after⟩ := alike.setTapDfilter tapdata fstring
      exact ⟨congrArg TapAnswer.errorString sameError, after, rfl⟩
  | removeTapListener tapdata =>
      obtain ⟨sameFound, after⟩ := alike.removeTapListener tapdata
      simp only [TapOp.perform]
      generalize (Tap.removeTapListener tapdata s).1 = here at sameFound ⊢
      generalize (Tap.removeTapListener tapdata t).1 = there at sameFound ⊢
      cases sameFound with
      | none => exact ⟨trivial, after, rfl⟩
      | some agree =>
          refine ⟨trivial, after, ?_⟩
          simp only [Option.elim_some, freeTapListener, agree.finish, agree.tapdata]
  | packet edt queued =>
      obtain ⟨sameCalls, after, sameClient⟩ :=
        (alike.tapQueueInit.foldl_tapQueuePacket queued).tapPushTappedQueue clients edt client
      exact ⟨congrArg TapAnswer.pushed sameCalls, after, sameClient⟩

/-- No caller can tell states that agree from each other, by induction over the operations. -/
theorem behavesAs (alike : StatesAlike engine s t) (clients : TapClients Edt σ)
    : BehavesAs engine clients s t := by
  intro ops client
  induction ops generalizing s t client with
  | nil => rfl
  | cons op rest ih =>
      obtain ⟨sameAnswer, after, sameClient⟩ := alike.perform clients client op
      have later := ih after (op.perform engine clients s client).2.2
      rw [sameClient] at later
      simp only [performAll, sameAnswer, sameClient, later]

end StatesAlike

end PacketDissector.Epan.Tap
