import PacketDissector.Sharkd.FramesContract

/-! The frames request in this port, where frame_handle stays NULL: it is answered as asked
only when there is no row to answer with.
-/

namespace PacketDissector.Sharkd

open PacketDissector.Library PacketDissector.Epan PacketDissector.Wsutil

variable {n : Nat} {attributes : Attributes} {request : FramesRequest} {s t : Session}

/-- A session of this port: packet_cache_proto_handles is not called. -/
def Dissectors.ofPort (wiresharkAbortOnDissectorBug : Bool)
    (wtapSeekRead : FrameData → Option Nat)
    : Dissectors :=
  ⟨wiresharkAbortOnDissectorBug, none, wtapSeekRead⟩

/-- The request is served, and served again when it is repeated. -/
def ServesRepeatedly {Program : Type} (dissectors : Dissectors)
    (engine : Tap.DfilterEngine Program Nat) (n : Nat) (attributes : Attributes)
    (request : FramesRequest) (s : Session)
    : Prop :=
  ServesFrames dissectors engine n attributes request s
  ∧ ∀ t, Returns (sharkdSessionProcessFrames dissectors attributes) s ⟨⟩ t →
      ServesFrames dissectors engine n attributes request t

/-- The requests without a row: their filter compiles, every frame is skipped, they name no
columns, and the loop ends before the frame number wraps.
-/
structure AsksNoRow {Program : Type} (engine : Tap.DfilterEngine Program Nat) (n : Nat)
    (attributes : Attributes) (request : FramesRequest)
    : Prop where
  columns : jsonFindAttr attributes "column0" = none
  compiles : request.passes engine ≠ none
  skipsAll : n ≤ request.skip
  below : n < gMaxUint32

/-- Without a frame dissector no row is dissected. -/
theorem CaptureFile.not_dissects_ofPort (cfile : CaptureFile) (abortOnBug : Bool)
    (wtapSeekRead : FrameData → Option Nat) (row : DissectedRow)
    : ¬ cfile.Dissects (.ofPort abortOnBug wtapSeekRead) row := by
  rintro ⟨fdata, recType, text, -, -, -, columns, handle, -, -, -, isHandle, -⟩
  cases isHandle

/-- So the requests that get their rows are those without a row. -/
theorem getsRows_ofPort_iff {Program : Type} (abortOnBug : Bool)
    (wtapSeekRead : FrameData → Option Nat) (engine : Tap.DfilterEngine Program Nat)
    (small : n ≤ gMaxUint32)
    : GetsRows (.ofPort abortOnBug wtapSeekRead) engine n attributes request s
      ↔ AsksNoRow engine n attributes request := by
  constructor
  · rintro ⟨columns, ⟨passes, compiled, pass, each⟩, wrap⟩
    have none : requestedRows passes n request.skip request.limit request.refs = [] :=
      List.eq_nil_iff_forall_not_mem.mpr fun row member =>
        s.cfile.not_dissects_ofPort abortOnBug wtapSeekRead row (each row member)
    have skipsAll : n ≤ request.skip := by
      rw [requestedRows_of_pass pass, slice] at none
      split at none
      · simpa using none
      · rename_i limited
        have empty := congrArg List.length none
        simp at empty
        omega
    refine ⟨columns, by simp [compiled], skipsAll, ?_⟩
    by_contra top
    obtain ⟨limited, within, -⟩ := wrap (by omega)
    omega
  · rintro ⟨columns, compiles, skipsAll, below⟩
    obtain ⟨passes, compiled⟩ := Option.ne_none_iff_exists'.mp compiles
    have pass : ShownPass passes n request.skip request.limit := Or.inl skipsAll
    refine ⟨columns, ⟨passes, compiled, pass, ?_⟩, fun top => by omega⟩
    rw [requestedRows_of_pass pass, slice_short (by simpa using skipsAll)]
    simp

/-- In this port a frames request, repeated or not, gets the slice it asks for exactly when
the slice is empty because every frame is skipped.
-/
theorem servesRepeatedly_ofPort_iff {Program : Type} (abortOnBug : Bool)
    (wtapSeekRead : FrameData → Option Nat) (engine : Tap.DfilterEngine Program Nat) (n : Nat)
    (attributes : Attributes) (request : FramesRequest) (s : Session) (ready : s.Ready n)
    (small : n ≤ gMaxUint32) (asks : Asks attributes request)
    : ServesRepeatedly (.ofPort abortOnBug wtapSeekRead) engine n attributes request s
      ↔ AsksNoRow engine n attributes request := by
  rw [ServesRepeatedly, ready.servesFrames_iff_getsRows engine small asks,
    getsRows_ofPort_iff abortOnBug wtapSeekRead engine small]
  refine and_iff_left_of_imp fun noRow t returned => ?_
  have ready' : t.Ready n := returned.value (processFrames_ready _ ready attributes)
  rw [ready'.servesFrames_iff_getsRows engine small asks,
    getsRows_ofPort_iff abortOnBug wtapSeekRead engine small]
  exact noRow

/-- An engine that compiles no text. -/
def refusingEngine : Tap.DfilterEngine Unit Nat :=
  ⟨fun text => .error s!"\"{text}\" is not a display filter.", fun _ _ => false⟩

/-- The one frame of a capture is asked for, its record can be read, and the request ends in
the use of an exception code that was never set. A filter that does not compile is answered
with an array, also when there is no frame.
-/
theorem not_servesRepeatedly_oneFrame
    : (¬ ServesRepeatedly (.ofPort false fun _ => some 0) notSixEngine 1 [] ⟨none, 0, 0, []⟩
          (.ofFrames 1 [])
        ∧ ∃ t, Raises (sharkdSessionProcessFrames (.ofPort false fun _ => some 0) [])
          (.ofFrames 1 []) (.terminated (.uninitialisedUse "except_obj")) t)
      ∧ ¬ ServesRepeatedly (.ofPort false fun _ => some 0) refusingEngine 0
          [("filter", "frame.number ==")] ⟨some "frame.number ==", 0, 0, []⟩
          (.ofFrames 0 []) := by
  have raised : ∃ t, Raises (sharkdSessionProcessFrames (.ofPort false fun _ => some 0) [])
      (.ofFrames 1 []) (.terminated (.uninitialisedUse "except_obj")) t := ⟨_, rfl⟩
  refine ⟨⟨fun serves => ?_, raised⟩, fun serves => ?_⟩
  · obtain ⟨t, stops⟩ := raised
    obtain ⟨u, returned⟩ := serves.1.returns rfl
    exact stops.not_returns returned
  · obtain ⟨t, returned, -, silent⟩ := serves.1.refused rfl
    have wrote : ∃ u, Returns (sharkdSessionProcessFrames (.ofPort false fun _ => some 0)
        [("filter", "frame.number ==")]) (.ofFrames 0 []) ⟨⟩ u
          ∧ u.dumper.outputFile = "[]\n".toList := ⟨_, rfl, rfl⟩
    obtain ⟨u, returned', output⟩ := wrote
    have same : t = u := by
      have both := returned.symm.trans returned'
      exact (EStateM.Result.ok.inj both).2
    rw [← same, silent] at output
    cases output

/-- A request that skips all three frames of a capture is answered with no row. -/
theorem servesRepeatedly_ofPort_skipped
    : ServesRepeatedly (.ofPort false fun _ => some 0) notSixEngine 3 [("skip", "3")]
        ⟨none, 3, 0, []⟩ (.ofFrames 3 []) := by
  have asks : Asks [("skip", "3")] ⟨none, 3, 0, []⟩ :=
    ⟨rfl, by decide, rfl, rfl, ⟨by decide, by decide, by decide⟩, by decide⟩
  have noRow : AsksNoRow notSixEngine 3 [("skip", "3")] ⟨none, 3, 0, []⟩ :=
    ⟨by decide, by simp [FramesRequest.passes], Nat.le_refl 3, by decide⟩
  exact (servesRepeatedly_ofPort_iff false (fun _ => some 0) notSixEngine 3 [("skip", "3")]
    ⟨none, 3, 0, []⟩ (.ofFrames 3 []) (Session.ready_ofFrames 3 []) (by decide) asks).mpr noRow

end PacketDissector.Sharkd
