import PacketDissector.Sharkd.JsonHelpers
import PacketDissector.Sharkd.TapRequests

/-! The listeners that a request has added to the queue, the blocks that it has to release, and
the answer that it has written, followed through the steps of the requests.
-/

namespace PacketDissector.Sharkd

open PacketDissector.Library PacketDissector.Epan PacketDissector.Epan.Tap PacketDissector.Wsutil

variable {Program : Type}

/-- The code stops for another reason than an invalid call of free. -/
def NoInvalidFree (stop : Stop) : Prop := stop ≠ invalidFree

/-- The pointers that are not NULL. -/
def blocksOf (ptrs : List Ptr) : List Ptr := ptrs.filter (· ≠ 0)

theorem blocksOf_null {mem : Ptr} (null : mem = 0) (ptrs : List Ptr)
    : blocksOf (mem :: ptrs) = blocksOf ptrs := by
  simp [blocksOf, null]

theorem blocksOf_notNull {mem : Ptr} (notNull : mem ≠ 0) (ptrs : List Ptr)
    : blocksOf (mem :: ptrs) = mem :: blocksOf ptrs := by
  simp [blocksOf, notNull]

/-- Since its start a request has added listeners with some tapdata in front of the queue, has
taken only new blocks and released only such, of which it has to release those that it owns
(where NULL is none), and has written complete lines of JSON if nothing was being written.
-/
structure Holds (host : TapHost) (start : TapsState Program) (listening owned : List Ptr)
    (s : TapsState Program) : Prop where
  queue : ∃ added,
    s.tap = { start.tap with tapListenerQueue := added ++ start.tap.tapListenerQueue }
      ∧ (added.map TapListener.tapdata).Perm listening
  since : start.heap.Since host.malloc s.heap
  owned : start.heap.Owns s.heap (blocksOf owned)
  answered : start.session.dumper.Idle → Answered start.session.dumper s.session.dumper

/-- The surroundings of a request: an allocator of fresh blocks, and variables on the stack
whose addresses are no tapdata of the queue.
-/
structure Surrounds (host : TapHost) (queue : List (TapListener Program)) : Prop where
  fresh : FreshAllocator host.malloc
  sized : ∀ type, 0 < host.sizeOf type
  rtpTapinfo : host.rtpTapinfo ≠ 0
  graphs : ∀ i < 10, ∀ j < 10, host.graphs i = host.graphs j → i = j
  graphsApart : ∀ i < 10, host.graphs i ∉ queue.map TapListener.tapdata

variable {start : TapsState Program} {listening owned : List Ptr} {s t : TapsState Program}
  {host : TapHost} {tapdata : Ptr}

-----------------------------------------------------------------------------------------
-- What is held
-----------------------------------------------------------------------------------------

/-- A search that ends in the first part of a queue takes out a listener there, by induction
over that part.
-/
theorem unlinkFirst_append (rest : List (TapListener Program)) {added : List (TapListener Program)}
    (present : tapdata ∈ added.map TapListener.tapdata)
    : ∃ left, (unlinkFirst tapdata (added ++ rest)).2 = left ++ rest
        ∧ left.map TapListener.tapdata = (added.map TapListener.tapdata).erase tapdata := by
  induction added with
  | nil => cases present
  | cons tl added ih =>
      by_cases here : tl.tapdata = tapdata
      · refine ⟨added, ?_, ?_⟩
        · simp [unlinkFirst, here]
        · simp [here]
      · have later : tapdata ∈ added.map TapListener.tapdata := by
          rw [List.map_cons, List.mem_cons] at present
          exact present.resolve_left fun same => here same.symm
        obtain ⟨left, unlinked, erased⟩ := ih later
        refine ⟨tl :: left, ?_, ?_⟩
        · simp [unlinkFirst, here, unlinked]
        · simp [here, erased]

/-- A search for what is not there takes nothing out, by induction over the queue. -/
theorem unlinkFirst_absent {queue : List (TapListener Program)}
    (absent : tapdata ∉ queue.map TapListener.tapdata)
    : (unlinkFirst tapdata queue).2 = queue := by
  induction queue with
  | nil => rfl
  | cons tl rest ih =>
      rw [List.map_cons, List.mem_cons, not_or] at absent
      have notHere : ¬ tl.tapdata = tapdata := fun same => absent.1 same.symm
      simp [unlinkFirst, notHere, ih absent.2]

/-- At its start a request holds nothing. -/
theorem Holds.initial (host : TapHost) (s : TapsState Program) : Holds host s [] [] s where
  queue := ⟨[], rfl, .nil⟩
  since := .refl _ _
  owned := ⟨.nil, by simp [blocksOf], by simp [blocksOf]⟩
  answered idle := .refl idle

/-- Nothing is left in the queue once all listeners are removed. -/
theorem Holds.done (holds : Holds host start [] owned s) : s.tap = start.tap := by
  obtain ⟨added, tap, same⟩ := holds.queue
  have none_added : added = [] := List.map_eq_nil_iff.mp (List.Perm.eq_nil same)
  rw [tap, none_added, List.nil_append]

theorem Holds.perm {listening' owned' : List Ptr} (holds : Holds host start listening owned s)
    (sameListening : listening.Perm listening') (sameOwned : owned.Perm owned')
    : Holds host start listening' owned' s := by
  obtain ⟨added, tap, same⟩ := holds.queue
  exact ⟨⟨added, tap, same.trans sameListening⟩, holds.since,
    holds.owned.perm (sameOwned.filter _), holds.answered⟩

/-- A block can be left behind. -/
theorem Holds.forget {block : Ptr} (holds : Holds host start listening (block :: owned) s)
    : Holds host start listening owned s := by
  refine ⟨holds.queue, holds.since, ?_, holds.answered⟩
  have owns := holds.owned
  by_cases null : block = 0
  · rwa [blocksOf_null null] at owns
  · rw [blocksOf_notNull null] at owns
    exact owns.forget

/-- NULL is no block to release. -/
theorem Holds.null (holds : Holds host start listening owned s)
    : Holds host start listening (0 :: owned) s := by
  refine ⟨holds.queue, holds.since, ?_, holds.answered⟩
  rw [blocksOf_null rfl]
  exact holds.owned

-----------------------------------------------------------------------------------------
-- Blocks
-----------------------------------------------------------------------------------------

theorem gMalloc_ends (surrounds : Surrounds host start.tap.tapListenerQueue) (nBytes : Nat)
    (holds : Holds host start listening owned s)
    : Ends (gMalloc host nBytes) s
        (fun base t => (0 < nBytes → base ≠ 0)
          ∧ Holds host start listening (base :: owned) t)
        NoInvalidFree := by
  simp only [gMalloc]
  by_cases none : nBytes = 0
  · simp only [none, if_true]
    exact returns_pure.ends ⟨fun positive => absurd positive (Nat.lt_irrefl 0), holds.null⟩
  · simp only [none, if_false]
    have sized := Nat.pos_of_ne_zero none
    have notNull := surrounds.fresh.notNull s.heap nBytes sized
    have new := surrounds.fresh.newSince sized holds.since
    have owned := holds.owned.allocate new fun other live =>
      (surrounds.fresh.apart s.heap nBytes sized other live).base
    refine Returns.bind_ends returns_get ?_
    refine Returns.bind_ends (returns_modify _) ?_
    refine returns_pure.ends ⟨fun _ => notNull, holds.queue, holds.since.allocate new, ?_,
      holds.answered⟩
    rw [blocksOf_notNull notNull]
    exact owned

theorem gNew_ends (surrounds : Surrounds host start.tap.tapListenerQueue) (type : TapData)
    (holds : Holds host start listening owned s)
    : Ends (gNew host type) s
        (fun base t => base ≠ 0 ∧ Holds host start listening (base :: owned) t)
        NoInvalidFree :=
  (gMalloc_ends surrounds (host.sizeOf type) holds).imp
    (fun _ _ allocated => ⟨allocated.1 (surrounds.sized type), allocated.2⟩) fun _ h => h

theorem gStrdup_ends (surrounds : Surrounds host start.tap.tapListenerQueue)
    (str : Option String) (holds : Holds host start listening owned s)
    : Ends (gStrdup host str) s
        (fun base t => Holds host start listening (base :: owned) t)
        NoInvalidFree := by
  cases str with
  | none => exact returns_pure.ends holds.null
  | some str =>
      exact (gMalloc_ends surrounds _ holds).imp (fun _ _ allocated => allocated.2) fun _ h => h

/-- Code that releases some blocks, and does nothing else. -/
def Frees (x : TapsM Program Unit) (ptrs : List Ptr) : Prop :=
  ∀ (host : TapHost) (start : TapsState Program) (listening owned : List Ptr)
    (s : TapsState Program), Holds host start listening (ptrs ++ owned) s →
      Ends x s (fun _ t => Holds host start listening owned t) NoInvalidFree

theorem frees_pure : Frees (pure () : TapsM Program Unit) [] :=
  fun _ _ _ _ _ holds => returns_pure.ends holds

theorem frees_gFree (mem : Ptr) : Frees (gFree mem : TapsM Program Unit) [mem] := by
  intro host start listening owned s holds
  simp only [gFree]
  by_cases null : mem = 0
  · simp only [null, if_true]
    exact returns_pure.ends holds.forget
  · simp only [null, if_false]
    have owns := holds.owned
    rw [List.singleton_append, blocksOf_notNull null] at owns
    obtain ⟨heap, released, owns', since⟩ := owns.release holds.since
    refine Returns.bind_ends returns_get ?_
    simp only [released]
    exact (returns_modify _).ends ⟨holds.queue, since, owns', holds.answered⟩

/-- One release after another. -/
theorem Frees.bind {x y : TapsM Program Unit} {ptrs ptrs' : List Ptr} (first : Frees x ptrs)
    (rest : Frees y ptrs')
    : Frees (x >>= fun _ => y) (ptrs ++ ptrs') := by
  intro host start listening owned s holds
  rw [List.append_assoc] at holds
  refine Ends.bind (first host start listening _ s holds) fun _ t held => ?_
  exact rest host start listening owned t held

theorem frees_gFreeEach (ptrs : List Ptr) : Frees (gFreeEach ptrs : TapsM Program Unit) ptrs := by
  induction ptrs with
  | nil => exact frees_pure
  | cons mem rest ih => exact (frees_gFree mem).bind ih

-----------------------------------------------------------------------------------------
-- Listeners
-----------------------------------------------------------------------------------------

/-- register_tap_listener refuses with an error, or puts a listener first. -/
theorem registerTapListener_cases (tapname : String) (tapdata : Ptr) (fstring : Option String)
    (flags : UInt32) (reset packet draw finish : Option Callback) (tap : TapState Program)
    : (∃ error, registerTapListener tapname tapdata fstring flags reset packet draw finish tap
        = (some error, tap))
      ∨ ∃ tl : TapListener Program, tl.tapdata = tapdata
        ∧ registerTapListener tapname tapdata fstring flags reset packet draw finish tap
          = (none, { tap with tapListenerQueue := tl :: tap.tapListenerQueue }) := by
  by_cases unknown : findTapId tapname tap = 0
  · exact Or.inl ⟨_, by simp only [registerTapListener, unknown, if_true]; rfl⟩
  · exact Or.inr ⟨_, rfl, by simp only [registerTapListener, unknown, if_false]; rfl⟩

/-- A listener that is accepted is held, and one that is refused is not. -/
theorem addTapListener_ends (tapname : String) (tapdata : Ptr) (fstring : Option String)
    (flags : UInt32) (reset packet draw : Option Callback)
    (holds : Holds host start listening owned s)
    : Ends (addTapListener tapname tapdata fstring flags reset packet draw) s
        (fun error t => Holds host start
          (if error = none then tapdata :: listening else listening) owned t)
        NoInvalidFree := by
  obtain ⟨added, tap, same⟩ := holds.queue
  refine Returns.bind_ends returns_get ?_
  rcases registerTapListener_cases tapname tapdata fstring flags reset packet draw none s.tap
    with ⟨error, refused⟩ | ⟨tl, rfl, accepted⟩
  · rw [refused]
    refine Returns.bind_ends (returns_modify _) ?_
    exact returns_pure.ends ⟨⟨added, tap, same⟩, holds.since, holds.owned, holds.answered⟩
  · rw [accepted]
    refine Returns.bind_ends (returns_modify _) ?_
    refine returns_pure.ends ⟨⟨tl :: added, ?_, ?_⟩, holds.since, holds.owned, holds.answered⟩
    · simp only [tap, List.cons_append]
    · rw [if_pos rfl]
      exact same.cons tl.tapdata

/-- A listener that is held can be removed. -/
theorem dropTapListener_ends (holds : Holds host start (tapdata :: listening) owned s)
    : Ends (dropTapListener tapdata) s (fun _ t => Holds host start listening owned t)
        NoInvalidFree := by
  obtain ⟨added, tap, same⟩ := holds.queue
  have present : tapdata ∈ added.map TapListener.tapdata :=
    same.mem_iff.mpr List.mem_cons_self
  obtain ⟨left, unlinked, erased⟩ := unlinkFirst_append start.tap.tapListenerQueue present
  refine (returns_modify _).ends ⟨⟨left, ?_, ?_⟩, holds.since, holds.owned, holds.answered⟩
  · simp only [removeTapListener, tap, unlinked]
  · rw [erased]
    simpa using same.erase tapdata

/-- The removal of what is not in the queue changes nothing. -/
theorem dropTapListener_absent (holds : Holds host start listening owned s)
    (notHeld : tapdata ∉ listening)
    (notOld : tapdata ∉ start.tap.tapListenerQueue.map TapListener.tapdata)
    : Ends (dropTapListener tapdata) s (fun _ t => Holds host start listening owned t)
        NoInvalidFree := by
  obtain ⟨added, tap, same⟩ := holds.queue
  have absent : tapdata ∉ (added ++ start.tap.tapListenerQueue).map TapListener.tapdata := by
    rw [List.map_append, List.mem_append, same.mem_iff, not_or]
    exact ⟨notHeld, notOld⟩
  refine (returns_modify _).ends ⟨⟨added, ?_, same⟩, holds.since, holds.owned, holds.answered⟩
  simp only [removeTapListener, tap, unlinkFirst_absent absent]

-----------------------------------------------------------------------------------------
-- Other code
-----------------------------------------------------------------------------------------

/-- Code of proto.c neither listens nor allocates. -/
theorem inTapsRegistry_ends {α : Type} {x : Proto.Registrar α}
    (holds : Holds host start listening owned s)
    (stops : Ends x s.registry (fun _ _ => True) NoInvalidFree)
    : Ends (inTapsRegistry x) s (fun _ t => Holds host start listening owned t)
        NoInvalidFree :=
  ends_focus (stops.imp (fun _ _ _ => ⟨holds.queue, holds.since, holds.owned, holds.answered⟩)
    fun _ h => h)

/-- Code that writes, and does not release anything. -/
def NeverFrees {α : Type} (x : DumperM α) : Prop :=
  ∀ dumper, Ends x dumper (fun _ _ => True) NoInvalidFree

/-- An answer is written as lines of JSON when nothing is being written. -/
theorem onTapsDumper_ends {x : DumperM Unit} (holds : Holds host start listening owned s)
    (writes : NeverFrees x)
    (answers : ∀ dumper : JsonDumper, dumper.Idle →
      Ends x dumper (fun _ t => Answered dumper t) fun _ => False)
    : Ends (onTapsDumper x) s (fun _ t => Holds host start listening owned t)
        NoInvalidFree := by
  refine ends_focus (ends_focus ?_)
  by_cases idle : start.session.dumper.Idle
  · have earlier := holds.answered idle
    refine (answers s.session.dumper earlier.idle).imp (fun _ dumper answered => ?_)
      fun _ impossible => impossible.elim
    exact ⟨holds.queue, holds.since, holds.owned, fun _ => earlier.trans answered⟩
  · refine (writes s.session.dumper).imp (fun _ dumper _ => ?_) fun _ h => h
    exact ⟨holds.queue, holds.since, holds.owned, fun idle' => absurd idle' idle⟩

variable {α β : Type} {x : DumperM α} {f : α → DumperM β}

theorem neverFrees_pure (a : α) : NeverFrees (pure a) := fun _ => returns_pure.ends trivial

theorem NeverFrees.bind (first : NeverFrees x) (rest : ∀ a, NeverFrees (f a))
    : NeverFrees (x >>= f) :=
  fun dumper => Ends.bind (first dumper) fun a t _ => rest a t

theorem neverFrees_modify (g : JsonDumper → JsonDumper) : NeverFrees (modify g) :=
  fun _ => (returns_modify g).ends trivial

theorem neverFrees_jsonDumperBad (change : Change) (type : ElementType) (what : String)
    : NeverFrees (jsonDumperBad change type what) := by
  intro dumper
  refine Returns.bind_ends returns_get ?_
  split
  · exact returns_pure.ends trivial
  · exact raises_throw.ends (by simp [NoInvalidFree, invalidFree])

theorem neverFrees_checkState (change : Change) (type : ElementType)
    : NeverFrees (jsonDumperCheckState change type) := by
  intro dumper
  refine Returns.bind_ends returns_get ?_
  have bad := fun what => (neverFrees_jsonDumperBad change type what).bind fun _ =>
    neverFrees_pure false
  split
  · exact bad _ dumper
  · split
    · exact ((neverFrees_modify _).bind fun _ => bad _) dumper
    · split
      · exact returns_pure.ends trivial
      · exact ((neverFrees_modify _).bind fun _ => bad _) dumper

theorem neverFrees_change (change : Change) (type : ElementType)
    (body : JsonDumper → JsonDumper)
    : NeverFrees (jsonDumperChange change type body) := by
  refine (neverFrees_checkState change type).bind fun allowed => ?_
  cases allowed with
  | true => exact neverFrees_modify body
  | false => exact neverFrees_pure _

theorem neverFrees_finish : NeverFrees jsonDumperFinish := by
  refine (neverFrees_checkState _ _).bind fun allowed => ?_
  cases allowed with
  | true => exact (neverFrees_modify _).bind fun _ => neverFrees_pure _
  | false => exact neverFrees_pure _

theorem neverFrees_setKey (key : Option String) : NeverFrees (setKey key) := by
  cases key with
  | none => exact neverFrees_pure _
  | some key => exact neverFrees_change _ _ _

theorem neverFrees_anyf (key : Option String) (text : Option Text)
    : NeverFrees (sharkdJsonValueAnyf key text) := by
  refine (neverFrees_setKey key).bind fun _ => ?_
  cases text with
  | none => exact neverFrees_pure _
  | some text => exact neverFrees_change _ _ _

theorem neverFrees_string (key str : Option String)
    : NeverFrees (sharkdJsonValueString key str) := by
  refine (neverFrees_setKey key).bind fun _ => ?_
  cases str with
  | none => exact neverFrees_pure _
  | some str => exact neverFrees_change _ _ _

theorem neverFrees_base64 (key : Option String) (data : List UInt8)
    : NeverFrees (sharkdJsonValueBase64 key data) :=
  (neverFrees_setKey key).bind fun _ => (neverFrees_change _ _ _).bind fun _ =>
    (neverFrees_change _ _ _).bind fun _ => neverFrees_change _ _ _

theorem neverFrees_arrayOpen (key : Option String) : NeverFrees (sharkdJsonArrayOpen key) :=
  (neverFrees_setKey key).bind fun _ => neverFrees_change _ _ _

/-- An answer ends with json_dumper_finish. -/
theorem NeverFrees.finish (writes : NeverFrees x)
    : NeverFrees (x >>= fun _ => jsonDumperFinish >>= fun _ => pure ()) :=
  writes.bind fun _ => neverFrees_finish.bind fun _ => neverFrees_pure _

end PacketDissector.Sharkd
