import Mathlib.Data.List.Induction
import PacketDissector.Host.HostPhases

/-! Sequences of host calls, in any order: when FOO's ids name FOO's fields in every state
they pass through.
-/

namespace PacketDissector.Host

open PacketDissector.Library PacketDissector.Epan PacketDissector.Epan.Proto

/-- The calls after the first epan_init. -/
def callsAfterInit : List HostCall → List HostCall
  | [] => []
  | call :: rest => if call = .doCall0 then rest else callsAfterInit rest

/-- Some call after epan_init ran proto_register_foo. -/
def fooAfterInit (calls : List HostCall) : Bool :=
  (callsAfterInit calls).any HostCall.registersFoo

/-- No call of the sequence ends the process, FOO's ids name FOO's fields in every state
reached with FOO registered after epan_init, and a call with another name changes nothing
but the vector registered.
-/
def KeepsFooIds (s : Program) (calls : List HostCall) : Prop :=
  ∀ taken rest, calls = taken ++ rest →
    ∃ reached, runLabels hostStep s taken = some reached
      ∧ (fooAfterInit taken → FooIdsNameFoo reached.epan.registry)
      ∧ ∀ n, rest.head? = some (.registerName n) → n ≠ "foo" →
          hostStep reached (.registerName n)
            = some { reached with registered := reached.registered ++ [n] }

/-- FOO is never registered after epan_init, or that is the only time it is. -/
def RegistersFooOnceAfterInit (calls : List HostCall) : Prop :=
  fooAfterInit calls = true → calls.countP HostCall.registersFoo = 1

/-- A call comes after epan_init when epan_init is among the calls before it, by induction
over these.
-/
theorem callsAfterInit_concat (taken : List HostCall) (call : HostCall)
    : callsAfterInit (taken ++ [call])
      = if .doCall0 ∈ taken then callsAfterInit taken ++ [call] else [] := by
  induction taken with
  | nil => cases call <;> rfl
  | cons first rest ih =>
      by_cases isInit : first = .doCall0
      · simp [callsAfterInit, isInit]
      · have notThis : .doCall0 ≠ first := fun same => isInit same.symm
        simp [callsAfterInit, isInit, notThis, ih]

/-- Without epan_init nothing comes after it. -/
theorem callsAfterInit_of_notMem {taken : List HostCall} (notInit : .doCall0 ∉ taken)
    : callsAfterInit taken = [] := by
  induction taken with
  | nil => rfl
  | cons first rest ih =>
      simp only [List.mem_cons, not_or] at notInit
      simp [callsAfterInit, Ne.symm notInit.1, ih notInit.2]

/-- What a call adds to fooAfterInit. -/
theorem fooAfterInit_concat (taken : List HostCall) (call : HostCall)
    : fooAfterInit (taken ++ [call])
      = (fooAfterInit taken || (decide (.doCall0 ∈ taken) && call.registersFoo)) := by
  by_cases inited : .doCall0 ∈ taken
  · simp [fooAfterInit, callsAfterInit_concat, inited]
  · simp [fooAfterInit, callsAfterInit_concat, callsAfterInit_of_notMem inited, inited]

/-- Before epan_init no registration of FOO counts. -/
theorem fooAfterInit_of_notMem {taken : List HostCall} (notInit : .doCall0 ∉ taken)
    : fooAfterInit taken = false := by
  simp [fooAfterInit, callsAfterInit_of_notMem notInit]

/-- The calls after epan_init are among all calls. -/
theorem callsAfterInit_sublist (calls : List HostCall)
    : (callsAfterInit calls).Sublist calls := by
  induction calls with
  | nil => exact List.Sublist.refl _
  | cons call rest ih =>
      by_cases isInit : call = .doCall0
      · simp [callsAfterInit, isInit]
      · simpa [callsAfterInit, isInit] using ih.cons call

/-- A registration of FOO after epan_init is one of the registrations of FOO. -/
theorem countP_pos_of_fooAfterInit {calls : List HostCall} (registered : fooAfterInit calls)
    : 0 < calls.countP HostCall.registersFoo := by
  obtain ⟨call, member, foo⟩ := List.any_eq_true.mp registered
  exact List.countP_pos_iff.mpr ⟨call, (callsAfterInit_sublist calls).subset member, foo⟩

/-- The condition on a sequence holds for what was taken of it so far. -/
theorem RegistersFooOnceAfterInit.of_concat {taken : List HostCall} {call : HostCall}
    (once : RegistersFooOnceAfterInit (taken ++ [call]))
    : RegistersFooOnceAfterInit taken := by
  intro registered
  have whole := once (by simp [fooAfterInit_concat, registered])
  have some_before := countP_pos_of_fooAfterInit registered
  rw [List.countP_append] at whole
  omega

/-- The condition on a sequence holds for each of its beginnings. -/
theorem RegistersFooOnceAfterInit.of_append {taken rest : List HostCall}
    (once : RegistersFooOnceAfterInit (taken ++ rest))
    : RegistersFooOnceAfterInit taken := by
  induction rest using List.reverseRecOn with
  | nil => simpa using once
  | append_singleton rest call ih =>
      rw [← List.append_assoc] at once
      exact ih once.of_concat

/-- The phase that the calls taken lead to. -/
structure Phase (taken : List HostCall) (s : Program) : Prop where
  early : .doCall0 ∉ taken → EarlyPhase (taken.countP HostCall.registersFoo) s
  ready : .doCall0 ∈ taken → fooAfterInit taken = false →
    ReadyPhase (taken.countP HostCall.registersFoo) s
  registered : fooAfterInit taken = true → RegisteredPhase s

/-- The program starts early. -/
theorem phase_initial (abortOnBug abortOnTooManyItems : Bool)
    : Phase [] (.initial abortOnBug abortOnTooManyItems) where
  early := fun _ =>
    { early := ⟨rfl, rfl, rfl, rfl, fun _ member => (List.not_mem_nil member).elim,
        fun _ member => (List.not_mem_nil member).elim⟩
      free := rfl
      untouched := fun _ => ⟨rfl, fun _ _ => rfl⟩
      taken := fun some_before => (some_before rfl).elim
      noSubtrees := rfl }
  ready := fun inited => (List.not_mem_nil inited).elim
  registered := fun registered => by cases registered

/-- A call with another name keeps the phase. -/
theorem Phase.other {taken : List HostCall} {s : Program} {n : String} (phase : Phase taken s)
    (other : n ≠ "foo")
    : Phase (taken ++ [.registerName n])
        { s with registered := s.registered ++ [n] } := by
  have notFoo : (HostCall.registerName n).registersFoo = false := by
    simp [HostCall.registersFoo, other]
  have count : (taken ++ [HostCall.registerName n]).countP HostCall.registersFoo
      = taken.countP HostCall.registersFoo := by
    simp [List.countP_append, notFoo]
  have after : fooAfterInit (taken ++ [.registerName n]) = fooAfterInit taken := by
    simp [fooAfterInit_concat, notFoo]
  refine ⟨fun notInit => ?_, fun inited none_after => ?_, fun registered => ?_⟩
  · have before := phase.early fun member => notInit (List.mem_append_left _ member)
    rw [count]
    exact ⟨before.early, before.free, before.untouched, before.taken, before.noSubtrees⟩
  · rw [count]
    refine phase.ready ?_ (after ▸ none_after)
    simpa using inited
  · exact phase.registered (after ▸ registered)

/-- The first epan_init is a step from any phase. -/
theorem Phase.init {taken : List HostCall} {s : Program} (phase : Phase taken s)
    (first : .doCall0 ∉ taken)
    : ∃ next, hostStep s .doCall0 = some next ∧ Phase (taken ++ [.doCall0]) next := by
  obtain ⟨next, step, ready⟩ := (phase.early first).doCall0
  have count : (taken ++ [HostCall.doCall0]).countP HostCall.registersFoo
      = taken.countP HostCall.registersFoo := by
    simp [List.countP_append, HostCall.registersFoo]
  have none_before := fooAfterInit_of_notMem first
  refine ⟨next, step, fun notInit => ?_, fun _ _ => ?_, fun registered => ?_⟩
  · exact (notInit (List.mem_append_right _ List.mem_cons_self)).elim
  · rw [count]
    exact ready
  · rw [fooAfterInit_concat, none_before] at registered
    simp [HostCall.registersFoo] at registered

/-- A registration of FOO that the condition allows is a step from any phase. -/
theorem Phase.foo {taken : List HostCall} {s : Program} {call : HostCall}
    (phase : Phase taken s) (foo : call.registersFoo = true)
    (once : RegistersFooOnceAfterInit (taken ++ [call]))
    : ∃ next, hostStep s call = some next ∧ Phase (taken ++ [call]) next := by
  have notInit : call ≠ .doCall0 := by
    rintro rfl
    cases foo
  have count : (taken ++ [call]).countP HostCall.registersFoo
      = taken.countP HostCall.registersFoo + 1 := by
    simp [List.countP_append, foo]
  have after := fooAfterInit_concat taken call
  by_cases inited : .doCall0 ∈ taken
  · -- After epan_init the condition makes this the only registration.
    have registered : fooAfterInit (taken ++ [call]) = true := by simp [after, inited, foo]
    have none_before : taken.countP HostCall.registersFoo = 0 := by
      have whole := once registered
      omega
    have not_after : fooAfterInit taken = false := by
      rw [Bool.eq_false_iff]
      intro earlier
      have := countP_pos_of_fooAfterInit earlier
      omega
    obtain ⟨next, step, done⟩ := (none_before ▸ phase.ready inited not_after).foo_first foo
    refine ⟨next, step, fun absent => ?_, fun _ none_after => ?_, fun _ => done⟩
    · exact (absent (List.mem_append_left _ inited)).elim
    · rw [registered] at none_after
      cases none_after
  · obtain ⟨next, step, early⟩ := (phase.early inited).foo foo
    have not_after := fooAfterInit_of_notMem inited
    refine ⟨next, step, fun _ => count ▸ early, fun now_inited => ?_, fun registered => ?_⟩
    · rcases List.mem_append.mp now_inited with before | here
      · exact (inited before).elim
      · exact (notInit (List.mem_singleton.mp here).symm).elim
    · rw [after, not_after] at registered
      simp [inited] at registered

/-- One call that the condition allows is a step, and keeps the phase. -/
theorem Phase.step {taken : List HostCall} {s : Program} {call : HostCall}
    (phase : Phase taken s) (oneInit : (taken ++ [call]).count .doCall0 ≤ 1)
    (once : RegistersFooOnceAfterInit (taken ++ [call]))
    : ∃ next, hostStep s call = some next ∧ Phase (taken ++ [call]) next := by
  by_cases foo : call.registersFoo = true
  · exact phase.foo foo once
  · by_cases isInit : call = .doCall0
    · subst isInit
      refine phase.init fun earlier => ?_
      have := List.count_pos_iff.mpr earlier
      simp only [List.count_append, List.count_singleton_self] at oneInit
      omega
    · obtain ⟨n, rfl, other⟩ := hostCall_eq_registerName (by simpa using foo) isInit
      exact ⟨_, hostStep_other s other, phase.other other⟩

/-- Calls that meet the condition are all taken, and lead to their phase. Induction over the
calls, with the last one taken by Phase.step.
-/
theorem phase_of_once (abortOnBug abortOnTooManyItems : Bool) (taken : List HostCall)
    (oneInit : taken.count .doCall0 ≤ 1) (once : RegistersFooOnceAfterInit taken)
    : ∃ s, runLabels hostStep (.initial abortOnBug abortOnTooManyItems) taken = some s
      ∧ Phase taken s := by
  induction taken using List.reverseRecOn with
  | nil => exact ⟨_, rfl, phase_initial abortOnBug abortOnTooManyItems⟩
  | append_singleton taken call ih =>
      have fewer : taken.count .doCall0 ≤ 1 := by
        rw [List.count_append] at oneInit
        omega
      obtain ⟨s, reached, phase⟩ := ih fewer once.of_concat
      obtain ⟨next, step, later⟩ := phase.step oneInit once
      refine ⟨next, ?_, later⟩
      rw [runLabels_append, reached]
      exact runLabels_cons_of_step step

/-- The host's promise for a sequence holds for what was taken of it so far. -/
theorem KeepsFooIds.of_concat {s : Program} {calls : List HostCall} {call : HostCall}
    (keeps : KeepsFooIds s (calls ++ [call]))
    : KeepsFooIds s calls := by
  intro taken rest split
  obtain ⟨reached, run, ids, others⟩ := keeps taken (rest ++ [call]) (by simp [split])
  refine ⟨reached, run, ids, fun n next => others n ?_⟩
  cases rest with
  | nil => cases next
  | cons first rest => exact next

/-- The last call of a sequence that keeps the promise is a step, into a state where FOO's
ids name FOO's fields if FOO was registered after epan_init.
-/
theorem KeepsFooIds.last {s t : Program} {calls : List HostCall} {call : HostCall}
    (keeps : KeepsFooIds s (calls ++ [call])) (reached : runLabels hostStep s calls = some t)
    : ∃ next, hostStep t call = some next
      ∧ (fooAfterInit (calls ++ [call]) → FooIdsNameFoo next.epan.registry) := by
  obtain ⟨next, run, ids, -⟩ := keeps (calls ++ [call]) [] (by simp)
  refine ⟨next, ?_, ids⟩
  rw [runLabels_append, reached] at run
  simp only [Option.bind_some, runLabels] at run
  cases taken : hostStep t call with
  | none => simp [taken] at run
  | some middle => simpa [taken] using run

/-- With at most one epan_init, the host's promise holds for a sequence exactly when FOO is
never registered after epan_init, or that is FOO's only registration. From left to right by
induction over the calls: the first registration that breaks the condition either ends the
process or keeps an id from before epan_init.
-/
theorem keepsFooIds_iff (abortOnBug abortOnTooManyItems : Bool) (calls : List HostCall)
    (oneInit : calls.count .doCall0 ≤ 1)
    : KeepsFooIds (.initial abortOnBug abortOnTooManyItems) calls
      ↔ RegistersFooOnceAfterInit calls := by
  constructor
  · intro keeps
    -- The calls before the last one keep the ids as well.
    induction calls using List.reverseRecOn with
    | nil => exact fun registered => by cases registered
    | append_singleton calls call ih =>
        have fewer : calls.count .doCall0 ≤ 1 := by
          rw [List.count_append] at oneInit
          omega
        have once := ih fewer keeps.of_concat
        obtain ⟨s, reached, phase⟩ :=
          phase_of_once abortOnBug abortOnTooManyItems calls fewer once
        obtain ⟨next, step, ids⟩ := keeps.last reached
        intro registered
        have ids := ids registered
        rw [List.countP_append]
        rw [fooAfterInit_concat, Bool.or_eq_true, Bool.and_eq_true] at registered
        by_cases before : fooAfterInit calls = true
        -- FOO is known to this libepan, so that its second registration stops.
        · by_cases foo : call.registersFoo = true
          · rw [(phase.registered before).foo_again foo] at step
            cases step
          · simp [once before, foo]
        · have not_before : fooAfterInit calls = false := by simpa using before
          rw [not_before] at registered
          obtain ⟨inited, foo⟩ := registered.resolve_left (by simp)
          by_cases none_before : calls.countP HostCall.registersFoo = 0
          · simp [none_before, foo]
          -- FOO was registered before epan_init only: its ids are stale.
          · have ready := phase.ready (by simpa using inited) not_before
            obtain ⟨stale, taken, broken⟩ := ready.foo_stale none_before foo
            rw [step] at taken
            obtain rfl := Option.some.inj taken
            exact (broken ids).elim
  · intro once taken rest split
    subst split
    have fewer : taken.count .doCall0 ≤ 1 := by
      rw [List.count_append] at oneInit
      omega
    obtain ⟨s, reached, phase⟩ :=
      phase_of_once abortOnBug abortOnTooManyItems taken fewer once.of_append
    refine ⟨s, reached, fun registered => (phase.registered registered).ids, ?_⟩
    intro n _ other
    exact hostStep_other s other

/-- The condition is met by one registration right after epan_init. -/
theorem keepsFooIds_initThenFoo
    : KeepsFooIds (.initial false false) [.doCall0, .registerName "foo", .registerName "bar"] :=
  (keepsFooIds_iff false false [.doCall0, .registerName "foo", .registerName "bar"]
    (by decide)).mpr fun _ => by decide

/-- Registering FOO, running epan_init and registering FOO again leaves foo.type with an id
that names another field.
-/
theorem not_keepsFooIds_fooInitFoo
    : ¬ KeepsFooIds (.initial false false) [.registerAll, .doCall0, .registerAll] := by
  intro keeps
  have foo : HostCall.registerAll.registersFoo = true := rfl
  have start : EarlyPhase 0 (.initial false false) := (phase_initial false false).early (by simp)
  obtain ⟨s1, step1, early⟩ := start.foo foo
  obtain ⟨s2, step2, ready⟩ := early.doCall0
  obtain ⟨s3, step3, broken⟩ := ready.foo_stale (by decide) foo
  obtain ⟨reached, run, ids, -⟩ := keeps [.registerAll, .doCall0, .registerAll] [] rfl
  rw [runLabels_cons_of_step step1, runLabels_cons_of_step step2,
    runLabels_cons_of_step step3] at run
  obtain rfl := Option.some.inj run
  exact broken (ids (by decide))

end PacketDissector.Host
