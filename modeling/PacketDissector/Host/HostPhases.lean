import PacketDissector.Host.FooRegistration

/-! The three phases of the program: before epan_init, after it without FOO, and after it with
FOO. A registration of FOO in the first leaves ids behind that name other fields in the last.
-/

namespace PacketDissector.Host

open PacketDissector.Library PacketDissector.Epan PacketDissector.Epan.Proto

/-- A call that returns is a step. -/
theorem hostStep_of_returns {s t : Program} {call : HostCall}
    (returns : Returns call.run s () t)
    : hostStep s call = some t := by
  simp only [Returns] at returns
  simp only [hostStep, returns]

/-- A call that raises is no step. -/
theorem hostStep_of_raises {s t : Program} {call : HostCall} {stop : Stop}
    (raises : Raises call.run s stop t)
    : hostStep s call = none := by
  simp only [Raises] at raises
  simp only [hostStep, raises]

/-- A name other than "foo" is only remembered. -/
theorem hostStep_other (s : Program) {n : String} (other : n ≠ "foo")
    : hostStep s (.registerName n) = some { s with registered := s.registered ++ [n] } := by
  refine hostStep_of_returns (Returns.bind (returns_modify _) ?_)
  simp only [other, if_false]
  exact returns_pure

/-- The registration calls for FOO are registerName("foo") by another name. -/
theorem hostCall_run_foo {call : HostCall} (foo : call.registersFoo = true)
    : call.run = registerName "foo" := by
  cases call with
  | registerName n =>
      have same : n = "foo" := by simpa [HostCall.registersFoo] using foo
      simp [HostCall.run, same]
  | registerAll => rfl
  | doCall0 => simp [HostCall.registersFoo] at foo

/-- A call that registers no FOO and is not epan_init is a name other than "foo". -/
theorem hostCall_eq_registerName {call : HostCall} (notFoo : call.registersFoo = false)
    (notInit : call ≠ .doCall0)
    : ∃ n, call = .registerName n ∧ n ≠ "foo" := by
  cases call with
  | registerName n => exact ⟨n, rfl, by simpa [HostCall.registersFoo] using notFoo⟩
  | registerAll => simp [HostCall.registersFoo] at notFoo
  | doCall0 => exact (notInit rfl).elim

/-- A registration of FOO that returns on the registry is a step of the host. -/
theorem hostStep_foo {s : Program} {call : HostCall} {registry : Registry}
    (foo : call.registersFoo = true)
    (returns : Returns protoRegisterFoo s.epan.registry () registry)
    : hostStep s call
      = some
          { epan := { s.epan with registry }
            registered := s.registered ++ ["foo"] } := by
  refine hostStep_of_returns ?_
  rw [hostCall_run_foo foo]
  refine Returns.bind (returns_modify _) ?_
  simp only [if_true]
  exact returns_focus (returns_focus returns)

/-- A registration of FOO that ends the process on the registry ends the host. -/
theorem hostStep_foo_raises {s : Program} {call : HostCall} {registry : Registry} {stop : Stop}
    (foo : call.registersFoo = true)
    (raises : Raises protoRegisterFoo s.epan.registry stop registry)
    : hostStep s call = none := by
  have whole : Raises (registerName "foo") s stop
      { epan := { s.epan with registry }, registered := s.registered ++ ["foo"] } :=
    Raises.bind_rest (returns_modify _) (raises_focus (raises_focus raises))
  rw [← hostCall_run_foo foo] at whole
  exact hostStep_of_raises whole

/-- The state before epan_init after a number of registrations of FOO. -/
structure EarlyPhase (fooCalls : Nat) (s : Program) : Prop where
  early : Early s.epan.registry
  free : s.epan.register.curCbNameMtx = false
  untouched : fooCalls = 0 → s.epan.registry.gpaHfinfo = []
    ∧ ∀ ptr ∈ hf, s.epan.registry.statics ptr.pId = -1
  taken : fooCalls ≠ 0 → s.epan.registry.statics "hf_foo_pdu_type" = 1
  noSubtrees : s.epan.registry.numTreeTypes = 0

/-- FOO's protocol alone keeps a registry early. -/
theorem fooProtocolRegistry_early {s : Registry} (early : Early s)
    : Early (fooProtocolRegistry s) where
  noNames := by simp [fooProtocolRegistry, Registry.enterProtocol, early.noNames, gHashTableInsert]
  noShortNames := by
    simp [fooProtocolRegistry, Registry.enterProtocol, early.noShortNames, gHashTableInsert]
  noFilterNames := by
    simp [fooProtocolRegistry, Registry.enterProtocol, early.noFilterNames, gHashTableInsert]
  noFieldNames := by
    simp [fooProtocolRegistry, Registry.enterProtocol, Registry.enterField, early.noFieldNames,
      gHashTableInsert]
  fresh := by
    intro protocol member
    rcases List.mem_cons.mp member with rfl | member
    · exact Nat.lt_succ_self s.nextAddress
    · exact Nat.lt_succ_of_lt (early.fresh protocol member)
  ids := by
    intro protocol member
    rcases List.mem_cons.mp member with rfl | member
    · exact ⟨_, hfinfoAt?_last rfl, rfl⟩
    · obtain ⟨hfinfo, known, same⟩ := early.ids protocol member
      exact ⟨hfinfo, hfinfoAt?_append rfl known, same⟩

/-- Fields leave the name tables of protocols and the addresses alone, by induction over
the array.
-/
theorem foldl_enterFieldOf_frame (proto : Nat) (parent : Int) (fields : List HfRegisterInfo)
    (s : Registry)
    : let t := fields.foldl (fun s ptr => s.enterFieldOf proto parent ptr) s
      t.protoNames = s.protoNames ∧ t.protoShortNames = s.protoShortNames
      ∧ t.protoFilterNames = s.protoFilterNames ∧ t.nextAddress = s.nextAddress
      ∧ t.numTreeTypes = s.numTreeTypes ∧ (s.gpaNameMap = none → t.gpaNameMap = none) := by
  induction fields generalizing s with
  | nil => exact ⟨rfl, rfl, rfl, rfl, rfl, id⟩
  | cons ptr rest ih =>
      obtain ⟨names, shortNames, filterNames, address, subtrees, fieldNames⟩ :=
        ih (s.enterFieldOf proto parent ptr)
      refine ⟨names, shortNames, filterNames, address, subtrees, fun none_yet => fieldNames ?_⟩
      simp [Registry.enterFieldOf, Registry.enterField, Registry.changeProtocol, none_yet,
        gHashTableInsert]

/-- A whole registration of FOO registers no subtree type. -/
theorem fooRegistry_numTreeTypes (s : Registry)
    : (fooRegistry s).numTreeTypes = s.numTreeTypes :=
  (foldl_enterFieldOf_frame s.nextAddress s.gpaHfinfo.length hf
    (fooProtocolRegistry s)).2.2.2.2.1

/-- A whole registration of FOO keeps a registry early. -/
theorem fooRegistry_early {s : Registry} (early : Early s) : Early (fooRegistry s) := by
  have before := fooProtocolRegistry_early early
  obtain ⟨names, shortNames, filterNames, address, -, fieldNames⟩ :=
    foldl_enterFieldOf_frame s.nextAddress s.gpaHfinfo.length hf (fooProtocolRegistry s)
  refine ⟨names.trans before.noNames, shortNames.trans before.noShortNames,
    filterNames.trans before.noFilterNames, fieldNames before.noFieldNames, ?_, ?_⟩
  · intro protocol member
    rw [fooRegistry_protocols early.fresh] at member
    rw [fooRegistry, address]
    rcases List.mem_cons.mp member with rfl | member
    · exact Nat.lt_succ_self s.nextAddress
    · exact Nat.lt_succ_of_lt (early.fresh protocol member)
  · intro protocol member
    rw [fooRegistry_protocols early.fresh] at member
    rcases List.mem_cons.mp member with rfl | member
    · exact ⟨_, fooRegistry_proto s ▸ fooRegistry_protocolField s, rfl⟩
    · obtain ⟨hfinfo, known, same⟩ := early.ids protocol member
      have longer := foldl_enterFieldOf_gpaHfinfo s.nextAddress s.gpaHfinfo.length hf
        (fooProtocolRegistry s)
      refine ⟨hfinfo, hfinfoAt?_append longer ?_, same⟩
      exact hfinfoAt?_append rfl known

/-- In an early registry every name is new. -/
theorem early_newNames {s : Registry} (early : Early s)
    : NewNames s "FOO Protocol" "FOO" "foo" where
  freeName := by simp [early.noNames, gHashTableLookup]
  freeShortName := by simp [early.noShortNames, gHashTableLookup]
  freeFilterName := by simp [early.noFilterNames, gHashTableLookup]
  freeField := by simp [early.noFieldNames, gHashTableLookup]
  named := by decide
  abbreviated := by decide
  valid := by decide

/-- Before epan_init FOO can be registered any number of times; only the first time enters
its fields.
-/
theorem EarlyPhase.foo {fooCalls : Nat} {s : Program} {call : HostCall}
    (phase : EarlyPhase fooCalls s) (foo : call.registersFoo = true)
    : ∃ next, hostStep s call = some next ∧ EarlyPhase (fooCalls + 1) next := by
  have newNames := early_newNames phase.early
  have none_left := (fooProtocolRegistry_early phase.early).noFieldNames
  by_cases first : fooCalls = 0
  · obtain ⟨empty, unassigned⟩ := phase.untouched first
    have returns := protoRegisterFoo_new newNames phase.early.fresh
      (fun ptr _ => by simp [none_left, gHashTableLookup]) unassigned
    refine ⟨_, hostStep_foo foo returns, fooRegistry_early phase.early, phase.free, ?_, ?_,
      (fooRegistry_numTreeTypes s.epan.registry).trans phase.noSubtrees⟩
    · simp
    · intro _
      have field := (fooRegistry_field s.epan.registry (i := 0) rfl).1
      simpa [empty, fooField] using field
  · have returns := protoRegisterFoo_taken newNames phase.early.fresh (phase.taken first)
    refine ⟨_, hostStep_foo foo returns, fooProtocolRegistry_early phase.early, phase.free,
      ?_, ?_, phase.noSubtrees⟩
    · simp
    · exact fun _ => phase.taken first

/-- The state after epan_init, without a registration of FOO since. What was registered
before is gone, but the variables of FOO's fields kept their values.
-/
def ReadyPhase (fooCalls : Nat) (s : Program) : Prop :=
  ∃ base, s.epan.registry = initialisedRegistry base ∧ base.numTreeTypes = 0
    ∧ (fooCalls = 0 → ∀ ptr ∈ hf, base.statics ptr.pId = -1)
    ∧ (fooCalls ≠ 0 → base.statics "hf_foo_pdu_type" = 1)

/-- The state after epan_init and the only registration of FOO. -/
def RegisteredPhase (s : Program) : Prop :=
  ∃ base, s.epan.registry = fooRegistry (initialisedRegistry base) ∧ base.numTreeTypes = 0

/-- epan_init leaves the variables of FOO's fields alone. -/
theorem initialisedRegistry_statics (base : Registry) {ptr : HfRegisterInfo}
    (member : ptr ∈ hf)
    : (initialisedRegistry base).statics ptr.pId = base.statics ptr.pId := by
  simp only [hf, List.mem_cons, List.not_mem_nil, or_false] at member
  rcases member with rfl | rfl | rfl | rfl | rfl | rfl | rfl <;> rfl

/-- FOO's names are new after epan_init, by looking them up. -/
theorem initialisedRegistry_newNames (base : Registry)
    : NewNames (initialisedRegistry base) "FOO Protocol" "FOO" "foo" :=
  ⟨rfl, rfl, rfl, rfl, by decide, by decide, by decide⟩

/-- None of the protocols after epan_init is FOO. -/
theorem initialisedRegistry_absent (base : Registry)
    : ∀ protocol ∈ (initialisedRegistry base).protocols, protocol.filterName ≠ "foo" := by
  intro protocol member
  have names : protocol.filterName
      ∈ (initialisedRegistry base).protocols.map Protocol.filterName :=
    List.mem_map_of_mem member
  intro isFoo
  rw [isFoo] at names
  have list : (initialisedRegistry base).protocols.map Protocol.filterName
      = ["_ws.string", "_ws.number_string.decoding_error", "_ws.type_length"] := rfl
  rw [list] at names
  exact absurd names (by decide)

/-- epan_init succeeds before any other and keeps the record of FOO's earlier calls. -/
theorem EarlyPhase.doCall0 {fooCalls : Nat} {s : Program} (phase : EarlyPhase fooCalls s)
    : ∃ next, hostStep s .doCall0 = some next ∧ ReadyPhase fooCalls next := by
  obtain ⟨register, initialised⟩ := epanInit_early false phase.early phase.free
  refine ⟨_, hostStep_of_returns (Returns.bind (returns_focus initialised) returns_pure),
    s.epan.switched.registry, rfl, phase.noSubtrees, fun none_before => ?_, phase.taken⟩
  exact (phase.untouched none_before).2

/-- The first registration of FOO after epan_init, when there was none before it, makes
FOO's ids name FOO's fields.
-/
theorem ReadyPhase.foo_first {s : Program} {call : HostCall} (phase : ReadyPhase 0 s)
    (foo : call.registersFoo = true)
    : ∃ next, hostStep s call = some next ∧ RegisteredPhase next := by
  obtain ⟨base, registry, noSubtrees, unassigned, -⟩ := phase
  have newAbbr : ∀ ptr ∈ hf, gHashTableLookup
      (fooProtocolRegistry (initialisedRegistry base)).gpaNameMap ptr.hfinfo.abbr = none := by
    intro ptr member
    simp only [hf, List.mem_cons, List.not_mem_nil, or_false] at member
    rcases member with rfl | rfl | rfl | rfl | rfl | rfl | rfl <;> rfl
  have returns := protoRegisterFoo_new (initialisedRegistry_newNames base)
    (initialisedRegistry_fresh base) newAbbr
    fun ptr member => (initialisedRegistry_statics base member).trans (unassigned rfl ptr member)
  exact ⟨_, hostStep_foo foo (registry ▸ returns), base, rfl, noSubtrees⟩

/-- In the registered phase FOO's ids name FOO's fields. -/
theorem RegisteredPhase.ids {s : Program} (phase : RegisteredPhase s)
    : FooIdsNameFoo s.epan.registry := by
  obtain ⟨base, registry, -⟩ := phase
  rw [registry]
  exact fooRegistry_ids (initialisedRegistry_fresh base) (initialisedRegistry_absent base)

/-- A registration of FOO after epan_init, when there was one before it, enters no field:
the variable of foo.type still holds 1, which now is the place of a pseudo-protocol.
-/
theorem ReadyPhase.foo_stale {fooCalls : Nat} {s : Program} {call : HostCall}
    (phase : ReadyPhase fooCalls s) (before : fooCalls ≠ 0) (foo : call.registersFoo = true)
    : ∃ next, hostStep s call = some next ∧ ¬ FooIdsNameFoo next.epan.registry := by
  obtain ⟨base, registry, -, -, taken⟩ := phase
  have stale : (initialisedRegistry base).statics "hf_foo_pdu_type" = 1 := taken before
  have returns := protoRegisterFoo_taken (initialisedRegistry_newNames base)
    (initialisedRegistry_fresh base) stale
  rw [← registry] at returns
  refine ⟨_, hostStep_foo foo returns, ?_⟩
  intro ids
  obtain ⟨hfinfo, found, named, -⟩ := ids.fieldIds _ List.mem_cons_self
  have current : (fooProtocolRegistry s.epan.registry).statics "hf_foo_pdu_type" = 1 := by
    rw [registry]
    exact stale
  simp only [fooField, current] at found named
  rw [registry] at found
  obtain rfl := Option.some.inj found
  have otherField : ("_ws.type_length" : String) ≠ "foo.type" := by decide
  exact otherField named

/-- A second registration of FOO after epan_init ends the process. -/
theorem RegisteredPhase.foo_again {s : Program} {call : HostCall}
    (phase : RegisteredPhase s) (foo : call.registersFoo = true)
    : hostStep s call = none := by
  obtain ⟨base, registry, -⟩ := phase
  have names := (foldl_enterFieldOf_frame (initialisedRegistry base).nextAddress
    (initialisedRegistry base).gpaHfinfo.length hf
    (fooProtocolRegistry (initialisedRegistry base))).1
  have taken : gHashTableLookup s.epan.registry.protoNames "FOO Protocol" ≠ none := by
    rw [registry, fooRegistry, names]
    intro free
    cases free
  exact hostStep_foo_raises foo (protoRegisterFoo_duplicate taken)

end PacketDissector.Host
