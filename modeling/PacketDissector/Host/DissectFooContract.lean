import PacketDissector.Epan.ItemContract
import PacketDissector.Host.DissectFoo
import PacketDissector.Host.HostCalls

/-! What dissect_foo does after FOO is registered: without a tree it only checks the bounds
of its items, and with a tree its call of proto_item_add_subtree fails, since ett_foo was
never registered.
-/

namespace PacketDissector.Host

open PacketDissector.Library PacketDissector.Epan PacketDissector.Epan.Proto

/-- The calls have one epan_init and, after it, the only run of proto_register_foo. -/
structure InitThenFoo (calls : List HostCall) : Prop where
  oneInit : calls.count .doCall0 = 1
  oneFoo : calls.countP HostCall.registersFoo = 1
  fooLater : fooAfterInit calls = true

/-- What dissect_foo finds in the registry: FOO's protocol and fields under their variables,
and no subtree type.
-/
structure FooKnown (s : Registry) : Prop where
  protocol : ∃ hfinfo, s.hfinfoAt? (s.statics "proto_foo") = some hfinfo
    ∧ s.hfinfoAt? hfinfo.id = some hfinfo ∧ hfinfo.type = .ftProtocol
  field : ∀ {i : Nat} {ptr}, hf[i]? = some ptr →
    ∃ hfinfo, s.hfinfoAt? (s.statics ptr.pId) = some hfinfo ∧ hfinfo.type = ptr.hfinfo.type
  noSubtrees : s.numTreeTypes = 0

theorem RegisteredPhase.known {p : Program} (phase : RegisteredPhase p)
    : FooKnown p.epan.registry := by
  obtain ⟨base, registry, noSubtrees⟩ := phase
  rw [registry]
  have proto := fooRegistry_protocolField (initialisedRegistry base)
  refine ⟨⟨_, proto, ?_, rfl⟩, fun at_i => ?_, ?_⟩
  · rw [fooRegistry_proto] at proto
    exact proto
  · exact ⟨_, (fooRegistry_field _ at_i).2, rfl⟩
  · exact (fooRegistry_numTreeTypes _).trans noSubtrees

/-- Every run of such calls leads to a state where FOO is known. -/
theorem InitThenFoo.known {calls : List HostCall} {abortOnBug abortOnTooManyItems : Bool}
    {p : Program} (initThenFoo : InitThenFoo calls)
    (reached : runLabels hostStep (.initial abortOnBug abortOnTooManyItems) calls = some p)
    : FooKnown p.epan.registry := by
  obtain ⟨q, run, phase⟩ := phase_of_once abortOnBug abortOnTooManyItems calls
    (Nat.le_of_eq initThenFoo.oneInit) fun _ => initThenFoo.oneFoo
  rw [reached] at run
  obtain rfl := Option.some.inj run
  exact (phase.registered initThenFoo.fooLater).known

variable {rest : ProtoRest} {tvb : Tvbuff} {s : DissectState}

theorem onColumns_returns (el : ColFormat) (change : ColItem → ColItem) (s : DissectState)
    : Returns (onColumns el change) s ()
        { s with
          pinfo := { s.pinfo with cinfo := s.pinfo.cinfo.map (writeColumns el change) } } :=
  returns_modify _

/-- Without a tree a field of FOO that is inside the payload is not added. -/
theorem addFooItem_null {pId : String} {hfinfo : HeaderFieldInfo} {start length : Nat}
    (known : s.epan.registry.hfinfoAt? (s.epan.registry.statics pId) = some hfinfo)
    (notProtocol : hfinfo.type ≠ .ftProtocol) (notNone : hfinfo.type ≠ .ftNone)
    (inside : start + length ≤ tvbCapturedLength tvb)
    : Returns (addFooItem rest none pId tvb start length) s () s := by
  refine Returns.bind (readStatic_returns pId s) ?_
  exact Returns.bind (protoTreeAddItem_null known notProtocol notNone inside) returns_pure

/-- A field of FOO that ends past the payload raises a bounds exception. -/
theorem addFooItem_outside {pId : String} {hfinfo : HeaderFieldInfo} {start length : Nat}
    (known : s.epan.registry.hfinfoAt? (s.epan.registry.statics pId) = some hfinfo)
    (notProtocol : hfinfo.type ≠ .ftProtocol) (notNone : hfinfo.type ≠ .ftNone)
    (fits : length < 2 ^ 31) (outside : tvbCapturedLength tvb < start + length)
    : ∃ stop, Raises (addFooItem rest none pId tvb start length) s stop s
        ∧ stop.isBoundsException = true := by
  obtain ⟨stop, raised, bounds⟩ :=
    protoTreeAddItem_outside known notProtocol notNone fits outside
  exact ⟨stop, Raises.bind_rest (readStatic_returns pId s) (Raises.bind_first raised), bounds⟩

/-- Without a tree the flags are not read. -/
theorem addFooFlags_null {offset : Int} (known : FooKnown s.epan.registry)
    : Returns (addFooFlags rest none tvb offset) s () s := by
  obtain ⟨flags, found, isUint8⟩ : ∃ hfinfo,
      s.epan.registry.hfinfoAt? (s.epan.registry.statics "hf_foo_flags") = some hfinfo
        ∧ hfinfo.type = .ftUint8 :=
    known.field (i := 1) rfl
  refine Returns.bind (readStatic_returns "hf_foo_flags" s) ?_
  refine Returns.bind (readStatic_returns "ett_foo" s) ?_
  refine Returns.bind (protoTreeAddBitmask_null found ?_) returns_pure
  rw [isUint8]
  exact Or.inr rfl

/-- Without a tree the item of the protocol is not added. -/
theorem addFooTree_null (known : FooKnown s.epan.registry)
    (small : tvbCapturedLength tvb < 2 ^ 31)
    : Returns (addFooTree rest tvb none) s none s := by
  obtain ⟨foo, found, -, isProtocol⟩ := known.protocol
  refine Returns.bind (readStatic_returns "proto_foo" s) ?_
  refine Returns.bind (protoTreeAddItem_protocol_null found isProtocol small) ?_
  exact Returns.bind (readStatic_returns "ett_foo" s) returns_pure

/-- Under a tree the item of the protocol gets no subtree, as no subtree type exists. -/
theorem addFooTree_some (tree : Nat) (known : FooKnown s.epan.registry)
    (small : tvbCapturedLength tvb < 2 ^ 31)
    : Ends (addFooTree rest tvb (some tree)) s (fun _ _ => False) NoBounds := by
  obtain ⟨foo, found, own, isProtocol⟩ := known.protocol
  refine Returns.bind_ends (readStatic_returns "proto_foo" s) ?_
  refine Ends.bind (protoTreeAddItem_protocol_ends tree found own isProtocol small) ?_
  intro ti t same
  obtain ⟨added, epan⟩ := same
  obtain ⟨node, rfl⟩ := Option.isSome_iff_exists.mp added
  refine Returns.bind_ends (readStatic_returns "ett_foo" t) ?_
  have noType : ¬ (0 ≤ t.epan.registry.statics "ett_foo"
      ∧ t.epan.registry.statics "ett_foo" < t.epan.registry.numTreeTypes) := by
    have noSubtrees : t.epan.registry.numTreeTypes = 0 := epan ▸ known.noSubtrees
    omega
  have failed := assertInDissection_raises noType "idx >= 0 && idx < num_tree_types" t
  exact (Raises.bind_rest returns_get (Raises.bind_first failed)).ends
    (dissectorBug_not_bounds _ _)

/-- A payload that is too long for a gint is a dissector bug, under any tree. -/
theorem addFooTree_huge (tree : Option Nat) (known : FooKnown s.epan.registry)
    (huge : 2 ^ 31 ≤ tvbCapturedLength tvb)
    : Ends (addFooTree rest tvb tree) s (fun _ _ => False) NoBounds := by
  obtain ⟨foo, found, -, isProtocol⟩ := known.protocol
  refine Returns.bind_ends (readStatic_returns "proto_foo" s) ?_
  refine Ends.bind (P := fun _ _ => False) ?_ fun _ _ impossible => impossible.elim
  refine Returns.bind_ends (inRegistry_nth found) ?_
  exact (Raises.bind_first (getHfiLength_huge isProtocol huge s)).ends
    (dissectorBug_not_bounds _ _)

/-- The fields that dissect_foo adds itself are no protocols and not without a value. -/
theorem FooKnown.plainField {r : Registry} (known : FooKnown r) {i : Nat} {ptr : HfRegisterInfo}
    (at_i : hf[i]? = some ptr)
    : ∃ hfinfo, r.hfinfoAt? (r.statics ptr.pId) = some hfinfo
      ∧ hfinfo.type ≠ .ftProtocol ∧ hfinfo.type ≠ .ftNone := by
  obtain ⟨hfinfo, found, type⟩ := known.field at_i
  have plain : ∀ ptr ∈ hf, ptr.hfinfo.type ≠ .ftProtocol ∧ ptr.hfinfo.type ≠ .ftNone := by
    decide
  exact ⟨hfinfo, found, type ▸ plain ptr (List.mem_of_getElem? at_i)⟩

/-- Without a tree, a field of FOO is skipped or its range is missing. -/
theorem addFooItem_ends {α : Type} {next : Unit → DissectM α}
    {P : α → DissectState → Prop} {E : Stop → Prop} {pId : String} (start length : Nat)
    (plain : ∃ hfinfo, s.epan.registry.hfinfoAt? (s.epan.registry.statics pId) = some hfinfo
      ∧ hfinfo.type ≠ .ftProtocol ∧ hfinfo.type ≠ .ftNone)
    (fits : length < 2 ^ 31)
    (inside : start + length ≤ tvbCapturedLength tvb → Ends (next ()) s P E)
    (outside : tvbCapturedLength tvb < start + length →
      ∀ stop, stop.isBoundsException = true → E stop)
    : Ends (addFooItem rest none pId tvb start length >>= next) s P E := by
  obtain ⟨hfinfo, found, notProtocol, notNone⟩ := plain
  rcases Nat.lt_or_ge (tvbCapturedLength tvb) (start + length) with missing | present
  · obtain ⟨stop, raised, bounds⟩ :=
      addFooItem_outside found notProtocol notNone fits missing
    exact (Raises.bind_first raised).ends (outside missing stop bounds)
  · exact Returns.bind_ends (addFooItem_null found notProtocol notNone present) (inside present)

/-- Without a tree the dissector returns the length of a whole payload, and a shorter one
ends in a bounds exception.
-/
theorem dissectFoo_null (rest : ProtoRest) (tvb : Tvbuff) (known : FooKnown s.epan.registry)
    (small : tvbCapturedLength tvb < 2 ^ 31)
    : Ends (dissectFoo rest tvb none) s
        (fun n _ => n = tvbCapturedLength tvb ∧ 8 ≤ tvbCapturedLength tvb)
        (fun stop => stop.isBoundsException = true ∧ tvbCapturedLength tvb < 8) := by
  have length : asGint (tvbCapturedLength tvb) = tvbCapturedLength tvb := by
    simp only [asGint, small, if_true]
  refine Returns.bind_ends (onColumns_returns _ _ s) ?_
  refine Returns.bind_ends (onColumns_returns _ _ _) ?_
  refine Returns.bind_ends (addFooTree_null known small) ?_
  have tooShort : ∀ start length, start + length ≤ 8 → tvbCapturedLength tvb < start + length →
      ∀ stop : Stop, stop.isBoundsException = true →
        stop.isBoundsException = true ∧ tvbCapturedLength tvb < 8 :=
    fun start length within missing stop bounds =>
      ⟨bounds, Nat.lt_of_lt_of_le missing within⟩
  have type := known.plainField (i := 0) rfl
  have sequenceno := known.plainField (i := 2) rfl
  have initialip := known.plainField (i := 3) rfl
  refine addFooItem_ends 0 1 type (by decide) (fun _ => ?_) (tooShort 0 1 (by decide))
  refine Returns.bind_ends (addFooFlags_null known) ?_
  refine addFooItem_ends 2 2 sequenceno (by decide) (fun _ => ?_) (tooShort 2 2 (by decide))
  refine addFooItem_ends 4 4 initialip (by decide) (fun whole => ?_) (tooShort 4 4 (by decide))
  exact Returns.ends returns_pure ⟨length, whole⟩

/-- Under a tree the dissector ends in something else than a bounds exception. -/
theorem dissectFoo_some (tree : Nat) (known : FooKnown s.epan.registry)
    (small : tvbCapturedLength tvb < 2 ^ 31)
    : Ends (dissectFoo rest tvb (some tree)) s (fun _ _ => False) NoBounds := by
  refine Returns.bind_ends (onColumns_returns _ _ s) ?_
  refine Returns.bind_ends (onColumns_returns _ _ _) ?_
  exact Ends.bind (addFooTree_some tree known small) fun _ _ impossible => impossible.elim

/-- So does it for a payload that is too long for a gint. -/
theorem dissectFoo_huge (tree : Option Nat) (known : FooKnown s.epan.registry)
    (huge : 2 ^ 31 ≤ tvbCapturedLength tvb)
    : Ends (dissectFoo rest tvb tree) s (fun _ _ => False) NoBounds := by
  refine Returns.bind_ends (onColumns_returns _ _ s) ?_
  refine Returns.bind_ends (onColumns_returns _ _ _) ?_
  exact Ends.bind (addFooTree_huge tree known huge) fun _ _ impossible => impossible.elim

/-- What ends neither in a value nor in a bounds exception breaks the promise. -/
theorem not_dissectsFoo {tree : Option Nat}
    (ends : Ends (dissectFoo rest tvb tree) s (fun _ _ => False) NoBounds)
    : ¬ DissectsFoo rest tvb tree s := by
  intro promise
  obtain ⟨e, t, raised, noBounds⟩ := ends.raises
  rcases Nat.lt_or_ge (tvbCapturedLength tvb) 8 with short | whole
  · obtain ⟨stop, u, raised', bounds⟩ := promise.short short
    have same := raised.symm.trans raised'
    obtain rfl := (EStateM.Result.error.inj same).1
    rw [NoBounds, bounds] at noBounds
    cases noBounds
  · obtain ⟨u, returned, -⟩ := promise.whole whole
    exact raised.not_returns returned

/-- In every state reached by one epan_init and then one registration of FOO, dissect_foo
keeps its promise exactly for calls without a tree, with a payload that fits a gint.
-/
theorem dissectsFoo_iff (rest : ProtoRest) (tvb : Tvbuff) (tree : Option Nat)
    (abortOnBug abortOnTooManyItems : Bool) (calls : List HostCall) (p : Program)
    (s : DissectState) (initThenFoo : InitThenFoo calls)
    (reached : runLabels hostStep (.initial abortOnBug abortOnTooManyItems) calls = some p)
    (epan : s.epan = p.epan)
    : DissectsFoo rest tvb tree s ↔ tree = none ∧ tvbCapturedLength tvb < 2 ^ 31 := by
  have known : FooKnown s.epan.registry := epan ▸ initThenFoo.known reached
  constructor
  · intro promise
    rcases Nat.lt_or_ge (tvbCapturedLength tvb) (2 ^ 31) with small | huge
    · cases tree with
      | none => exact ⟨rfl, small⟩
      | some tree => exact (not_dissectsFoo (dissectFoo_some tree known small) promise).elim
    · exact (not_dissectsFoo (dissectFoo_huge tree known huge) promise).elim
  · rintro ⟨rfl, small⟩
    have ends := dissectFoo_null rest tvb known small
    refine ⟨fun whole => ?_, fun short => ?_⟩
    · obtain ⟨n, t, returned, rfl, -⟩ := (ends.imp (fun _ _ h => h)
        fun stop h => absurd h.2 (Nat.not_lt.mpr whole)).returns
      exact ⟨t, returned, fun node some_tree => by cases some_tree⟩
    · obtain ⟨stop, t, raised, bounds, -⟩ := (ends.imp
        (fun _ _ h => absurd h.2 (Nat.not_le.mpr short)) fun _ h => h).raises
      exact ⟨stop, t, raised, bounds⟩

/-- A payload without anything after it. -/
def FooPdu.toTvbuff (pdu : FooPdu) : Tvbuff where
  bytes := pdu.encode
  realDataNull := false
  containedLength := 8
  reportedLength := 8
  fragment := false
  rawOffset := 0
  captured_le := Nat.le_refl 8
  contained_le := Nat.le_refl 8
  reported_lt := by decide

/-- A choice of the parts of proto.c that dissect_foo reaches for no field of its own. -/
def noOtherItems : ProtoRest where
  fillLabel := fun fi => fi.hfinfo.name
  fieldText := fun _ _ _ => none
  newOtherItem := fun _ _ _ _ _ => .error .reportedBoundsError

theorem initThenFoo_registerAll : InitThenFoo [.doCall0, .registerAll] :=
  ⟨by decide, by decide, by decide⟩

/-- A payload that is dissected without a tree, as for a filter that needs none. -/
theorem dissectsFoo_noTree
    : ∃ p, runLabels hostStep (.initial false false) [.doCall0, .registerAll] = some p
      ∧ DissectsFoo noOtherItems (FooPdu.toTvbuff ⟨1, 5, 0x0102, 0x0A000001⟩) none
          (.ofEpan p.epan []) := by
  obtain ⟨p, reached, -⟩ :=
    phase_of_once false false [.doCall0, .registerAll] (by decide) fun _ => by decide
  refine ⟨p, reached, ?_⟩
  exact (dissectsFoo_iff noOtherItems _ none false false _ p (.ofEpan p.epan [])
    initThenFoo_registerAll reached rfl).mpr ⟨rfl, by decide⟩

/-- The same payload under the root of a visible tree ends in a dissector bug. -/
theorem not_dissectsFoo_visibleTree
    : ∃ p, runLabels hostStep (.initial false false) [.doCall0, .registerAll] = some p
      ∧ ¬ DissectsFoo noOtherItems (FooPdu.toTvbuff ⟨1, 5, 0x0102, 0x0A000001⟩) (some 0)
          (.ofEpan p.epan [⟨none, none, []⟩]) := by
  obtain ⟨p, reached, phase⟩ :=
    phase_of_once false false [.doCall0, .registerAll] (by decide) fun _ => by decide
  refine ⟨p, reached, not_dissectsFoo (dissectFoo_some 0 ?_ (by decide))⟩
  exact (phase.registered (by decide)).known

end PacketDissector.Host
