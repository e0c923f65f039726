import Mathlib.Data.List.Nodup
import PacketDissector.Epan.InitContract
import PacketDissector.Host.Main
import PacketDissector.Library.Runs

/-! Registration of FOO over every order of the host's calls: when the ids that the plugin
keeps name FOO's own fields, and when they are left over from another registry.
-/

namespace PacketDissector.Host

open PacketDissector.Library PacketDissector.Epan PacketDissector.Epan.Proto

/-- The registry after FOO's protocol, before its fields. -/
def fooProtocolRegistry (s : Registry) : Registry :=
  { s.enterProtocol "FOO Protocol" "FOO" "foo" with
    protocols :=
      { newProtocol s.nextAddress "FOO Protocol" "FOO" "foo" s.gpaHfinfo.length with
        fields := some [] } :: s.protocols
    statics := Function.update s.statics "proto_foo" s.gpaHfinfo.length }

/-- The registry after FOO's protocol and its fields. -/
def fooRegistry (s : Registry) : Registry :=
  hf.foldl (fun s' ptr => s'.enterFieldOf s.nextAddress s.gpaHfinfo.length ptr)
    (fooProtocolRegistry s)

/-- Every field of FOO passes the checks of registration, by evaluating them. -/
theorem hf_registrable : ∀ ptr ∈ hf, Registrable ptr.hfinfo := by
  intro ptr member
  simp only [hf, List.mem_cons, List.not_mem_nil, or_false] at member
  rcases member with rfl | rfl | rfl | rfl | rfl | rfl | rfl <;>
    exact ⟨fun _ => rfl, by decide, by decide, by decide⟩

/-- FOO's fields have variables of their own, none of which is proto_foo. -/
theorem hf_variables
    : (hf.map HfRegisterInfo.pId).Nodup ∧ ∀ ptr ∈ hf, ptr.pId ≠ "proto_foo" := by
  decide

/-- The protocol part of proto_register_foo, when FOO's names are new. -/
theorem protoRegisterFoo_protocol {s t : Registry}
    (new : NewNames s "FOO Protocol" "FOO" "foo") (fresh : s.AddressesFresh)
    (fields : Returns (registerFields s.nextAddress s.gpaHfinfo.length hf)
      (fooProtocolRegistry s) () t)
    : Returns protoRegisterFoo s () t := by
  let entered : Registry :=
    { s.enterProtocol "FOO Protocol" "FOO" "foo" with
      statics := Function.update s.statics "proto_foo" s.gpaHfinfo.length }
  have changed := changeProtocol_cons_new (s := entered)
    (p := newProtocol s.nextAddress "FOO Protocol" "FOO" "foo" s.gpaHfinfo.length) fresh
    fun protocol => { protocol with fields := some (protocol.fields.getD []) }
  refine Returns.bind (protoRegisterProtocol_new new fresh) ?_
  refine Returns.bind (returns_modify _) (Returns.bind returns_get ?_)
  simp only [Function.update_self]
  refine Returns.bind (findProtocolById_protocol (s := entered) (hfinfoAt?_last rfl) rfl rfl) ?_
  exact Returns.bind (returns_modify _) (changed ▸ fields)

/-- With new names and unassigned variables, proto_register_foo enters FOO and its fields. -/
theorem protoRegisterFoo_new {s : Registry} (new : NewNames s "FOO Protocol" "FOO" "foo")
    (fresh : s.AddressesFresh)
    (newAbbr : ∀ ptr ∈ hf,
      gHashTableLookup (fooProtocolRegistry s).gpaNameMap ptr.hfinfo.abbr = none)
    (unassigned : ∀ ptr ∈ hf, s.statics ptr.pId = -1)
    : Returns protoRegisterFoo s () (fooRegistry s) := by
  refine protoRegisterFoo_protocol new fresh (registerFields_new _ _ ?_)
  refine ⟨hf_registrable, newAbbr, by decide, ?_, hf_variables.1⟩
  intro ptr member
  refine Or.inl ((Function.update_of_ne (hf_variables.2 ptr member) _ _).trans ?_)
  exact unassigned ptr member

/-- When the first variable holds an id already, proto_register_foo enters no field. -/
theorem protoRegisterFoo_taken {s : Registry} (new : NewNames s "FOO Protocol" "FOO" "foo")
    (fresh : s.AddressesFresh) (taken : s.statics "hf_foo_pdu_type" = 1)
    : Returns protoRegisterFoo s () (fooProtocolRegistry s) := by
  refine protoRegisterFoo_protocol new fresh (Returns.bind returns_get ?_)
  have current : (fooProtocolRegistry s).statics "hf_foo_pdu_type" = 1 := taken
  simp only [fooField, current]
  exact returns_pure

/-- When FOO's name is taken, proto_register_foo ends the process. -/
theorem protoRegisterFoo_duplicate {s : Registry}
    (taken : gHashTableLookup s.protoNames "FOO Protocol" ≠ none)
    : Raises protoRegisterFoo s
        (.terminated (.gError (duplicateProtocol "name" "FOO Protocol"))) s :=
  Raises.bind_first (Raises.bind_rest returns_get
    (Raises.bind_first (raises_gErrorIf _ taken s)))

/-- FOO is listed once, proto_foo is the place of FOO's own header field, each field
variable is the place of the field it was declared with, under proto_foo, no two are the
same, and FOO's field list holds just these places.
-/
structure FooIdsNameFoo (s : Registry) : Prop where
  listedOnce : (s.protocols.filter fun protocol => protocol.filterName = "foo").length = 1
  protocolId : ∃ protocol ∈ s.protocols, ∃ hfinfo, protocol.filterName = "foo"
    ∧ s.hfinfoAt? (s.statics "proto_foo") = some hfinfo
    ∧ hfinfo.strings = .protocol protocol.address ∧ hfinfo.abbr = "foo"
  fieldIds : ∀ ptr ∈ hf, ∃ hfinfo, s.hfinfoAt? (s.statics ptr.pId) = some hfinfo
    ∧ hfinfo.abbr = ptr.hfinfo.abbr ∧ hfinfo.parent = s.statics "proto_foo"
  distinct : (hf.map fun ptr => s.statics ptr.pId).Nodup
  fieldList : ∀ protocol ∈ s.protocols, protocol.filterName = "foo" →
    protocol.fields = some (hf.map fun ptr => (s.statics ptr.pId).toNat)

/-- proto_foo after a whole registration. -/
theorem fooRegistry_proto (s : Registry)
    : (fooRegistry s).statics "proto_foo" = s.gpaHfinfo.length := by
  have other : "proto_foo" ∉ hf.map HfRegisterInfo.pId := by decide
  have assigned : (fooProtocolRegistry s).statics "proto_foo" = s.gpaHfinfo.length := by
    simp [fooProtocolRegistry]
  exact (foldl_enterFieldOf_statics_of_notMem other).trans assigned

/-- The variables of FOO's fields after a whole registration. -/
theorem fooRegistry_places (s : Registry)
    : (hf.map fun ptr => (fooRegistry s).statics ptr.pId)
      = (List.range' (s.gpaHfinfo.length + 1) 7).map fun place : Nat => (place : Int) := by
  have places := foldl_enterFieldOf_places s.nextAddress s.gpaHfinfo.length
    (fooProtocolRegistry s) hf_variables.1
  have length : (fooProtocolRegistry s).gpaHfinfo.length = s.gpaHfinfo.length + 1 := by
    simp [fooProtocolRegistry, Registry.enterProtocol, Registry.enterField]
  rw [length] at places
  exact places

/-- The field found under each variable after a whole registration. -/
theorem fooRegistry_field (s : Registry) {ptr : HfRegisterInfo} {i : Nat}
    (member : hf[i]? = some ptr)
    : (fooRegistry s).statics ptr.pId = (s.gpaHfinfo.length + 1 + i : Nat)
      ∧ (fooRegistry s).hfinfoAt? ((fooRegistry s).statics ptr.pId)
        = some (ptr.hfinfo.enteredAt s.gpaHfinfo.length (s.gpaHfinfo.length + 1 + i)) := by
  have length : (fooProtocolRegistry s).gpaHfinfo.length = s.gpaHfinfo.length + 1 := by
    simp [fooProtocolRegistry, Registry.enterProtocol, Registry.enterField]
  have place := foldl_enterFieldOf_statics s.nextAddress s.gpaHfinfo.length
    (fooProtocolRegistry s) hf_variables.1 member
  have found := foldl_enterFieldOf_hfinfoAt s.nextAddress s.gpaHfinfo.length
    (fooProtocolRegistry s) member
  rw [length] at place found
  exact ⟨place, (congrArg (fooRegistry s).hfinfoAt? place).trans found⟩

/-- The protocols after a whole registration: FOO with its seven fields comes first. -/
theorem fooRegistry_protocols {s : Registry} (fresh : s.AddressesFresh)
    : (fooRegistry s).protocols
      = { newProtocol s.nextAddress "FOO Protocol" "FOO" "foo" s.gpaHfinfo.length with
          fields := some (List.range' (s.gpaHfinfo.length + 1) 7) } :: s.protocols := by
  have length : (fooProtocolRegistry s).gpaHfinfo.length = s.gpaHfinfo.length + 1 := by
    simp [fooProtocolRegistry, Registry.enterProtocol, Registry.enterField]
  have others : s.protocols.map (fun protocol =>
      if protocol.address = s.nextAddress then
        { protocol with
          fields := protocol.fields.map (· ++ List.range' (s.gpaHfinfo.length + 1) hf.length) }
      else protocol) = s.protocols := by
    refine (List.map_congr_left ?_).trans (List.map_id s.protocols)
    intro protocol member
    simp [Nat.ne_of_lt (fresh protocol member)]
  rw [fooRegistry, foldl_enterFieldOf_protocols, length]
  simp only [fooProtocolRegistry, List.map_cons, others, newProtocol, if_true,
    Option.map_some, List.nil_append]
  rfl

/-- The header field of FOO itself after a whole registration. -/
theorem fooRegistry_protocolField (s : Registry)
    : (fooRegistry s).hfinfoAt? ((fooRegistry s).statics "proto_foo")
      = some ((protocolField "FOO Protocol" "foo" s.nextAddress).enteredAt (-1)
          s.gpaHfinfo.length) := by
  rw [fooRegistry_proto, hfinfoAt?_natCast, fooRegistry, foldl_enterFieldOf_gpaHfinfo,
    List.getElem?_append_left (by simp [fooProtocolRegistry, Registry.enterProtocol,
      Registry.enterField])]
  simp [fooProtocolRegistry, Registry.enterProtocol, Registry.enterField]

/-- A whole registration in a registry without FOO makes FOO's ids name FOO's fields. -/
theorem fooRegistry_ids {s : Registry} (fresh : s.AddressesFresh)
    (absent : ∀ protocol ∈ s.protocols, protocol.filterName ≠ "foo")
    : FooIdsNameFoo (fooRegistry s) where
  listedOnce := by
    have none_left : (s.protocols.filter fun protocol => protocol.filterName = "foo") = [] :=
      List.filter_eq_nil_iff.mpr fun protocol member => by simpa using absent protocol member
    simp [fooRegistry_protocols fresh, newProtocol, none_left]
  protocolId := by
    rw [fooRegistry_protocols fresh]
    exact ⟨_, List.mem_cons_self, _, rfl, fooRegistry_protocolField s, rfl, rfl⟩
  fieldIds := by
    intro ptr member
    obtain ⟨i, at_i⟩ := List.mem_iff_getElem?.mp member
    refine ⟨_, (fooRegistry_field s at_i).2, rfl, ?_⟩
    rw [fooRegistry_proto]
    rfl
  distinct := by
    rw [fooRegistry_places]
    exact List.Nodup.map (fun _ _ same => Int.ofNat.inj same) (List.nodup_range' 1)
  fieldList := by
    intro protocol member isFoo
    have places : (hf.map fun ptr => ((fooRegistry s).statics ptr.pId).toNat)
        = List.range' (s.gpaHfinfo.length + 1) 7 := by
      have asNat := congrArg (List.map Int.toNat) (fooRegistry_places s)
      simpa only [List.map_map, Function.comp_def, Int.toNat_natCast, List.map_id'] using asNat
    rw [fooRegistry_protocols fresh] at member
    rcases List.mem_cons.mp member with rfl | member
    · rw [places]
    · exact (absent protocol member isFoo).elim

end PacketDissector.Host
