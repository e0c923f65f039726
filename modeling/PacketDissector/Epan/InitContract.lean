import PacketDissector.Epan.Init
import PacketDissector.Epan.RegisterContract
import PacketDissector.Epan.Registration

/-! What epan_init leaves behind: from every registry without name tables it makes the same
four fields and three protocols.
-/

namespace PacketDissector.Epan

open PacketDissector.Library Proto

/-- The pseudo-protocols with their variables, in the order of their registration. -/
def pseudoProtocols : List (String × String × String × String) :=
  [("proto_type_length_mismatch", "Type Length Mismatch", "Type length mismatch",
      "_ws.type_length"),
    ("proto_number_string_decoding_error", "Number-String Decoding Error",
      "Number-string decoding error", "_ws.number_string.decoding_error"),
    ("proto_string_errors", "String Errors", "String errors", "_ws.string")]

/-- The registry with one more pseudo-protocol. -/
def enterPseudo (s : Registry) (names : String × String × String × String) : Registry :=
  let (idVariable, name, shortName, filterName) := names
  { s.enterProtocol name shortName filterName with
    protocols :=
      { newProtocol s.nextAddress name shortName filterName s.gpaHfinfo.length with
        canToggle := false } :: s.protocols
    statics := Function.update s.statics idVariable s.gpaHfinfo.length }

/-- The registry that proto_init starts from: nothing but empty tables. -/
def blankRegistry (s : Registry) : Registry :=
  { s with
    protocols := [], protoNames := some [], protoShortNames := some []
    protoFilterNames := some [], gpaHfinfo := [], gpaNameMap := some [] }

/-- The registry with the text-only field. -/
def enterTextOnly (s : Registry) : Registry :=
  { s.enterField hfiTextOnly (-1) with
    statics := Function.update s.statics "hf_text_only" s.gpaHfinfo.length }

/-- The registry that proto_init leaves. -/
def initialisedRegistry (s : Registry) : Registry :=
  pseudoProtocols.foldl enterPseudo (enterTextOnly (blankRegistry s))

/-- A registry before epan_init: no name tables, and each protocol's id leads to a field
that knows it.
-/
structure Early (s : Registry) : Prop where
  noNames : s.protoNames = none
  noShortNames : s.protoShortNames = none
  noFilterNames : s.protoFilterNames = none
  noFieldNames : s.gpaNameMap = none
  fresh : s.AddressesFresh
  ids : ∀ protocol ∈ s.protocols,
    ∃ hfinfo, s.hfinfoAt? protocol.protoId = some hfinfo ∧ protocol.protoId = hfinfo.id

/-- A registered id leads to its field. -/
theorem protoRegistrarGetNth_known {s : Registry} {hfindex : Int} {hfinfo : HeaderFieldInfo}
    (known : s.hfinfoAt? hfindex = some hfinfo)
    : Returns (protoRegistrarGetNth hfindex) s hfinfo s := by
  refine Returns.bind returns_get ?_
  simp only [known]
  exact returns_pure

/-- The protocols of an early registry are all dropped, by induction over the list. -/
theorem cleanupProtocols_known {s : Registry} {protocols : List Protocol}
    (ids : ∀ protocol ∈ protocols,
      ∃ hfinfo, s.hfinfoAt? protocol.protoId = some hfinfo ∧ protocol.protoId = hfinfo.id)
    : Returns (cleanupProtocols protocols) { s with protocols } ()
        { s with protocols := [] } := by
  induction protocols with
  | nil => exact returns_pure
  | cons protocol rest ih =>
      obtain ⟨hfinfo, known, same⟩ := ids protocol List.mem_cons_self
      refine Returns.bind (protoRegistrarGetNth_known known) ?_
      refine Returns.bind (returns_dissectorAssert _ same _) ?_
      refine Returns.bind (returns_modify _) ?_
      exact ih fun other member => ids other (List.mem_cons_of_mem _ member)

/-- proto_cleanup_base on an early registry. -/
theorem protoCleanupBase_early {s : Registry} (early : Early s)
    : Returns protoCleanupBase s ()
        { s with
          protocols := [], protoNames := none, protoShortNames := none
          protoFilterNames := none, gpaHfinfo := [], gpaNameMap := none } := by
  refine Returns.bind (returns_modify _) (Returns.bind returns_get ?_)
  exact Returns.bind (cleanupProtocols_known (s := { s with gpaNameMap := none }) early.ids)
    (returns_modify _)

/-- The last field of a registry is found at its place. -/
theorem hfinfoAt?_last {s : Registry} {fields : List HeaderFieldInfo}
    {hfinfo : HeaderFieldInfo} (last : s.gpaHfinfo = fields ++ [hfinfo])
    : s.hfinfoAt? fields.length = some hfinfo := by
  simp [Registry.hfinfoAt?, last]

/-- A known protocol can be kept from being disabled. -/
theorem protoSetCantToggle_known {s : Registry} {protoId : Int} {hfinfo : HeaderFieldInfo}
    {address : Nat} (known : s.hfinfoAt? protoId = some hfinfo)
    (isProtocol : hfinfo.type = .ftProtocol) (strings : hfinfo.strings = .protocol address)
    : Returns (protoSetCantToggle protoId) s ()
        (s.changeProtocol address fun protocol => { protocol with canToggle := false }) := by
  refine Returns.bind (findProtocolById_protocol known isProtocol strings) ?_
  exact returns_modify _

/-- The newest protocol can be kept from being disabled. -/
theorem protoSetCantToggle_newest {s : Registry} {protocols : List Protocol}
    {newest : Protocol} {hfinfo : HeaderFieldInfo} {protoId : Int}
    (list : s.protocols = newest :: protocols)
    (fresh : ∀ protocol ∈ protocols, protocol.address < newest.address)
    (known : s.hfinfoAt? protoId = some hfinfo) (isProtocol : hfinfo.type = .ftProtocol)
    (strings : hfinfo.strings = .protocol newest.address)
    : Returns (protoSetCantToggle protoId) s ()
        { s with protocols := { newest with canToggle := false } :: protocols } := by
  have changed := changeProtocol_cons_new (s := s) fresh
    fun protocol => { protocol with canToggle := false }
  rw [← list] at changed
  rw [← changed]
  exact protoSetCantToggle_known known isProtocol strings

/-- Entering a pseudo-protocol uses one address, which is below the next one. -/
theorem enterPseudo_fresh {s : Registry} (fresh : s.AddressesFresh)
    (names : String × String × String × String)
    : (enterPseudo s names).AddressesFresh := by
  intro protocol member
  rcases List.mem_cons.mp member with rfl | member
  · exact Nat.lt_succ_self s.nextAddress
  · exact Nat.lt_succ_of_lt (fresh protocol member)

/-- The protocols after epan_init were handed addresses in order. -/
theorem initialisedRegistry_fresh (base : Registry)
    : (initialisedRegistry base).AddressesFresh := by
  have blank : (enterTextOnly (blankRegistry base)).AddressesFresh :=
    fun _ member => (List.not_mem_nil member).elim
  have entered := enterPseudo_fresh (enterPseudo_fresh (enterPseudo_fresh blank
    (pseudoProtocols[0])) (pseudoProtocols[1])) (pseudoProtocols[2])
  exact entered

/-- A pseudo-protocol with new names is entered and kept from being disabled. -/
theorem registerPseudoProtocol_new {idVariable name shortName filterName : String}
    (ei : List EiRegisterInfo) {e : EpanState}
    (new : NewNames e.registry name shortName filterName)
    (fresh : e.registry.AddressesFresh)
    : Returns (registerPseudoProtocol idVariable name shortName filterName ei) e ()
        { e with
          registry := enterPseudo e.registry (idVariable, name, shortName, filterName) } := by
  have named : Returns (setVariable idVariable (e.registry.gpaHfinfo.length : Int))
      (e.registry.enterProtocol name shortName filterName) ()
      { e.registry.enterProtocol name shortName filterName with
        statics := Function.update e.registry.statics idVariable e.registry.gpaHfinfo.length } :=
    returns_modify _
  refine Returns.bind (returns_focus (protoRegisterProtocol_new new fresh)) ?_
  refine Returns.bind (returns_focus named) ?_
  refine Returns.bind returns_pure (Returns.bind returns_pure ?_)
  exact returns_focus (protoSetCantToggle_newest rfl fresh (hfinfoAt?_last rfl) rfl rfl)

/-- A driver that returns leaves its state. -/
theorem onDrivers_returned {driver : Register.RegisterState → Register.DriverCall} {e : EpanState}
    (returned : (driver e.register).returned = true)
    : Returns (onDrivers driver) e () { e with register := (driver e.register).state } := by
  refine Returns.bind returns_get (Returns.bind (returns_modify _) ?_)
  simp only [returned, if_true]
  exact returns_pure

/-- proto_init on an early registry, with the mutex of the registration drivers free. -/
theorem protoInit_early (cb : Bool) {e : EpanState} (early : Early e.registry)
    (free : e.register.curCbNameMtx = false)
    : ∃ register, Returns (protoInit cb) e ()
        { e with registry := initialisedRegistry e.registry, register } := by
  let r0 := blankRegistry e.registry
  let r1 := enterTextOnly r0
  let r2 := enterPseudo r1 ("proto_type_length_mismatch", "Type Length Mismatch",
    "Type length mismatch", "_ws.type_length")
  let r3 := enterPseudo r2 ("proto_number_string_decoding_error",
    "Number-String Decoding Error", "Number-string decoding error",
    "_ws.number_string.decoding_error")
  let r4 := enterPseudo r3 ("proto_string_errors", "String Errors", "String errors",
    "_ws.string")
  have textOnly : Registrable hfiTextOnly := ⟨fun _ => rfl, by decide, by decide, by decide⟩
  have new1 : NewNames r1 "Type Length Mismatch" "Type length mismatch" "_ws.type_length" :=
    ⟨rfl, rfl, rfl, rfl, by decide, by decide, by decide⟩
  have new2 : NewNames r2 "Number-String Decoding Error" "Number-string decoding error"
      "_ws.number_string.decoding_error" :=
    ⟨rfl, rfl, rfl, rfl, by decide, by decide, by decide⟩
  have new3 : NewNames r3 "String Errors" "String errors" "_ws.string" :=
    ⟨rfl, rfl, rfl, rfl, by decide, by decide, by decide⟩
  have fresh1 : r1.AddressesFresh := fun _ member => (List.not_mem_nil member).elim
  have fresh2 : r2.AddressesFresh := enterPseudo_fresh fresh1 _
  have fresh3 : r3.AddressesFresh := enterPseudo_fresh fresh2 _
  have entered : Returns (protoRegisterFieldInit hfiTextOnly (-1)) r0 (0 : Int)
      (r0.enterField hfiTextOnly (-1)) :=
    protoRegisterFieldInit_new textOnly (-1) rfl
  let driven := Register.registerAllProtocols dissectorTables cb e.register
  have returned : driven.returned = true :=
    (Register.registerAllProtocols_of_free dissectorTables cb free).1
  refine ⟨(Register.registerAllProtocolHandoffs dissectorTables cb driven.state).state, ?_⟩
  refine Returns.bind (returns_focus (protoCleanupBase_early early)) ?_
  refine Returns.bind (returns_focus (returns_modify _)) ?_
  refine Returns.bind (returns_focus entered) ?_
  refine Returns.bind (returns_focus (returns_modify _)) ?_
  refine Returns.bind (registerPseudoProtocol_new (e := { e with registry := r1 }) _ new1 fresh1) ?_
  refine Returns.bind (registerPseudoProtocol_new (e := { e with registry := r2 }) _ new2 fresh2) ?_
  refine Returns.bind (registerPseudoProtocol_new (e := { e with registry := r3 }) _ new3 fresh3) ?_
  refine Returns.bind (onDrivers_returned (e := { e with registry := r4 }) returned) ?_
  exact onDrivers_returned (e := { e with registry := r4, register := driven.state }) rfl

/-- The statics after epan_init has set its two switches. -/
def EpanState.switched (e : EpanState) : EpanState :=
  { e with
    registry := { e.registry with wiresharkAbortOnDissectorBug := e.envAbortOnDissectorBug }
    wiresharkAbortOnTooManyItems := e.envAbortOnTooManyItems }

/-- epan_init on an early registry succeeds and leaves the initialised one. -/
theorem epanInit_early (cb : Bool) {e : EpanState} (early : Early e.registry)
    (free : e.register.curCbNameMtx = false)
    : ∃ register, Returns (epanInit cb) e true
        { e.switched with
          registry := initialisedRegistry e.switched.registry
          expert := { e.expert with gpaExpertinfo := [], gpaNameMap := some [] }
          register } := by
  let expertReady : EpanState :=
    { e.switched with expert := { e.expert with gpaExpertinfo := [], gpaNameMap := some [] } }
  have early' : Early expertReady.registry := ⟨early.noNames, early.noShortNames,
    early.noFilterNames, early.noFieldNames, early.fresh, early.ids⟩
  obtain ⟨register, initialised⟩ := protoInit_early cb (e := expertReady) early' free
  refine ⟨register, ?_⟩
  have tried : Returns (do epanInitTry cb; pure true) e.switched true
      { expertReady with
        registry := initialisedRegistry expertReady.registry, register } :=
    Returns.bind (Returns.bind (returns_modify _) initialised) returns_pure
  refine Returns.bind (returns_modify _) ?_
  exact returns_tryCatch tried

end PacketDissector.Epan
