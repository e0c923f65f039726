import PacketDissector.Epan.Expert
import PacketDissector.Epan.InitContract

/-! What the registration of expert information promises to the code that reports it. The
bodies of the registration functions are commented out, so the array of records stays empty
and no report gets past its lookup.
-/

namespace PacketDissector.Epan.Expert

open PacketDissector.Library Proto

/-- A registration of expert information: expert_register_protocol for an id, then
expert_register_field_array for an array.
-/
structure ExpertRegistration where
  protoId : Int
  ei : List EiRegisterInfo

/-- The two calls of a registration. -/
def ExpertRegistration.run (registration : ExpertRegistration) : EpanM Unit := do
  let expertModule ← expertRegisterProtocol registration.protoId
  expertRegisterFieldArray expertModule registration.ei

/-- The registrations of a sequence, one after another. -/
def registerExpertInfo : List ExpertRegistration → EpanM Unit
  | [] => pure ()
  | registration :: rest => do
      registration.run
      registerExpertInfo rest

/-- The fields that a sequence of registrations names. -/
def fieldsOf (registrations : List ExpertRegistration) : List EiRegisterInfo :=
  registrations.flatMap ExpertRegistration.ei

/-- The member ei of the expert_field of a field. -/
def eiOf (s : EpanState) (ptr : EiRegisterInfo) : Int :=
  s.registry.statics (ExpertField.ei ⟨ptr.ids⟩)

/-- Each field's id leads to its own record, no two ids are the same, the name leads to the
record too, and the header field of the record is registered under its protocol.
-/
structure FieldsRegistered (s : EpanState) (registrations : List ExpertRegistration)
    : Prop where
  records : ∀ ptr ∈ fieldsOf registrations, ∃ record,
    expertAt? s.expert (eiOf s ptr) = some record
      ∧ record.name = ptr.eiinfo.name ∧ record.summary = ptr.eiinfo.summary
  distinct : ((fieldsOf registrations).map (eiOf s)).Nodup
  byName : ∀ ptr ∈ fieldsOf registrations,
    gHashTableLookup s.expert.gpaNameMap ptr.eiinfo.name = some (eiOf s ptr).toNat
  headerFields : ∀ registration ∈ registrations, ∀ ptr ∈ registration.ei, ∃ hfinfo,
    s.registry.hfinfoAt? (s.registry.statics (ptr.ids ++ ".hf")) = some hfinfo
      ∧ hfinfo.abbr = ptr.eiinfo.name ∧ hfinfo.parent = registration.protoId

/-- One of the four entry points, with the arguments that are not the item and the field. -/
inductive Report where
  | addInfo
  | addInfoFormat (text : String)
  | addExpert (tvb : Tvbuff) (start length : Int)
  | addExpertFormat (tvb : Tvbuff) (start length : Int) (text : String)

/-- The call of an entry point. -/
def Report.run (hasPinfo : Bool) (item : Option Nat) (field : ExpertField)
    : Report → DissectM Unit
  | .addInfo => expertAddInfo hasPinfo item field
  | .addInfoFormat text => expertAddInfoFormat hasPinfo item field text
  | .addExpert tvb start length => do
      let _ ← protoTreeAddExpert item hasPinfo field tvb start length
      pure ()
  | .addExpertFormat tvb start length text => do
      let _ ← protoTreeAddExpertFormat item hasPinfo field tvb start length text
      pure ()

/-- The message that a report is about: the registered summary or the formatted text. -/
def Report.message (summary : String) : Report → String
  | .addInfo | .addExpert .. => summary
  | .addInfoFormat text | .addExpertFormat _ _ _ text => text

/-- The stop is not that of an unregistered expert info. -/
def FoundExpertInfo (stop : Stop) : Prop :=
  ∀ abortOnBug eiindex, stop ≠ unregisteredExpertInfo abortOnBug eiindex

/-- The message is in the new records of the expert tap and in the new message items. -/
def CarriesMessage (before after : DissectState) (message : String) : Prop :=
  (∀ ei ∈ after.expertInfos.drop before.expertInfos.length, ei.summary = message)
  ∧ ∀ node ∈ after.nodes.drop before.nodes.length, ∀ fi, node.finfo = some fi →
      fi.hfinfo.abbr = "_ws.expert.message" → fi.value = .string message

/-- (AfterPacketInit s packet) says that packet is dissected after expert_packet_init has run
on the statics s.
-/
def AfterPacketInit (s : EpanState) (packet : DissectState) : Prop :=
  ∃ before after : DissectState, before.epan = s ∧ Returns expertPacketInit before () after
    ∧ packet.epan = after.epan

/-- Every report on a registered field finds its record and carries its message, cut to the
length of a label.
-/
def ReportsWork (s : EpanState) (registrations : List ExpertRegistration) : Prop :=
  ∀ packet, AfterPacketInit s packet → ∀ ptr ∈ fieldsOf registrations,
    ∀ (report : Report) hasPinfo item,
      (∀ stop t, Raises (report.run hasPinfo item ⟨ptr.ids⟩) packet stop t →
        FoundExpertInfo stop)
      ∧ ∀ t, Returns (report.run hasPinfo item ⟨ptr.ids⟩) packet () t →
          CarriesMessage packet t
            (takeChars (itemLabelLength - 1) (report.message ptr.eiinfo.summary))

/-- report_type_length_mismatch finds the records of its two fields. -/
def MismatchReportWorks (s : EpanState) : Prop :=
  ∀ packet, AfterPacketInit s packet → ∀ tree descr length isError stop t,
    Raises (reportTypeLengthMismatch tree descr length isError) packet stop t →
      FoundExpertInfo stop

/-- The whole promise of a sequence of registrations. -/
structure ReportingWorks (s : EpanState) (registrations : List ExpertRegistration) : Prop where
  fields : FieldsRegistered s registrations
  reports : ReportsWork s registrations
  mismatch : MismatchReportWorks s

/-- A sequence of registrations changes nothing, by induction over it. -/
theorem registerExpertInfo_returns (registrations : List ExpertRegistration) (s : EpanState)
    : Returns (registerExpertInfo registrations) s () s := by
  induction registrations with
  | nil => exact returns_pure
  | cons registration rest ih =>
      exact Returns.bind (Returns.bind returns_pure returns_pure) ih

/-- An empty array of records has none at any index. -/
theorem expertAt?_of_empty {s : ExpertStatics} (empty : s.gpaExpertinfo = []) (eiindex : Int)
    : expertAt? s eiindex = none := by
  simp [expertAt?, empty]

/-- Without records, the lookup at the start of a report raises. -/
theorem expertRegistrarGetNth_raises {packet : DissectState}
    (empty : packet.epan.expert.gpaExpertinfo = []) (field : ExpertField)
    : Raises (expertRegistrarGetNth field) packet
        (unregisteredExpertInfo packet.epan.registry.wiresharkAbortOnDissectorBug
          (packet.epan.registry.statics field.ei)) packet := by
  have index : Returns (readStatic field.ei) packet (packet.epan.registry.statics field.ei)
      packet :=
    Returns.bind returns_get returns_pure
  refine Raises.bind_rest index (Raises.bind_rest returns_get ?_)
  simp only [expertAt?_of_empty empty]
  exact raises_throw

/-- Without records, every report raises. -/
theorem Report.run_raises (packet : DissectState)
    (empty : packet.epan.expert.gpaExpertinfo = []) (report : Report) (hasPinfo : Bool)
    (item : Option Nat) (field : ExpertField)
    : Raises (report.run hasPinfo item field) packet
        (unregisteredExpertInfo packet.epan.registry.wiresharkAbortOnDissectorBug
          (packet.epan.registry.statics field.ei)) packet := by
  have lookup := expertRegistrarGetNth_raises empty field
  cases report with
  | addInfo => exact Raises.bind_first lookup
  | addInfoFormat text => exact Raises.bind_first lookup
  | addExpert tvb start length => exact Raises.bind_first (Raises.bind_first lookup)
  | addExpertFormat tvb start length text => exact Raises.bind_first (Raises.bind_first lookup)

/-- Without records, report_type_length_mismatch raises before it throws anything itself. -/
theorem reportTypeLengthMismatch_raises (packet : DissectState)
    (empty : packet.epan.expert.gpaExpertinfo = []) (tree : Option Nat) (descr : String)
    (length : Int) (isError : Bool)
    : ∃ eiindex, Raises (reportTypeLengthMismatch tree descr length isError) packet
        (unregisteredExpertInfo packet.epan.registry.wiresharkAbortOnDissectorBug eiindex)
        packet :=
  ⟨_, Raises.bind_first (Raises.bind_first (expertRegistrarGetNth_raises empty _))⟩

/-- The fields of the pseudo-protocol pass the checks of registration. -/
theorem expertHf_registrable : ∀ ptr ∈ expertHf, Registrable ptr.hfinfo := by
  intro ptr member
  simp only [expertHf, List.mem_cons, List.not_mem_nil, or_false] at member
  rcases member with rfl | rfl | rfl <;>
    exact ⟨fun _ => rfl, by decide, by decide, by decide⟩

/-- What expert_packet_init needs to find: new names, and variables without an id. -/
structure ExpertUnregistered (s : Registry) : Prop where
  names : NewNames s "Expert Info" "Expert" "_ws.expert"
  fresh : s.AddressesFresh
  newAbbr : ∀ ptr ∈ expertHf, ∀ value, gHashTableLookup
    (gHashTableInsert s.gpaNameMap "_ws.expert" value) ptr.hfinfo.abbr = none
  unassigned : ∀ name ∈ ["proto_expert", "hf_expert_msg", "hf_expert_group",
    "hf_expert_severity", "ett_expert", "ett_subexpert"], s.statics name = -1

/-- The registration of the pseudo-protocol succeeds on names and variables that are new. -/
theorem registerProtoExpert_returns {s : Registry} (new : ExpertUnregistered s)
    : ∃ t, Returns registerProtoExpert s () t := by
  let place := s.gpaHfinfo.length
  let entered : Registry :=
    { s.enterProtocol "Expert Info" "Expert" "_ws.expert" with
      statics := Function.update s.statics "proto_expert" place }
  have known : entered.hfinfoAt? (place : Int)
      = some ((protocolField "Expert Info" "_ws.expert" s.nextAddress).enteredAt (-1) place) :=
    hfinfoAt?_last rfl
  have newFields : NewFields entered expertHf := by
    refine ⟨expertHf_registrable, fun ptr member => new.newAbbr ptr member _, by decide, ?_,
      by decide⟩
    intro ptr member
    simp only [expertHf, List.mem_cons, List.not_mem_nil, or_false] at member
    left
    rcases member with rfl | rfl | rfl
    · exact new.unassigned "hf_expert_msg" (by decide)
    · exact new.unassigned "hf_expert_group" (by decide)
    · exact new.unassigned "hf_expert_severity" (by decide)
  have fields := protoRegisterFieldArray_new known rfl rfl newFields
  let started := entered.changeProtocol s.nextAddress fun protocol =>
    { protocol with fields := some (protocol.fields.getD []) }
  let filled := expertHf.foldl (fun s' ptr => s'.enterFieldOf s.nextAddress place ptr) started
  have etts : ∀ index ∈ ["ett_expert", "ett_subexpert"], filled.statics index = -1 := by
    intro index member
    simp only [List.mem_cons, List.not_mem_nil, or_false] at member
    rcases member with rfl | rfl
    · exact (foldl_enterFieldOf_statics_of_notMem (by decide)).trans
        (new.unassigned "ett_expert" (by decide))
    · exact (foldl_enterFieldOf_statics_of_notMem (by decide)).trans
        (new.unassigned "ett_subexpert" (by decide))
  obtain ⟨statics, subtrees, -⟩ := protoRegisterSubtreeArray_new etts (by decide)
  have stays : filled.hfinfoAt? (place : Int)
      = some ((protocolField "Expert Info" "_ws.expert" s.nextAddress).enteredAt (-1) place) :=
    hfinfoAt?_append (foldl_enterFieldOf_gpaHfinfo s.nextAddress place expertHf started) known
  let withSubtrees : Registry :=
    { filled with statics, numTreeTypes := filled.numTreeTypes + 2 }
  have toggled := protoSetCantToggle_known (s := withSubtrees) stays rfl rfl
  refine ⟨withSubtrees.changeProtocol s.nextAddress fun protocol =>
    { protocol with canToggle := false }, ?_⟩
  refine Returns.bind (protoRegisterProtocol_new new.names new.fresh) ?_
  refine Returns.bind (returns_modify _) ?_
  exact Returns.bind fields (Returns.bind subtrees toggled)

/-- A lookup of a protocol by its filter name answers and changes nothing. -/
theorem protoGetIdByFilterName_returns (filterName : String) (s : Registry)
    : ∃ protoId, Returns (protoGetIdByFilterName filterName) s protoId s := by
  cases found : (gHashTableLookup s.protoFilterNames filterName).bind s.protocolAt? with
  | none => exact ⟨-1, Returns.bind returns_get (by rw [found]; exact returns_pure)⟩
  | some protocol =>
      exact ⟨protocol.protoId, Returns.bind returns_get (by rw [found]; exact returns_pure)⟩

/-- The read of a variable. -/
theorem readStatic_returns (name : String) (s : DissectState)
    : Returns (readStatic name) s (s.epan.registry.statics name) s :=
  Returns.bind returns_get returns_pure

/-- expert_packet_init succeeds on names and variables that are new, and adds no record of
expert information.
-/
theorem expertPacketInit_returns (before : DissectState)
    (new : ExpertUnregistered before.epan.registry)
    (noTap : before.epan.registry.statics "expert_tap" = -1)
    : ∃ after, Returns expertPacketInit before () after
        ∧ after.epan.expert.gpaExpertinfo = before.epan.expert.gpaExpertinfo := by
  let tap := Tap.registerTap "expert" before.tap
  let tapped : DissectState :=
    { before with
      tap := tap.2
      epan :=
        { before.epan with
          registry :=
            { before.epan.registry with
              statics := Function.update before.epan.registry.statics "expert_tap" tap.1 } } }
  have tapStep : Returns registerExpertTap before () tapped := by
    refine Returns.bind (readStatic_returns "expert_tap" before) ?_
    simp only [noTap, if_true]
    refine Returns.bind returns_get (Returns.bind (returns_modify _) ?_)
    exact returns_focus (returns_modify _)
  have stillNew : ExpertUnregistered tapped.epan.registry := by
    refine ⟨⟨new.names.freeName, new.names.freeShortName, new.names.freeFilterName,
      new.names.freeField, new.names.named, new.names.abbreviated, new.names.valid⟩,
      new.fresh, new.newAbbr, ?_⟩
    intro name member
    have other : name ≠ "expert_tap" := by
      intro same
      rw [same] at member
      exact absurd member (by decide)
    exact (Function.update_of_ne other _ _).trans (new.unassigned name member)
  obtain ⟨registry, registered⟩ := registerProtoExpert_returns stillNew
  have unregistered := stillNew.unassigned "proto_expert" (by decide)
  have protoStep : Returns registerProtoExpertOnce tapped ()
      { tapped with epan := { tapped.epan with registry } } := by
    refine Returns.bind (readStatic_returns "proto_expert" tapped) ?_
    simp only [unregistered, if_true]
    exact returns_focus registered
  obtain ⟨protoMalformed, malformed⟩ := protoGetIdByFilterName_returns "_ws.malformed" registry
  let after : DissectState :=
    { tapped with
      epan :=
        { tapped.epan with
          registry :=
            { registry with
              statics := Function.update registry.statics "proto_malformed" protoMalformed }
          expert := { tapped.epan.expert with highestSeverity := 0 } } }
  refine ⟨after, ?_, rfl⟩
  refine Returns.bind tapStep (Returns.bind protoStep (Returns.bind (returns_modify _) ?_))
  exact Returns.bind (returns_focus malformed) (returns_focus (returns_modify _))

/-- epan_init, with expert_init and proto_init in it, and then a sequence of registrations. -/
def initAndRegister (cb : Bool) (registrations : List ExpertRegistration) : EpanM Unit := do
  let _ ← epanInit cb
  registerExpertInfo registrations

/-- After the sequence there is no record, whatever it registers, and expert_packet_init can
run.
-/
theorem initAndRegister_returns (abortOnBug abortOnTooManyItems cb : Bool)
    (registrations : List ExpertRegistration)
    : ∃ s, Returns (initAndRegister cb registrations)
          (.initial abortOnBug abortOnTooManyItems) () s
        ∧ s.expert.gpaExpertinfo = [] ∧ ExpertUnregistered s.registry
        ∧ s.registry.statics "expert_tap" = -1 := by
  let start : EpanState := .initial abortOnBug abortOnTooManyItems
  have early : Early start.registry :=
    ⟨rfl, rfl, rfl, rfl, fun _ member => (List.not_mem_nil member).elim,
      fun _ member => (List.not_mem_nil member).elim⟩
  obtain ⟨register, initialised⟩ := epanInit_early cb early rfl
  refine ⟨_, Returns.bind initialised (registerExpertInfo_returns registrations _), rfl, ?_, rfl⟩
  refine ⟨⟨rfl, rfl, rfl, rfl, by decide, by decide, by decide⟩, ?_, ?_, ?_⟩
  · exact initialisedRegistry_fresh _
  · intro ptr member value
    simp only [expertHf, List.mem_cons, List.not_mem_nil, or_false] at member
    rcases member with rfl | rfl | rfl <;> rfl
  · intro name member
    simp only [List.mem_cons, List.not_mem_nil, or_false] at member
    rcases member with rfl | rfl | rfl | rfl | rfl | rfl <;> rfl

/-- Without records, no field is registered. -/
theorem FieldsRegistered.no_fields {s : EpanState} {registrations : List ExpertRegistration}
    (empty : s.expert.gpaExpertinfo = []) (registered : FieldsRegistered s registrations)
    : fieldsOf registrations = [] := by
  refine List.eq_nil_iff_forall_not_mem.mpr fun ptr member => ?_
  obtain ⟨record, found, -⟩ := registered.records ptr member
  rw [expertAt?_of_empty empty] at found
  cases found

/-- Without fields there is nothing to keep of the first part of the promise. -/
theorem reportsWork_of_no_fields {s : EpanState} {registrations : List ExpertRegistration}
    (none_left : fieldsOf registrations = [])
    : FieldsRegistered s registrations ∧ ReportsWork s registrations := by
  have absent : ∀ {p : EiRegisterInfo → Prop}, ∀ ptr ∈ fieldsOf registrations, p ptr := by
    intro p ptr member
    rw [none_left] at member
    exact (List.not_mem_nil member).elim
  refine ⟨⟨absent, by simp [none_left], absent, ?_⟩, fun packet _ => absent⟩
  intro registration member ptr inside
  have named : ptr ∈ fieldsOf registrations :=
    List.mem_flatMap.mpr ⟨registration, member, inside⟩
  rw [none_left] at named
  exact (List.not_mem_nil named).elim

/-- Without records, report_type_length_mismatch never works. -/
theorem not_mismatchReportWorks {s : EpanState} (empty : s.expert.gpaExpertinfo = [])
    (new : ExpertUnregistered s.registry) (noTap : s.registry.statics "expert_tap" = -1)
    : ¬ MismatchReportWorks s := by
  intro works
  let before := DissectState.ofEpan s []
  obtain ⟨after, initialised, kept⟩ := expertPacketInit_returns before new noTap
  obtain ⟨eiindex, raises⟩ := reportTypeLengthMismatch_raises after
    (kept.trans empty) none "an IPv4 address" 5 false
  exact works after ⟨before, after, rfl, initialised, rfl⟩ _ _ _ _ _ _ raises _ _ rfl

/-- No sequence of registrations after expert_init and proto_init keeps the promise. What
fails for every sequence is the report of a length mismatch; the rest fails unless the
sequence names no field at all.
-/
theorem initAndRegister_not_reportingWorks (abortOnBug abortOnTooManyItems cb : Bool)
    (registrations : List ExpertRegistration)
    : ∃ s, Returns (initAndRegister cb registrations)
          (.initial abortOnBug abortOnTooManyItems) () s
        ∧ ¬ ReportingWorks s registrations
        ∧ (FieldsRegistered s registrations ∧ ReportsWork s registrations
            ↔ fieldsOf registrations = []) := by
  obtain ⟨s, returns, empty, new, noTap⟩ :=
    initAndRegister_returns abortOnBug abortOnTooManyItems cb registrations
  refine ⟨s, returns, ?_, ?_, reportsWork_of_no_fields⟩
  · intro works
    exact not_mismatchReportWorks empty new noTap works.mismatch
  · intro works
    exact works.1.no_fields empty

/-- One field of one protocol: it is not registered, and a report on it is an unregistered
expert info.
-/
theorem initAndRegister_oneField
    : let field := eiEntry "ei_foo_short" "foo.short" piMalformed piError "Short payload"
      ∃ s, Returns (initAndRegister false [⟨3, [field]⟩]) (.initial false false) () s
        ∧ ¬ FieldsRegistered s [⟨3, [field]⟩]
        ∧ ∃ packet, AfterPacketInit s packet
            ∧ ∃ eiindex, Raises (Report.run true none ⟨"ei_foo_short"⟩ .addInfo) packet
                (unregisteredExpertInfo packet.epan.registry.wiresharkAbortOnDissectorBug
                  eiindex) packet := by
  intro field
  obtain ⟨s, returns, empty, new, noTap⟩ :=
    initAndRegister_returns false false false [⟨3, [field]⟩]
  let before := DissectState.ofEpan s []
  obtain ⟨after, initialised, kept⟩ := expertPacketInit_returns before new noTap
  have raises := Report.run_raises after (kept.trans empty) .addInfo true none
    ⟨"ei_foo_short"⟩
  refine ⟨s, returns, ?_, after, ⟨before, after, rfl, initialised, rfl⟩, _, raises⟩
  intro registered
  have none_left := registered.no_fields empty
  cases none_left

end PacketDissector.Epan.Expert
