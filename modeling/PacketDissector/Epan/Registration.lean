import PacketDissector.Epan.Registry

/-! What registration does when the names are new: each registering function of proto.c gets
one lemma that gives the registry it leaves.
-/

namespace PacketDissector.Epan.Proto

open PacketDissector.Library

-----------------------------------------------------------------------------------------
-- The registries that registration leaves
-----------------------------------------------------------------------------------------

/-- A field as the registry keeps it at a place. -/
def HeaderFieldInfo.enteredAt (hfinfo : HeaderFieldInfo) (parent : Int) (place : Nat)
    : HeaderFieldInfo :=
  { hfinfo with parent, sameNameNext := none, sameNamePrevId := -1, id := place }

/-- The registry with one more field. -/
def Registry.enterField (s : Registry) (hfinfo : HeaderFieldInfo) (parent : Int) : Registry :=
  { s with
    gpaHfinfo := s.gpaHfinfo ++ [hfinfo.enteredAt parent s.gpaHfinfo.length]
    gpaNameMap := gHashTableInsert s.gpaNameMap hfinfo.abbr s.gpaHfinfo.length }

/-- The field that stands for a protocol. -/
def protocolField (name filterName : String) (address : Nat) : HeaderFieldInfo where
  name := name
  abbr := filterName
  type := .ftProtocol
  display := baseNone
  strings := .protocol address
  bitmask := 0
  parent := -1

/-- A protocol just registered. -/
def newProtocol (address : Nat) (name shortName filterName : String) (protoId : Int)
    : Protocol where
  address := address
  name := name
  shortName := shortName
  filterName := filterName
  fields := none
  protoId := protoId
  isEnabled := true
  enabledByDefault := true
  canToggle := true

/-- The registry with one more protocol. -/
def Registry.enterProtocol (s : Registry) (name shortName filterName : String) : Registry :=
  { s.enterField (protocolField name filterName s.nextAddress) (-1) with
    nextAddress := s.nextAddress + 1
    protocols :=
      newProtocol s.nextAddress name shortName filterName s.gpaHfinfo.length :: s.protocols
    protoNames := gHashTableInsert s.protoNames name s.nextAddress
    protoFilterNames := gHashTableInsert s.protoFilterNames filterName s.nextAddress
    protoShortNames := gHashTableInsert s.protoShortNames shortName s.nextAddress }

/-- The registry with one more field of a protocol, its id in the field's variable. -/
def Registry.enterFieldOf (s : Registry) (proto : Nat) (parent : Int) (ptr : HfRegisterInfo)
    : Registry :=
  { (s.changeProtocol proto fun protocol =>
      { protocol with fields := protocol.fields.map (· ++ [s.gpaHfinfo.length]) }).enterField
        ptr.hfinfo parent with
    statics := Function.update s.statics ptr.pId s.gpaHfinfo.length }

/-- Addresses are handed out once: every protocol in the list has one below the next. -/
def Registry.AddressesFresh (s : Registry) : Prop :=
  ∀ protocol ∈ s.protocols, protocol.address < s.nextAddress

/-- A field that passes every check made at its registration. -/
structure Registrable (hfinfo : HeaderFieldInfo) : Prop where
  checked : ∀ s : Registry, Returns (tmpFldCheckAssert hfinfo) s () s
  named : hfinfo.name ≠ ""
  abbreviated : hfinfo.abbr ≠ ""
  legal : protoCheckFieldName hfinfo.abbr = Char.ofNat 0

-----------------------------------------------------------------------------------------
-- One field
-----------------------------------------------------------------------------------------

/-- An assertion that holds does nothing. -/
theorem returns_dissectorAssert {condition : Prop} [Decidable condition] (text : String)
    (holds : condition) (s : Registry)
    : Returns (dissectorAssert condition text) s () s := by
  simp only [dissectorAssert, if_pos holds]
  exact returns_pure

/-- A condition that fails calls no g_error. -/
theorem returns_gErrorIf {σ : Type} {condition : Prop} [Decidable condition]
    (message : String) (fails : ¬ condition) (s : σ)
    : Returns (gErrorIf condition message) s () s := by
  simp only [gErrorIf, if_neg fails]
  exact returns_pure

/-- A condition that holds ends the process. -/
theorem raises_gErrorIf {σ : Type} {condition : Prop} [Decidable condition]
    (message : String) (holds : condition) (s : σ)
    : Raises (gErrorIf condition message) s (.terminated (.gError message)) s := by
  simp only [gErrorIf, if_pos holds]
  exact raises_throw

/-- A field whose abbreviation is new gets the next place. -/
theorem protoRegisterFieldInit_new {hfinfo : HeaderFieldInfo} (ok : Registrable hfinfo)
    (parent : Int) {s : Registry} (new : gHashTableLookup s.gpaNameMap hfinfo.abbr = none)
    : Returns (protoRegisterFieldInit hfinfo parent) s (s.gpaHfinfo.length : Int)
        (s.enterField hfinfo parent) := by
  refine Returns.bind (ok.checked s) (Returns.bind returns_get (Returns.bind (returns_modify _) ?_))
  simp only [ok.named, ok.abbreviated, ok.legal, ne_eq, not_false_eq_true, and_self, if_true,
    not_true_eq_false, if_false]
  refine Returns.bind returns_get (Returns.bind (returns_modify _) ?_)
  simp only [new]
  exact returns_pure

-----------------------------------------------------------------------------------------
-- Protocols
-----------------------------------------------------------------------------------------

/-- A change at an address that no protocol of the list has changes nothing. -/
theorem changeProtocol_cons_new {s : Registry} {protocols : List Protocol} {p : Protocol}
    (fresh : ∀ protocol ∈ protocols, protocol.address < p.address)
    (change : Protocol → Protocol)
    : (Registry.changeProtocol { s with protocols := p :: protocols } p.address change)
      = { s with protocols := change p :: protocols } := by
  have others : protocols.map (fun protocol =>
      if protocol.address = p.address then change protocol else protocol) = protocols := by
    refine (List.map_congr_left ?_).trans (List.map_id protocols)
    intro protocol member
    simp [Nat.ne_of_lt (fresh protocol member)]
  simp [Registry.changeProtocol, others]

/-- The names of a protocol that no other protocol and no field has, and that may be used
in filters.
-/
structure NewNames (s : Registry) (name shortName filterName : String) : Prop where
  freeName : gHashTableLookup s.protoNames name = none
  freeShortName : gHashTableLookup s.protoShortNames shortName = none
  freeFilterName : gHashTableLookup s.protoFilterNames filterName = none
  freeField : gHashTableLookup s.gpaNameMap filterName = none
  named : name ≠ ""
  abbreviated : filterName ≠ ""
  valid : validFilterName filterName = true

/-- The field of a protocol passes the checks made of fields, by evaluating them. -/
theorem protocolField_registrable {name filterName : String} (named : name ≠ "")
    (abbreviated : filterName ≠ "") (valid : validFilterName filterName = true)
    (address : Nat)
    : Registrable (protocolField name filterName address) where
  checked s := by
    have names : Returns (checkNamesAndStrings (protocolField name filterName address)) s () s := by
      refine Returns.bind (returns_gErrorIf _ named s) ?_
      refine Returns.bind (returns_gErrorIf _ abbreviated s) ?_
      exact returns_gErrorIf _ (by simp [protocolField, isFtInt, isFtUint]) s
    refine Returns.bind names ?_
    refine Returns.bind (returns_gErrorIf _ (by simp [protocolField]) s) ?_
    exact returns_gErrorIf _ (by simp [protocolField]) s
  named := named
  abbreviated := abbreviated
  legal := by
    simp only [validFilterName, Bool.and_eq_true, decide_eq_true_eq] at valid
    exact valid.1

/-- A protocol whose names are new gets the next place. -/
theorem protoRegisterProtocol_new {name shortName filterName : String} {s : Registry}
    (new : NewNames s name shortName filterName) (fresh : s.AddressesFresh)
    : Returns (protoRegisterProtocol name shortName filterName) s (s.gpaHfinfo.length : Int)
        (s.enterProtocol name shortName filterName) := by
  have ok := protocolField_registrable new.named new.abbreviated new.valid s.nextAddress
  refine Returns.bind returns_get ?_
  refine Returns.bind (returns_gErrorIf _ (by simp [new.freeName]) s) ?_
  refine Returns.bind (returns_gErrorIf _ (by simp [new.freeShortName]) s) ?_
  refine Returns.bind (returns_gErrorIf _ (by simp [new.valid]) s) ?_
  refine Returns.bind (returns_gErrorIf _ (by simp [new.freeFilterName]) s) ?_
  refine Returns.bind (returns_modify _) ?_
  refine Returns.bind (protoRegisterFieldInit_new ok _ new.freeField) ?_
  have changed := changeProtocol_cons_new (s := s.enterProtocol name shortName filterName)
    (p := newProtocol s.nextAddress name shortName filterName 0) fresh
    fun protocol => { protocol with protoId := (s.gpaHfinfo.length : Int) }
  exact Returns.bind (returns_modify _) (returns_pure_of_eq changed)

-----------------------------------------------------------------------------------------
-- Arrays of fields
-----------------------------------------------------------------------------------------

/-- The id of a protocol leads to it, by the strings of its header field. -/
theorem findProtocolById_protocol {s : Registry} {protoId : Int} {hfinfo : HeaderFieldInfo}
    {address : Nat} (known : s.hfinfoAt? protoId = some hfinfo)
    (isProtocol : hfinfo.type = .ftProtocol) (strings : hfinfo.strings = .protocol address)
    : Returns (findProtocolById protoId) s (some address) s := by
  have inRange : ¬ protoId < 0 := by
    intro negative
    simp [Registry.hfinfoAt?, Int.not_le.mpr negative] at known
  have nth : Returns (protoRegistrarGetNth protoId) s hfinfo s := by
    refine Returns.bind returns_get ?_
    simp only [known]
    exact returns_pure
  simp only [findProtocolById, inRange, if_false]
  refine Returns.bind nth ?_
  simp only [isProtocol, ne_eq, not_true_eq_false, if_false, strings]
  exact returns_pure

/-- An array of fields that can all be registered: each is legal, and neither their
abbreviations nor their variables are in use or repeated.
-/
structure NewFields (s : Registry) (hf : List HfRegisterInfo) : Prop where
  registrable : ∀ ptr ∈ hf, Registrable ptr.hfinfo
  newAbbr : ∀ ptr ∈ hf, gHashTableLookup s.gpaNameMap ptr.hfinfo.abbr = none
  distinctAbbrs : (hf.map fun ptr => ptr.hfinfo.abbr).Nodup
  unassigned : ∀ ptr ∈ hf, s.statics ptr.pId = -1 ∨ s.statics ptr.pId = 0
  distinctVariables : (hf.map HfRegisterInfo.pId).Nodup

/-- Dropping the entries of one key leaves what is found under another, by induction over
the entries.
-/
theorem lookup_filter_of_ne {key other : String} (different : other ≠ key)
    (entries : List (String × Nat))
    : (entries.filter fun entry => entry.1 ≠ key).lookup other = entries.lookup other := by
  induction entries with
  | nil => rfl
  | cons entry rest ih =>
      obtain ⟨name, value⟩ := entry
      by_cases replaced : name = key
      · have skips : (other == name) = false := by simpa [replaced] using different
        rw [List.filter_cons_of_neg (by simpa using replaced), List.lookup_cons, skips]
        exact ih
      · rw [List.filter_cons_of_pos (by simpa using replaced)]
        simp only [List.lookup_cons]
        cases other == name with
        | true => rfl
        | false => exact ih

/-- Looking up another key than the one inserted. -/
theorem gHashTableLookup_insert_of_ne {table : GHashTable} {key other : String}
    (different : other ≠ key) (value : Nat)
    : gHashTableLookup (gHashTableInsert table key value) other
      = gHashTableLookup table other := by
  cases table with
  | none => rfl
  | some entries =>
      have skipsHead : (other == key) = false := by simpa using different
      simp only [gHashTableLookup, gHashTableInsert, Option.map_some, Option.bind_some,
        List.lookup_cons, skipsHead]
      exact lookup_filter_of_ne different entries

/-- The loop over an array of new fields enters them one after another, by induction over
the array; the fields left stay new because names and variables are distinct.
-/
theorem registerFields_new (proto : Nat) (parent : Int) {hf : List HfRegisterInfo}
    {s : Registry} (new : NewFields s hf)
    : Returns (registerFields proto parent hf) s ()
        (hf.foldl (fun s ptr => s.enterFieldOf proto parent ptr) s) := by
  induction hf generalizing s with
  | nil => exact returns_pure
  | cons ptr rest ih =>
      have free : ¬ (s.statics ptr.pId ≠ -1 ∧ s.statics ptr.pId ≠ 0) := by
        rcases new.unassigned ptr List.mem_cons_self with h | h <;> simp [h]
      have rest_new : NewFields (s.enterFieldOf proto parent ptr) rest := by
        have distinctAbbrs := List.nodup_cons.mp new.distinctAbbrs
        have distinctVariables := List.nodup_cons.mp new.distinctVariables
        constructor
        · exact fun other member => new.registrable other (List.mem_cons_of_mem _ member)
        · intro other member
          have different : other.hfinfo.abbr ≠ ptr.hfinfo.abbr := by
            intro same
            exact distinctAbbrs.1 (List.mem_map.mpr ⟨other, member, same⟩)
          exact (gHashTableLookup_insert_of_ne different _).trans
            (new.newAbbr other (List.mem_cons_of_mem _ member))
        · exact distinctAbbrs.2
        · intro other member
          have different : other.pId ≠ ptr.pId := by
            intro same
            exact distinctVariables.1 (List.mem_map.mpr ⟨other, member, same⟩)
          simp only [Registry.enterFieldOf, Function.update_of_ne different]
          exact new.unassigned other (List.mem_cons_of_mem _ member)
        · exact distinctVariables.2
      have entered := protoRegisterFieldInit_new
        (new.registrable ptr List.mem_cons_self) parent
        (s := s.changeProtocol proto fun protocol =>
          { protocol with fields := protocol.fields.map (· ++ [s.gpaHfinfo.length]) })
        (new.newAbbr ptr List.mem_cons_self)
      refine Returns.bind returns_get ?_
      simp only [free, if_false]
      refine Returns.bind (Returns.bind (returns_modify _) entered) ?_
      exact Returns.bind (returns_modify _) (ih rest_new)

/-- The array of header fields after an array of new fields, by induction over the array. -/
theorem foldl_enterFieldOf_gpaHfinfo (proto : Nat) (parent : Int) (hf : List HfRegisterInfo)
    (s : Registry)
    : (hf.foldl (fun s ptr => s.enterFieldOf proto parent ptr) s).gpaHfinfo
      = s.gpaHfinfo ++ (hf.zipIdx s.gpaHfinfo.length).map fun (ptr, place) =>
          ptr.hfinfo.enteredAt parent place := by
  induction hf generalizing s with
  | nil => simp
  | cons ptr rest ih =>
      have entered : (s.enterFieldOf proto parent ptr).gpaHfinfo
          = s.gpaHfinfo ++ [ptr.hfinfo.enteredAt parent s.gpaHfinfo.length] := rfl
      rw [List.foldl_cons, ih, entered]
      simp

/-- A variable that no field of the array has keeps its value, by induction over the array.
-/
theorem foldl_enterFieldOf_statics_of_notMem {proto : Nat} {parent : Int}
    {hf : List HfRegisterInfo} {s : Registry} {idVariable : String}
    (other : idVariable ∉ hf.map HfRegisterInfo.pId)
    : (hf.foldl (fun s ptr => s.enterFieldOf proto parent ptr) s).statics idVariable
      = s.statics idVariable := by
  induction hf generalizing s with
  | nil => rfl
  | cons ptr rest ih =>
      simp only [List.map_cons, List.mem_cons, not_or] at other
      rw [List.foldl_cons, ih other.2]
      exact Function.update_of_ne other.1 _ _

/-- The variable of each field of the array holds the place of that field, by induction
over the array.
-/
theorem foldl_enterFieldOf_statics (proto : Nat) (parent : Int) {hf : List HfRegisterInfo}
    (s : Registry) (distinct : (hf.map HfRegisterInfo.pId).Nodup) {ptr : HfRegisterInfo}
    {i : Nat} (member : hf[i]? = some ptr)
    : (hf.foldl (fun s ptr => s.enterFieldOf proto parent ptr) s).statics ptr.pId
      = (s.gpaHfinfo.length + i : Nat) := by
  induction hf generalizing s i with
  | nil => simp at member
  | cons head rest ih =>
      obtain ⟨headNew, restDistinct⟩ := List.nodup_cons.mp distinct
      cases i with
      | zero =>
          obtain rfl : head = ptr := by simpa using member
          rw [List.foldl_cons, foldl_enterFieldOf_statics_of_notMem headNew]
          exact Function.update_self _ _ _
      | succ i =>
          have entered : (s.enterFieldOf proto parent head).gpaHfinfo.length
              = s.gpaHfinfo.length + 1 := by
            simp [Registry.enterFieldOf, Registry.enterField, Registry.changeProtocol]
          rw [List.foldl_cons, ih _ restDistinct (by simpa using member), entered]
          congr 1
          omega

/-- The protocol's list gets the places of the array in order, by induction over it. -/
theorem foldl_enterFieldOf_protocols (proto : Nat) (parent : Int) (hf : List HfRegisterInfo)
    (s : Registry)
    : (hf.foldl (fun s ptr => s.enterFieldOf proto parent ptr) s).protocols
      = s.protocols.map fun protocol =>
          if protocol.address = proto then
            { protocol with
              fields := protocol.fields.map
                (· ++ List.range' s.gpaHfinfo.length hf.length) }
          else protocol := by
  induction hf generalizing s with
  | nil =>
      refine (List.map_id s.protocols).symm.trans (List.map_congr_left ?_)
      intro protocol _
      split <;> simp
  | cons ptr rest ih =>
      have entered : (s.enterFieldOf proto parent ptr).gpaHfinfo.length
          = s.gpaHfinfo.length + 1 := by
        simp [Registry.enterFieldOf, Registry.enterField, Registry.changeProtocol]
      have changed : (s.enterFieldOf proto parent ptr).protocols
          = s.protocols.map fun protocol =>
              if protocol.address = proto then
                { protocol with
                  fields := protocol.fields.map (· ++ [s.gpaHfinfo.length]) }
              else protocol := rfl
      rw [List.foldl_cons, ih, entered, changed, List.map_map]
      refine List.map_congr_left ?_
      intro protocol _
      by_cases here : protocol.address = proto
      · simp [here, List.range'_succ, Function.comp_def]
      · simp [here]

/-- Together, the variables of the array hold the places from the first free one on. -/
theorem foldl_enterFieldOf_places (proto : Nat) (parent : Int) {hf : List HfRegisterInfo}
    (s : Registry) (distinct : (hf.map HfRegisterInfo.pId).Nodup)
    : (hf.map fun ptr =>
          (hf.foldl (fun s ptr => s.enterFieldOf proto parent ptr) s).statics ptr.pId)
      = (List.range' s.gpaHfinfo.length hf.length).map fun place : Nat => (place : Int) := by
  refine List.ext_getElem (by simp) ?_
  intro i inLeft inRight
  have inside : i < hf.length := by simpa using inLeft
  have place := foldl_enterFieldOf_statics proto parent s distinct
    (List.getElem?_eq_getElem inside)
  simp only [List.getElem_map, List.getElem_range', Nat.one_mul]
  exact place

/-- An index that is no negative number is found at its place. -/
theorem hfinfoAt?_natCast (s : Registry) (place : Nat)
    : s.hfinfoAt? (place : Int) = s.gpaHfinfo[place]? := by
  simp [Registry.hfinfoAt?]

/-- A field stays where it is when more fields follow. -/
theorem hfinfoAt?_append {s t : Registry} {hfindex : Int} {hfinfo : HeaderFieldInfo}
    {more : List HeaderFieldInfo} (longer : t.gpaHfinfo = s.gpaHfinfo ++ more)
    (known : s.hfinfoAt? hfindex = some hfinfo)
    : t.hfinfoAt? hfindex = some hfinfo := by
  by_cases inRange : 0 ≤ hfindex
  · simp only [Registry.hfinfoAt?, inRange, if_true] at *
    rw [longer, List.getElem?_append_left (List.getElem?_eq_some_iff.mp known).1]
    exact known
  · simp [Registry.hfinfoAt?, inRange] at known

/-- Each field of the array is found at its place. -/
theorem foldl_enterFieldOf_hfinfoAt (proto : Nat) (parent : Int) {hf : List HfRegisterInfo}
    (s : Registry) {ptr : HfRegisterInfo} {i : Nat} (member : hf[i]? = some ptr)
    : (hf.foldl (fun s ptr => s.enterFieldOf proto parent ptr) s).hfinfoAt?
          (s.gpaHfinfo.length + i : Nat)
      = some (ptr.hfinfo.enteredAt parent (s.gpaHfinfo.length + i)) := by
  rw [hfinfoAt?_natCast, foldl_enterFieldOf_gpaHfinfo,
    List.getElem?_append_right (Nat.le_add_right _ _)]
  simp [member]

/-- proto_register_field_array for a known protocol and an array of new fields. -/
theorem protoRegisterFieldArray_new {s : Registry} {parent : Int} {hfinfo : HeaderFieldInfo}
    {proto : Nat} {hf : List HfRegisterInfo} (known : s.hfinfoAt? parent = some hfinfo)
    (isProtocol : hfinfo.type = .ftProtocol) (strings : hfinfo.strings = .protocol proto)
    (new : NewFields s hf)
    : Returns (protoRegisterFieldArray parent hf) s ()
        (hf.foldl (fun s ptr => s.enterFieldOf proto parent ptr)
          (s.changeProtocol proto fun protocol =>
            { protocol with fields := some (protocol.fields.getD []) })) := by
  refine Returns.bind (findProtocolById_protocol known isProtocol strings) ?_
  refine Returns.bind (returns_modify _) ?_
  exact registerFields_new proto parent ⟨new.registrable, new.newAbbr, new.distinctAbbrs,
    new.unassigned, new.distinctVariables⟩

/-- proto_register_subtree_array gives unassigned variables the next subtree types, by
induction over the array.
-/
theorem protoRegisterSubtreeArray_new {indices : List String} {s : Registry}
    (unassigned : ∀ index ∈ indices, s.statics index = -1) (distinct : indices.Nodup)
    : ∃ statics, Returns (protoRegisterSubtreeArray indices) s ()
          { s with statics, numTreeTypes := s.numTreeTypes + indices.length }
        ∧ (∀ (i : Nat) index, indices[i]? = some index → statics index = s.numTreeTypes + i)
        ∧ ∀ other, other ∉ indices → statics other = s.statics other := by
  induction indices generalizing s with
  | nil => exact ⟨s.statics, returns_pure_of_eq (by simp), by simp, fun _ _ => rfl⟩
  | cons index rest ih =>
      obtain ⟨headNew, restDistinct⟩ := List.nodup_cons.mp distinct
      have free : ¬ s.statics index ≠ -1 := by simp [unassigned index List.mem_cons_self]
      let next : Registry :=
        { s with
          statics := Function.update s.statics index s.numTreeTypes
          numTreeTypes := s.numTreeTypes + 1 }
      have rest_unassigned : ∀ other ∈ rest, next.statics other = -1 := by
        intro other member
        have different : other ≠ index := fun same => headNew (same ▸ member)
        simp [next, different, unassigned other (List.mem_cons_of_mem _ member)]
      obtain ⟨statics, returns, assigned, others⟩ := ih rest_unassigned restDistinct
      have count : s.numTreeTypes + 1 + rest.length = s.numTreeTypes + (index :: rest).length := by
        simp only [List.length_cons]
        omega
      refine ⟨statics, ?_, ?_, ?_⟩
      · refine Returns.bind returns_get (Returns.bind (returns_gErrorIf _ free s) ?_)
        refine Returns.bind (returns_modify _) (Returns.bind (returns_modify _) ?_)
        rw [← count]
        exact returns
      · intro i other found
        cases i with
        | zero =>
            obtain rfl : index = other := by simpa using found
            simp [others index headNew, next]
        | succ i =>
            have place := assigned i other (by simpa using found)
            rw [place]
            simp only [next]
            omega
      · intro other absent
        simp only [List.mem_cons, not_or] at absent
        simp [others other absent.2, next, absent.1]

end PacketDissector.Epan.Proto
