import PacketDissector.Epan.ProtoItem
import PacketDissector.Epan.Registration

/-! What proto_tree_add_item does: without a tree it only checks the bounds of the item, and
with one it never ends in a bounds exception of its own once the bounds are checked.
-/

namespace PacketDissector.Epan.Proto

open PacketDissector.Library

theorem readStatic_returns (name : String) (s : DissectState)
    : Returns (readStatic name) s (s.epan.registry.statics name) s :=
  Returns.bind returns_get returns_pure

/-- Code on the registry that leaves it alone leaves the packet alone. -/
theorem returns_inRegistry {α : Type} {x : Registrar α} {s : DissectState} {a : α}
    (inner : Returns x s.epan.registry a s.epan.registry)
    : Returns (inRegistry x) s a s :=
  returns_focus inner

theorem raises_inRegistry {α : Type} {x : Registrar α} {s : DissectState} {stop : Stop}
    (inner : Raises x s.epan.registry stop s.epan.registry)
    : Raises (inRegistry x) s stop s :=
  raises_focus inner

/-- The lookup of a registered field. -/
theorem inRegistry_nth {s : DissectState} {hfindex : Int} {hfinfo : HeaderFieldInfo}
    (known : s.epan.registry.hfinfoAt? hfindex = some hfinfo)
    : Returns (inRegistry (protoRegistrarGetNth hfindex)) s hfinfo s := by
  refine returns_inRegistry (Returns.bind returns_get ?_)
  simp only [known]
  exact returns_pure

theorem assertInDissection_returns {condition : Prop} [Decidable condition]
    (holds : condition) (text : String) (s : DissectState)
    : Returns (assertInDissection condition text) s () s :=
  returns_inRegistry (returns_dissectorAssert text holds _)

theorem reportDissectorBug_raises {α : Type} (message : String) (s : DissectState)
    : Raises (inRegistry (protoReportDissectorBug message : Registrar α)) s
        (dissectorBug s.epan.registry.wiresharkAbortOnDissectorBug message) s :=
  raises_inRegistry (Raises.bind_rest returns_get raises_throw)

/-- A failed assertion is a dissector bug, reported as the user asked for. -/
theorem assertInDissection_raises {condition : Prop} [Decidable condition]
    (fails : ¬ condition) (text : String) (s : DissectState)
    : Raises (assertInDissection condition text) s
        (dissectorBug s.epan.registry.wiresharkAbortOnDissectorBug
          s!"proto.c: failed assertion \"{text}\"") s := by
  simp only [assertInDissection, dissectorAssert, if_neg fails]
  exact reportDissectorBug_raises _ s

theorem dissectorBug_not_bounds (abortOnBug : Bool) (message : String)
    : (dissectorBug abortOnBug message).isBoundsException = false := by
  cases abortOnBug <;> rfl

theorem orThrow_returns {α : Type} {x : Except WsException α} {a : α} (s : DissectState)
    (ok : x = .ok a)
    : Returns (orThrow x) s a s := by
  rw [ok]
  exact returns_pure

theorem orThrow_raises {α : Type} {x : Except WsException α} {e : WsException}
    (s : DissectState) (thrown : x = .error e)
    : Raises (orThrow x : DissectM α) s (.thrown e) s := by
  rw [thrown]
  exact raises_throw

theorem newFieldInfo_returns (hfinfo : HeaderFieldInfo) (tvb : Option Tvbuff)
    (start itemLength : Int) (s : DissectState)
    : Returns (newFieldInfo hfinfo tvb start itemLength) s
        (blankFieldInfo s.treeData.visible hfinfo tvb start itemLength) s :=
  Returns.bind (Returns.bind returns_get returns_pure) returns_pure

/-- A length that is given, and not cut for an interior node, is the item length too. -/
theorem getHfiLength_given {hfinfo : HeaderFieldInfo} {tvb : Tvbuff} {start length : Nat}
    {encoding : Nat} (notProtocol : hfinfo.type ≠ .ftProtocol) (notNone : hfinfo.type ≠ .ftNone)
    (s : DissectState)
    : Returns (getHfiLength hfinfo (some tvb) start length encoding) s
        ((length : Int), (length : Int)) s := by
  have given : ¬ (length : Int) = -1 := by omega
  have signed : ¬ (length : Int) < 0 := by omega
  refine Returns.bind (assertInDissection_returns (by simp) _ s) ?_
  simp only [given, if_false, notProtocol, notNone, false_or, false_and, signed]
  exact returns_pure

/-- What remains in a tvbuff from its start. -/
theorem remaining_returns (tvb : Tvbuff) (s : DissectState)
    : Returns (remainingLength tvb 0) s (tvbCapturedLength tvb) s := by
  by_cases empty : tvbCapturedLength tvb = 0
  · simp only [remainingLength, empty, ne_eq, not_true_eq_false, if_false]
    exact returns_pure
  · simp only [remainingLength, empty, ne_eq, not_false_eq_true, if_true]
    have start : computeOffset tvb 0 = .ok 0 := computeOffset_inside (Nat.zero_le _)
    have some_left : ¬ tvb.bytes.length - 0 = 0 := empty
    refine orThrow_returns s ?_
    simp only [tvbEnsureCapturedLengthRemaining, start, some_left, if_false, bind, Except.bind]
    rfl

/-- A protocol without a given length takes what the tvbuff has. -/
theorem getHfiLength_protocol {hfinfo : HeaderFieldInfo} {tvb : Tvbuff} {encoding : Nat}
    (isProtocol : hfinfo.type = .ftProtocol) (small : tvbCapturedLength tvb < 2 ^ 31)
    (s : DissectState)
    : Returns (getHfiLength hfinfo (some tvb) 0 (-1) encoding) s
        ((tvbCapturedLength tvb : Int), (tvbCapturedLength tvb : Int)) s := by
  have signed : asGint (tvbCapturedLength tvb) = tvbCapturedLength tvb := by
    simp only [asGint, small, if_true]
  refine Returns.bind (assertInDissection_returns (by simp) _ s) ?_
  simp only [if_true, isProtocol, isFtInt, isFtUint, Bool.false_eq_true, Bool.or_false, false_and,
    if_false, extendsToEnd]
  refine Returns.bind (remaining_returns tvb s) ?_
  refine Returns.bind (assertInDissection_returns ?_ _ s) ?_
  · omega
  · rw [signed]
    exact returns_pure

/-- A protocol without a given length is a dissector bug when the tvbuff has too much. -/
theorem getHfiLength_huge {hfinfo : HeaderFieldInfo} {tvb : Tvbuff} {encoding : Nat}
    (isProtocol : hfinfo.type = .ftProtocol) (huge : 2 ^ 31 ≤ tvbCapturedLength tvb)
    (s : DissectState)
    : Raises (getHfiLength hfinfo (some tvb) 0 (-1) encoding) s
        (dissectorBug s.epan.registry.wiresharkAbortOnDissectorBug
          "proto.c: failed assertion \"*length >= 0\"") s := by
  have wraps : ¬ asGint (tvbCapturedLength tvb) ≥ 0 := by
    have bound : tvbCapturedLength tvb < 2 ^ 32 := tvb.length_lt
    simp only [asGint, Nat.not_lt.mpr huge, if_false]
    omega
  refine Raises.bind_rest (assertInDissection_returns (by simp) _ s) ?_
  simp only [if_true, isProtocol, isFtInt, isFtUint, Bool.false_eq_true, Bool.or_false, false_and,
    if_false, extendsToEnd]
  refine Raises.bind_rest (remaining_returns tvb s) ?_
  exact Raises.bind_first (assertInDissection_raises wraps _ s)

variable {rest : ProtoRest} {tvb : Tvbuff} {encoding : Nat} {hfindex : Int}
  {hfinfo : HeaderFieldInfo} {s : DissectState}

/-- The check of a range that is inside, for a type without a special length. -/
theorem testLength_inside (start length : Nat) (inside : start + length ≤ tvb.bytes.length)
    : Returns (testLength hfinfo (some tvb) start length encoding) s () s := by
  have given : ¬ (length : Int) = -1 := by omega
  simp only [testLength, given, and_false, if_false]
  exact orThrow_returns s (tvbEnsureBytesExist_inside inside)

/-- Without a tree, an item that is inside the tvbuff is not added. -/
theorem protoTreeAddItem_null {start length : Nat}
    (known : s.epan.registry.hfinfoAt? hfindex = some hfinfo)
    (notProtocol : hfinfo.type ≠ .ftProtocol) (notNone : hfinfo.type ≠ .ftNone)
    (inside : start + length ≤ tvb.bytes.length)
    : Returns (protoTreeAddItem rest none hfindex tvb start length encoding) s none s := by
  refine Returns.bind (inRegistry_nth known) ?_
  refine Returns.bind (getHfiLength_given notProtocol notNone s) ?_
  exact Returns.bind (testLength_inside start length inside) returns_pure

/-- An item that ends past the captured bytes raises a bounds exception, with or without a
tree.
-/
theorem protoTreeAddItem_outside {tree : Option Nat} {start length : Nat}
    (known : s.epan.registry.hfinfoAt? hfindex = some hfinfo)
    (notProtocol : hfinfo.type ≠ .ftProtocol) (notNone : hfinfo.type ≠ .ftNone)
    (fits : length < 2 ^ 31) (outside : tvb.bytes.length < start + length)
    : ∃ stop, Raises (protoTreeAddItem rest tree hfindex tvb start length encoding) s stop s
        ∧ stop.isBoundsException = true := by
  have given : ¬ (length : Int) = -1 := by omega
  obtain ⟨e, thrown, bounds⟩ := tvbEnsureBytesExist_outside fits outside
  refine ⟨.thrown e, ?_, bounds⟩
  refine Raises.bind_rest (inRegistry_nth known) ?_
  refine Raises.bind_rest (getHfiLength_given notProtocol notNone s) (Raises.bind_first ?_)
  simp only [testLength, given, and_false, if_false]
  exact orThrow_raises s thrown

/-- Without a tree, a protocol item for the whole tvbuff is not added. -/
theorem protoTreeAddItem_protocol_null
    (known : s.epan.registry.hfinfoAt? hfindex = some hfinfo)
    (isProtocol : hfinfo.type = .ftProtocol) (small : tvbCapturedLength tvb < 2 ^ 31)
    : Returns (protoTreeAddItem rest none hfindex tvb 0 (-1) encoding) s none s := by
  refine Returns.bind (inRegistry_nth known) ?_
  refine Returns.bind (getHfiLength_protocol isProtocol small s) ?_
  have whole : 0 + tvbCapturedLength tvb ≤ tvb.bytes.length := Nat.le_of_eq (Nat.zero_add _)
  exact Returns.bind (testLength_inside 0 (tvbCapturedLength tvb) whole) returns_pure

/-- Without a tree, a bitmask is not even read. -/
theorem protoTreeAddBitmask_null {offset ett : Int} {fields : List String}
    (known : s.epan.registry.hfinfoAt? hfindex = some hfinfo)
    (integral : isFtInt hfinfo.type = true ∨ isFtUint hfinfo.type = true)
    : Returns (protoTreeAddBitmask rest none tvb offset hfindex ett fields encoding) s none
        s := by
  refine Returns.bind (inRegistry_nth known) ?_
  simp only [assertIntegral, integral, if_true]
  exact Returns.bind returns_pure returns_pure

/-- The stop tells of something else than data missing from the packet. -/
def NoBounds (stop : Stop) : Prop := stop.isBoundsException = false

theorem nodeAt_ends (node : Nat) : Ends (nodeAt node) s (fun _ t => t = s) NoBounds := by
  refine Returns.bind_ends returns_get ?_
  cases s.nodes[node]? with
  | none => exact Raises.ends raises_throw rfl
  | some found => exact Returns.ends returns_pure rfl

theorem checkItemCount_ends
    : Ends (checkItemCount hfinfo) s (fun _ t => t = s) NoBounds := by
  refine Returns.bind_ends returns_get ?_
  by_cases few : s.treeData.count ≤ maxTreeItems
  · simp only [few, if_true]
    exact Returns.ends returns_pure rfl
  · simp only [few, if_false]
    by_cases abort : s.epan.envAbortOnTooManyItems = true
    · simp only [abort, if_true]
      exact Raises.ends raises_throw rfl
    · simp only [abort, Bool.false_eq_true, if_false]
      exact Returns.bind_ends (returns_modify _) (Raises.ends raises_throw rfl)

/-- TRY_TO_FAKE_THIS_ITEM for a registered field answers with it, or the tree has too many
items.
-/
theorem tryToFakeThisItem_ends (tree : Nat)
    (known : s.epan.registry.hfinfoAt? hfindex = some hfinfo)
    : Ends (tryToFakeThisItem tree hfindex) s
        (fun answer t => answer.1 = hfinfo ∧ t.epan = s.epan) NoBounds := by
  refine Ends.bind (nodeAt_ends tree) ?_
  intro parent t same
  obtain rfl := same
  let counted : DissectState :=
    { t with treeData := { t.treeData with count := t.treeData.count + 1 } }
  refine Returns.bind_ends (returns_modify _) ?_
  refine Returns.bind_ends (inRegistry_nth (s := counted) known) ?_
  refine Ends.bind checkItemCount_ends ?_
  intro _ u same
  obtain rfl := same
  exact Returns.bind_ends returns_get (Returns.ends returns_pure ⟨rfl, rfl⟩)

theorem checkTreeDepth_ends (tree : Nat) (fi : FieldInfo)
    : Ends (checkTreeDepth tree fi) s (fun _ t => t = s) NoBounds := by
  refine Ends.bind (nodeAt_ends tree) ?_
  intro parent t same
  obtain rfl := same
  refine Returns.bind_ends returns_get ?_
  split
  · exact Raises.ends raises_throw rfl
  · exact Returns.ends returns_pure rfl

theorem checkTreeType_ends (tree : Nat) (fi : FieldInfo)
    : Ends (checkTreeType tree fi) s (fun _ t => t = s) NoBounds := by
  refine Ends.bind (nodeAt_ends tree) ?_
  intro parent t same
  obtain rfl := same
  refine Returns.bind_ends returns_get ?_
  cases parent.finfo with
  | none => exact Returns.ends returns_pure rfl
  | some tfi =>
      simp only
      split
      · exact Returns.ends returns_pure rfl
      · exact (reportDissectorBug_raises _ t).ends (dissectorBug_not_bounds _ _)

/-- proto_tree_add_node adds a node, or the tree is not ready for it. -/
theorem protoTreeAddNode_ends (tree : Nat) (fi : FieldInfo)
    : Ends (protoTreeAddNode tree fi) s (fun _ t => t.epan = s.epan) NoBounds := by
  refine Ends.bind (checkTreeDepth_ends tree fi) ?_
  intro _ t same
  obtain rfl := same
  refine Ends.bind (checkTreeType_ends tree fi) ?_
  intro _ u same
  obtain rfl := same
  refine Returns.bind_ends returns_get (Returns.bind_ends (returns_modify _) ?_)
  refine Ends.bind (P := fun _ t => t.epan = u.epan) ?_ fun node t same => ?_
  · simp only [addMaybeInterestingField]
    split
    · exact Returns.ends (returns_modify _) rfl
    · exact Returns.ends returns_pure rfl
  · exact Returns.ends returns_pure same

/-- A protocol item under a tree is added, faked, or the tree is not ready for it. -/
theorem protoTreeAddItem_protocol_ends (tree : Nat)
    (known : s.epan.registry.hfinfoAt? hfindex = some hfinfo)
    (own : s.epan.registry.hfinfoAt? hfinfo.id = some hfinfo)
    (isProtocol : hfinfo.type = .ftProtocol) (small : tvbCapturedLength tvb < 2 ^ 31)
    : Ends (protoTreeAddItem rest (some tree) hfindex tvb 0 (-1) encoding) s
        (fun pi t => pi.isSome = true ∧ t.epan = s.epan) NoBounds := by
  refine Returns.bind_ends (inRegistry_nth known) ?_
  refine Returns.bind_ends (getHfiLength_protocol isProtocol small s) ?_
  have whole : 0 + tvbCapturedLength tvb ≤ tvb.bytes.length := Nat.le_of_eq (Nat.zero_add _)
  refine Returns.bind_ends (testLength_inside 0 (tvbCapturedLength tvb) whole) ?_
  refine Ends.bind (tryToFakeThisItem_ends tree own) ?_
  intro answer t same
  obtain ⟨found, faked⟩ := answer
  obtain ⟨rfl, epan⟩ : found = hfinfo ∧ t.epan = s.epan := same
  by_cases fake : faked = true
  · simp only [fake, if_true]
    exact Returns.ends returns_pure ⟨rfl, epan⟩
  · simp only [fake, Bool.false_eq_true, if_false]
    refine Returns.bind_ends (newFieldInfo_returns found _ _ _ t) ?_
    simp only [protoTreeNewItem, blankFieldInfo, isProtocol, addNewItem]
    refine Ends.bind (protoTreeAddNode_ends tree _) ?_
    intro pi u same
    exact Returns.ends returns_pure ⟨rfl, same.trans epan⟩

end PacketDissector.Epan.Proto
