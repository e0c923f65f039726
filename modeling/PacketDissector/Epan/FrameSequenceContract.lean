import PacketDissector.Epan.FrameDataSequence

/-! The frames that were added are found under their numbers, in trees of all sizes. -/

namespace PacketDissector.Epan.Sequence

open PacketDissector.Library PacketDissector.Library.Radix

variable {Frame : Type} {fds : FrameDataSequence Frame} {frames : List Frame} {fdata : Frame}

theorem nodesPerLevel_eq : nodesPerLevel = 1024 := rfl

theorem log2NodesPerLevel_eq : log2NodesPerLevel = 10 := rfl

theorem low_bits (n : Nat) : n &&& (nodesPerLevel - 1) = n % 1024 := by
  have mask : nodesPerLevel - 1 = 2 ^ 10 - 1 := rfl
  rw [mask, Nat.and_two_pow_sub_one_eq_mod]

theorem and_1023 (n : Nat) : n &&& 1023 = n % 1024 := low_bits n

theorem leafIndex_eq (framenum : Nat) : leafIndex framenum = framenum % 1024 := by
  rw [leafIndex, low_bits, Nat.zero_mul, Nat.shiftRight_zero]

theorem level1Index_eq (framenum : Nat) : level1Index framenum = framenum / 1024 % 1024 := by
  rw [level1Index, low_bits, Nat.shiftRight_eq_div_pow, log2NodesPerLevel_eq]

theorem level2Index_eq (framenum : Nat) : level2Index framenum = framenum / 1024 ^ 2 % 1024 := by
  have width : 2 ^ (2 * log2NodesPerLevel) = 1024 ^ 2 := rfl
  rw [level2Index, low_bits, Nat.shiftRight_eq_div_pow, width]

theorem level3Index_eq (framenum : Nat) : level3Index framenum = framenum / 1024 ^ 3 := by
  have width : 2 ^ (3 * log2NodesPerLevel) = 1024 ^ 3 := rfl
  rw [level3Index, Nat.shiftRight_eq_div_pow, width]

/-- The sequence has the frames, in the smallest tree that is large enough. -/
inductive Stores : FrameDataSequence Frame → List Frame → Prop
  | null : Stores newFrameDataSequence []
  | leaf {array : Tree Frame 1} {frames : List Frame} (holds : Holds 1024 1 (some array) frames)
      : Stores ⟨frames.length, .leaf array⟩ frames
  | level1 {array : Tree Frame 2} {frames : List Frame} (holds : Holds 1024 2 (some array) frames)
      (more : 1024 < frames.length)
      : Stores ⟨frames.length, .level1 array⟩ frames
  | level2 {array : Tree Frame 3} {frames : List Frame} (holds : Holds 1024 3 (some array) frames)
      (more : 1024 ^ 2 < frames.length)
      : Stores ⟨frames.length, .level2 array⟩ frames
  | level3 {array : Tree Frame 4} {frames : List Frame} (holds : Holds 1024 4 (some array) frames)
      (more : 1024 ^ 3 < frames.length)
      : Stores ⟨frames.length, .level3 array⟩ frames

theorem put_leaf (array : Tree Frame 1) (i : Nat)
    : put 1024 1 (some array) i fdata = array.set i fdata := by
  simp only [put, Option.getD_some, Nat.pow_zero, Nat.div_one]

/-- An array above others is changed at one place, where its child is changed. -/
theorem put_above {n : Nat} (array : Tree Frame (n + 2)) (i : Nat)
    : put 1024 (n + 2) (some array) i fdata
      = array.set (i / 1024 ^ (n + 1))
        (put 1024 (n + 1) (some (childAt array (i / 1024 ^ (n + 1)))) (i % 1024 ^ (n + 1))
          fdata) := by
  rw [childAt, put_getD]
  rfl

theorem put_level1 (array : Tree Frame 2) (i : Nat)
    : put 1024 2 (some array) i fdata
      = array.set (i / 1024) ((childAt array (i / 1024)).set (i % 1024) fdata) := by
  rw [put_above, put_leaf, Nat.pow_one]

theorem put_level2 (array : Tree Frame 3) (i : Nat)
    : put 1024 3 (some array) i fdata
      = array.set (i / 1024 ^ 2) ((childAt array (i / 1024 ^ 2)).set (i / 1024 % 1024)
        ((childAt (childAt array (i / 1024 ^ 2)) (i / 1024 % 1024)).set (i % 1024) fdata)) := by
  have middle : i % 1024 ^ 2 / 1024 = i / 1024 % 1024 := by omega
  have low : i % 1024 ^ 2 % 1024 = i % 1024 := by omega
  rw [put_above, put_level1, middle, low]

theorem put_level3 (array : Tree Frame 4) (i : Nat)
    : put 1024 4 (some array) i fdata
      = array.set (i / 1024 ^ 3) ((childAt array (i / 1024 ^ 3)).set (i / 1024 ^ 2 % 1024)
        ((childAt (childAt array (i / 1024 ^ 3)) (i / 1024 ^ 2 % 1024)).set (i / 1024 % 1024)
          ((childAt (childAt (childAt array (i / 1024 ^ 3)) (i / 1024 ^ 2 % 1024))
            (i / 1024 % 1024)).set (i % 1024) fdata))) := by
  have high : i % 1024 ^ 3 / 1024 ^ 2 = i / 1024 ^ 2 % 1024 := by omega
  have middle : i % 1024 ^ 3 / 1024 % 1024 = i / 1024 % 1024 := by omega
  have low : i % 1024 ^ 3 % 1024 = i % 1024 := by omega
  rw [put_above, put_level2, high, middle, low]

/-- A new level has the old root as its first child and the next frame in the second. -/
theorem put_lift {n : Nat} (root : Tree Frame (n + 1))
    : put 1024 (n + 2) (some (lift root)) (1024 ^ (n + 1)) fdata
      = (empty.set 0 root).set 1 (put 1024 (n + 1) none 0 fdata) := by
  have positive : 0 < 1024 ^ (n + 1) := Nat.pow_pos (by decide)
  have nothing : childAt (lift root) 1 = empty := by
    rw [childAt, lift, child_set_of_ne _ _ (by decide)]
    rfl
  rw [put_above, Nat.div_self positive, Nat.mod_self, nothing]
  rfl

/-- The new root has one frame more, in the smallest tree that is large enough. -/
theorem addedRoot_stores (fdata : Frame) (stores : Stores fds frames)
    (room : frames.length + 1 < 2 ^ 32)
    : ∃ root, addedRoot fds fdata = some root
        ∧ Stores ⟨(frames ++ [fdata]).length, root⟩ (frames ++ [fdata]) := by
  have length : (frames ++ [fdata]).length = frames.length + 1 := by
    rw [List.length_append, List.length_singleton]
  cases stores with
  | null =>
      have nothing : Holds 1024 1 (none : Option (Tree Frame 1)) [] := rfl
      have first : put 1024 1 none 0 fdata = (empty : Tree Frame 1).set 0 fdata := put_leaf empty 0
      have next := nothing.put (by simp) fdata
      rw [List.length_nil, first] at next
      exact ⟨_, rfl, .leaf next⟩
  | @leaf array frames holds =>
      have notEmpty : ¬ frames.length = 0 := fun zero =>
        holds.ne_nil (List.length_eq_zero_iff.mp zero)
      by_cases full : frames.length = 1024
      · have grown : put 1024 2 (some (lift array)) 1024 fdata
            = (empty.set 0 array).set 1 (empty.set 0 fdata) := put_lift array
        have next := (holds.lift (by decide)).put (by simp [full]) fdata
        rw [full, grown] at next
        refine ⟨_, ?_, .level1 next (by omega)⟩
        simp [addedRoot, nodesPerLevel_eq, full, PtreeRoot.asLeaf]
      · have less : frames.length < 1024 := Nat.lt_of_le_of_ne holds.length_le full
        have next := holds.put less fdata
        rw [put_leaf] at next
        refine ⟨_, ?_, .leaf next⟩
        simp [addedRoot, nodesPerLevel_eq, notEmpty, less, PtreeRoot.asLeaf]
  | @level1 array frames holds more =>
      have room1 : frames.length ≤ 1048576 := holds.length_le
      have notLeaf : ¬ frames.length = 0 ∧ ¬ frames.length < 1024 ∧ ¬ frames.length = 1024 := by
        omega
      by_cases full : frames.length = 1048576
      · have grown : put 1024 3 (some (lift array)) 1048576 fdata
            = (empty.set 0 array).set 1 (empty.set 0 (empty.set 0 fdata)) := put_lift array
        have next := (holds.lift (by decide)).put (by simp [full]) fdata
        rw [full, grown] at next
        refine ⟨_, ?_, .level2 next (by omega)⟩
        simp [addedRoot, nodesPerLevel_eq, full, PtreeRoot.asLevel1]
      · have less : frames.length < 1048576 := Nat.lt_of_le_of_ne room1 full
        have next := holds.put less fdata
        rw [put_level1] at next
        refine ⟨_, ?_, .level1 next (by omega)⟩
        simp [addedRoot, nodesPerLevel_eq, log2NodesPerLevel_eq, notLeaf, less, PtreeRoot.asLevel1,
          leafIndex_eq, Nat.shiftRight_eq_div_pow]
  | @level2 array frames holds more =>
      have room2 : frames.length ≤ 1073741824 := holds.length_le
      have notLeaf : ¬ frames.length = 0 ∧ ¬ frames.length < 1024 ∧ ¬ frames.length = 1024 := by
        omega
      have notLevel1 : ¬ frames.length < 1048576 ∧ ¬ frames.length = 1048576 := by omega
      by_cases full : frames.length = 1073741824
      · have grown : put 1024 4 (some (lift array)) 1073741824 fdata
            = (empty.set 0 array).set 1 (empty.set 0 (empty.set 0 (empty.set 0 fdata))) :=
          put_lift array
        have next := (holds.lift (by decide)).put (by simp [full]) fdata
        rw [full, grown] at next
        refine ⟨_, ?_, .level3 next (by omega)⟩
        simp [addedRoot, nodesPerLevel_eq, full, PtreeRoot.asLevel2]
      · have less : frames.length < 1073741824 := Nat.lt_of_le_of_ne room2 full
        have next := holds.put less fdata
        rw [put_level2] at next
        refine ⟨_, ?_, .level2 next (by omega)⟩
        simp [addedRoot, nodesPerLevel_eq, log2NodesPerLevel_eq, notLeaf, notLevel1, less,
          PtreeRoot.asLevel2, leafIndex_eq, level1Index_eq, Nat.shiftRight_eq_div_pow]
  | @level3 array frames holds more =>
      have notLeaf : ¬ frames.length = 0 ∧ ¬ frames.length < 1024 ∧ ¬ frames.length = 1024 := by
        omega
      have notLevel1 : ¬ frames.length < 1048576 ∧ ¬ frames.length = 1048576 := by omega
      have notLevel2 : ¬ frames.length < 1073741824 ∧ ¬ frames.length = 1073741824 := by omega
      have less : frames.length < 1024 ^ 4 := by omega
      have next := holds.put less fdata
      rw [put_level3] at next
      refine ⟨_, ?_, .level3 next (by omega)⟩
      simp [addedRoot, nodesPerLevel_eq, notLeaf, notLevel1, notLevel2, PtreeRoot.asLevel3,
        leafIndex_eq, level1Index_eq, level2Index_eq, level3Index_eq]

/-- A frame is added as the next one, unless their number would wrap. -/
theorem frameDataSequenceAdd_stores (fdata : Frame) (stores : Stores fds frames)
    (room : frames.length + 1 < 2 ^ 32)
    : ∃ fds', frameDataSequenceAdd fds fdata = some fds' ∧ Stores fds' (frames ++ [fdata]) := by
  obtain ⟨root, added, stores'⟩ := addedRoot_stores fdata stores room
  have counted : (fds.count + 1) % 2 ^ 32 = (frames ++ [fdata]).length := by
    rw [List.length_append, List.length_singleton]
    cases stores <;> exact Nat.mod_eq_of_lt room
  refine ⟨_, by rw [frameDataSequenceAdd, added, Option.map_some], ?_⟩
  rw [counted]
  exact stores'

theorem get_above {n : Nat} (array : Tree Frame (n + 1)) (i : Nat)
    : get 1024 (n + 1) array i
      = (array.child (i / 1024 ^ n)).bind fun child => get 1024 n child (i % 1024 ^ n) :=
  rfl

theorem get_level1 (array : Tree Frame 2) (i : Nat)
    : get 1024 2 array i
      = (array.child (i / 1024)).bind fun leaf => leaf.slot (i % 1024) := by
  simp only [get_above (n := 1), get_one, Nat.pow_one]

theorem get_level2 (array : Tree Frame 3) (i : Nat)
    : get 1024 3 array i
      = (array.child (i / 1024 ^ 2)).bind fun level1 =>
        (level1.child (i / 1024 % 1024)).bind fun leaf => leaf.slot (i % 1024) := by
  have middle : i % 1024 ^ 2 / 1024 = i / 1024 % 1024 := by omega
  have low : i % 1024 ^ 2 % 1024 = i % 1024 := by omega
  simp only [get_above (n := 2), get_level1, middle, low]

theorem get_level3 (array : Tree Frame 4) (i : Nat)
    : get 1024 4 array i
      = (array.child (i / 1024 ^ 3)).bind fun level2 =>
        (level2.child (i / 1024 ^ 2 % 1024)).bind fun level1 =>
        (level1.child (i / 1024 % 1024)).bind fun leaf => leaf.slot (i % 1024) := by
  have high : i % 1024 ^ 3 / 1024 ^ 2 = i / 1024 ^ 2 % 1024 := by omega
  have middle : i % 1024 ^ 3 / 1024 % 1024 = i / 1024 % 1024 := by omega
  have low : i % 1024 ^ 3 % 1024 = i % 1024 := by omega
  simp only [get_above (n := 3), get_level2, high, middle, low]

/-- A frame that is stored is found. -/
theorem frameAt_stores (stores : Stores fds frames) {i : Nat} (inside : i < frames.length)
    : frameAt fds i = frames[i]? := by
  cases stores with
  | null => simp at inside
  | @leaf array frames holds =>
      have room : frames.length ≤ 1024 := holds.length_le
      have found := holds.get (i := i) (by omega)
      rw [get_one] at found
      rw [← found]
      simp [frameAt, nodesPerLevel_eq, room, PtreeRoot.asLeaf]
  | @level1 array frames holds more =>
      have room : frames.length ≤ 1048576 := holds.length_le
      have notLeaf : ¬ frames.length ≤ 1024 := by omega
      have found := holds.get (i := i) (by omega)
      rw [get_level1] at found
      rw [← found]
      simp [frameAt, nodesPerLevel_eq, log2NodesPerLevel_eq, room, notLeaf, PtreeRoot.asLevel1,
        leafIndex_eq, Nat.shiftRight_eq_div_pow]
  | @level2 array frames holds more =>
      have room : frames.length ≤ 1073741824 := holds.length_le
      have notLeaf : ¬ frames.length ≤ 1024 := by omega
      have notLevel1 : ¬ frames.length ≤ 1048576 := by omega
      have found := holds.get (i := i) (by omega)
      rw [get_level2] at found
      rw [← found]
      simp [frameAt, and_1023, log2NodesPerLevel_eq, room, notLeaf, notLevel1,
        PtreeRoot.asLevel2, leafIndex_eq, Nat.shiftRight_eq_div_pow, nodesPerLevel_eq]
  | @level3 array frames holds more =>
      have notLeaf : ¬ frames.length ≤ 1024 := by omega
      have notLevel1 : ¬ frames.length ≤ 1048576 := by omega
      have notLevel2 : ¬ frames.length ≤ 1073741824 := by omega
      have room : frames.length ≤ 1024 ^ 4 := holds.length_le
      have found := holds.get (i := i) (by omega)
      rw [get_level3] at found
      rw [← found]
      simp [frameAt, and_1023, log2NodesPerLevel_eq, notLeaf, notLevel1, notLevel2,
        PtreeRoot.asLevel3, leafIndex_eq, Nat.shiftRight_eq_div_pow, nodesPerLevel_eq]

/-- frame_data_sequence_add for some frames, one after the other. -/
def addFrames : FrameDataSequence Frame → List Frame → Option (FrameDataSequence Frame)
  | fds, [] => some fds
  | fds, fdata :: rest => (frameDataSequenceAdd fds fdata).bind fun fds => addFrames fds rest

/-- All are stored, by induction over the frames still to come. -/
theorem addFrames_stores (rest : List Frame) (stores : Stores fds frames)
    (room : (frames ++ rest).length < 2 ^ 32)
    : ∃ fds', addFrames fds rest = some fds' ∧ Stores fds' (frames ++ rest) := by
  induction rest generalizing fds frames with
  | nil => exact ⟨fds, rfl, by simpa using stores⟩
  | cons fdata rest ih =>
      have more : frames.length + 1 < 2 ^ 32 := by
        simp only [List.length_append, List.length_cons] at room
        omega
      obtain ⟨fds', added, stores'⟩ := frameDataSequenceAdd_stores fdata stores more
      obtain ⟨fds'', rest_added, stored⟩ := ih stores' (by simpa using room)
      refine ⟨fds'', ?_, by simpa using stored⟩
      simp only [addFrames, added, Option.bind_some, rest_added]

theorem Stores.count_eq (stores : Stores fds frames) : fds.count = frames.length := by
  cases stores <;> rfl

/-- What is stored is found under its number, and nothing else is. -/
theorem frameDataSequenceFind_stores (stores : Stores fds frames) (num : Nat)
    : frameDataSequenceFind (some fds) num
      = some (if num = 0 then none else frames[num - 1]?) := by
  by_cases zero : num = 0
  · simp [frameDataSequenceFind, zero]
  · by_cases beyond : num - 1 ≥ fds.count
    · have absent : frames[num - 1]? = none :=
        List.getElem?_eq_none (stores.count_eq ▸ beyond)
      simp only [frameDataSequenceFind, zero, beyond, if_true, if_false, absent]
    · have inside : num - 1 < frames.length := stores.count_eq ▸ Nat.lt_of_not_le beyond
      simp only [frameDataSequenceFind, zero, beyond, if_false, frameAt_stores stores inside,
        List.getElem?_eq_getElem inside, Option.map_some]

end PacketDissector.Epan.Sequence
