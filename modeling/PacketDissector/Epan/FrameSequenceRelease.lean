import PacketDissector.Epan.FrameSequenceContract

/-! What free_frame_data_sequence destroys. The count of children of the last array is taken
modulo 1024, so that an array that is just full counts as empty.
-/

namespace PacketDissector.Epan.Sequence

open PacketDissector.Library PacketDissector.Library.Radix

variable {Frame : Type} {fds : FrameDataSequence Frame} {frames : List Frame}

variable {n : Nat} {free : Tree Frame n → Option (List Frame)} {array : Tree Frame (n + 1)}

/-- The loop destroys the chunks of its children, by induction on the rounds left. -/
theorem freeChildren_chunks {width : Nat} (i left : Nat)
    (each : ∀ place, i ≤ place → place < i + left →
      ∃ child, array.child place = some child ∧ free child = some (chunk width place frames))
    : freeChildren free array i left = some ((frames.drop (i * width)).take (left * width)) := by
  induction left generalizing i with
  | zero => simp [freeChildren]
  | succ left ih =>
      obtain ⟨child, found, freed⟩ := each i (Nat.le_refl i) (by omega)
      have rest := ih (i + 1) fun place after before => each place (by omega) (by omega)
      rw [take_chunks]
      simp [freeChildren, found, freed, rest]

/-- A child that is missing is read all the same. -/
theorem freeChildren_missing (i left k : Nat) (reached : k < left)
    (missing : array.child (i + k) = none)
    : freeChildren free array i left = none := by
  induction k generalizing i left with
  | zero =>
      cases left with
      | zero => exact (Nat.not_lt_zero 0 reached).elim
      | succ left =>
          have here : array.child i = none := missing
          simp [freeChildren, here]
  | succ k ih =>
      cases left with
      | zero => exact (Nat.not_lt_zero _ reached).elim
      | succ left =>
          have later := ih (i + 1) left (Nat.lt_of_succ_lt_succ reached)
            (by rwa [Nat.add_assoc, Nat.add_comm 1 k])
          simp [freeChildren, later]

theorem levelCount_full (count level : Nat) : levelCount count level false = 1024 := rfl

/-- The children of an array that is the last of its level. -/
theorem levelCount_last (count below : Nat)
    : levelCount count (below + 1) true
      = count / 1024 ^ below % 1024 + if count % 1024 ^ below = 0 then 0 else 1 := by
  have width : 2 ^ (below * 10) = 1024 ^ below := by
    rw [Nat.mul_comm, Nat.pow_mul]
  have mask : count &&& (1 <<< (below * 10) - 1) = count % 1024 ^ below := by
    rw [Nat.one_shiftLeft, Nat.and_two_pow_sub_one_eq_mod, width]
  simp only [levelCount, if_true, Nat.add_sub_cancel, log2NodesPerLevel_eq, low_bits, mask,
    Nat.shiftRight_eq_div_pow, width]
  by_cases even : count % 1024 ^ below = 0 <;> simp [even]

/-- A part of an array, of which the last child may have a part only. -/
theorem lastChild_bounds {width length : Nat} (positive : 0 < width) (some_frame : 0 < length)
    (notFull : length < 1024 * width)
    : ∃ k, length / width % 1024 + (if length % width = 0 then 0 else 1) = k + 1 ∧ k < 1024
        ∧ k * width < length ∧ length ≤ k * width + width := by
  have parts := Nat.div_add_mod length width
  have short := Nat.mod_lt length positive
  have commuted : width * (length / width) = length / width * width := Nat.mul_comm _ _
  have small : length / width < 1024 := Nat.div_lt_of_lt_mul (by rwa [Nat.mul_comm])
  rw [Nat.mod_eq_of_lt small]
  by_cases even : length % width = 0
  · have notNone : length / width ≠ 0 := by
      intro none
      rw [none, Nat.mul_zero] at parts
      omega
    obtain ⟨k, next⟩ := Nat.exists_eq_succ_of_ne_zero notNone
    rw [next, Nat.mul_succ, Nat.mul_comm] at parts
    exact ⟨k, by simp [even, next], by omega, by omega, by omega⟩
  · exact ⟨length / width, by simp [even], small, by omega, by omega⟩

/-- A slot of a leaf has one frame. -/
theorem chunk_slot {leaf : Tree Frame 1} (holds : Holds 1024 1 (some leaf) frames) {place : Nat}
    (inside : place < frames.length)
    : ∃ fdata, leaf.child place = some fdata ∧ some [fdata.item] = some (chunk 1 place frames) := by
  obtain ⟨fdata, found, held⟩ := holds.child (by decide) place (by simpa using inside)
  have one : chunk (1024 ^ 0) place frames = [fdata.item] := held
  exact ⟨fdata, found, by rw [← one, Nat.pow_zero]⟩

/-- The children before the last give back their chunks, and the last what it has. -/
theorem freeFrameDataArray_above {below count k : Nat} {last : Bool}
    {array : Tree Frame (below + 2)} {child : Tree Frame (below + 1)}
    (index : levelCount count (below + 2) last = k + 1) (small : k < 2 ^ 32)
    (each : ∀ place < k, ∃ child, array.child place = some child
      ∧ freeFrameDataArray below child count false
        = some (chunk (1024 ^ (below + 1)) place frames))
    (found : array.child k = some child)
    : freeFrameDataArray (below + 1) array count last
      = (freeFrameDataArray below child count last).map
        (frames.take (k * 1024 ^ (below + 1)) ++ ·) := by
  have lastIndex : (levelCount count (below + 2) last + 2 ^ 32 - 1) % 2 ^ 32 = k := by omega
  have before := freeChildren_chunks 0 k fun place _ inside => each place (by omega)
  rw [Nat.zero_mul, List.drop_zero] at before
  simp only [freeFrameDataArray, lastIndex, before, found, Option.bind_eq_bind,
    Option.bind_some, Option.map_eq_bind]
  rfl

/-- An array that is full gives back all its frames, by induction on the levels below. -/
theorem freeFrameDataArray_full {below : Nat} {array : Tree Frame (below + 1)} (count : Nat)
    (holds : Holds 1024 (below + 1) (some array) frames)
    (full : frames.length = 1024 ^ (below + 1))
    : freeFrameDataArray below array count false = some frames := by
  induction below generalizing frames with
  | zero =>
      have all : frames.length ≤ 1024 * 1 := Nat.le_of_eq full
      rw [freeFrameDataArray, levelCount_full, freeChildren_chunks 0 1024 fun place _ before =>
        chunk_slot holds (by omega), Nat.zero_mul, List.drop_zero, List.take_of_length_le all]
  | succ below ih =>
      have positive : 0 < 1024 ^ (below + 1) := Nat.pow_pos (by decide)
      have width : frames.length = 1024 * 1024 ^ (below + 1) := by
        rw [full, Nat.pow_succ 1024 (below + 1), Nat.mul_comm]
      have each : ∀ place < 1024, ∃ child, array.child place = some child
          ∧ freeFrameDataArray below child count false
            = some (chunk (1024 ^ (below + 1)) place frames) := by
        intro place small
        have inside : (place + 1) * 1024 ^ (below + 1) ≤ frames.length := by
          rw [width]
          exact Nat.mul_le_mul_right _ small
        rw [Nat.succ_mul] at inside
        obtain ⟨child, found, held⟩ := holds.child (by decide) place (by omega)
        refine ⟨child, found, ih held ?_⟩
        rw [chunk_length]
        omega
      obtain ⟨child, found, freed⟩ := each 1023 (by decide)
      have all := take_append_chunk_all (1024 ^ (below + 1)) 1023 frames
      rw [← width, List.take_length] at all
      rw [freeFrameDataArray_above (levelCount_full _ _) (by decide)
        (fun place small => each place (by omega)) found, freed, Option.map_some, all]

/-- What an array gives back that is the last of its level, with some levels below. -/
def released (below : Nat) (frames : List Frame) : Option (List Frame) :=
  if frames.length % 1024 ≠ 0 then some frames
  else if 0 < below ∧ frames.length % 1048576 = 0 then none
  else some (frames.take (frames.length - 1024))

/-- What the last child gives back decides about its array. -/
theorem released_chunk {below k width : Nat} (power : width = 1024 ^ (below + 1))
    (after : k * width < frames.length) (before : frames.length ≤ k * width + width)
    (notFull : frames.length ≠ 1024 * width)
    (small : k < 1024)
    : (released below (chunk width k frames)).map (frames.take (k * width) ++ ·)
      = released (below + 1) frames := by
  have partLength : (chunk width k frames).length = frames.length - k * width := by
    rw [chunk_length]
    omega
  have multiple : k * width = 1024 * (k * 1024 ^ below) := by
    rw [power, Nat.pow_succ, ← Nat.mul_assoc, Nat.mul_comm]
  have whole : frames.take (k * width) ++ chunk width k frames = frames := by
    rw [take_append_chunk_all, List.take_of_length_le (by rwa [Nat.succ_mul])]
  have part := take_append_chunk (m := frames.length - k * width - 1024) width k frames (by omega)
  by_cases even : frames.length % 1024 = 0
  · have partEven : (frames.length - k * width) % 1024 = 0 := by omega
    have count : k * width + (frames.length - k * width - 1024) = frames.length - 1024 := by omega
    cases below with
    | zero =>
        have notSquare : frames.length % 1048576 ≠ 0 := by
          rw [power] at before notFull
          omega
        simp [released, partLength, even, partEven, notSquare, part, count]
    | succ below =>
        have square : k * width = k * 1024 ^ below * 1024 ^ 2 := by
          rw [power, Nat.pow_add 1024 below 2, ← Nat.mul_assoc]
        have same : (frames.length - k * width) % 1048576 = frames.length % 1048576 := by omega
        by_cases far : frames.length % 1048576 = 0
        · simp [released, partLength, even, partEven, same, far]
        · simp [released, partLength, even, partEven, same, far, part, count]
  · have partOdd : (frames.length - k * width) % 1024 ≠ 0 := by omega
    simp [released, partLength, even, partOdd, whole]

/-- The last array of its level, by induction on the levels below. For a full array the count of
its children is 0, and the last index 2^32 - 1.
-/
theorem freeFrameDataArray_last {below q : Nat} {array : Tree Frame (below + 1)}
    (holds : Holds 1024 (below + 1) (some array) frames)
    : freeFrameDataArray below array (q * 1024 ^ (below + 1) + frames.length) true
      = released below frames := by
  have frameCount : 0 < frames.length := List.length_pos_iff.mpr holds.ne_nil
  induction below generalizing frames q with
  | zero =>
      have room : frames.length ≤ 1024 := holds.length_le
      have count : levelCount (q * 1024 ^ 1 + frames.length) 1 true = frames.length % 1024 := by
        rw [levelCount_last, Nat.pow_zero, Nat.div_one, Nat.mod_one]
        simp
      rw [freeFrameDataArray, count, freeChildren_chunks 0 _ fun place _ inside =>
        chunk_slot holds (by omega), Nat.zero_mul, List.drop_zero, Nat.mul_one]
      by_cases full : frames.length = 1024
      · simp [released, full]
      · have less : frames.length % 1024 = frames.length := Nat.mod_eq_of_lt (by omega)
        have notEmpty : frames.length ≠ 0 := by omega
        simp [released, less, notEmpty]
  | succ below ih =>
      generalize power : 1024 ^ (below + 1) = width at *
      have above : 1024 ^ (below + 2) = 1024 * width := by
        rw [Nat.pow_succ 1024 (below + 1), Nat.mul_comm, power]
      have room : frames.length ≤ 1024 * width := above ▸ holds.length_le
      have positive : 0 < width := power ▸ Nat.pow_pos (by decide)
      by_cases full : frames.length = 1024 * width
      · have whole : q * (1024 * width) + frames.length = (q + 1) * 1024 * width := by
          rw [full, ← Nat.succ_mul, Nat.mul_assoc]
        have count : levelCount (q * 1024 ^ (below + 2) + frames.length) (below + 2) true = 0 := by
          rw [levelCount_last, power, above, whole, Nat.mul_div_cancel _ positive,
            Nat.mul_mod_left, Nat.mul_mod_left]
          rfl
        have missing : array.child (0 + 1024) = none :=
          holds.child_none (by decide) (by rw [power]; omega)
        have stuck : ∀ free : Tree Frame (below + 1) → Option (List Frame),
            freeChildren free array 0 ((0 + 2 ^ 32 - 1) % 2 ^ 32) = none := fun free =>
          freeChildren_missing 0 _ 1024 (by decide) missing
        have base : width = 1024 ^ below * 1024 := by rw [← power, Nat.pow_succ]
        have even : frames.length % 1024 = 0 := by omega
        have square : frames.length % 1048576 = 0 := by omega
        simp only [freeFrameDataArray, count, stuck, Option.bind_eq_bind, Option.bind_none]
        simp [released, even, square]
      · obtain ⟨k, index, small, after, before⟩ :=
          lastChild_bounds positive frameCount (Nat.lt_of_le_of_ne room full)
        have count : levelCount (q * 1024 ^ (below + 2) + frames.length) (below + 2) true
            = k + 1 := by
          have quotient : (q * (1024 * width) + frames.length) / width
              = q * 1024 + frames.length / width := by
            rw [← Nat.mul_assoc, Nat.add_comm, Nat.add_mul_div_right _ _ positive, Nat.add_comm]
          have remainder : (q * (1024 * width) + frames.length) % width
              = frames.length % width := by
            rw [← Nat.mul_assoc, Nat.add_comm, Nat.add_mul_mod_self_right]
          rw [levelCount_last, power, above, quotient, remainder, ← index, Nat.add_comm (q * 1024),
            Nat.add_mul_mod_self_right]
        have each : ∀ place < k, ∃ child, array.child place = some child
            ∧ freeFrameDataArray below child (q * 1024 ^ (below + 2) + frames.length) false
              = some (chunk (1024 ^ (below + 1)) place frames) := by
          intro place earlier
          have inside : (place + 1) * width ≤ k * width := Nat.mul_le_mul_right width earlier
          rw [Nat.succ_mul] at inside
          obtain ⟨child, found, held⟩ :=
            holds.child (by decide) place (by rw [power]; omega)
          refine ⟨child, found, freeFrameDataArray_full _ held ?_⟩
          rw [chunk_length, power]
          omega
        obtain ⟨child, found, held⟩ := holds.child (by decide) k (by rwa [power])
        have partLength : (chunk (1024 ^ (below + 1)) k frames).length
            = frames.length - k * width := by
          rw [chunk_length, power]
          omega
        have rest := ih (q := q * 1024 + k) held (by omega)
        have sameCount : (q * 1024 + k) * width + (chunk (1024 ^ (below + 1)) k frames).length
            = q * 1024 ^ (below + 2) + frames.length := by
          rw [partLength, Nat.add_mul, above, ← Nat.mul_assoc]
          omega
        rw [sameCount] at rest
        rw [freeFrameDataArray_above count (by omega) each found, rest, power]
        exact released_chunk power.symm after before full small

/-- Stated for every program after the cast, so that none has to be unfolded. -/
theorem after_cast {α β : Type} {cast : Option α} {root : α} (known : cast = some root)
    (free : α → Option β)
    : (cast >>= free) = free root := by
  rw [known]
  rfl

theorem square_eq : nodesPerLevel * nodesPerLevel = 1048576 := rfl

theorem cube_eq : nodesPerLevel * nodesPerLevel * nodesPerLevel = 1073741824 := rfl

theorem freeFrameDataSequence_leaf {array : Tree Frame 1} (root : fds.ptreeRoot = .leaf array)
    (some_frame : 0 < fds.count) (room : fds.count ≤ 1024)
    : freeFrameDataSequence fds = freeFrameDataArray 0 array fds.count true := by
  have cast : fds.ptreeRoot.asLeaf = some array := by rw [root]; rfl
  rw [freeFrameDataSequence, if_neg (Nat.ne_of_gt some_frame), nodesPerLevel_eq, if_pos room,
    after_cast cast]

theorem freeFrameDataSequence_level1 {array : Tree Frame 2} (root : fds.ptreeRoot = .level1 array)
    (more : 1024 < fds.count) (room : fds.count ≤ 1048576)
    : freeFrameDataSequence fds = freeFrameDataArray 1 array fds.count true := by
  have cast : fds.ptreeRoot.asLevel1 = some array := by rw [root]; rfl
  rw [freeFrameDataSequence, if_neg (by omega), if_neg (by rw [nodesPerLevel_eq]; omega),
    square_eq, if_pos room, after_cast cast]

theorem freeFrameDataSequence_level2 {array : Tree Frame 3} (root : fds.ptreeRoot = .level2 array)
    (more : 1048576 < fds.count) (room : fds.count ≤ 1073741824)
    : freeFrameDataSequence fds = freeFrameDataArray 2 array fds.count true := by
  have cast : fds.ptreeRoot.asLevel2 = some array := by rw [root]; rfl
  rw [freeFrameDataSequence, if_neg (by omega), if_neg (by rw [nodesPerLevel_eq]; omega),
    cube_eq, square_eq, if_neg (by omega), if_pos room, after_cast cast]

theorem freeFrameDataSequence_level3 {array : Tree Frame 4} (root : fds.ptreeRoot = .level3 array)
    (more : 1073741824 < fds.count)
    : freeFrameDataSequence fds = freeFrameDataArray 3 array fds.count true := by
  have cast : fds.ptreeRoot.asLevel3 = some array := by rw [root]; rfl
  rw [freeFrameDataSequence, if_neg (by omega), if_neg (by rw [nodesPerLevel_eq]; omega),
    cube_eq, square_eq, if_neg (by omega), if_neg (by omega), after_cast cast]

/-- A sequence is released as the last array of its top level. -/
theorem freeFrameDataSequence_stores (stores : Stores fds frames) (frameCount : 0 < frames.length)
    : ∃ below, (below = 0 ↔ frames.length ≤ 1024)
      ∧ freeFrameDataSequence fds = released below frames := by
  have topLevel : ∀ {below : Nat} {array : Tree Frame (below + 1)},
      Holds 1024 (below + 1) (some array) frames →
      freeFrameDataArray below array frames.length true = released below frames := by
    intro below array holds
    have freed := freeFrameDataArray_last (q := 0) holds
    rwa [Nat.zero_mul, Nat.zero_add] at freed
  cases stores with
  | null => exact (Nat.not_lt_zero 0 frameCount).elim
  | @leaf array frames holds =>
      have room : frames.length ≤ 1024 := holds.length_le
      refine ⟨0, by simp [room], ?_⟩
      rw [freeFrameDataSequence_leaf rfl frameCount room]
      exact topLevel holds
  | @level1 array frames holds more =>
      have room : frames.length ≤ 1048576 := holds.length_le
      refine ⟨1, by omega, ?_⟩
      rw [freeFrameDataSequence_level1 rfl more room]
      exact topLevel holds
  | @level2 array frames holds more =>
      have room : frames.length ≤ 1073741824 := holds.length_le
      refine ⟨2, by omega, ?_⟩
      rw [freeFrameDataSequence_level2 rfl (by omega) room]
      exact topLevel holds
  | @level3 array frames holds more =>
      refine ⟨3, by omega, ?_⟩
      rw [freeFrameDataSequence_level3 rfl (by omega)]
      exact topLevel holds

/-- A sequence of frames gives back all of them, or all but the last 1024 when these fill a leaf;
when the last array of leaves is full as well, memory is read that is not there.
-/
theorem freeFrameDataSequence_addFrames (frames : List Frame) (room : frames.length < 2 ^ 32)
    : ∃ fds, addFrames newFrameDataSequence frames = some fds
        ∧ freeFrameDataSequence fds
          = if frames.length % 1024 ≠ 0 then some frames
            else if frames = [] then some []
            else if frames.length % 1048576 = 0 then none
            else some (frames.take (frames.length - 1024)) := by
  obtain ⟨fds, added, stores⟩ := addFrames_stores frames .null (by simpa using room)
  rw [List.nil_append] at stores
  refine ⟨fds, added, ?_⟩
  by_cases empty : frames = []
  · subst empty
    cases stores with
    | null => rfl
    | leaf holds => exact (holds.ne_nil rfl).elim
    | level1 holds _ => exact (holds.ne_nil rfl).elim
    | level2 holds _ => exact (holds.ne_nil rfl).elim
    | level3 holds _ => exact (holds.ne_nil rfl).elim
  · have frameCount : 0 < frames.length := List.length_pos_iff.mpr empty
    obtain ⟨below, one, freed⟩ := freeFrameDataSequence_stores stores frameCount
    rw [freed, released]
    by_cases square : frames.length % 1048576 = 0
    -- The last array of leaves is full, so the root is above a leaf.
    · have more : 0 < below := by omega
      simp [empty, square, more]
    · simp [empty, square]

/-- At 2^20 frames the release reads beyond the last array. -/
theorem freeFrameDataSequence_addFrames_square
    : ∃ fds, addFrames newFrameDataSequence (List.replicate 1048576 ()) = some fds
        ∧ freeFrameDataSequence fds = none := by
  obtain ⟨fds, added, freed⟩ :=
    freeFrameDataSequence_addFrames (List.replicate 1048576 ()) (by
      rw [List.length_replicate]
      decide)
  refine ⟨fds, added, ?_⟩
  rw [freed, List.length_replicate, if_neg (by decide), if_neg, if_pos (by decide)]
  intro empty
  have lengths := congrArg List.length empty
  rw [List.length_replicate] at lengths
  exact absurd lengths (by decide)

end PacketDissector.Epan.Sequence
