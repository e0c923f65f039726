import Mathlib.Algebra.Group.Nat.Defs
import PacketDissector.Library.Radix

/-! The frames of a capture in frame_data_sequence.c: a radix tree of up to four levels that
grows a level when it is full.
-/

namespace PacketDissector.Epan.Sequence

open PacketDissector.Library PacketDissector.Library.Radix

/-- LOG2_NODES_PER_LEVEL. -/
def log2NodesPerLevel : Nat := 10

/-- NODES_PER_LEVEL. -/
def nodesPerLevel : Nat := 1 <<< log2NodesPerLevel

/-- LEVEL_3_INDEX. -/
def level3Index (framenum : Nat) : Nat := framenum >>> (3 * log2NodesPerLevel)

/-- LEVEL_2_INDEX. -/
def level2Index (framenum : Nat) : Nat :=
  (framenum >>> (2 * log2NodesPerLevel)) &&& (nodesPerLevel - 1)

/-- LEVEL_1_INDEX. -/
def level1Index (framenum : Nat) : Nat :=
  (framenum >>> (1 * log2NodesPerLevel)) &&& (nodesPerLevel - 1)

/-- LEAF_INDEX. -/
def leafIndex (framenum : Nat) : Nat :=
  (framenum >>> (0 * log2NodesPerLevel)) &&& (nodesPerLevel - 1)

variable {Frame : Type}

/-- The root with the type that it is cast to. A leaf is a tree of one level over frames, of
which those that are not written are none; other arrays have NULL there.
-/
inductive PtreeRoot (Frame : Type) where
  | null
  | leaf (array : Tree Frame 1)
  | level1 (array : Tree Frame 2)
  | level2 (array : Tree Frame 3)
  | level3 (array : Tree Frame 4)

/-- A frame_data_sequence. -/
structure FrameDataSequence (Frame : Type) where
  count : Nat
  ptreeRoot : PtreeRoot Frame

/-- new_frame_data_sequence. -/
def newFrameDataSequence : FrameDataSequence Frame := ⟨0, .null⟩

/-- The casts of the root. They are none for a root of another type, and so is all code that
reads memory which was not written, or through NULL.
-/
def PtreeRoot.asLeaf : PtreeRoot Frame → Option (Tree Frame 1)
  | .leaf array => some array
  | _ => none

def PtreeRoot.asLevel1 : PtreeRoot Frame → Option (Tree Frame 2)
  | .level1 array => some array
  | _ => none

def PtreeRoot.asLevel2 : PtreeRoot Frame → Option (Tree Frame 3)
  | .level2 array => some array
  | _ => none

def PtreeRoot.asLevel3 : PtreeRoot Frame → Option (Tree Frame 4)
  | .level3 array => some array
  | _ => none

/-- The child of an array at an index, allocated when it is NULL. -/
def childAt {n : Nat} (array : Tree Frame (n + 2)) (index : Nat) : Tree Frame (n + 1) :=
  (array.child index).getD empty

/-- The root that frame_data_sequence_add makes. -/
def addedRoot (fds : FrameDataSequence Frame) (fdata : Frame) : Option (PtreeRoot Frame) :=
  let count := fds.count
  if count = 0 then some (.leaf (empty.set 0 fdata))
  else if count < nodesPerLevel then do
    let leaf ← fds.ptreeRoot.asLeaf
    some (.leaf (leaf.set count fdata))
  else if count = nodesPerLevel then do
    let root ← fds.ptreeRoot.asLeaf
    let leaf : Tree Frame 1 := empty
    some (.level1 ((empty.set 0 root).set 1 (leaf.set 0 fdata)))
  else if count < nodesPerLevel * nodesPerLevel then do
    let level1 ← fds.ptreeRoot.asLevel1
    let leaf := childAt level1 (count >>> log2NodesPerLevel)
    some (.level1 (level1.set (count >>> log2NodesPerLevel) (leaf.set (leafIndex count) fdata)))
  else if count = nodesPerLevel * nodesPerLevel then do
    let root ← fds.ptreeRoot.asLevel1
    let level1 : Tree Frame 2 := empty
    let leaf : Tree Frame 1 := empty
    some (.level2 ((empty.set 0 root).set 1 (level1.set 0 (leaf.set 0 fdata))))
  else if count < nodesPerLevel * nodesPerLevel * nodesPerLevel then do
    let level2 ← fds.ptreeRoot.asLevel2
    let index := count >>> (log2NodesPerLevel + log2NodesPerLevel)
    let level1 := childAt level2 index
    let leaf := childAt level1 (level1Index count)
    some (.level2
      (level2.set index (level1.set (level1Index count) (leaf.set (leafIndex count) fdata))))
  else if count = nodesPerLevel * nodesPerLevel * nodesPerLevel then do
    let root ← fds.ptreeRoot.asLevel2
    let level2 : Tree Frame 3 := empty
    let level1 : Tree Frame 2 := empty
    let leaf : Tree Frame 1 := empty
    some (.level3
      ((empty.set 0 root).set 1 (level2.set 0 (level1.set 0 (leaf.set 0 fdata)))))
  else do
    let level3 ← fds.ptreeRoot.asLevel3
    let level2 := childAt level3 (level3Index count)
    let level1 := childAt level2 (level2Index count)
    let leaf := childAt level1 (level1Index count)
    some (.level3 (level3.set (level3Index count) (level2.set (level2Index count)
      (level1.set (level1Index count) (leaf.set (leafIndex count) fdata)))))

/-- frame_data_sequence_add. -/
def frameDataSequenceAdd (fds : FrameDataSequence Frame) (fdata : Frame)
    : Option (FrameDataSequence Frame) :=
  (addedRoot fds fdata).map fun ptreeRoot => ⟨(fds.count + 1) % 2 ^ 32, ptreeRoot⟩

/-- The part of frame_data_sequence_find below its checks, from the index of a frame on. -/
def frameAt (fds : FrameDataSequence Frame) (num : Nat) : Option Frame :=
  if fds.count ≤ nodesPerLevel then do
    let leaf ← fds.ptreeRoot.asLeaf
    leaf.slot num
  else if fds.count ≤ nodesPerLevel * nodesPerLevel then do
    let level1 ← fds.ptreeRoot.asLevel1
    let leaf ← level1.child (num >>> log2NodesPerLevel)
    leaf.slot (leafIndex num)
  else if fds.count ≤ nodesPerLevel * nodesPerLevel * nodesPerLevel then do
    let level2 ← fds.ptreeRoot.asLevel2
    let level1 ← level2.child (num >>> (log2NodesPerLevel + log2NodesPerLevel))
    let leaf ← level1.child ((num >>> log2NodesPerLevel) &&& (nodesPerLevel - 1))
    leaf.slot (leafIndex num)
  else do
    let level3 ← fds.ptreeRoot.asLevel3
    let level2 ← level3.child
      (num >>> (log2NodesPerLevel + log2NodesPerLevel + log2NodesPerLevel))
    let level1 ← level2.child
      ((num >>> (log2NodesPerLevel + log2NodesPerLevel)) &&& (nodesPerLevel - 1))
    let leaf ← level1.child ((num >>> log2NodesPerLevel) &&& (nodesPerLevel - 1))
    leaf.slot (leafIndex num)

/-- frame_data_sequence_find; the frame that is found, or NULL. -/
def frameDataSequenceFind (fds : Option (FrameDataSequence Frame)) (num : Nat)
    : Option (Option Frame) :=
  match fds with
  | none => some none
  | some fds =>
      if num = 0 then some none
      else if num - 1 ≥ fds.count then some none
      else (frameAt fds (num - 1)).map some

/-- level_count in free_frame_data_array, a guint. -/
def levelCount (count level : Nat) (last : Bool) : Nat :=
  if last then
    let levelCount := (count >>> ((level - 1) * log2NodesPerLevel)) &&& (nodesPerLevel - 1)
    if count &&& ((1 <<< ((level - 1) * log2NodesPerLevel)) - 1) ≠ 0 then levelCount + 1
    else levelCount
  else nodesPerLevel

/-- A loop of free_frame_data_array from index i on, with the rounds left, where each child is
released by a function that answers the frames it destroyed.
-/
def freeChildren {n : Nat} (free : Tree Frame n → Option (List Frame))
    (array : Tree Frame (n + 1))
    : Nat → Nat → Option (List Frame)
  | _, 0 => some []
  | i, left + 1 => do
      let child ← array.child i
      let frames ← free child
      let rest ← freeChildren free array (i + 1) left
      some (frames ++ rest)

/-- free_frame_data_array for an array of a level, with the frames that it destroys; the last
index is a guint, which wraps for a level_count of 0.
-/
def freeFrameDataArray : (below : Nat) → Tree Frame (below + 1) → Nat → Bool → Option (List Frame)
  | 0, array, count, last =>
      freeChildren (fun fdata => some [fdata.item]) array 0 (levelCount count 1 last)
  | below + 1, array, count, last => do
      let lastIndex := (levelCount count (below + 2) last + 2 ^ 32 - 1) % 2 ^ 32
      let frames ← freeChildren (fun child => freeFrameDataArray below child count false) array 0
        lastIndex
      let child ← array.child lastIndex
      let rest ← freeFrameDataArray below child count last
      some (frames ++ rest)

/-- free_frame_data_sequence. -/
def freeFrameDataSequence (fds : FrameDataSequence Frame) : Option (List Frame) :=
  if fds.count = 0 then some []
  else if fds.count ≤ nodesPerLevel then do
    let root ← fds.ptreeRoot.asLeaf
    freeFrameDataArray 0 root fds.count true
  else if fds.count ≤ nodesPerLevel * nodesPerLevel then do
    let root ← fds.ptreeRoot.asLevel1
    freeFrameDataArray 1 root fds.count true
  else if fds.count ≤ nodesPerLevel * nodesPerLevel * nodesPerLevel then do
    let root ← fds.ptreeRoot.asLevel2
    freeFrameDataArray 2 root fds.count true
  else do
    let root ← fds.ptreeRoot.asLevel3
    freeFrameDataArray 3 root fds.count true

end PacketDissector.Epan.Sequence
