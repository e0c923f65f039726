import Mathlib.Data.List.Basic

/-! Blocks of memory between their allocation and their release, who still has to release them,
and what may have happened to a heap since an earlier one.
-/

namespace PacketDissector.Library

/-- A block of memory. -/
structure Block where
  base : Nat
  size : Nat
  deriving DecidableEq, Repr

/-- The address is in the block. -/
def Block.Contains (block : Block) (address : Nat) : Prop :=
  block.base ≤ address ∧ address < block.base + block.size

/-- The blocks have neither their start nor an address in common. -/
structure Block.Apart (block other : Block) : Prop where
  base : block.base ≠ other.base
  addresses : ∀ address, block.Contains address → ¬ other.Contains address

/-- The blocks in use, and those that were released before. -/
structure Heap where
  live : List Block
  released : List Block
  deriving DecidableEq, Repr

/-- A new block in use. -/
def Heap.allocate (h : Heap) (block : Block) : Heap := { h with live := block :: h.live }

/-- The release of the block at an address; none when no block in use starts there. -/
def Heap.release (h : Heap) (base : Nat) : Option Heap :=
  (h.live.find? fun block => block.base = base).map fun block =>
    ⟨h.live.filter fun other => other.base ≠ base, block :: h.released⟩

/-- The allocator hands out blocks that are apart from those in use; 0 is no address. -/
structure FreshAllocator (malloc : Heap → Nat → Nat) : Prop where
  notNull : ∀ h size, 0 < size → malloc h size ≠ 0
  apart : ∀ h size, 0 < size → ∀ block ∈ h.live, Block.Apart ⟨malloc h size, size⟩ block

/-- The block is one that the allocator can hand out. -/
def HandedOut (malloc : Heap → Nat → Nat) (block : Block) : Prop :=
  ∃ h, 0 < block.size ∧ block.base = malloc h block.size

/-- The block was handed out while those of an earlier heap were in use. -/
structure NewSince (malloc : Heap → Nat → Nat) (start : Heap) (block : Block) : Prop where
  handedOut : HandedOut malloc block
  apart : ∀ other ∈ start.live, block.Apart other

/-- The heap comes from an earlier one by allocations and releases of new blocks: what was in
use then is in use, and what else is in use or was released since is new.
-/
structure Heap.Since (malloc : Heap → Nat → Nat) (start h : Heap) : Prop where
  live : ∀ block ∈ start.live, block ∈ h.live
  others : ∀ block ∈ h.live, block ∈ start.live ∨ NewSince malloc start block
  released
    : ∃ own, h.released = own ++ start.released ∧ ∀ block ∈ own, NewSince malloc start block

/-- The addresses are starts of blocks in use, each once, and none of them was in use in an
earlier heap.
-/
structure Heap.Owns (start h : Heap) (owned : List Nat) : Prop where
  distinct : owned.Nodup
  live : ∀ base ∈ owned, ∃ block ∈ h.live, block.base = base
  notOld : ∀ base ∈ owned, ∀ old ∈ start.live, old.base ≠ base

/-- An address lies in a block in use, or where the allocator hands out no memory. -/
def Heap.Places (malloc : Heap → Nat → Nat) (h : Heap) (address : Nat) : Prop :=
  (∃ block ∈ h.live, block.Contains address)
  ∨ ∀ block, HandedOut malloc block → ¬ block.Contains address

variable {malloc : Heap → Nat → Nat} {start h h' : Heap} {owned : List Nat} {block : Block}
  {base address : Nat}

/-- A new block does not reach to an address that had its place before. -/
theorem NewSince.not_contains (new : NewSince malloc start block)
    (placed : start.Places malloc address)
    : ¬ block.Contains address := by
  intro inside
  rcases placed with ⟨old, live, contains⟩ | outside
  · exact (new.apart old live).addresses address inside contains
  · exact outside block new.handedOut inside

/-- Blocks that are in use keep the places of addresses. -/
theorem Heap.Since.places (since : start.Since malloc h) (placed : start.Places malloc address)
    : h.Places malloc address := by
  rcases placed with ⟨block, live, contains⟩ | outside
  · exact Or.inl ⟨block, since.live block live, contains⟩
  · exact Or.inr outside

theorem Heap.Since.refl (malloc : Heap → Nat → Nat) (h : Heap) : h.Since malloc h :=
  ⟨fun _ live => live, fun _ live => Or.inl live, [], rfl, by simp⟩

/-- New after a later heap is new after an earlier one. -/
theorem NewSince.earlier (new : NewSince malloc h block) (since : start.Since malloc h)
    : NewSince malloc start block :=
  ⟨new.handedOut, fun old live => new.apart old (since.live old live)⟩

theorem Heap.Since.trans (first : start.Since malloc h) (rest : h.Since malloc h')
    : start.Since malloc h' := by
  refine ⟨fun block live => rest.live block (first.live block live), fun block live => ?_, ?_⟩
  · rcases rest.others block live with old | new
    · exact first.others block old
    · exact Or.inr (new.earlier first)
  · obtain ⟨own, released, each⟩ := first.released
    obtain ⟨own', released', each'⟩ := rest.released
    refine ⟨own' ++ own, by rw [released', released, List.append_assoc], fun block member => ?_⟩
    rcases List.mem_append.mp member with later | earlier
    · exact (each' block later).earlier first
    · exact each block earlier

/-- An allocation, by an allocator of fresh blocks. -/
theorem FreshAllocator.newSince (fresh : FreshAllocator malloc) {size : Nat} (sized : 0 < size)
    (since : start.Since malloc h)
    : NewSince malloc start ⟨malloc h size, size⟩ :=
  ⟨⟨h, sized, rfl⟩, fun old live => fresh.apart h size sized old (since.live old live)⟩

theorem Heap.Since.allocate (since : start.Since malloc h) (new : NewSince malloc start block)
    : start.Since malloc (h.allocate block) := by
  refine ⟨fun old live => List.mem_cons_of_mem _ (since.live old live), fun other live => ?_,
    since.released⟩
  rcases List.mem_cons.mp live with rfl | earlier
  · exact Or.inr new
  · exact since.others other earlier

theorem Heap.Owns.allocate (owns : start.Owns h owned) (new : NewSince malloc start block)
    (fresh : ∀ other ∈ h.live, block.base ≠ other.base)
    : start.Owns (h.allocate block) (block.base :: owned) := by
  refine ⟨List.nodup_cons.mpr ⟨fun member => ?_, owns.distinct⟩, fun base member => ?_,
    fun base member old live => ?_⟩
  · obtain ⟨other, live, same⟩ := owns.live _ member
    exact fresh other live same.symm
  · rcases List.mem_cons.mp member with rfl | earlier
    · exact ⟨block, List.mem_cons_self, rfl⟩
    · obtain ⟨other, live, same⟩ := owns.live base earlier
      exact ⟨other, List.mem_cons_of_mem _ live, same⟩
  · rcases List.mem_cons.mp member with rfl | earlier
    · exact (new.apart old live).base.symm
    · exact owns.notOld base earlier old live

/-- Blocks may be owned in any order. -/
theorem Heap.Owns.perm {owned' : List Nat} (owns : start.Owns h owned)
    (same : owned.Perm owned')
    : start.Owns h owned' :=
  ⟨same.nodup_iff.mp owns.distinct, fun base member => owns.live base (same.mem_iff.mpr member),
    fun base member => owns.notOld base (same.mem_iff.mpr member)⟩

/-- A block can be left behind. -/
theorem Heap.Owns.forget (owns : start.Owns h (base :: owned)) : start.Owns h owned :=
  ⟨(List.nodup_cons.mp owns.distinct).2,
    fun other member => owns.live other (List.mem_cons_of_mem _ member),
    fun other member => owns.notOld other (List.mem_cons_of_mem _ member)⟩

/-- Who owns a block can release it, and still owns the others. -/
theorem Heap.Owns.release (owns : start.Owns h (base :: owned)) (since : start.Since malloc h)
    : ∃ h', h.release base = some h' ∧ start.Owns h' owned ∧ start.Since malloc h' := by
  obtain ⟨block, live, starts⟩ := owns.live base List.mem_cons_self
  have notOld := owns.notOld base List.mem_cons_self
  obtain ⟨notOwned, -⟩ := List.nodup_cons.mp owns.distinct
  have rest := owns.forget
  cases found : h.live.find? fun block => block.base = base with
  | none =>
      have absent := List.find?_eq_none.mp found block live
      simp [starts] at absent
  | some first =>
      have here : first.base = base := by simpa using List.find?_some found
      have inUse := List.mem_of_find?_eq_some found
      refine ⟨_, by simp only [Heap.release, found, Option.map_some]; rfl,
        ⟨rest.distinct, fun other member => ?_, rest.notOld⟩,
        ⟨fun old member => ?_, fun other member => ?_, ?_⟩⟩
      · obtain ⟨block', live', starts'⟩ := rest.live other member
        refine ⟨block', List.mem_filter.mpr ⟨live', ?_⟩, starts'⟩
        have different : block'.base ≠ base := fun same =>
          notOwned ((starts'.symm.trans same) ▸ member)
        simpa using different
      · refine List.mem_filter.mpr ⟨since.live old member, ?_⟩
        simpa using notOld old member
      · exact since.others other (List.mem_filter.mp member).1
      · obtain ⟨own, released, each⟩ := since.released
        refine ⟨first :: own, by rw [released, List.cons_append], fun other member => ?_⟩
        rcases List.mem_cons.mp member with rfl | earlier
        · exact (since.others _ inUse).resolve_left fun old => notOld _ old here
        · exact each other earlier

end PacketDissector.Library
