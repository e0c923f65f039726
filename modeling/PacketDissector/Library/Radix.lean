import Mathlib.Algebra.Group.Nat.Defs
import Mathlib.Data.List.Basic
import Mathlib.Logic.Function.Basic

/-! Radix trees: levels of arrays with b places each, over items that are numbered from 0 on
without gaps. An array that is not made yet is none.
-/

namespace PacketDissector.Library.Radix

/-- An item under n levels of arrays. -/
def Tree (α : Type) : Nat → Type
  | 0 => α
  | n + 1 => Nat → Option (Tree α n)

variable {α : Type} {b n : Nat} {items : List α} {a : α}

/-- The item under no arrays. -/
def Tree.item (tree : Tree α 0) : α := tree

/-- An array with nothing in it. -/
def empty : Tree α (n + 1) := fun _ => none

/-- What a place of an array has. -/
def Tree.child (array : Tree α (n + 1)) (place : Nat) : Option (Tree α n) := array place

/-- The item at a place of an array of items. -/
def Tree.slot (array : Tree α 1) (place : Nat) : Option α := array place

/-- An assignment to a place of an array. -/
def Tree.set (array : Tree α (n + 1)) (place : Nat) (child : Tree α n) : Tree α (n + 1) :=
  Function.update array place (some child)

/-- The item with a number. -/
def get (b : Nat) : (n : Nat) → Tree α n → Nat → Option α
  | 0, item, _ => some item
  | n + 1, array, i => (array.child (i / b ^ n)).bind fun child => get b n child (i % b ^ n)

/-- An assignment to the item with a number; the arrays on the way are made. -/
def put (b : Nat) : (n : Nat) → Option (Tree α n) → Nat → α → Tree α n
  | 0, _, _, item => item
  | n + 1, array, i, item =>
      let array := array.getD empty
      array.set (i / b ^ n) (put b n (array.child (i / b ^ n)) (i % b ^ n) item)

/-- A tree as the first of a new level. -/
def lift (tree : Tree α n) : Tree α (n + 1) := empty.set 0 tree

/-- The items that belong under a place of an array, by their number. -/
def chunk (width place : Nat) (items : List α) : List α :=
  (items.drop (place * width)).take width

/-- The tree has the items, and no arrays without any. -/
def Holds (b : Nat) : (n : Nat) → Option (Tree α n) → List α → Prop
  | _, none, items => items = []
  | 0, some item, items => items = [item]
  | n + 1, some array, items =>
      items ≠ [] ∧ items.length ≤ b ^ (n + 1)
        ∧ ∀ place, Holds b n (array.child place) (chunk (b ^ n) place items)

@[simp]
theorem child_empty (place : Nat) : (empty : Tree α (n + 1)).child place = none := rfl

@[simp]
theorem child_set_self (array : Tree α (n + 1)) (place : Nat) (child : Tree α n)
    : (array.set place child).child place = some child :=
  Function.update_self _ _ _

theorem child_set_of_ne (array : Tree α (n + 1)) {place other : Nat} (child : Tree α n)
    (different : other ≠ place)
    : (array.set place child).child other = array.child other :=
  Function.update_of_ne different _ _

/-- The number of an item of an array of items is its place. -/
theorem get_one (array : Tree α 1) (i : Nat) : get b 1 array i = array.slot i := by
  have whole : i / b ^ 0 = i := by rw [Nat.pow_zero, Nat.div_one]
  have children : get b 1 array i = (array.slot (i / b ^ 0)).bind some := rfl
  rw [children, whole, Option.bind_fun_some]

/-- An array that is made is as good as one with nothing in it. -/
theorem put_getD (array : Option (Tree α (n + 1))) (i : Nat)
    : put b (n + 1) (some (array.getD empty)) i a = put b (n + 1) array i a := by
  cases array <;> rfl

theorem chunk_length (width place : Nat) (items : List α)
    : (chunk width place items).length = min width (items.length - place * width) := by
  simp [chunk]

theorem chunk_getElem? {width j : Nat} (items : List α) (place : Nat) (below : j < width)
    : (chunk width place items)[j]? = items[place * width + j]? := by
  simp [chunk, below, List.getElem?_drop]

theorem chunk_eq_nil_iff {width place : Nat} (positive : 0 < width)
    : chunk width place items = [] ↔ items.length ≤ place * width := by
  rw [← List.length_eq_zero_iff, chunk_length]
  omega

/-- A whole list is its first chunk. -/
theorem chunk_zero {width : Nat} (short : items.length ≤ width) : chunk width 0 items = items := by
  simp [chunk, List.take_of_length_le short]

/-- One more item goes to the chunk of its number. -/
theorem chunk_concat {width : Nat} (positive : 0 < width) (place : Nat)
    : chunk width place (items ++ [a])
      = if place = items.length / width then chunk width place items ++ [a]
        else chunk width place items := by
  have parts := Nat.div_add_mod items.length width
  have short := Nat.mod_lt items.length positive
  have commuted : width * (items.length / width) = items.length / width * width :=
    Nat.mul_comm _ _
  rcases Nat.lt_trichotomy place (items.length / width) with before | rfl | after
  · have below : (place + 1) * width ≤ items.length / width * width :=
      Nat.mul_le_mul_right width before
    rw [Nat.succ_mul] at below
    rw [if_neg (Nat.ne_of_lt before)]
    simp only [chunk]
    rw [List.drop_append_of_le_length (by omega), List.take_append_of_le_length]
    rw [List.length_drop]
    omega
  · rw [if_pos rfl]
    simp only [chunk]
    rw [List.drop_append_of_le_length (by omega), List.take_of_length_le, List.take_of_length_le]
    · rw [List.length_drop]
      omega
    · rw [List.length_append, List.length_drop, List.length_singleton]
      omega
  · have beyond : (items.length / width + 1) * width ≤ place * width :=
      Nat.mul_le_mul_right width after
    rw [Nat.succ_mul] at beyond
    rw [if_neg (Nat.ne_of_gt after), (chunk_eq_nil_iff positive).mpr,
      (chunk_eq_nil_iff positive).mpr]
    · omega
    · rw [List.length_append, List.length_singleton]
      omega

/-- The chunk that the next item goes to. -/
theorem chunk_last_length {width : Nat} (items : List α) (positive : 0 < width)
    : (chunk width (items.length / width) items).length = items.length % width := by
  have parts := Nat.div_add_mod items.length width
  have short := Nat.mod_lt items.length positive
  have commuted : width * (items.length / width) = items.length / width * width :=
    Nat.mul_comm _ _
  rw [chunk_length]
  omega

/-- A tree has no more items than places. -/
theorem Holds.length_le {tree : Option (Tree α n)} (holds : Holds b n tree items)
    : items.length ≤ b ^ n := by
  cases tree with
  | none =>
      obtain rfl : items = [] := by simpa only [Holds] using holds
      exact Nat.zero_le _
  | some tree =>
      cases n with
      | zero =>
          obtain rfl : items = [tree] := holds
          exact Nat.le_refl 1
      | succ n => exact holds.2.1

theorem Holds.ne_nil {tree : Tree α n} (holds : Holds b n (some tree) items) : items ≠ [] := by
  cases n with
  | zero =>
      obtain rfl : items = [tree] := holds
      exact List.cons_ne_nil _ _
  | succ n => exact holds.1

/-- The tree has an item exactly where the list has, by induction on the levels. -/
theorem Holds.get {tree : Tree α n} (holds : Holds b n (some tree) items) {i : Nat}
    (inside : i < b ^ n)
    : Radix.get b n tree i = items[i]? := by
  induction n generalizing items i with
  | zero =>
      obtain rfl : items = [tree] := holds
      obtain rfl : i = 0 := by simpa using inside
      rfl
  | succ n ih =>
      have positive : 0 < b ^ n := by
        apply Nat.pos_of_ne_zero
        intro zero
        rw [Nat.pow_succ, zero, Nat.zero_mul] at inside
        exact Nat.not_lt_zero _ inside
      have below := Nat.mod_lt i positive
      have number : i / b ^ n * b ^ n + i % b ^ n = i := by
        rw [Nat.mul_comm]
        exact Nat.div_add_mod i (b ^ n)
      have held := holds.2.2 (i / b ^ n)
      have here := chunk_getElem? items (i / b ^ n) below
      rw [number] at here
      rw [← here]
      cases found : tree.child (i / b ^ n) with
      | none =>
          rw [found] at held
          have nothing : chunk (b ^ n) (i / b ^ n) items = [] := by
            simpa only [Holds] using held
          simp [Radix.get, found, nothing]
      | some child =>
          rw [found] at held
          simp only [Radix.get, found, Option.bind_some]
          exact ih held below

/-- The next item is put at the end, by induction on the levels. -/
theorem Holds.put {tree : Option (Tree α n)} (holds : Holds b n tree items)
    (room : items.length < b ^ n) (a : α)
    : Holds b n (some (Radix.put b n tree items.length a)) (items ++ [a]) := by
  induction n generalizing items with
  | zero =>
      obtain rfl : items = [] := List.length_eq_zero_iff.mp (by simpa using room)
      rfl
  | succ n ih =>
      have positive : 0 < b ^ n := by
        apply Nat.pos_of_ne_zero
        intro zero
        rw [Nat.pow_succ, zero, Nat.zero_mul] at room
        exact Nat.not_lt_zero _ room
      have children : ∀ place, Holds b n ((tree.getD empty).child place)
          (chunk (b ^ n) place items) := by
        intro place
        cases tree with
        | none =>
            obtain rfl : items = [] := by simpa only [Holds] using holds
            simp [Holds, chunk]
        | some array => exact holds.2.2 place
      refine ⟨by simp, ?_, fun place => ?_⟩
      · rw [List.length_append]
        exact room
      · rw [chunk_concat positive]
        simp only [Radix.put]
        by_cases here : place = items.length / b ^ n
        · subst here
          rw [if_pos rfl, child_set_self]
          have held := children (items.length / b ^ n)
          have next := chunk_last_length items positive
          rw [← next]
          apply ih held
          rw [next]
          exact Nat.mod_lt _ positive
        · rw [if_neg here, child_set_of_ne _ _ here]
          exact children place

/-- A tree keeps its items as the first of a new level. -/
theorem Holds.lift {tree : Tree α n} (holds : Holds b n (some tree) items) (bases : 0 < b)
    : Holds b (n + 1) (some (Radix.lift tree)) items := by
  have short := holds.length_le
  have positive : 0 < b ^ n := Nat.pow_pos bases
  refine ⟨holds.ne_nil, ?_, fun place => ?_⟩
  · rw [Nat.pow_succ]
    exact Nat.le_trans short (Nat.le_mul_of_pos_right _ bases)
  · by_cases first : place = 0
    · subst first
      rw [chunk_zero short, Radix.lift, child_set_self]
      exact holds
    · have beyond : items.length ≤ place * b ^ n :=
        Nat.le_trans short (Nat.le_mul_of_pos_left _ (Nat.pos_of_ne_zero first))
      rw [Radix.lift, child_set_of_ne _ _ first, child_empty]
      simpa only [Holds, chunk_eq_nil_iff positive] using beyond

/-- A place has a child as long as there are items for it. -/
theorem Holds.child {array : Tree α (n + 1)} (holds : Holds b (n + 1) (some array) items)
    (bases : 0 < b) (place : Nat) (inside : place * b ^ n < items.length)
    : ∃ child, array.child place = some child
        ∧ Holds b n (some child) (chunk (b ^ n) place items) := by
  have held := holds.2.2 place
  cases found : array.child place with
  | none =>
      rw [found] at held
      have nothing : chunk (b ^ n) place items = [] := by simpa only [Holds] using held
      have beyond := (chunk_eq_nil_iff (Nat.pow_pos bases)).mp nothing
      omega
  | some child =>
      rw [found] at held
      exact ⟨child, rfl, held⟩

/-- There are no children beyond the items. -/
theorem Holds.child_none {array : Tree α (n + 1)} (holds : Holds b (n + 1) (some array) items)
    {place : Nat} (bases : 0 < b) (beyond : items.length ≤ place * b ^ n)
    : array.child place = none := by
  have held := holds.2.2 place
  rw [(chunk_eq_nil_iff (Nat.pow_pos bases)).mpr beyond] at held
  cases found : array.child place with
  | none => rfl
  | some child =>
      rw [found] at held
      exact (held.ne_nil rfl).elim

/-- The chunks from one on are a part of the list. -/
theorem take_chunks (width place count : Nat) (items : List α)
    : (items.drop (place * width)).take ((count + 1) * width)
      = chunk width place items
        ++ (items.drop ((place + 1) * width)).take (count * width) := by
  have whole : (count + 1) * width = width + count * width := by rw [Nat.succ_mul, Nat.add_comm]
  rw [whole, List.take_add, List.drop_drop, ← Nat.succ_mul]
  rfl

/-- A part of the next chunk goes on where the chunks before it end. -/
theorem take_append_chunk {m : Nat} (width place : Nat) (items : List α) (part : m ≤ width)
    : items.take (place * width) ++ (chunk width place items).take m
      = items.take (place * width + m) := by
  rw [chunk, List.take_take, Nat.min_eq_left part, List.take_add]

theorem take_append_chunk_all (width place : Nat) (items : List α)
    : items.take (place * width) ++ chunk width place items
      = items.take ((place + 1) * width) := by
  rw [Nat.succ_mul, List.take_add]
  rfl

end PacketDissector.Library.Radix
