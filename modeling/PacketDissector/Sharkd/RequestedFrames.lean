import PacketDissector.Sharkd.FrameSlices

/-! When the slice that the loop of the frames request walks through is the requested one. -/

namespace PacketDissector.Sharkd

variable {α : Type} {passes : Nat → Bool} {refs : List Nat}

/-- The frames shown in a slice of all frames pass. -/
def ShownPass (passes : Nat → Bool) (n skip limit : Nat) : Prop :=
  n ≤ skip ∨ ∀ f, 1 ≤ f → f ≤ n → (limit = 0 ∨ f ≤ skip + limit) → passes f = true

theorem slice_short {skip limit : Nat} {items : List α} (short : items.length ≤ skip)
    : slice skip limit items = [] := by
  simp [slice, List.drop_eq_nil_of_le short]

/-- The first item of a slice is the one after those that are skipped. -/
theorem slice_head? (skip limit : Nat) (items : List α)
    : (slice skip limit items)[0]? = items[skip]? := by
  rcases limit with - | limit
  · simp [slice]
  · simp [slice]

/-- A frame that passes is not before its place, by induction over the frames. -/
theorem le_of_filter_range' {f n : Nat} (first i : Nat)
    (found : ((List.range' first n).filter passes)[i]? = some f)
    : first + i ≤ f := by
  induction n generalizing first i with
  | zero => simp at found
  | succ n ih =>
      rw [List.range'_succ] at found
      by_cases here : passes first = true
      · rw [List.filter_cons_of_pos here] at found
        rcases i with - | i
        · have same : first = f := by simpa using found
          omega
        · have later := ih (first + 1) i (by simpa using found)
          omega
      · rw [List.filter_cons_of_neg here] at found
        have later := ih (first + 1) i found
        omega

/-- Where the frames of a slice pass, filtering changes none of its rows. Induction over the
frames, with the frame before them.
-/
theorem slice_filter (row : Nat → Nat → α) (first n skip limit before : Nat)
    (pass : n ≤ skip ∨ ∀ f, first ≤ f → f < first + n → (limit = 0 ∨ f < first + skip + limit) →
      passes f = true)
    : slice skip limit (List.zipWith row ((List.range' first n).filter passes)
        (before :: (List.range' first n).filter passes))
      = slice skip limit (List.zipWith row (List.range' first n)
          (before :: List.range' first n)) := by
  induction n generalizing first skip limit before with
  | zero => rfl
  | succ n ih =>
      by_cases all_skipped : n + 1 ≤ skip
      · have filtered := List.length_filter_le passes (List.range' first (n + 1))
        rw [List.length_range'] at filtered
        rw [slice_short, slice_short]
        · simp only [List.length_zipWith, List.length_range', List.length_cons]
          omega
        · simp only [List.length_zipWith, List.length_cons]
          omega
      · have pass := pass.resolve_left all_skipped
        have here : passes first = true := pass first (Nat.le_refl _) (by omega) (by omega)
        rw [List.range'_succ, List.filter_cons_of_pos here, List.zipWith_cons_cons,
          List.zipWith_cons_cons]
        rcases skip with - | skip
        · by_cases last : limit = 1
          · rw [last, slice_last, slice_last]
          · rw [slice_more last, slice_more last]
            refine congrArg _ (ih (first + 1) 0 (limit - 1) first (Or.inr fun f after inside => ?_))
            intro shown
            exact pass f (by omega) (by omega) (by omega)
        · rw [slice_skip, slice_skip]
          refine ih (first + 1) skip limit first (Or.inr fun f after inside shown => ?_)
          exact pass f (by omega) (by omega) (by omega)

/-- Where filtering changes none of the frames of a slice, they pass. Induction over the
frames; a frame that is left out moves a later one to its place.
-/
theorem pass_of_slice_filter (first n skip limit : Nat)
    (same : slice skip limit ((List.range' first n).filter passes)
      = slice skip limit (List.range' first n))
    : n ≤ skip ∨ ∀ f, first ≤ f → f < first + n → (limit = 0 ∨ f < first + skip + limit) →
      passes f = true := by
  induction n generalizing first skip limit with
  | zero => exact Or.inl (Nat.zero_le _)
  | succ n ih =>
      by_cases all_skipped : n + 1 ≤ skip
      · exact Or.inl all_skipped
      · right
        rw [List.range'_succ] at same
        by_cases here : passes first = true
        · rw [List.filter_cons_of_pos here] at same
          intro f after inside shown
          rcases Nat.eq_or_lt_of_le after with rfl | later
          · exact here
          · rcases skip with - | skip
            · by_cases last : limit = 1
              · omega
              · rw [slice_more last, slice_more last] at same
                rcases ih (first + 1) 0 (limit - 1) (List.cons.inj same).2 with short | pass
                · omega
                · exact pass f later (by omega) (by omega)
            · rw [slice_skip, slice_skip] at same
              rcases ih (first + 1) skip limit same with short | pass
              · omega
              · exact pass f later (by omega) (by omega)
        · rw [List.filter_cons_of_neg here] at same
          have heads := congrArg (fun items : List Nat => items[0]?) same
          simp only [slice_head?] at heads
          rw [← List.range'_succ, List.getElem?_range' (by omega)] at heads
          have place := le_of_filter_range' _ _ heads
          omega

/-- Without a filter the frame before a frame is the one with the number before. -/
theorem zipWith_range' (row : Nat → Nat → α) (before n : Nat)
    : List.zipWith row (List.range' (before + 1) n) (before :: List.range' (before + 1) n)
      = (List.range' (before + 1) n).map fun f => row f (f - 1) := by
  induction n generalizing before with
  | zero => rfl
  | succ n ih =>
      rw [List.range'_succ, List.zipWith_cons_cons, ih (before + 1), List.map_cons,
        Nat.add_sub_cancel]

/-- The frame numbers of the requested rows. -/
theorem requestedRows_num (passes : Nat → Bool) (n skip limit : Nat) (refs : List Nat)
    : (requestedRows passes n skip limit refs).map DissectedRow.num
      = slice skip limit ((List.range' 1 n).filter passes) := by
  have nums : ∀ (before : Nat) (shown : List Nat),
      (List.zipWith (rowAfter refs) shown (before :: shown)).map DissectedRow.num = shown := by
    intro before shown
    induction shown generalizing before with
    | nil => rfl
    | cons f rest ih => simp only [List.zipWith_cons_cons, List.map_cons, ih f, rowAfter]
  rw [requestedRows, ← slice_map, nums]

/-- The rows of a slice in which every frame passes are the rows without a filter. -/
theorem requestedRows_of_pass {n skip limit : Nat} (pass : ShownPass passes n skip limit)
    : requestedRows passes n skip limit refs
      = slice skip limit ((List.range' 1 n).map fun f => rowAfter refs f (f - 1)) := by
  have reached : n ≤ skip ∨ ∀ f, 1 ≤ f → f < 1 + n → (limit = 0 ∨ f < 1 + skip + limit) →
      passes f = true :=
    pass.imp_right fun each f after inside shown => each f after (by omega) (by omega)
  rw [requestedRows, slice_filter (rowAfter refs) 1 n skip limit 0 reached]
  exact congrArg _ (zipWith_range' _ 0 n)

/-- Only then are their frames the frames without a filter. -/
theorem pass_of_requestedRows {n skip limit : Nat} {rows : List DissectedRow}
    (same : requestedRows passes n skip limit refs = rows)
    (unfiltered : rows.map DissectedRow.num = slice skip limit (List.range' 1 n))
    : ShownPass passes n skip limit := by
  rw [← same, requestedRows_num] at unfiltered
  exact (pass_of_slice_filter 1 n skip limit unfiltered).imp_right
    fun each f after inside shown => each f after (by omega) (by omega)

/-- A frame of a slice without a filter. -/
theorem mem_slice_range' {f n skip limit : Nat}
    : f ∈ slice skip limit (List.range' 1 n)
      ↔ skip < f ∧ f ≤ n ∧ (limit = 0 ∨ f ≤ skip + limit) := by
  have dropped : (List.range' 1 n).drop skip = List.range' (1 + skip) (n - skip) := by
    rw [List.drop_range', Nat.mul_one]
  rcases limit with - | limit
  · simp only [slice, if_true, dropped, List.mem_range'_1, true_or, and_true]
    constructor <;> intro <;> omega
  · have limited : ¬ limit + 1 = 0 := by omega
    simp only [slice, limited, if_false, dropped, false_or]
    rcases Nat.le_total (n - skip) (limit + 1) with few | many
    · rw [List.take_range'_of_length_le few, List.mem_range'_1]
      constructor <;> intro <;> omega
    · rw [List.take_range'_of_length_ge many, List.mem_range'_1]
      constructor <;> intro <;> omega

/-- The place of the first frame of a request in refs is not past any of them. -/
theorem dropWhile_zero (ok : RefsOk refs) : refs.dropWhile (· ≤ 0) = refs := by
  cases refs with
  | nil => rfl
  | cons r rest =>
      have positive := ok.positive r List.mem_cons_self
      simp [Nat.ne_of_gt positive]

/-- Only 2^32 - 1 itself can be left of refs after the frame before it. -/
theorem dropWhile_last (ok : RefsOk refs)
    : (refs.dropWhile (· ≤ gMaxUint32 - 1)).length < 2 := by
  rcases left : refs.dropWhile (· ≤ gMaxUint32 - 1) with - | ⟨r, - | ⟨q, rest⟩⟩
  · simp
  · simp
  · have increasing := ok.increasing.sublist (List.dropWhile_sublist (· ≤ gMaxUint32 - 1))
    rw [left] at increasing
    have above : r < q := List.rel_of_pairwise_cons increasing (by simp)
    have inRefs : q ∈ refs :=
      (List.dropWhile_sublist (· ≤ gMaxUint32 - 1)).subset (left ▸ by simp)
    have notReached := List.head?_dropWhile_not (fun r => decide (r ≤ gMaxUint32 - 1)) refs
    rw [left] at notReached
    have bound := ok.small q inRefs
    have limit : gMaxUint32 = 2 ^ 32 - 1 := rfl
    simp only [List.head?_cons, decide_eq_false_iff_not] at notReached
    omega

/-- The loop shows the rows of the unfiltered slice exactly when frame 2^32 - 1, if it is one
of them, has its reference frame.
-/
theorem walkedRows_iff {n : Nat} (ok : RefsOk refs) (skip limit : Nat) (small : n ≤ gMaxUint32)
    : walkedRows n 1 ⟨skip, limit, 0, refsCursor refs 0⟩
        = slice skip limit ((List.range' 1 n).map fun f => rowAfter refs f (f - 1))
      ↔ (gMaxUint32 ∈ slice skip limit (List.range' 1 n) →
          refs = [] ∨ gMaxUint32 ∈ refs ∨ (gMaxUint32 = skip + 1 ∧ 2 ≤ refs.length)) := by
  have walked := walkedRows_eq ok.increasing ok.small n 1 skip limit 0 (by omega) (by omega)
    (by omega)
  have below : ∀ f, f < gMaxUint32 → walkedRow refs (if f = 1 + skip then 0 else f - 1) f (f - 1)
      = rowAfter refs f (f - 1) := fun f isBelow =>
    walkedRow_below ok (by split <;> omega) isBelow _
  have last : walkedRow refs (if gMaxUint32 = 1 + skip then 0 else gMaxUint32 - 1) gMaxUint32
        (gMaxUint32 - 1) = rowAfter refs gMaxUint32 (gMaxUint32 - 1)
      ↔ refs = [] ∨ gMaxUint32 ∈ refs ∨ (gMaxUint32 = skip + 1 ∧ 2 ≤ refs.length) := by
    rw [walkedRow_last_iff ok, Nat.add_comm 1 skip]
    by_cases only : gMaxUint32 = skip + 1
    · simp only [only, if_true, dropWhile_zero ok, true_and]
    · have few := Nat.not_le.mpr (dropWhile_last ok)
      simp only [only, if_false, few, false_and]
  rw [walked, slice_map, slice_map, List.map_inj_left, ← last]
  constructor
  · intro same member
    exact same gMaxUint32 member
  · intro same f member
    rcases Nat.lt_or_ge f gMaxUint32 with isBelow | top
    · exact below f isBelow
    · have bound := (mem_slice_range'.mp member).2.1
      obtain rfl : f = gMaxUint32 := by omega
      exact same member

end PacketDissector.Sharkd
