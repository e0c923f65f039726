import Mathlib.Data.List.TakeWhile
import PacketDissector.Sharkd.Frames

/-! The slice of frames that a request asks for, and the slice that the loop of the frames
request walks through.
-/

namespace PacketDissector.Sharkd

open PacketDissector.Library PacketDissector.Wsutil

/-- A row: its frame, the reference frame and the frame displayed before it. -/
structure DissectedRow where
  num : Nat
  frameRefNum : Nat
  prevDisNum : Nat
  deriving DecidableEq, Repr

/-- The reference frame of a frame: the largest of refs up to it, or the first frame for all
others.
-/
def refFrameFor (refs : List Nat) (f : Nat) : Nat :=
  match (refs.filter fun r => r ≤ f).max? with
  | some r => r
  | none => if f = 1 then 0 else 1

/-- The slice of a list; a limit of 0 is none. -/
def slice {α : Type} (skip limit : Nat) (items : List α) : List α :=
  if limit = 0 then items.drop skip else (items.drop skip).take limit

/-- The row of a frame, after the frame that was displayed before it. -/
def rowAfter (refs : List Nat) (f before : Nat) : DissectedRow := ⟨f, refFrameFor refs f, before⟩

/-- The rows of the frames up to n that pass, sliced. -/
def requestedRows (passes : Nat → Bool) (n skip limit : Nat) (refs : List Nat)
    : List DissectedRow :=
  let shown := (List.range' 1 n).filter passes
  slice skip limit (List.zipWith (rowAfter refs) shown (0 :: shown))

/-- The attribute refs of a list of frame numbers. -/
def refsText : List Nat → Option String
  | [] => none
  | r :: rest => some (String.ofList (decimal r ++ rest.flatMap fun r => ',' :: decimal r))

/-- The text after a number of refs. -/
def laterRefs (rest : List Nat) : List Char := rest.flatMap fun r => ',' :: decimal r

/-- The cursor after some of refs, with those that are left. -/
def cursorAt (current : Nat) (future : List Nat) : RefsCursor :=
  ⟨laterRefs future.tail, current, future.head?.getD gMaxUint32⟩

theorem laterRefs_endsNumber (rest : List Nat) : EndsNumber (laterRefs rest) := by
  refine endsNumber_of_comma fun c head => ?_
  cases rest with
  | nil => cases head
  | cons r rest =>
      obtain rfl := Option.some.inj head
      rfl

/-- One number of refs that is reached, when another one follows. -/
theorem catchUp_step {framenum current next r : Nat} {rest : List Nat}
    (reached : next ≤ framenum) (small : r < 2 ^ 32)
    : RefsCursor.catchUp framenum (laterRefs (r :: rest)) current next
      = RefsCursor.catchUp framenum (laterRefs rest) next r := by
  have text : laterRefs (r :: rest) = ',' :: (decimal r ++ laterRefs rest) := by
    simp [laterRefs]
  have read := wsStrtou32Endptr_decimal small (laterRefs_endsNumber rest)
  rw [text, RefsCursor.catchUp]
  simp only [ge_iff_le, reached, if_true, read]

/-- A number of refs that is not reached stops the loop. -/
theorem catchUp_stop {framenum current next : Nat} {rest : List Nat}
    (notReached : framenum < next)
    : RefsCursor.catchUp framenum (laterRefs rest) current next
      = ⟨laterRefs rest, current, next⟩ := by
  cases rest with
  | nil => simp [laterRefs, RefsCursor.catchUp]
  | cons r rest =>
      have text : laterRefs (r :: rest) = ',' :: (decimal r ++ laterRefs rest) := by
        simp [laterRefs]
      rw [text, RefsCursor.catchUp]
      simp only [ge_iff_le, Nat.not_le.mpr notReached, if_false]

/-- From a number that is reached, the loop and what follows it find the last number that is
reached, by induction over the numbers that follow.
-/
theorem settle_catchUp {framenum : Nat} (rest : List Nat) (current next : Nat)
    (reached : next ≤ framenum) (increasing : (next :: rest).Pairwise (· < ·))
    (small : ∀ r ∈ rest, r < 2 ^ 32)
    : (RefsCursor.catchUp framenum (laterRefs rest) current next).settle framenum
      = cursorAt (((next :: rest).takeWhile (· ≤ framenum)).getLastD 0)
          ((next :: rest).dropWhile (· ≤ framenum)) := by
  induction rest generalizing current next with
  | nil =>
      simp [laterRefs, RefsCursor.catchUp, RefsCursor.settle, reached, cursorAt]
  | cons r rest ih =>
      rw [catchUp_step reached (small r List.mem_cons_self)]
      by_cases here : r ≤ framenum
      · rw [ih next r here increasing.of_cons fun q member =>
          small q (List.mem_cons_of_mem _ member)]
        simp [reached, here]
      · rw [catchUp_stop (Nat.lt_of_not_le here)]
        simp [reached, here, cursorAt, RefsCursor.settle]

/-- A frame below 2^32 - 1 moves the cursor past the refs up to it. -/
theorem advance_cursorAt {f : Nat} (current : Nat) (future : List Nat)
    (increasing : future.Pairwise (· < ·)) (small : ∀ r ∈ future, r < 2 ^ 32)
    (below : f < gMaxUint32)
    : (cursorAt current future).advance f
      = cursorAt ((future.takeWhile (· ≤ f)).getLastD current) (future.dropWhile (· ≤ f)) := by
  cases future with
  | nil =>
      have notReached : ¬ f ≥ gMaxUint32 := Nat.not_le.mpr below
      simp [RefsCursor.advance, cursorAt, notReached]
  | cons next rest =>
      by_cases reached : next ≤ f
      · have last : ((next :: rest).takeWhile (· ≤ f)).getLastD current
            = ((next :: rest).takeWhile (· ≤ f)).getLastD 0 := by
          simp [reached, List.getLastD_eq_getLast?, List.getLast?_cons]
        rw [last, ← settle_catchUp rest next next reached increasing fun r member =>
          small r (List.mem_cons_of_mem _ member)]
        cases rest with
        | nil =>
            have notEnd : ¬ gMaxUint32 ≤ f := Nat.not_le.mpr below
            simp [RefsCursor.advance, cursorAt, reached, laterRefs, RefsCursor.catchUp,
              RefsCursor.settle, notEnd]
        | cons r rest =>
            simp [RefsCursor.advance, cursorAt, reached, laterRefs]
      · simp [RefsCursor.advance, cursorAt, reached]

/-- The cursor after the refs up to a frame. -/
def cursorFor (refs : List Nat) (g : Nat) : RefsCursor :=
  cursorAt ((refs.takeWhile (· ≤ g)).getLastD 0) (refs.dropWhile (· ≤ g))

/-- The refs up to one frame and then up to a later one, by induction over refs. -/
theorem takeWhile_dropWhile_le {g f : Nat} (later : g ≤ f) (refs : List Nat)
    : refs.takeWhile (· ≤ f)
        = refs.takeWhile (· ≤ g) ++ (refs.dropWhile (· ≤ g)).takeWhile (· ≤ f)
      ∧ refs.dropWhile (· ≤ f) = (refs.dropWhile (· ≤ g)).dropWhile (· ≤ f) := by
  induction refs with
  | nil => simp
  | cons r rest ih =>
      by_cases early : r ≤ g
      · simp [early, Nat.le_trans early later, ih.1, ih.2]
      · simp [early]

theorem getLastD_append (first rest : List Nat) (d : Nat)
    : (first ++ rest).getLastD d = rest.getLastD (first.getLastD d) := by
  cases rest with
  | nil => simp
  | cons r rest => simp

/-- A later frame moves the cursor on to it. -/
theorem advance_cursorFor {refs : List Nat} {g f : Nat} (increasing : refs.Pairwise (· < ·))
    (small : ∀ r ∈ refs, r < 2 ^ 32) (later : g ≤ f) (below : f < gMaxUint32)
    : (cursorFor refs g).advance f = cursorFor refs f := by
  have inRefs : ∀ r ∈ refs.dropWhile (· ≤ g), r ∈ refs := fun r member =>
    (List.dropWhile_suffix _).subset member
  obtain ⟨taken, dropped⟩ := takeWhile_dropWhile_le later refs
  rw [cursorFor, advance_cursorAt _ _ (increasing.sublist (List.dropWhile_sublist _))
    (fun r member => small r (inRefs r member)) below, cursorFor, taken, dropped,
    getLastD_append]

/-- The rows that the loop over the frames shows when no filter has data. -/
def walkedRows : Nat → Nat → FramesCursor → List DissectedRow
  | 0, _, _ => []
  | left + 1, framenum, cursor =>
      if cursor.skip > 0 then
        walkedRows left (framenum + 1)
          { cursor with skip := cursor.skip - 1, prevDisNum := framenum }
      else
        let cursor := cursor.advance framenum
        ⟨framenum, cursor.refFrame framenum, cursor.prevDisNum⟩
          :: if cursor.limit = 1 then []
            else
              walkedRows left (framenum + 1)
                { cursor with prevDisNum := framenum, limit := cursor.limit - 1 }

/-- The limit is reached before the frames that are left run out. -/
def FramesCursor.Stops (cursor : FramesCursor) (left : Nat) : Prop :=
  cursor.limit ≠ 0 ∧ cursor.skip + cursor.limit ≤ left

/-- The cursor into refs, unless there are none. -/
def refsCursor (refs : List Nat) (g : Nat) : Option RefsCursor :=
  if refs = [] then none else some (cursorFor refs g)

/-- The row that the loop shows for a frame, when the refs up to g are behind its cursor. -/
def walkedRow (refs : List Nat) (g f before : Nat) : DissectedRow :=
  let cursor : FramesCursor := ⟨0, 0, before, refsCursor refs g⟩
  ⟨f, (cursor.advance f).refFrame f, before⟩

variable {α β : Type}

theorem slice_skip (skip limit : Nat) (item : α) (items : List α)
    : slice (skip + 1) limit (item :: items) = slice skip limit items := by
  simp [slice]

theorem slice_last (item : α) (items : List α) : slice 0 1 (item :: items) = [item] := by
  simp [slice]

theorem slice_more {limit : Nat} (more : limit ≠ 1) (item : α) (items : List α)
    : slice 0 limit (item :: items) = item :: slice 0 (limit - 1) items := by
  rcases limit with - | - | limit
  · simp [slice]
  · cases more rfl
  · simp [slice]

theorem slice_map (f : α → β) (skip limit : Nat) (items : List α)
    : slice skip limit (items.map f) = (slice skip limit items).map f := by
  simp only [slice, List.map_drop, List.map_take, apply_ite (List.map f)]

/-- A later frame below 2^32 - 1 moves the cursor on to it, if there is one. -/
theorem advance_refsCursor {refs : List Nat} {g f : Nat} (increasing : refs.Pairwise (· < ·))
    (small : ∀ r ∈ refs, r < 2 ^ 32) (later : g ≤ f) (below : f < gMaxUint32)
    : (refsCursor refs g).map (fun (cursor : RefsCursor) => cursor.advance f)
      = refsCursor refs f := by
  by_cases empty : refs = []
  · simp [refsCursor, empty]
  · simp [refsCursor, empty, advance_cursorFor increasing small later below]

/-- The loop shows a slice of the frames; the cursor of the first of them starts at g, the
others at the frame before. Induction over the frames that are left.
-/
theorem walkedRows_eq {refs : List Nat} (increasing : refs.Pairwise (· < ·))
    (small : ∀ r ∈ refs, r < 2 ^ 32) (left framenum skip limit g : Nat) (later : g ≤ framenum)
    (first : 1 ≤ framenum) (bound : framenum + left ≤ gMaxUint32 + 1)
    : walkedRows left framenum ⟨skip, limit, framenum - 1, refsCursor refs g⟩
      = slice skip limit ((List.range' framenum left).map fun f =>
          walkedRow refs (if f = framenum + skip then g else f - 1) f (f - 1)) := by
  induction left generalizing framenum skip limit g with
  | zero => simp [walkedRows, slice]
  | succ left ih =>
      rw [List.range'_succ, List.map_cons]
      rcases skip with - | skip
      · have notSkipped : ¬ (0 : Nat) > 0 := by decide
        simp only [walkedRows, notSkipped, if_false, Nat.add_zero, if_true]
        by_cases last : limit = 1
        · simp only [FramesCursor.advance, last, if_true, slice_last]
          rfl
        · simp only [FramesCursor.advance, last, if_false, slice_more last]
          congr 1
          cases left with
          | zero => simp [walkedRows, slice]
          | succ left =>
              rw [advance_refsCursor increasing small later (by omega)]
              have next := ih (framenum + 1) 0 (limit - 1) framenum (by omega) (by omega)
                (by omega)
              rw [Nat.add_sub_cancel] at next
              rw [next]
              congr 1
              refine List.map_congr_left fun f member => ?_
              have after : framenum + 1 ≤ f := (List.mem_range'_1.mp member).1
              have notFirst : f ≠ framenum := by omega
              by_cases second : f = framenum + 1
              · simp [second]
              · simp [second, notFirst]
      · have skipped : skip + 1 > 0 := Nat.succ_pos skip
        simp only [walkedRows, skipped, if_true, Nat.add_sub_cancel, slice_skip]
        have next := ih (framenum + 1) skip limit g (by omega) (by omega) (by omega)
        rw [Nat.add_sub_cancel] at next
        rw [next]
        have same : framenum + 1 + skip = framenum + (skip + 1) := by omega
        rw [same]

/-- Refs in their proper form: increasing positive 32-bit frame numbers. -/
structure RefsOk (refs : List Nat) : Prop where
  increasing : refs.Pairwise (· < ·)
  positive : ∀ r ∈ refs, 0 < r
  small : ∀ r ∈ refs, r < 2 ^ 32

/-- In an increasing list the numbers up to a bound come first, by induction. -/
theorem filter_eq_takeWhile {refs : List Nat} (increasing : refs.Pairwise (· < ·)) (f : Nat)
    : refs.filter (fun r => r ≤ f) = refs.takeWhile (· ≤ f) := by
  induction refs with
  | nil => rfl
  | cons r rest ih =>
      by_cases reached : r ≤ f
      · simp [reached, ih increasing.of_cons]
      · have later : ∀ q ∈ rest, f < q := fun q member =>
          Nat.lt_trans (Nat.lt_of_not_le reached)
            (List.rel_of_pairwise_cons increasing member)
        simpa [reached] using later

/-- The last number of an increasing list is its largest, by induction. -/
theorem max?_eq_getLast? {refs : List Nat} (increasing : refs.Pairwise (· < ·))
    : refs.max? = refs.getLast? := by
  rcases List.eq_nil_or_concat refs with rfl | ⟨before, r, rfl⟩
  · rfl
  · rw [List.concat_eq_append] at increasing ⊢
    rw [List.getLast?_concat, List.max?_eq_some_iff]
    refine ⟨by simp, fun q member => ?_⟩
    rcases List.mem_append.mp member with earlier | last
    · exact Nat.le_of_lt ((List.pairwise_append.mp increasing).2.2 q earlier r (by simp))
    · exact Nat.le_of_eq (List.mem_singleton.mp last)

/-- The reference frame of a frame by the last of refs up to it. -/
theorem refFrameFor_eq {refs : List Nat} (ok : RefsOk refs) (f : Nat)
    : refFrameFor refs f
      = if (refs.takeWhile (· ≤ f)).getLastD 0 ≠ 0 then (refs.takeWhile (· ≤ f)).getLastD 0
        else if f ≠ 1 then 1 else 0 := by
  have some_max : (refs.filter fun r => r ≤ f).max? = (refs.takeWhile (· ≤ f)).getLast? := by
    rw [filter_eq_takeWhile ok.increasing,
      max?_eq_getLast? (ok.increasing.sublist (List.takeWhile_sublist _))]
  simp only [refFrameFor, some_max, List.getLastD_eq_getLast?]
  cases last : (refs.takeWhile (· ≤ f)).getLast? with
  | none => by_cases one : f = 1 <;> simp [one]
  | some r =>
      have member : r ∈ refs :=
        (List.takeWhile_sublist _).subset (List.mem_of_getLast? last)
      have notZero : r ≠ 0 := Nat.ne_of_gt (ok.positive r member)
      simp [notZero]

/-- Below 2^32 - 1 the loop shows a frame with its reference frame. -/
theorem walkedRow_below {refs : List Nat} {g f : Nat} (ok : RefsOk refs) (later : g ≤ f)
    (below : f < gMaxUint32) (before : Nat)
    : walkedRow refs g f before = rowAfter refs f before := by
  have moved := advance_refsCursor ok.increasing ok.small later below
  simp only [walkedRow, FramesCursor.advance, FramesCursor.refFrame, moved, rowAfter,
    refFrameFor_eq ok f]
  by_cases empty : refs = []
  · simp [refsCursor, empty]
  · simp [refsCursor, empty, cursorFor, cursorAt]

/-- At frame 2^32 - 1 the cursor takes the end of refs for a reference frame, unless two of
refs or more are left.
-/
theorem advance_cursorAt_last (current : Nat) (future : List Nat)
    (increasing : future.Pairwise (· < ·)) (small : ∀ r ∈ future, r < 2 ^ 32)
    : ((cursorAt current future).advance gMaxUint32).currentRefFrame
      = if 2 ≤ future.length then future.getLastD 0 else gMaxUint32 := by
  have reached : ∀ r ∈ future, r ≤ gMaxUint32 := fun r member =>
    Nat.le_pred_of_lt (small r member)
  rcases future with - | ⟨next, - | ⟨r, rest⟩⟩
  · simp [RefsCursor.advance, RefsCursor.catchUp, RefsCursor.settle, cursorAt, laterRefs]
  · have here : next ≤ gMaxUint32 := reached next (by simp)
    simp [RefsCursor.advance, RefsCursor.catchUp, RefsCursor.settle, cursorAt, laterRefs, here]
  · have here : next ≤ gMaxUint32 := reached next (by simp)
    have settled := settle_catchUp (r :: rest) next next here increasing fun q member =>
      small q (List.mem_cons_of_mem _ member)
    have all : (next :: r :: rest).takeWhile (· ≤ gMaxUint32) = next :: r :: rest :=
      List.takeWhile_eq_self_iff.mpr fun q member => by simpa using reached q member
    rw [all] at settled
    have text : (laterRefs (r :: rest)).head? = some ',' := by simp [laterRefs]
    simp only [RefsCursor.advance, cursorAt, List.tail_cons, List.head?_cons, Option.getD_some,
      ge_iff_le, here, if_true, text, ne_eq, not_true_eq_false, if_false, settled]
    simp

/-- The largest of refs is their last. -/
theorem refFrameFor_last {refs : List Nat} (ok : RefsOk refs) (nonempty : refs ≠ [])
    : refFrameFor refs gMaxUint32 = refs.getLastD 0
      ∧ (refs.getLastD 0 = gMaxUint32 ↔ gMaxUint32 ∈ refs) := by
  have reached : ∀ r ∈ refs, r ≤ gMaxUint32 := fun r member =>
    Nat.le_pred_of_lt (ok.small r member)
  have all : refs.takeWhile (· ≤ gMaxUint32) = refs :=
    List.takeWhile_eq_self_iff.mpr fun r member => by simpa using reached r member
  obtain ⟨before, r, rfl⟩ := (List.eq_nil_or_concat refs).resolve_left nonempty
  rw [List.concat_eq_append] at *
  have positive : r ≠ 0 := Nat.ne_of_gt (ok.positive r (by simp))
  refine ⟨by simp [refFrameFor_eq ok, all, positive], ?_⟩
  rw [List.getLastD_concat, List.mem_append, List.mem_singleton]
  refine ⟨fun same => Or.inr same.symm, fun member => ?_⟩
  rcases member with earlier | last
  · have below := (List.pairwise_append.mp ok.increasing).2.2 _ earlier r (by simp)
    exact (Nat.not_lt.mpr (reached r (by simp)) below).elim
  · exact last.symm

/-- Frame 2^32 - 1 is shown with its reference frame exactly when there are no refs, it is
one of them itself, or two of refs or more are left.
-/
theorem walkedRow_last_iff {refs : List Nat} {g : Nat} (ok : RefsOk refs) (before : Nat)
    : walkedRow refs g gMaxUint32 before = rowAfter refs gMaxUint32 before
      ↔ refs = [] ∨ gMaxUint32 ∈ refs ∨ 2 ≤ (refs.dropWhile (· ≤ g)).length := by
  by_cases empty : refs = []
  · subst empty
    simp [walkedRow, rowAfter, refsCursor, FramesCursor.advance, FramesCursor.refFrame,
      refFrameFor, gMaxUint32]
  · have inRefs := List.dropWhile_sublist (l := refs) (· ≤ g)
    have current := advance_cursorAt_last ((refs.takeWhile (· ≤ g)).getLastD 0)
      (refs.dropWhile (· ≤ g)) (ok.increasing.sublist inRefs)
      fun r member => ok.small r (inRefs.subset member)
    obtain ⟨last, isLast⟩ := refFrameFor_last ok empty
    have current' : ((cursorFor refs g).advance gMaxUint32).currentRefFrame
        = if 2 ≤ (refs.dropWhile (· ≤ g)).length then refs.getLastD 0 else gMaxUint32 := by
      rw [cursorFor, current]
      split
      · rename_i two
        have nonempty : refs.dropWhile (· ≤ g) ≠ [] := by
          intro none_left
          simp [none_left] at two
        have whole := getLastD_append (refs.takeWhile (· ≤ g)) (refs.dropWhile (· ≤ g)) 0
        rw [List.takeWhile_append_dropWhile] at whole
        obtain ⟨r, rest, left⟩ := List.exists_cons_of_ne_nil nonempty
        rw [whole, left, List.getLastD_cons, List.getLastD_cons]
      · rfl
    have positive : ((cursorFor refs g).advance gMaxUint32).currentRefFrame ≠ 0 := by
      have lastMember : refs.getLastD 0 ∈ refs := by
        rw [List.getLastD_eq_getLast?, List.getLast?_eq_some_getLast empty]
        exact List.getLast_mem empty
      rw [current']
      split
      · exact Nat.ne_of_gt (ok.positive _ lastMember)
      · decide
    have shown : walkedRow refs g gMaxUint32 before = rowAfter refs gMaxUint32 before
        ↔ (if 2 ≤ (refs.dropWhile (· ≤ g)).length then refs.getLastD 0 else gMaxUint32)
          = refs.getLastD 0 := by
      rw [← current', ← last]
      simp [walkedRow, rowAfter, FramesCursor.advance, FramesCursor.refFrame, refsCursor, empty,
        positive]
    rw [shown]
    by_cases two : 2 ≤ (refs.dropWhile (· ≤ g)).length
    · simp only [two, if_true, or_true]
    · simp only [two, if_false, empty, false_or, or_false, ← isLast, eq_comm]

end PacketDissector.Sharkd
