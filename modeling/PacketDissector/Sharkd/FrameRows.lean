import Mathlib.Data.List.Forall2
import PacketDissector.Sharkd.RowText

/-! The rows that the loop of the frames request writes, and what it hands to the frame
dissector for them.
-/

namespace PacketDissector.Sharkd

open PacketDissector.Library PacketDissector.Epan PacketDissector.Wsutil

/-- A capture of n frames, numbered from 1, is loaded, and no filter has data. -/
structure Session.Loaded (s : Session) (n : Nat) : Prop where
  count : s.cfile.count = n
  frames
    : ∃ frames, s.cfile.frames = some frames ∧ frames.length = n
        ∧ ∀ i fdata, frames[i]? = some fdata → fdata.num = i + 1
  unfiltered : ∀ entry ∈ s.filterTable, entry.2.filtered = none

/-- The frame of a row as it has to be handed to the frame dissector. -/
def CaptureFile.given (cfile : CaptureFile) (row : DissectedRow) : Option FrameData :=
  (frameDataSequenceFind cfile.frames row.num).map fun fdata =>
    fdata.prepared row.frameRefNum row.prevDisNum

/-- The frame of a row can be dissected into the columns of the capture file: its record can
be read, is of a known type, and makes a row.
-/
def CaptureFile.Dissects (cfile : CaptureFile) (dissectors : Dissectors) (row : DissectedRow)
    : Prop :=
  ∃ fdata recType text, frameDataSequenceFind cfile.frames row.num = some fdata
    ∧ dissectors.wtapSeekRead fdata = some recType ∧ recType ≤ 3
    ∧ RowOf dissectors cfile.cinfo (fdata.prepared row.frameRefNum row.prevDisNum) text

/-- What became of a row of a request: the frame that was handed to the frame dissector, with
the text that came of it, or a text that was written without a dissection.
-/
inductive RowShown (dissectors : Dissectors) (cfile : CaptureFile) (row : DissectedRow)
    : Option FrameData × Text → Prop where
  | dissected {fdata : FrameData} {text : Text} (given : cfile.given row = some fdata)
    (rowOf : RowOf dissectors cfile.cinfo fdata text) (dissects : cfile.Dissects dissectors row)
    : RowShown dissectors cfile row (some fdata, text)
  | unread {text : Text} (nonempty : text ≠ []) (fails : ¬ cfile.Dissects dissectors row)
    : RowShown dissectors cfile row (none, text)

/-- The frames from a number on and the columns are as they were in a state. -/
structure Session.Continues (start : Session) (n framenum : Nat) (s : Session)
    : Prop extends s.Loaded n where
  later
    : ∀ num, framenum ≤ num →
        frameDataSequenceFind s.cfile.frames num = frameDataSequenceFind start.cfile.frames num
  columns : colInit s.cfile.cinfo = colInit start.cfile.cinfo

/-- Since a state, some rows were shown in the array that was opened there. -/
structure Session.Shows (dissectors : Dissectors) (start : Session) (n framenum : Nat)
    (rows : List DissectedRow) (s : Session)
    : Prop extends start.Continues n framenum s where
  written
    : ∃ shown, List.Forall₂ (RowShown dissectors start.cfile) rows shown
        ∧ s.dissected = start.dissected ++ shown.filterMap Prod.fst
        ∧ s.dumper.Inside .array start.dumper (shown.map Prod.snd)

variable {dissectors : Dissectors} {s start : Session} {n framenum : Nat}
  {rows : List DissectedRow}

/-- The frames of a capture are found by their numbers. -/
theorem Session.Loaded.find (loaded : s.Loaded n) {num : Nat} (first : 1 ≤ num)
    (last : num ≤ n)
    : ∃ fdata, frameDataSequenceFind s.cfile.frames num = some fdata ∧ fdata.num = num := by
  obtain ⟨frames, known, length, numbered⟩ := loaded.frames
  have inside : num - 1 < frames.length := by omega
  have notZero : ¬ num = 0 := by omega
  refine ⟨frames[num - 1], by simp [frameDataSequenceFind, known, notZero, inside], ?_⟩
  rw [numbered _ _ (List.getElem?_eq_getElem inside)]
  omega

/-- The frame handed over for a row tells which row it is for. -/
theorem Session.Loaded.row_of_given (loaded : s.Loaded n) {row : DissectedRow}
    {fdata : FrameData} (given : s.cfile.given row = some fdata)
    : row = ⟨fdata.num, fdata.frameRefNum, fdata.prevDisNum⟩ := by
  obtain ⟨frames, known, -, numbered⟩ := loaded.frames
  simp only [CaptureFile.given, frameDataSequenceFind, known, Option.map_eq_some_iff,
    Option.ite_none_left_eq_some] at given
  obtain ⟨frame, ⟨notZero, found⟩, rfl⟩ := given
  have sameNum : frame.num = row.num := by
    rw [numbered _ _ found]
    omega
  simp only [FrameData.prepared, sameNum]

/-- A frame and its columns give one text, along lists of them. -/
theorem forall₂_rowOf_unique {cinfo : List ColumnItem} {given : List FrameData}
    {texts texts' : List Text} (first : List.Forall₂ (RowOf dissectors cinfo) given texts)
    (second : List.Forall₂ (RowOf dissectors cinfo) given texts')
    : texts = texts' := by
  induction first generalizing texts' with
  | nil =>
      cases second
      rfl
  | cons here _ ih =>
      cases second with
      | cons here' later' => rw [here.unique here', ih later']

/-- The rows with a dissection, by induction over the rows shown. -/
theorem forall₂_rowOf_shown {cfile : CaptureFile} {shown : List (Option FrameData × Text)}
    (same : List.Forall₂ (RowShown dissectors cfile) rows shown)
    : List.Forall₂ (RowOf dissectors cfile.cinfo) (shown.filterMap Prod.fst)
        ((shown.filter fun entry => entry.1.isSome).map Prod.snd) := by
  induction same with
  | nil => exact .nil
  | cons here _ ih =>
      cases here with
      | dissected _ rowOf _ => exact .cons rowOf ih
      | unread _ _ => exact ih

/-- What was shown of rows that were all dissected, by induction over them. -/
theorem forall₂_given_shown {cfile : CaptureFile} {shown : List (Option FrameData × Text)}
    (same : List.Forall₂ (RowShown dissectors cfile) rows shown)
    (all : (shown.filter fun entry => entry.1.isSome) = shown)
    : List.Forall₂ (fun row fdata => cfile.given row = some fdata) rows
        (shown.filterMap Prod.fst)
      ∧ ∀ row ∈ rows, cfile.Dissects dissectors row := by
  rw [List.filter_eq_self] at all
  induction same with
  | nil => exact ⟨.nil, by simp⟩
  | cons here _ ih =>
      obtain ⟨now, later⟩ := List.forall_mem_cons.mp all
      cases here with
      | dissected given _ dissects =>
          obtain ⟨givens, each⟩ := ih later
          exact ⟨.cons given givens, List.forall_mem_cons.mpr ⟨dissects, each⟩⟩
      | unread _ _ => cases now

/-- Rows that can be dissected are all shown with a dissection, by induction over them. -/
theorem shown_of_dissects {cfile : CaptureFile} {shown : List (Option FrameData × Text)}
    (same : List.Forall₂ (RowShown dissectors cfile) rows shown)
    (each : ∀ row ∈ rows, cfile.Dissects dissectors row)
    : (shown.filter fun entry => entry.1.isSome) = shown := by
  rw [List.filter_eq_self]
  induction same with
  | nil => simp
  | cons here _ ih =>
      obtain ⟨dissects, later⟩ := List.forall_mem_cons.mp each
      cases here with
      | dissected _ _ _ => exact List.forall_mem_cons.mpr ⟨rfl, ih later⟩
      | unread _ fails => exact (fails dissects).elim

/-- A row that is shown has a text. -/
theorem shown_ne_nil {cfile : CaptureFile} {shown : List (Option FrameData × Text)}
    (same : List.Forall₂ (RowShown dissectors cfile) rows shown)
    : ∀ text ∈ shown.map Prod.snd, text ≠ [] := by
  induction same with
  | nil => simp
  | cons here _ ih =>
      rw [List.map_cons]
      refine List.forall_mem_cons.mpr ⟨?_, ih⟩
      cases here with
      | dissected _ rowOf _ =>
          obtain ⟨columns, handle, fdata', texts, -, -, -, rfl⟩ := rowOf
          exact rowText_ne_nil _ _ _
      | unread nonempty _ => exact nonempty

/-- A frame that keeps its number may be changed. -/
theorem Session.Continues.updateFrame {num : Nat} {fdata : FrameData}
    (continues : start.Continues n framenum s) (numbered : fdata.num = num) (first : 1 ≤ num)
    (behind : num < framenum)
    : ∃ t, Returns (updateFrame num fdata) s ⟨⟩ t ∧ start.Continues n framenum t
        ∧ t.cfile.cinfo = s.cfile.cinfo ∧ t.dumper = s.dumper ∧ t.dissected = s.dissected := by
  obtain ⟨frames, known, length, numbers⟩ := continues.frames
  refine ⟨_, returns_modify _, ⟨⟨continues.count, ?_, continues.unfiltered⟩, ?_,
    continues.columns⟩, rfl, rfl, rfl⟩
  · refine ⟨frames.set (num - 1) fdata, by simp [known], by simp [length], ?_⟩
    intro i other found
    rw [List.getElem?_set] at found
    split at found
    · split at found
      · obtain rfl := Option.some.inj found
        omega
      · cases found
    · exact numbers i other found
  · intro other ahead
    rw [← continues.later other ahead]
    have notZero : ¬ other = 0 := by omega
    have apart : num - 1 ≠ other - 1 := by omega
    simp only [known, Option.map_some, frameDataSequenceFind, notZero, if_false]
    exact List.getElem?_set_ne apart

/-- A frame is dissected into the columns of the capture file, or its row is filled without a
dissection; the columns are ready for the next row in the end.
-/
theorem sharkdDissectColumns_capture (continues : start.Continues n framenum s)
    {row : DissectedRow} {fdata : FrameData} (here : row.num = framenum) (first : 1 ≤ framenum)
    (found : frameDataSequenceFind s.cfile.frames row.num = some fdata)
    (numbered : fdata.num = row.num)
    : Ends (sharkdDissectColumns dissectors row.num fdata row.frameRefNum row.prevDisNum .capture)
        s
        (fun result t => result.1 = .capture ∧ start.Continues n (framenum + 1) t
          ∧ t.dumper = s.dumper
          ∧ ((t.dissected = s.dissected ∧ ¬ start.cfile.Dissects dissectors row)
            ∨ ∃ given texts, start.cfile.given row = some given
              ∧ t.dissected = s.dissected ++ [given]
              ∧ t.cfile.cinfo.mapM ColumnItem.string = some texts
              ∧ RowOf dissectors start.cfile.cinfo given (rowText texts row.num result.2)
              ∧ start.cfile.Dissects dissectors row))
        fun _ => ¬ start.cfile.Dissects dissectors row := by
  have foundBefore := (continues.later row.num (by omega)).symm.trans found
  have ahead : start.Continues n (framenum + 1) s :=
    { continues with later := fun num after => continues.later num (by omega) }
  refine Returns.bind_ends returns_get ?_
  cases read : dissectors.wtapSeekRead fdata with
  | none =>
      have fails : ¬ start.cfile.Dissects dissectors row := by
        rintro ⟨fdata', recType, -, found', isRead, -⟩
        obtain rfl := Option.some.inj (foundBefore.symm.trans found')
        simp [read] at isRead
      simp only [RequestColumns.store, RequestColumns.columns]
      refine Returns.bind_ends (Returns.bind (returns_modify _) returns_pure) ?_
      refine returns_pure.ends ⟨rfl, { ahead with columns := ?_ }, rfl, Or.inl ⟨rfl, fails⟩⟩
      exact (colInit_colFillInError s.cfile.cinfo).trans ahead.columns
  | some recType =>
      simp only [RequestColumns.store, RequestColumns.columns]
      have record := dissectRecord_ends dissectors recType
        (fdata.prepared row.frameRefNum row.prevDisNum) s.cfile.cinfo s
      refine Ends.bind (record.imp (fun _ _ holds => holds) ?_) ?_
      · rintro stop fails ⟨fdata', recType', text, found', isRead, known, rowOf⟩
        obtain rfl := Option.some.inj (foundBefore.symm.trans found')
        obtain rfl := Option.some.inj (read.symm.trans isRead)
        refine fails ⟨known, text, ?_⟩
        simpa only [RowOf, continues.columns] using rowOf
      · rintro ⟨fdata', columns'⟩ t
          ⟨known, columns, handle, texts, init, isHandle, dissected, filled, rfl⟩
        simp only at filled dissected
        subst filled
        have sameNum : fdata'.num = row.num :=
          (handle.num _ _ _ dissected).trans numbered
        have noted : start.Continues n (framenum + 1)
            { s with
              dissected := s.dissected ++ [fdata.prepared row.frameRefNum row.prevDisNum] } :=
          { ahead with }
        obtain ⟨u, updated, continues', sameColumns, sameDumper, sameLog⟩ :=
          noted.updateFrame sameNum (here ▸ first) (by omega)
        refine Returns.bind_ends updated ?_
        refine Returns.bind_ends (Returns.bind (returns_modify _) returns_pure) ?_
        refine returns_pure.ends ⟨rfl, { continues' with columns := ?_ }, sameDumper, Or.inr ?_⟩
        · exact (colInit_filledColumns init texts).trans (init.symm.trans ahead.columns)
        · have givenNum : (fdata.prepared row.frameRefNum row.prevDisNum).num = row.num :=
            numbered
          have rowOf : RowOf dissectors start.cfile.cinfo
              (fdata.prepared row.frameRefNum row.prevDisNum)
              (rowText (columns.mapIdx fun i _ => texts i) row.num fdata') :=
            ⟨columns, handle, fdata', texts, ahead.columns.symm.trans init, isHandle, dissected,
              by rw [givenNum]⟩
          have given : start.cfile.given row
              = some (fdata.prepared row.frameRefNum row.prevDisNum) := by
            rw [CaptureFile.given, foundBefore, Option.map_some]
          exact ⟨_, _, given, sameLog, mapM_filledColumns columns texts, rowOf,
            fdata, recType, _, foundBefore, read, known, rowOf⟩

/-- A frame of the capture is shown as one more row, if anything is shown. -/
theorem showFrame_capture (row : DissectedRow) (here : row.num = framenum)
    (shows : start.Shows dissectors n framenum rows s)
    (idle : start.dumper.currentDepth = 0) (first : 1 ≤ framenum) (last : framenum ≤ n)
    : Ends (showFrame dissectors row.num row.frameRefNum row.prevDisNum .capture) s
        (fun cinfo t => cinfo = .capture
          ∧ start.Shows dissectors n (framenum + 1) (rows ++ [row]) t)
        fun _ => ¬ start.cfile.Dissects dissectors row := by
  obtain ⟨fdata, found, numbered⟩ :=
    shows.find (here.symm ▸ first : 1 ≤ row.num) (here.symm ▸ last)
  have gotten : Returns (sharkdGetFrame row.num) s (some fdata) s := by
    refine Returns.bind returns_get ?_
    rw [found]
    exact returns_pure
  refine Returns.bind_ends gotten ?_
  refine Ends.bind (sharkdDissectColumns_capture shows.toContinues here first found numbered) ?_
  rintro ⟨cinfo, fdata'⟩ t ⟨rfl, continues, dumper, outcome⟩
  obtain ⟨shown, same, noted, array⟩ := shows.written
  have room : start.dumper.currentDepth + 1 + 2 < jsonDumperMaxDepth := idle ▸ by decide
  -- Whatever the cells are, the row becomes one more element of the array.
  have written : ∀ (texts : List String) (entry : Option FrameData × Text),
      entry.2 = rowText texts row.num fdata' → RowShown dissectors start.cfile row entry →
        t.dissected = start.dissected ++ (shown ++ [entry]).filterMap Prod.fst →
          Ends (do onDumper (writeRow texts row.num fdata'); pure RequestColumns.capture) t
            (fun cinfo u => cinfo = .capture
              ∧ start.Shows dissectors n (framenum + 1) (rows ++ [row]) u)
            fun _ => ¬ start.cfile.Dissects dissectors row := by
    intro texts entry text shownHere log
    have added := (writesValue_row texts row.num fdata' room).element start.dumper
      (shown.map Prod.snd) t.dumper rfl (dumper ▸ array)
    refine Ends.bind (P := fun _ u => start.Shows dissectors n (framenum + 1) (rows ++ [row]) u)
      (ends_focus ?_) fun _ u shows' => returns_pure.ends ⟨rfl, shows'⟩
    refine added.imp (fun _ u inside => ?_) fun _ impossible => impossible.elim
    refine { continues with
      written := ⟨shown ++ [entry], List.rel_append same (.cons shownHere .nil), log, ?_⟩ }
    rw [List.map_append, List.map_singleton, text]
    exact inside
  obtain ⟨log, fails⟩ | ⟨given, texts, isGiven, log, cells, rowOf, dissects⟩ := outcome
  · cases cells : t.cfile.cinfo.mapM ColumnItem.string with
    | none =>
        refine Raises.ends (t := t) (e := .terminated (.uninitialisedUse "col_data")) ?_ fails
        refine Raises.bind_first (Raises.bind_rest returns_get ?_)
        simp only [RequestColumns.columns, cells]
        exact raises_throw
    | some texts =>
        have read : Returns (columnTexts .capture) t texts t := by
          refine Returns.bind returns_get ?_
          simp only [RequestColumns.columns, cells]
          exact returns_pure
        refine Returns.bind_ends read (written texts (none, rowText texts row.num fdata') rfl
          (.unread (rowText_ne_nil _ _ _) fails) ?_)
        simpa [log] using noted
  · have read : Returns (columnTexts .capture) t texts t := by
      refine Returns.bind returns_get ?_
      simp only [RequestColumns.columns, cells]
      exact returns_pure
    refine Returns.bind_ends read (written texts (some given, rowText texts row.num fdata') rfl
      (.dissected isGiven rowOf dissects) ?_)
    simp [log, noted]

/-- Without filter data the loop shows the rows it walks through. It returns unless one of
them cannot be dissected, or it gets to frame 2^32 - 1 before the limit is reached.
Induction over the frames that are left.
-/
theorem framesLoop_capture (left framenum : Nat) (cursor : FramesCursor)
    (shows : start.Shows dissectors n framenum rows s)
    (idle : start.dumper.currentDepth = 0) (first : 1 ≤ framenum)
    (rest : framenum + left = n + 1)
    : Ends (framesLoop dissectors none left framenum cursor .capture) s
        (fun cinfo t => cinfo = .capture
          ∧ (∃ last, start.Shows dissectors n last (rows ++ walkedRows left framenum cursor) t)
          ∧ (n < gMaxUint32 ∨ cursor.Stops left))
        fun _ => (∃ row ∈ walkedRows left framenum cursor, ¬ start.cfile.Dissects dissectors row)
          ∨ (gMaxUint32 ≤ n ∧ ¬ cursor.Stops left) := by
  induction left generalizing framenum cursor rows s with
  | zero =>
      have notStopped : ¬ cursor.Stops 0 := by
        rintro ⟨limited, within⟩
        omega
      simp only [framesLoop]
      by_cases wraps : framenum > gMaxUint32
      · simp only [wraps, if_true]
        exact raises_throw.ends (Or.inr ⟨by omega, notStopped⟩)
      · simp only [wraps, if_false]
        refine returns_pure.ends ⟨rfl, ⟨framenum, ?_⟩, Or.inl (by omega)⟩
        simpa [walkedRows] using shows
  | succ left ih =>
      simp only [framesLoop, filterPasses, Bool.not_true, Bool.false_eq_true, if_false]
      by_cases skipped : cursor.skip > 0
      · have stops : FramesCursor.Stops
            { cursor with skip := cursor.skip - 1, prevDisNum := framenum } left
              ↔ cursor.Stops (left + 1) := by
          simp only [FramesCursor.Stops]
          omega
        simp only [skipped, if_true, walkedRows]
        rw [← stops]
        have ahead : start.Shows dissectors n (framenum + 1) rows s :=
          { shows with later := fun num after => shows.later num (by omega) }
        exact ih _ _ ahead (by omega) (by omega)
      · simp only [skipped, if_false, walkedRows]
        have inside : framenum ≤ n := by omega
        let row : DissectedRow :=
          ⟨framenum, (cursor.advance framenum).refFrame framenum, cursor.prevDisNum⟩
        have shown := showFrame_capture row rfl shows idle first inside
        refine Ends.bind (shown.imp (fun _ _ h => h) fun _ fails =>
          Or.inl ⟨row, List.mem_cons_self, fails⟩) ?_
        rintro _ t ⟨rfl, shows'⟩
        by_cases last : cursor.limit = 1
        · have lastAdvanced : (cursor.advance framenum).limit = 1 := last
          simp only [lastAdvanced, if_true]
          exact returns_pure.ends ⟨rfl, ⟨_, shows'⟩, Or.inr ⟨by omega, by omega⟩⟩
        · have moreAdvanced : ¬ (cursor.advance framenum).limit = 1 := last
          have stops : FramesCursor.Stops
              { cursor.advance framenum with
                prevDisNum := framenum
                limit := (cursor.advance framenum).limit - 1 } left
                ↔ cursor.Stops (left + 1) := by
            simp only [FramesCursor.Stops, FramesCursor.advance]
            omega
          simp only [moreAdvanced, if_false]
          rw [← stops]
          have later := ih (framenum + 1)
            { cursor.advance framenum with
              prevDisNum := framenum
              limit := (cursor.advance framenum).limit - 1 } shows' (by omega) (by omega)
          rw [List.append_assoc] at later
          refine later.imp (fun _ _ h => h) fun _ fails => fails.imp_left ?_
          rintro ⟨other, member, fails⟩
          exact ⟨other, List.mem_cons_of_mem _ member, fails⟩

end PacketDissector.Sharkd
