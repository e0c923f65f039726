import PacketDissector.Sharkd.FrameSlices
import PacketDissector.Sharkd.JsonHelpers

/-! The text of a row, and what dissecting the record of a frame makes of it. -/

namespace PacketDissector.Sharkd

open PacketDissector.Library PacketDissector.Epan PacketDissector.Wsutil

/-- A string in its quotes. -/
def quoted (str : String) : Text := jsonPutsString (some str) false

/-- A member that says true, if the flag is set. -/
def flagMember (key : String) (flag : Bool) : List (Text × Text) :=
  if flag then [(quoted key, "true".toList)] else []

/-- The members bg and fg. -/
def colorMembers (colorFilter : Option (Nat × Nat)) : List (Text × Text) :=
  match colorFilter with
  | none => []
  | some (bg, fg) =>
      [(quoted "bg", '"' :: Nat.toDigits 16 bg ++ ['"']),
        (quoted "fg", '"' :: Nat.toDigits 16 fg ++ ['"'])]

/-- The members of a row: its columns, its frame number, and what else is known of the frame. -/
def rowMembers (cells : List String) (framenum : Nat) (fdata : FrameData)
    : List (Text × Text) :=
  [(quoted "c", jsonArray (cells.map quoted)), (quoted "num", decimal framenum)]
    ++ (flagMember "ct" fdata.commented ++ (flagMember "i" fdata.ignored
      ++ (flagMember "m" fdata.marked ++ colorMembers fdata.colorFilter)))

/-- The text of a row. -/
def rowText (cells : List String) (framenum : Nat) (fdata : FrameData) : Text :=
  jsonObject (rowMembers cells framenum fdata)

theorem rowText_ne_nil (cells : List String) (framenum : Nat) (fdata : FrameData)
    : rowText cells framenum fdata ≠ [] :=
  List.cons_ne_nil _ _

/-- The program writes just these members into an object whose inside has a depth. -/
def WritesPairs (d : Nat) (x : DumperM Unit) (members : List (Text × Text)) : Prop :=
  WritesTokens .object d x (members.map fun member => jsonMember member.1 member.2)

theorem WritesPairs.bind {d : Nat} {x y : DumperM Unit} {first rest : List (Text × Text)}
    (here : WritesPairs d x first) (later : WritesPairs d y rest)
    : WritesPairs d (x >>= fun _ => y) (first ++ rest) := by
  rw [WritesPairs, List.map_append]
  exact WritesTokens.bind here later

/-- The cells of a row, by induction over the texts. -/
theorem writesTokens_columnTexts (d : Nat) (texts : List String)
    : WritesTokens .array d (writeColumnTexts texts) (texts.map quoted) := by
  induction texts with
  | nil => exact .nil _ d
  | cons text rest ih =>
      exact (writesValue_string d text : WritesValue d _ _).element.bind ih

theorem writesPairs_flag (d : Nat) (key : String) (flag : Bool)
    : WritesPairs d (writeFlag key flag) (flagMember key flag) := by
  cases flag with
  | true => exact (writesValue_vaList d "true".toList).member key
  | false => exact .nil _ d

theorem writesPairs_colors (d : Nat) (colorFilter : Option (Nat × Nat))
    : WritesPairs d (writeColors colorFilter) (colorMembers colorFilter) := by
  cases colorFilter with
  | none => exact .nil _ d
  | some colors =>
      have bg : WritesPairs d (sharkdJsonValueStringf "bg" (Nat.toDigits 16 colors.1))
          [(quoted "bg", '"' :: Nat.toDigits 16 colors.1 ++ ['"'])] :=
        (writesValue_vaList d _).member "bg"
      have fg : WritesPairs d (sharkdJsonValueStringf "fg" (Nat.toDigits 16 colors.2))
          [(quoted "fg", '"' :: Nat.toDigits 16 colors.2 ++ ['"'])] :=
        (writesValue_vaList d _).member "fg"
      exact bg.bind fg

/-- A row is written as its text. -/
theorem writesValue_row (cells : List String) (framenum : Nat) (fdata : FrameData) {d : Nat}
    (room : d + 2 < jsonDumperMaxDepth)
    : WritesValue d (writeRow cells framenum fdata) (rowText cells framenum fdata) := by
  have array := writesValue_array room (writesTokens_columnTexts (d + 2) cells)
  have c : WritesPairs (d + 1) _ [(quoted "c", jsonArray (cells.map quoted))] :=
    array.member "c"
  have num : WritesPairs (d + 1) _ [(quoted "num", decimal framenum)] :=
    (writesValue_vaList (d + 1) (decimal framenum)).member "num"
  have flags := (writesPairs_flag (d + 1) "ct" fdata.commented).bind
    ((writesPairs_flag (d + 1) "i" fdata.ignored).bind
      ((writesPairs_flag (d + 1) "m" fdata.marked).bind
        (writesPairs_colors (d + 1) fdata.colorFilter)))
  have members : WritesPairs (d + 1) _ (rowMembers cells framenum fdata) :=
    c.bind (num.bind flags)
  have object : WritesValue d _ (rowText cells framenum fdata) :=
    writesValue_object (Nat.lt_of_succ_lt room) members
  simpa only [writeRow, sharkdJsonArrayOpen, sharkdJsonArrayClose, sharkdJsonValueAnyf,
    setKey, bind_assoc] using object

-----------------------------------------------------------------------------------------
-- Columns and records
-----------------------------------------------------------------------------------------

/-- The columns after a dissection made these texts of them. -/
def filledColumns (columns : List ColumnItem) (texts : Nat → String) : List ColumnItem :=
  columns.mapIdx fun i item => { item with colData := .buffer, colBuf := texts i }

/-- The strings of filled columns, by induction over them. -/
theorem mapM_filledColumns (columns : List ColumnItem) (texts : Nat → String)
    : (filledColumns columns texts).mapM ColumnItem.string
      = some (columns.mapIdx fun i _ => texts i) := by
  induction columns generalizing texts with
  | nil => rfl
  | cons item rest ih =>
      have later := ih fun i => texts (i + 1)
      simp only [filledColumns] at later
      simp [filledColumns, ColumnItem.string, later]

/-- A read error leaves the buffers alone, by induction over the columns. -/
theorem map_init_colFillInError (columns : List ColumnItem)
    : (colFillInError columns).map ColumnItem.init = columns.map ColumnItem.init
      ∧ ((colFillInError columns).all fun item => item.colBuf.isSome)
        = columns.all fun item => item.colBuf.isSome := by
  induction columns with
  | nil => exact ⟨rfl, rfl⟩
  | cons item rest ih =>
      simp only [colFillInError]
      split
      · simp [ih]
      · split
        · simp [ih, ColumnItem.init]
        · simp [ColumnItem.init]

/-- col_init leaves as many columns as there are. -/
theorem colInit_cons {column : ColumnItem} {rest columns : List ColumnItem}
    (init : colInit (column :: rest) = some columns)
    : ∃ first others, columns = first :: others := by
  simp only [colInit, Option.ite_none_right_eq_some, Option.some.injEq] at init
  exact ⟨column.init, rest.map ColumnItem.init, init.2.symm⟩

/-- col_init makes the same of the columns after a read error. -/
theorem colInit_colFillInError (columns : List ColumnItem)
    : colInit (colFillInError columns) = colInit columns := by
  obtain ⟨sameInit, sameBuffers⟩ := map_init_colFillInError columns
  rw [colInit, colInit, sameInit, sameBuffers]

/-- col_init makes the same of filled columns. -/
theorem colInit_filledColumns {columns : List ColumnItem} {initialised : List ColumnItem}
    (init : colInit columns = some initialised) (texts : Nat → String)
    : colInit (filledColumns initialised texts) = some initialised := by
  simp only [colInit, Option.ite_none_right_eq_some, Option.some.injEq] at init
  obtain ⟨-, rfl⟩ := init
  have set : ((filledColumns (columns.map ColumnItem.init) texts).all
      fun item => item.colBuf.isSome) = true := by
    rw [List.all_eq_true]
    intro item member
    obtain ⟨i, inside, rfl⟩ := List.mem_mapIdx.mp member
    rfl
  rw [colInit, if_pos set, Option.some.injEq]
  apply List.ext_getElem
  · simp [filledColumns]
  · intro i inside inside'
    simp [filledColumns, ColumnItem.init]

/-- The text of the row of a frame that the frame dissector was given, next to the columns
that cinfo has.
-/
def RowOf (dissectors : Dissectors) (cinfo : List ColumnItem) (fdata : FrameData) (text : Text)
    : Prop :=
  ∃ columns handle fdata' texts, colInit cinfo = some columns
    ∧ dissectors.frameHandle = some handle
    ∧ handle.dissect fdata columns = .ok (fdata', texts)
    ∧ text = rowText (columns.mapIdx fun i _ => texts i) fdata.num fdata'

/-- A frame and its columns give one text. -/
theorem RowOf.unique {dissectors : Dissectors} {cinfo : List ColumnItem} {fdata : FrameData}
    {text text' : Text} (first : RowOf dissectors cinfo fdata text)
    (second : RowOf dissectors cinfo fdata text')
    : text = text' := by
  obtain ⟨columns, handle, fdata', texts, init, isHandle, dissected, rfl⟩ := first
  obtain ⟨columns', handle', fdata'', texts', init', isHandle', dissected', rfl⟩ := second
  obtain rfl := Option.some.inj (init.symm.trans init')
  obtain rfl := Option.some.inj (isHandle.symm.trans isHandle')
  obtain ⟨rfl, rfl⟩ := Prod.mk.inj (Except.ok.inj (dissected.symm.trans dissected'))
  rfl

/-- A record is dissected if its type is known, every column has a buffer, and there is a
frame dissector that returns; the frame it was given is noted. Otherwise it stops.
-/
theorem dissectRecord_ends (dissectors : Dissectors) (recType : Nat) (fdata : FrameData)
    (cinfo : List ColumnItem) (s : Session)
    : Ends (dissectRecord dissectors recType fdata cinfo) s
        (fun result t => recType ≤ 3 ∧ ∃ columns handle texts, colInit cinfo = some columns
          ∧ dissectors.frameHandle = some handle
          ∧ handle.dissect fdata columns = .ok (result.1, texts)
          ∧ result.2 = filledColumns columns texts
          ∧ t = { s with dissected := s.dissected ++ [fdata] })
        fun _ => ¬ (recType ≤ 3 ∧ ∃ text, RowOf dissectors cinfo fdata text) := by
  simp only [dissectRecord]
  by_cases unknown : recType > 3
  · refine Raises.ends (t := s) (e := .terminated (.abort "packet.c: code should not be reached"))
      ?_ fun known => absurd known.1 (Nat.not_le.mpr unknown)
    simp only [unknown, if_true]
    exact Raises.bind_first raises_throw
  · simp only [unknown, if_false]
    refine Returns.bind_ends returns_pure ?_
    cases init : colInit cinfo with
    | none =>
        refine raises_throw.ends ?_
        rintro ⟨-, text, columns, -, -, -, set, -⟩
        simp [init] at set
    | some columns =>
        have called : Ends (callFrameDissector dissectors fdata columns) s
            (fun result t => ∃ handle, dissectors.frameHandle = some handle
              ∧ handle.dissect fdata columns = .ok result
              ∧ t = { s with dissected := s.dissected ++ [fdata] })
            fun _ => ¬ ∃ text, RowOf dissectors cinfo fdata text := by
          simp only [callFrameDissector]
          cases registered : dissectors.frameHandle with
          | none =>
              refine raises_throw.ends ?_
              rintro ⟨text, -, handle, -, -, -, isHandle, -⟩
              simp [registered] at isHandle
          | some handle =>
              refine Returns.bind_ends (returns_modify _) ?_
              cases dissected : handle.dissect fdata columns with
              | ok result => exact returns_pure.ends ⟨handle, rfl, dissected, rfl⟩
              | error stop =>
                  refine raises_throw.ends ?_
                  rintro ⟨text, columns', handle', fdata', texts, set, isHandle, returned, -⟩
                  obtain rfl := Option.some.inj (init.symm.trans set)
                  obtain rfl := Option.some.inj (registered.symm.trans isHandle)
                  cases dissected.symm.trans returned
        refine Ends.bind (called.tryCatch fun stop t fails =>
          raises_throw.ends fun known => fails known.2) ?_
        rintro ⟨fdata', texts⟩ t ⟨handle, isHandle, dissected, rfl⟩
        exact returns_pure.ends
          ⟨by omega, columns, handle, texts, rfl, isHandle, dissected, rfl, rfl⟩

end PacketDissector.Sharkd
