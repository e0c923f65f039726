import Mathlib.Data.List.Basic

/-! The columns of a row of frames, for a capture file or for one request. The body of
col_finalize is commented out, so that no buffer of a column is ever set.
-/

namespace PacketDissector.Sharkd

/-- COL_INFO. -/
def colInfoFmt : Nat := 28

/-- The formats of col_based_on_frame_data. -/
def colBasedOnFrameData (fmt : Nat) : Bool :=
  fmt ∈ [35, 49, 3, 1, 2, 48, 46, 47, 38, 8, 9, 36, 5]

/-- What col_data points to: nothing that was set, col_buf, or a text of its own. -/
inductive ColData where
  | unset
  | buffer
  | text (text : String)
  deriving DecidableEq, Repr

/-- A col_item_t. Its col_buf is known by the text in it, and none as long as it is not set. -/
structure ColumnItem where
  colFmt : Nat
  colCustomFields : Option String
  colCustomOccurrence : Int
  colData : ColData
  colBuf : Option String
  deriving DecidableEq, Repr

/-- A column as col_setup and col_finalize leave it. -/
def ColumnItem.fresh (colFmt : Nat) (colCustomFields : Option String)
    (colCustomOccurrence : Int)
    : ColumnItem :=
  ⟨colFmt, colCustomFields, colCustomOccurrence, .unset, none⟩

/-- The string that col_data points to. -/
def ColumnItem.string (item : ColumnItem) : Option String :=
  match item.colData with
  | .unset => none
  | .buffer => item.colBuf
  | .text text => some text

/-- A column after col_init: an empty string in its buffer. -/
def ColumnItem.init (item : ColumnItem) : ColumnItem :=
  { item with colData := .buffer, colBuf := some "" }

/-- col_init writes to the buffer of every column. None stands for a buffer that is not set. -/
def colInit (columns : List ColumnItem) : Option (List ColumnItem) :=
  if columns.all fun item => item.colBuf.isSome then some (columns.map ColumnItem.init)
  else none

/-- col_fill_in_error, without filling in the columns based on frame data. -/
def colFillInError : List ColumnItem → List ColumnItem
  | [] => []
  | column :: rest =>
      if colBasedOnFrameData column.colFmt then column :: colFillInError rest
      else if column.colFmt = colInfoFmt then
        { column with colData := .text "Read error" } :: colFillInError rest
      else { column with colData := .text "???" } :: rest

end PacketDissector.Sharkd
