import Mathlib.Algebra.Group.Int.Defs
import Mathlib.Algebra.Group.Nat.Defs
import Mathlib.Data.List.Basic
import PacketDissector.Epan.Exceptions

/-! The tvbuffs of tvbuff.c: a range of packet bytes with the lengths that decide which
exception tells of an access past its end.
-/

namespace PacketDissector.Epan

/-- A tvbuff_t, with the relations between its lengths that tvbuff-int.h promises. The bytes
are there also when real_data is NULL, for the routine tvb_get_ptr of the tvbuff to hand out.
-/
structure Tvbuff where
  bytes : List UInt8
  realDataNull : Bool
  containedLength : Nat
  reportedLength : Nat
  fragment : Bool
  rawOffset : Int
  captured_le : bytes.length ≤ containedLength
  contained_le : containedLength ≤ reportedLength
  reported_lt : reportedLength < 2 ^ 32

/-- tvb_captured_length. -/
def tvbCapturedLength (tvb : Tvbuff) : Nat := tvb.bytes.length

/-- tvb_raw_offset. -/
def tvbRawOffset (tvb : Tvbuff) : Int := tvb.rawOffset

/-- The value of a guint that is stored in a gint. -/
def asGint (n : Nat) : Int := if n < 2 ^ 31 then n else n - 2 ^ 32

/-- The exception for an offset that is past the captured length. -/
def pastEnd (tvb : Tvbuff) (offset : Nat) : WsException :=
  if offset ≤ tvb.containedLength then .boundsError
  else if offset ≤ tvb.reportedLength then .containedBoundsError
  else if tvb.fragment then .fragmentBoundsError
  else .reportedBoundsError

/-- validate_offset. -/
def validateOffset (tvb : Tvbuff) (absOffset : Nat) : Except WsException Unit :=
  if absOffset ≤ tvb.bytes.length then pure () else throw (pastEnd tvb absOffset)

/-- compute_offset; a negative offset counts from the end. -/
def computeOffset (tvb : Tvbuff) (offset : Int) : Except WsException Nat :=
  if 0 ≤ offset then
    if offset.toNat ≤ tvb.bytes.length then pure offset.toNat
    else throw (pastEnd tvb offset.toNat)
  else
    if (-offset).toNat ≤ tvb.bytes.length then pure (tvb.bytes.length - (-offset).toNat)
    else throw (pastEnd tvb (-offset).toNat)

/-- check_offset_length. -/
def checkOffsetLength (tvb : Tvbuff) (offset lengthVal : Int)
    : Except WsException (Nat × Nat) := do
  let absOffset ← computeOffset tvb offset
  if lengthVal < -1 then throw .boundsError
  let length := if lengthVal = -1 then tvb.bytes.length - absOffset else lengthVal.toNat
  let endOffset := (absOffset + length) % 2 ^ 32
  if endOffset < absOffset then throw .boundsError
  validateOffset tvb endOffset
  pure (absOffset, length)

/-- tvb_captured_length_remaining. -/
def tvbCapturedLengthRemaining (tvb : Tvbuff) (offset : Int) : Int :=
  match computeOffset tvb offset with
  | .ok absOffset => asGint (tvb.bytes.length - absOffset)
  | .error _ => 0

/-- tvb_ensure_captured_length_remaining, which wants at least one byte. -/
def tvbEnsureCapturedLengthRemaining (tvb : Tvbuff) (offset : Int)
    : Except WsException Nat := do
  let absOffset ← computeOffset tvb offset
  if tvb.bytes.length - absOffset = 0 then throw (pastEnd tvb (absOffset + 1))
  pure (tvb.bytes.length - absOffset)

/-- tvb_ensure_bytes_exist. -/
def tvbEnsureBytesExist (tvb : Tvbuff) (offset length : Int) : Except WsException Unit := do
  if length < 0 then throw .reportedBoundsError
  let realOffset ← computeOffset tvb offset
  let endOffset := (realOffset + length.toNat) % 2 ^ 32
  if endOffset < realOffset then throw .boundsError
  validateOffset tvb endOffset

/-- ensure_contiguous: the bytes of a range. -/
def ensureContiguous (tvb : Tvbuff) (offset length : Int) : Except WsException (List UInt8) := do
  let (absOffset, length) ← checkOffsetLength tvb offset length
  pure ((tvb.bytes.drop absOffset).take length)

/-- fast_ensure_contiguous. -/
def fastEnsureContiguous (tvb : Tvbuff) (offset : Int) (length : Nat)
    : Except WsException (List UInt8) := do
  if offset < 0 ∨ tvb.realDataNull then ensureContiguous tvb offset length
  else
    validateOffset tvb ((offset.toNat + length) % 2 ^ 32)
    pure ((tvb.bytes.drop offset.toNat).take length)

/-- The macros pntoh16 to pntoh64: bytes with the most significant one first. -/
def pntoh (bytes : List UInt8) : Nat :=
  bytes.foldl (fun value byte => 256 * value + byte.toNat) 0

/-- The macros pletoh16 to pletoh64. -/
def pletoh (bytes : List UInt8) : Nat := pntoh bytes.reverse

/-- tvb_get_guint8. -/
def tvbGetGuint8 (tvb : Tvbuff) (offset : Int) : Except WsException Nat :=
  pntoh <$> fastEnsureContiguous tvb offset 1

/-- tvb_get_ntohs, tvb_get_ntoh24 and so on up to tvb_get_ntoh64, by their size. -/
def tvbGetNtoh (size : Nat) (tvb : Tvbuff) (offset : Int) : Except WsException Nat :=
  pntoh <$> fastEnsureContiguous tvb offset size

/-- tvb_get_letohs, tvb_get_letoh24 and so on up to tvb_get_letoh64, by their size. -/
def tvbGetLetoh (size : Nat) (tvb : Tvbuff) (offset : Int) : Except WsException Nat :=
  pletoh <$> fastEnsureContiguous tvb offset size

/-- tvb_get_ipv4 on a little-endian machine, where the four bytes are copied into a guint32. -/
def tvbGetIpv4 (tvb : Tvbuff) (offset : Int) : Except WsException Nat :=
  pletoh <$> fastEnsureContiguous tvb offset 4

/-- The exceptions that an access past the end may throw. -/
def WsException.isBounds (e : WsException) : Bool := (Stop.thrown e).isBoundsException

variable {tvb : Tvbuff}

theorem Tvbuff.length_lt (tvb : Tvbuff) : tvb.bytes.length < 2 ^ 32 :=
  Nat.lt_of_le_of_lt (Nat.le_trans tvb.captured_le tvb.contained_le) tvb.reported_lt

theorem pastEnd_isBounds (tvb : Tvbuff) (offset : Nat) : (pastEnd tvb offset).isBounds = true := by
  unfold pastEnd
  split
  · rfl
  · split
    · rfl
    · split <;> rfl

theorem validateOffset_inside {absOffset : Nat} (inside : absOffset ≤ tvb.bytes.length)
    : validateOffset tvb absOffset = .ok () := by
  simp only [validateOffset, inside, if_true]
  rfl

theorem validateOffset_outside {absOffset : Nat} (outside : tvb.bytes.length < absOffset)
    : validateOffset tvb absOffset = .error (pastEnd tvb absOffset) := by
  simp only [validateOffset, Nat.not_le.mpr outside, if_false]
  rfl

theorem computeOffset_inside {offset : Nat} (inside : offset ≤ tvb.bytes.length)
    : computeOffset tvb offset = .ok offset := by
  simp only [computeOffset, Int.natCast_nonneg, if_true, Int.toNat_natCast, inside]
  rfl

theorem computeOffset_outside {offset : Nat} (outside : tvb.bytes.length < offset)
    : computeOffset tvb offset = .error (pastEnd tvb offset) := by
  simp only [computeOffset, Int.natCast_nonneg, if_true, Int.toNat_natCast,
    Nat.not_le.mpr outside, if_false]
  rfl

/-- A range inside the captured bytes exists. -/
theorem tvbEnsureBytesExist_inside {offset length : Nat}
    (inside : offset + length ≤ tvb.bytes.length)
    : tvbEnsureBytesExist tvb offset length = .ok () := by
  have small : (offset + length) % 2 ^ 32 = offset + length :=
    Nat.mod_eq_of_lt (Nat.lt_of_le_of_lt inside tvb.length_lt)
  have start : offset ≤ tvb.bytes.length := Nat.le_of_add_right_le inside
  have noWrap : ¬ offset + length < offset := by omega
  have signed : ¬ (length : Int) < 0 := by omega
  simp only [tvbEnsureBytesExist, signed, if_false, computeOffset_inside start,
    Int.toNat_natCast]
  simp only [bind, Except.bind, small, noWrap, if_false]
  exact validateOffset_inside inside

/-- A range that ends past the captured bytes makes the check throw a bounds exception. -/
theorem tvbEnsureBytesExist_outside {offset length : Nat}
    (fits : length < 2 ^ 31) (outside : tvb.bytes.length < offset + length)
    : ∃ e, tvbEnsureBytesExist tvb offset length = .error e ∧ e.isBounds = true := by
  have signed : ¬ (length : Int) < 0 := by omega
  simp only [tvbEnsureBytesExist, signed, if_false, Int.toNat_natCast, bind, Except.bind]
  by_cases start : offset ≤ tvb.bytes.length
  · simp only [computeOffset_inside start]
    by_cases wraps : (offset + length) % 2 ^ 32 < offset
    · exact ⟨.boundsError, by simp only [wraps, if_true]; rfl, rfl⟩
    · simp only [wraps, if_false]
      by_cases small : (offset + length) % 2 ^ 32 ≤ tvb.bytes.length
      · have bound := tvb.length_lt
        omega
      · exact ⟨_, validateOffset_outside (Nat.lt_of_not_le small), pastEnd_isBounds tvb _⟩
  · simp only [computeOffset_outside (Nat.lt_of_not_le start)]
    exact ⟨_, rfl, pastEnd_isBounds tvb _⟩

/-- A range inside the captured bytes is read from there. -/
theorem fastEnsureContiguous_inside {offset length : Nat}
    (inside : offset + length ≤ tvb.bytes.length)
    : fastEnsureContiguous tvb offset length = .ok ((tvb.bytes.drop offset).take length) := by
  have small : (offset + length) % 2 ^ 32 = offset + length :=
    Nat.mod_eq_of_lt (Nat.lt_of_le_of_lt inside tvb.length_lt)
  have start : offset ≤ tvb.bytes.length := Nat.le_of_add_right_le inside
  by_cases lazy : tvb.realDataNull = true
  · have noWrap : ¬ offset + length < offset := by omega
    have signed : ¬ (length : Int) < -1 := by omega
    have given : ¬ (length : Int) = -1 := by omega
    simp only [fastEnsureContiguous, lazy, or_true, if_true, ensureContiguous, checkOffsetLength,
      computeOffset_inside start, bind, Except.bind, pure, signed, given, if_false,
      Int.toNat_natCast, small, noWrap, validateOffset_inside inside, Except.pure]
  · have forward : ¬ ((offset : Int) < 0 ∨ tvb.realDataNull = true) := by
      rintro (negative | lazy')
      · omega
      · exact lazy lazy'
    simp only [fastEnsureContiguous, forward, if_false, Int.toNat_natCast, small,
      validateOffset_inside inside, bind, Except.bind, pure, Except.pure]

end PacketDissector.Epan
