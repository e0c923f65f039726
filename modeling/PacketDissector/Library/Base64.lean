import Mathlib.Algebra.Group.Nat.Defs
import Mathlib.Data.List.Basic

/-! Bytes as base64 digits: an encoder that can be stopped between two bytes and continued, and
a strict decoder, which refuses foreign letters, padding before the end and bits that stand for
nothing. The digits are the letters of an alphabet.
-/

namespace PacketDissector.Library.Base64

/-- Letters for the numbers below 64, and one more for padding. -/
structure Alphabet (Letter : Type) where
  letter : Nat → Letter
  value : Letter → Option Nat
  pad : Letter
  value_letter : ∀ n < 64, value (letter n) = some n
  value_pad : value pad = none

variable {Letter : Type} (alphabet : Alphabet Letter)

/-- The letter for the low six bits. -/
def digit (n : Nat) : Letter := alphabet.letter (n % 64)

/-- The letters for whole groups of three bytes, and the bytes left. -/
def step : List UInt8 → List Letter × List UInt8
  | b0 :: b1 :: b2 :: rest =>
      let n := b0.toNat * 2 ^ 16 + b1.toNat * 2 ^ 8 + b2.toNat
      let (letters, left) := step rest
      ([n / 2 ^ 18, n / 2 ^ 12, n / 2 ^ 6, n].map (digit alphabet) ++ letters, left)
  | left => ([], left)

/-- The letters for less than three bytes. -/
def close : List UInt8 → List Letter
  | [b0] =>
      [digit alphabet (b0.toNat / 4), digit alphabet (b0.toNat * 16), alphabet.pad, alphabet.pad]
  | [b0, b1] =>
      let n := b0.toNat * 2 ^ 8 + b1.toNat
      [digit alphabet (n / 2 ^ 10), digit alphabet (n / 2 ^ 4), digit alphabet (n * 4),
        alphabet.pad]
  | _ => []

/-- The letters for all bytes. -/
def encode (data : List UInt8) : List Letter :=
  (step alphabet data).1 ++ close alphabet (step alphabet data).2

/-- The bytes of four letters. -/
def decodeGroup (a b c d : Letter) : Option (List UInt8) := do
  let a ← alphabet.value a
  let b ← alphabet.value b
  let c ← alphabet.value c
  let d ← alphabet.value d
  pure [UInt8.ofNat (a * 4 + b / 16), UInt8.ofNat (b * 16 + c / 4), UInt8.ofNat (c * 64 + d)]

/-- The two bytes of three letters before padding; the last two bits stand for nothing. -/
def decodeThree (a b c : Letter) : Option (List UInt8) := do
  let a ← alphabet.value a
  let b ← alphabet.value b
  let c ← alphabet.value c
  if c % 4 = 0 then pure [UInt8.ofNat (a * 4 + b / 16), UInt8.ofNat (b * 16 + c / 4)] else none

/-- The byte of two letters before padding; the last four bits stand for nothing. -/
def decodeTwo (a b : Letter) : Option (List UInt8) := do
  let a ← alphabet.value a
  let b ← alphabet.value b
  if b % 16 = 0 then pure [UInt8.ofNat (a * 4 + b / 16)] else none

/-- The bytes of the last four letters, which may end with padding. -/
def decodeLast [DecidableEq Letter] (a b c d : Letter) : Option (List UInt8) :=
  if d ≠ alphabet.pad then decodeGroup alphabet a b c d
  else if c ≠ alphabet.pad then decodeThree alphabet a b c
  else decodeTwo alphabet a b

/-- The bytes of groups of four letters. -/
def decode [DecidableEq Letter] : List Letter → Option (List UInt8)
  | [] => some []
  | [a, b, c, d] => decodeLast alphabet a b c d
  | a :: b :: c :: d :: rest => do
      let bytes ← decodeGroup alphabet a b c d
      let later ← decode rest
      pure (bytes ++ later)
  | _ => none

/-- Less than a group is kept for later. -/
theorem step_short {left : List UInt8} (short : left.length < 3)
    : step alphabet left = ([], left) := by
  match left, short with
  | [], _ => rfl
  | [_], _ => rfl
  | [_, _], _ => rfl
  | _ :: _ :: _ :: _, short =>
      simp only [List.length_cons] at short
      omega

/-- An encoder that is stopped continues with the bytes left, by induction over the groups. -/
theorem step_append (first rest : List UInt8)
    : step alphabet (first ++ rest)
      = ((step alphabet first).1 ++ (step alphabet ((step alphabet first).2 ++ rest)).1,
          (step alphabet ((step alphabet first).2 ++ rest)).2) := by
  induction first using step.induct alphabet with
  | case1 b0 b1 b2 tail letters left stepped ih =>
      simp only [List.cons_append, step, ih, List.append_assoc]
  | case2 left notGroup =>
      have kept : step alphabet left = ([], left) := step.eq_2 alphabet left notGroup
      rw [kept, List.nil_append]

/-- Less than a group is left. -/
theorem step_left_length (data : List UInt8) : (step alphabet data).2.length < 3 := by
  induction data using step.induct alphabet with
  | case1 b0 b1 b2 tail letters left stepped ih => simpa [step] using ih
  | case2 left notGroup =>
      have kept : step alphabet left = ([], left) := step.eq_2 alphabet left notGroup
      rw [kept]
      match left, notGroup with
      | [], _ => simp
      | [_], _ => simp
      | [_, _], _ => simp
      | b0 :: b1 :: b2 :: rest, notGroup => exact (notGroup b0 b1 b2 rest rfl).elim

/-- What is true of all letters is true of an encoded text. -/
theorem forall_encode {P : Letter → Prop} (letters : ∀ n < 64, P (alphabet.letter n))
    (pad : P alphabet.pad) (data : List UInt8)
    : ∀ c ∈ encode alphabet data, P c := by
  have digits : ∀ n, P (digit alphabet n) := fun n => letters _ (Nat.mod_lt n (by decide))
  induction data using step.induct alphabet with
  | case1 b0 b1 b2 tail later left stepped ih =>
      intro c member
      simp only [encode, step, List.map_cons, List.map_nil, List.cons_append, List.nil_append,
        List.mem_cons] at member
      rcases member with rfl | rfl | rfl | rfl | inLater
      · exact digits _
      · exact digits _
      · exact digits _
      · exact digits _
      · exact ih c inLater
  | case2 left notGroup =>
      have kept : step alphabet left = ([], left) := step.eq_2 alphabet left notGroup
      rw [encode, kept, List.nil_append]
      intro c member
      match left with
      | [b0] =>
          simp only [close, List.mem_cons, List.not_mem_nil, or_false] at member
          rcases member with rfl | rfl | rfl | rfl
          · exact digits _
          · exact digits _
          · exact pad
          · exact pad
      | [b0, b1] =>
          simp only [close, List.mem_cons, List.not_mem_nil, or_false] at member
          rcases member with rfl | rfl | rfl | rfl
          · exact digits _
          · exact digits _
          · exact digits _
          · exact pad

@[simp]
theorem value_digit (n : Nat) : alphabet.value (digit alphabet n) = some (n % 64) :=
  alphabet.value_letter _ (Nat.mod_lt _ (by decide))

theorem ofNat_eq {n : Nat} {b : UInt8} (same : n % 256 = b.toNat) : UInt8.ofNat n = b := by
  apply UInt8.toNat_inj.mp
  rw [UInt8.toNat_ofNat', same]

/-- A digit is not taken for padding. -/
theorem digit_ne_pad (n : Nat) : digit alphabet n ≠ alphabet.pad := by
  intro same
  have value := value_digit alphabet n
  rw [same, alphabet.value_pad] at value
  cases value

/-- A group of letters stands for its three bytes. -/
theorem decodeGroup_three (b0 b1 b2 : UInt8) {n : Nat}
    (number : n = b0.toNat * 2 ^ 16 + b1.toNat * 2 ^ 8 + b2.toNat)
    : decodeGroup alphabet (digit alphabet (n / 2 ^ 18)) (digit alphabet (n / 2 ^ 12))
        (digit alphabet (n / 2 ^ 6)) (digit alphabet n) = some [b0, b1, b2] := by
  have below0 := b0.toNat_lt
  have below1 := b1.toNat_lt
  have below2 := b2.toNat_lt
  have first : (n / 2 ^ 18 % 64 * 4 + n / 2 ^ 12 % 64 / 16) % 256 = b0.toNat := by omega
  have second : (n / 2 ^ 12 % 64 * 16 + n / 2 ^ 6 % 64 / 4) % 256 = b1.toNat := by omega
  have third : (n / 2 ^ 6 % 64 * 64 + n % 64) % 256 = b2.toNat := by omega
  simp only [decodeGroup, value_digit, Option.bind_eq_bind, Option.bind_some, ofNat_eq first,
    ofNat_eq second, ofNat_eq third]
  rfl

variable [DecidableEq Letter]

/-- The letters of the bytes left, with their padding, stand for them. -/
theorem decode_close {left : List UInt8} (short : left.length < 3)
    : decode alphabet (close alphabet left) = some left := by
  match left, short with
  | [], _ => rfl
  | [b0], _ =>
      have below0 := b0.toNat_lt
      have first : (b0.toNat / 4 % 64 * 4 + b0.toNat * 16 % 64 / 16) % 256 = b0.toNat := by
        omega
      have unused : b0.toNat * 16 % 64 % 16 = 0 := by omega
      simp only [close, decode, decodeLast, ne_eq, not_true, if_false, decodeTwo, value_digit,
        Option.bind_eq_bind, Option.bind_some, unused, if_true, ofNat_eq first]
      rfl
  | [b0, b1], _ =>
      have below0 := b0.toNat_lt
      have below1 := b1.toNat_lt
      generalize number : b0.toNat * 2 ^ 8 + b1.toNat = n
      have first : (n / 2 ^ 10 % 64 * 4 + n / 2 ^ 4 % 64 / 16) % 256 = b0.toNat := by omega
      have second : (n / 2 ^ 4 % 64 * 16 + n * 4 % 64 / 4) % 256 = b1.toNat := by omega
      have unused : n * 4 % 64 % 4 = 0 := by omega
      simp only [close, number]
      simp only [decode, decodeLast, ne_eq, not_true, if_false, digit_ne_pad, not_false_iff,
        if_true, decodeThree, value_digit, Option.bind_eq_bind, Option.bind_some, unused,
        ofNat_eq first, ofNat_eq second]
      rfl
  | _ :: _ :: _ :: _, short =>
      simp only [List.length_cons] at short
      omega

/-- A group before others, or at the end. -/
theorem decode_group {n : Nat} {bytes later : List UInt8} {a b c : Letter} {rest : List Letter}
    (group : decodeGroup alphabet a b c (digit alphabet n) = some bytes)
    (tail : decode alphabet rest = some later)
    : decode alphabet (a :: b :: c :: digit alphabet n :: rest) = some (bytes ++ later) := by
  cases rest with
  | nil =>
      obtain rfl : [] = later := Option.some.inj tail
      rw [decode, decodeLast, if_pos (digit_ne_pad alphabet n), group, List.append_nil]
  | cons next rest =>
      simp only [decode, group, tail, Option.bind_eq_bind, Option.bind_some]
      rfl

/-- Encoded bytes are decoded to themselves, by induction over the groups. -/
theorem decode_encode (data : List UInt8) : decode alphabet (encode alphabet data) = some data := by
  induction data using step.induct alphabet with
  | case1 b0 b1 b2 tail letters left stepped ih =>
      have later : decode alphabet ((step alphabet tail).1 ++ close alphabet (step alphabet tail).2)
          = some tail := ih
      simp only [encode, step, List.map_cons, List.map_nil, List.cons_append, List.nil_append]
      exact decode_group alphabet (decodeGroup_three alphabet b0 b1 b2 rfl) later
  | case2 left notGroup =>
      have kept : step alphabet left = ([], left) := step.eq_2 alphabet left notGroup
      have short : left.length < 3 := by
        have short := step_left_length alphabet left
        rwa [kept] at short
      rw [encode, kept, List.nil_append]
      exact decode_close alphabet short

end PacketDissector.Library.Base64
