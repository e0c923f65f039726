import PacketDissector.Wsutil.Jsmn

/-! Reading JSON in wsjson.c: a text as tokens, and the escapes of a string. -/

namespace PacketDissector.Wsutil

open PacketDissector.Library

/-- json_parse, for a text without NUL. -/
def jsonParse (buf : Text) (tokens : Option (List JsmnTok))
    : EStateM.Result JsmnStop JsmnState Nat :=
  (jsmnParse buf).run (jsmnInit tokens)

/-- ws_xton, or none for -1. -/
def wsXton (ch : Char) : Option Nat :=
  if '0' ≤ ch ∧ ch ≤ '9' then some (ch.toNat - 48)
  else if 'a' ≤ ch ∧ ch ≤ 'f' then some (ch.toNat - 87)
  else if 'A' ≤ ch ∧ ch ≤ 'F' then some (ch.toNat - 55)
  else none

/-- A loop over four hexadecimal digits. -/
def fourDigits (a b c d : Char) : Option Nat := do
  let a ← wsXton a
  let b ← wsXton b
  let c ← wsXton c
  let d ← wsXton d
  some ((((((a <<< 4) ||| b) <<< 4) ||| c) <<< 4) ||| d)

/-- IS_LEAD_SURROGATE. -/
def isLeadSurrogate (uchar2 : Nat) : Bool := uchar2 ≥ 0xd800 && uchar2 < 0xdc00

/-- IS_TRAIL_SURROGATE. -/
def isTrailSurrogate (uchar2 : Nat) : Bool := uchar2 ≥ 0xdc00 && uchar2 < 0xe000

/-- SURROGATE_VALUE. -/
def surrogateValue (lead trail : Nat) : Nat :=
  (((lead - 0xd800) <<< 10) ||| (trail - 0xdc00)) + 0x10000

/-- The end of the case u: g_unichar_validate, no NUL, and the character. -/
def unicharOf (unicodeHex : Nat) : Option Char :=
  if unicodeHex.isValidChar ∧ unicodeHex ≠ 0 then some (Char.ofNat unicodeHex) else none

/-- The case of a letter after a backslash other than u. -/
def simpleEscape (ch : Char) : Option Char :=
  match ch with
  | '"' | '\\' | '/' => some ch
  | 'b' => some '\x08'
  | 'f' => some '\x0c'
  | 'n' => some '\n'
  | 'r' => some '\r'
  | 't' => some '\t'
  | _ => none

/-- The case u, for what comes after its digits: the character and the rest of the input. -/
def unicodeEscape (unicodeHex : Nat) (input : Text) : Option (Char × Text) :=
  if isLeadSurrogate unicodeHex then
    match input with
    | '\\' :: 'u' :: a :: b :: c :: d :: rest => do
        let trail ← fourDigits a b c d
        if isTrailSurrogate trail then
          (unicharOf (surrogateValue unicodeHex trail)).map fun ch => (ch, rest)
        else none
    | _ => none
  else if isTrailSurrogate unicodeHex then none
  else (unicharOf unicodeHex).map fun ch => (ch, input)

/-- The characters that an escape takes away are fewer than those it is made of. -/
theorem unicodeEscape_length {unicodeHex : Nat} {input rest : Text} {ch : Char}
    (escape : unicodeEscape unicodeHex input = some (ch, rest))
    : rest.length ≤ input.length := by
  simp only [unicodeEscape] at escape
  split at escape
  · split at escape
    · rename_i a b c d tail
      simp only [Option.bind_eq_bind, Option.bind_eq_some_iff] at escape
      obtain ⟨trail, -, character⟩ := escape
      split at character
      · simp only [Option.map_eq_some_iff, Prod.mk.injEq] at character
        obtain ⟨-, -, -, rfl⟩ := character
        simp only [List.length_cons]
        omega
      · cases character
    · cases escape
  · split at escape
    · cases escape
    · simp only [Option.map_eq_some_iff, Prod.mk.injEq] at escape
      obtain ⟨-, -, -, rfl⟩ := escape
      exact Nat.le_refl _

/-- json_decode_string_inplace: the text that is put in place, or none for FALSE. -/
def jsonDecodeStringInplace : Text → Option Text
  | [] => some []
  | '\\' :: 'u' :: a :: b :: c :: d :: input =>
      match fourDigits a b c d with
      | none => none
      | some unicodeHex =>
          match _escape : unicodeEscape unicodeHex input with
          | none => none
          | some (ch, rest) => (jsonDecodeStringInplace rest).map (ch :: ·)
  | '\\' :: ch :: input =>
      match simpleEscape ch with
      | none => none
      | some ch => (jsonDecodeStringInplace input).map (ch :: ·)
  | '\\' :: [] => none
  | ch :: input => (jsonDecodeStringInplace input).map (ch :: ·)
termination_by text => text.length
decreasing_by
  all_goals simp only [List.length_cons]
  · have shorter := unicodeEscape_length _escape
    omega
  all_goals omega

end PacketDissector.Wsutil
