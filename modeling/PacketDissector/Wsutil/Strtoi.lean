import Mathlib.Algebra.Group.Int.Defs
import Mathlib.Algebra.Group.Nat.Defs
import Mathlib.Data.List.Basic

/-! The conversions of strings to integers in strtoi.c, over the ones of GLib. -/

namespace PacketDissector.Wsutil

/-- ISSPACE. -/
def isSpace (c : Char) : Bool := c ∈ [' ', '\x0C', '\n', '\r', '\t', '\x0B']

/-- The value of a letter or digit. -/
def digitValue (c : Char) : Option Nat :=
  if c.isDigit then some (c.toNat - '0'.toNat)
  else if c.isLower then some (c.toNat - 'a'.toNat + 10)
  else if c.isUpper then some (c.toNat - 'A'.toNat + 10)
  else none

/-- G_MAXUINT64. -/
def gMaxUint64 : Nat := 2 ^ 64 - 1

/-- The loop of g_parse_long_long, which remembers an overflow and goes on. -/
def parseDigits (base : Nat) : Nat → Bool → List Char → Nat × Bool × List Char
  | value, overflow, [] => (value, overflow, [])
  | value, overflow, c :: rest =>
      match digitValue c with
      | none => (value, overflow, c :: rest)
      | some digit =>
          if digit ≥ base then (value, overflow, c :: rest)
          else if value * base + digit > gMaxUint64 then parseDigits base value true rest
          else parseDigits base (value * base + digit) overflow rest

/-- What g_parse_long_long answers: the value, the rest of the string, whether errno is
ERANGE, and the sign.
-/
structure ParsedLongLong where
  value : Nat
  rest : List Char
  range : Bool
  negative : Bool
  deriving DecidableEq, Repr

/-- The digits after the sign and the white space. Without any, the rest is the whole string,
or what follows the zero of a prefix 0x.
-/
def parseMagnitude (base : Nat) (str : List Char) (negative : Bool) (s : List Char)
    : ParsedLongLong :=
  let prefixed := base = 16 ∧ s.head? = some '0' ∧ (s[1]?).map Char.toUpper = some 'X'
  let save := if prefixed then s.drop 2 else s
  let (value, overflow, rest) := parseDigits base 0 false save
  if rest.length = save.length then
    ⟨0, if prefixed then s.drop 1 else str, false, negative⟩
  else if overflow then ⟨gMaxUint64, rest, true, negative⟩
  else ⟨value, rest, false, negative⟩

/-- g_parse_long_long. -/
def gParseLongLong (base : Nat) (str : List Char) : ParsedLongLong :=
  match str.dropWhile isSpace with
  | [] => ⟨0, str, false, false⟩
  | '-' :: s => parseMagnitude base str true s
  | '+' :: s => parseMagnitude base str false s
  | s => parseMagnitude base str false s

/-- g_ascii_strtoull: a negative number wraps. -/
def gAsciiStrtoull (base : Nat) (str : List Char) : ParsedLongLong :=
  let parsed := gParseLongLong base str
  if parsed.negative then { parsed with value := (2 ^ 64 - parsed.value) % 2 ^ 64 } else parsed

/-- g_ascii_strtoll, with the flag for ERANGE and the rest of the string. -/
def gAsciiStrtoll (base : Nat) (str : List Char) : Int × Bool × List Char :=
  let parsed := gParseLongLong base str
  if parsed.negative ∧ parsed.value > 2 ^ 63 then (-2 ^ 63, true, parsed.rest)
  else if ¬ parsed.negative ∧ parsed.value > 2 ^ 63 - 1 then (2 ^ 63 - 1, true, parsed.rest)
  else if parsed.negative then (-parsed.value, parsed.range, parsed.rest)
  else (parsed.value, parsed.range, parsed.rest)

/-- What a conversion answers: its result, the number it stores, the string at endptr, and
whether errno is ERANGE.
-/
structure Converted where
  ok : Bool
  cint : Nat
  endptr : List Char
  range : Bool
  deriving DecidableEq, Repr

/-- ws_basestrtou64. Without an endptr the whole string has to be a number. -/
def wsBasestrtou64 (base : Nat) (hasEndptr : Bool) (str : List Char) : Converted :=
  if str.head? = some '-' ∨ str.head? = some '+' then ⟨false, 0, str, false⟩
  else
    let parsed := gAsciiStrtoull base str
    let nothing := parsed.value = 0 ∧ parsed.rest.length = str.length
    if nothing ∨ (¬ hasEndptr ∧ parsed.rest ≠ []) then ⟨false, 0, parsed.rest, false⟩
    else if parsed.value = gMaxUint64 ∧ parsed.range then
      ⟨false, parsed.value, parsed.rest, true⟩
    else ⟨true, parsed.value, parsed.rest, parsed.range⟩

/-- The functions that DEFINE_WS_STRTOU_BITS makes, by their number of bits. -/
def wsBasestrtouBits (bits base : Nat) (hasEndptr : Bool) (str : List Char) : Converted :=
  let wide := wsBasestrtou64 base hasEndptr str
  if !wide.ok then { wide with cint := if wide.range then 2 ^ bits - 1 else 0 }
  else if wide.cint > 2 ^ bits - 1 then ⟨false, 2 ^ bits - 1, wide.endptr, true⟩
  else wide

/-- ws_strtou32 with an endptr. -/
def wsStrtou32Endptr (str : List Char) : Converted := wsBasestrtouBits 32 10 true str

/-- The number of a conversion that succeeded. -/
def Converted.number (converted : Converted) : Option Nat :=
  if converted.ok then some converted.cint else none

/-- ws_strtou32 without an endptr. -/
def wsStrtou32 (str : String) : Option Nat := (wsBasestrtouBits 32 10 false str.toList).number

/-- ws_strtou16 without an endptr. -/
def wsStrtou16 (str : String) : Option Nat := (wsBasestrtouBits 16 10 false str.toList).number

/-- ws_hexstrtou32 without an endptr. -/
def wsHexstrtou32 (str : String) : Option Nat :=
  (wsBasestrtouBits 32 16 false str.toList).number

/-- ws_strtoi64 without an endptr. -/
def wsStrtoi64 (str : List Char) : Option Int :=
  let (val, range, rest) := gAsciiStrtoll 10 str
  if (val = 0 ∧ rest.length = str.length) ∨ rest ≠ [] then none
  else if (val = 2 ^ 63 - 1 ∨ val = -2 ^ 63) ∧ range then none
  else some val

/-- ws_strtoi16 without an endptr. -/
def wsStrtoi16 (str : String) : Option Int :=
  (wsStrtoi64 str.toList).filter fun val => -2 ^ 15 ≤ val ∧ val ≤ 2 ^ 15 - 1

/-- The decimal digits of a number. -/
def decimal (n : Nat) : List Char := Nat.toDigits 10 n

/-- The rest of a string does not go on with a digit or a letter. -/
def EndsNumber (rest : List Char) : Prop := ∀ c, rest.head? = some c → digitValue c = none

theorem digitValue_isDigit {c : Char} (digit : c.isDigit = true)
    : digitValue c = some (c.toNat - '0'.toNat) := by
  simp [digitValue, digit]

theorem isDigit_range {c : Char} (digit : c.isDigit = true)
    : '0'.toNat ≤ c.toNat ∧ c.toNat ≤ '9'.toNat := by
  simpa [Char.isDigit, UInt32.le_iff_toNat_le] using digit

/-- More digits make a number that is not smaller, by induction over the digits. -/
theorem le_ofDigitChars (digits : List Char) (init : Nat)
    : init ≤ Nat.ofDigitChars 10 digits init := by
  induction digits generalizing init with
  | nil => simp
  | cons c rest ih =>
      rw [Nat.ofDigitChars_cons]
      have step := ih (10 * init + (c.toNat - '0'.toNat))
      omega

/-- The loop reads decimal digits up to what does not go on with one, by induction over the
digits.
-/
theorem parseDigits_decimal (digits rest : List Char) (init : Nat)
    (isDigits : ∀ c ∈ digits, c.isDigit = true) (ended : EndsNumber rest)
    (small : Nat.ofDigitChars 10 digits init ≤ gMaxUint64)
    : parseDigits 10 init false (digits ++ rest)
      = (Nat.ofDigitChars 10 digits init, false, rest) := by
  induction digits generalizing init with
  | nil =>
      cases rest with
      | nil => simp [parseDigits]
      | cons c rest => simp [parseDigits, ended c rfl]
  | cons c digits ih =>
      have digit := isDigits c List.mem_cons_self
      have range := isDigit_range digit
      rw [Nat.ofDigitChars_cons, Nat.mul_comm] at small ⊢
      have bound := le_ofDigitChars digits (init * 10 + (c.toNat - '0'.toNat))
      have notBig : ¬ c.toNat - '0'.toNat ≥ 10 := by
        have zero : '0'.toNat = 48 := rfl
        have nine : '9'.toNat = 57 := rfl
        omega
      have noOverflow : ¬ init * 10 + (c.toNat - '0'.toNat) > gMaxUint64 := by omega
      simp only [List.cons_append, parseDigits, digitValue_isDigit digit, notBig, noOverflow,
        if_false]
      exact ih _ (fun d member => isDigits d (List.mem_cons_of_mem _ member)) small

/-- A digit is no white space and no sign. -/
theorem isDigit_plain {c : Char} (digit : c.isDigit = true)
    : isSpace c = false ∧ c ≠ '-' ∧ c ≠ '+' := by
  refine ⟨?_, ?_, ?_⟩
  · rw [Bool.eq_false_iff]
    intro space
    simp only [isSpace, decide_eq_true_eq, List.mem_cons, List.not_mem_nil, or_false] at space
    rcases space with rfl | rfl | rfl | rfl | rfl | rfl <;> cases digit
  · rintro rfl
    cases digit
  · rintro rfl
    cases digit

/-- g_ascii_strtoull reads the decimal digits of a number. -/
theorem gAsciiStrtoull_decimal {n : Nat} {rest : List Char} (small : n ≤ gMaxUint64)
    (ended : EndsNumber rest)
    : gAsciiStrtoull 10 (decimal n ++ rest) = ⟨n, rest, false, false⟩ := by
  have isDigits : ∀ c ∈ decimal n, c.isDigit = true := fun c member =>
    Nat.isDigit_of_mem_toDigits (by decide) (by decide) member
  have parsed := parseDigits_decimal (decimal n) rest 0 isDigits ended
    (by simpa [decimal] using small)
  have value : Nat.ofDigitChars 10 (decimal n) 0 = n := Nat.ofDigitChars_ten_toDigits
  rw [value] at parsed
  obtain ⟨c, digits, written⟩ := List.exists_cons_of_ne_nil (l := decimal n) Nat.toDigits_ne_nil
  obtain ⟨notSpace, notMinus, notPlus⟩ :=
    isDigit_plain (isDigits c (written ▸ List.mem_cons_self))
  have moved : ¬ rest.length = (decimal n ++ rest).length := by
    simp only [written, List.cons_append, List.length_cons, List.length_append]
    omega
  have whole : parseMagnitude 10 (decimal n ++ rest) false (decimal n ++ rest)
      = ⟨n, rest, false, false⟩ := by
    have notHex : ¬ (10 : Nat) = 16 := by decide
    simp only [parseMagnitude, notHex, false_and, if_false, parsed, moved, Bool.false_eq_true]
  have noSpace : (decimal n ++ rest).dropWhile isSpace = decimal n ++ rest := by
    simp [written, notSpace]
  have long : gParseLongLong 10 (decimal n ++ rest) = ⟨n, rest, false, false⟩ := by
    simp only [gParseLongLong, noSpace]
    rw [← whole, written, List.cons_append]
    split
    · rename_i empty
      cases empty
    · rename_i minus
      exact (notMinus (List.cons.inj minus).1).elim
    · rename_i plus
      exact (notPlus (List.cons.inj plus).1).elim
    · rfl
  simp [gAsciiStrtoull, long]

/-- ws_strtou32 reads the decimal digits of a 32-bit number, up to its endptr. -/
theorem wsStrtou32Endptr_decimal {n : Nat} {rest : List Char} (small : n < 2 ^ 32)
    (ended : EndsNumber rest)
    : wsStrtou32Endptr (decimal n ++ rest) = ⟨true, n, rest, false⟩ := by
  have wide : n ≤ gMaxUint64 := by
    simp only [gMaxUint64]
    omega
  have parsed := gAsciiStrtoull_decimal wide ended
  obtain ⟨c, digits, written⟩ := List.exists_cons_of_ne_nil (l := decimal n) Nat.toDigits_ne_nil
  obtain ⟨-, notMinus, notPlus⟩ := isDigit_plain (c := c)
    (Nat.isDigit_of_mem_toDigits (b := 10) (n := n) (by decide) (by decide)
      (show c ∈ decimal n from written ▸ List.mem_cons_self))
  have unsigned : ¬ ((decimal n ++ rest).head? = some '-'
      ∨ (decimal n ++ rest).head? = some '+') := by
    simp [written, notMinus, notPlus]
  have moved : ¬ rest.length = (decimal n ++ rest).length := by
    simp only [written, List.cons_append, List.length_cons, List.length_append]
    omega
  have fits : ¬ n > 2 ^ 32 - 1 := by omega
  simp only [wsStrtou32Endptr, wsBasestrtouBits, wsBasestrtou64, unsigned, if_false, parsed,
    moved, and_false, not_true_eq_false, false_and, or_false, Bool.false_eq_true, Bool.not_true,
    fits]

/-- A comma or the end of the string ends a number. -/
theorem endsNumber_of_comma {rest : List Char} (comma : ∀ c, rest.head? = some c → c = ',')
    : EndsNumber rest := by
  intro c head
  rw [comma c head]
  rfl

/-- The loop leaves no more than it was given, by induction over the characters. -/
theorem parseDigits_length (base : Nat) (chars : List Char) (value : Nat) (overflow : Bool)
    : (parseDigits base value overflow chars).2.2.length ≤ chars.length := by
  induction chars generalizing value overflow with
  | nil => simp [parseDigits]
  | cons c rest ih =>
      simp only [parseDigits]
      split
      · simp
      · split
        · simp
        · split
          · exact Nat.le_succ_of_le (ih _ _)
          · exact Nat.le_succ_of_le (ih _ _)

theorem parseMagnitude_length (base : Nat) (str : List Char) (negative : Bool) {s : List Char}
    (inside : s.length ≤ str.length)
    : (parseMagnitude base str negative s).rest.length ≤ str.length := by
  have dropped : ∀ n, (s.drop n).length ≤ str.length := fun n =>
    Nat.le_trans (List.length_drop ▸ Nat.sub_le _ _) inside
  have read : ∀ save : List Char, save.length ≤ str.length →
      (parseDigits base 0 false save).2.2.length ≤ str.length := fun save fits =>
    Nat.le_trans (parseDigits_length base save 0 false) fits
  by_cases hex : base = 16 ∧ s.head? = some '0' ∧ (s[1]?).map Char.toUpper = some 'X'
  · simp only [parseMagnitude, hex, and_self, if_true]
    split
    · exact dropped 1
    · split <;> exact hex.1 ▸ read _ (dropped 2)
  · simp only [parseMagnitude, hex, if_false]
    split
    · exact Nat.le_refl _
    · split <;> exact read s inside

theorem gParseLongLong_length (base : Nat) (str : List Char)
    : (gParseLongLong base str).rest.length ≤ str.length := by
  have trimmed : (str.dropWhile isSpace).length ≤ str.length :=
    (List.dropWhile_suffix _).length_le
  simp only [gParseLongLong]
  split
  · exact Nat.le_refl _
  · rename_i s sign
    rw [sign] at trimmed
    exact parseMagnitude_length _ _ _ (Nat.le_of_succ_le trimmed)
  · rename_i s sign
    rw [sign] at trimmed
    exact parseMagnitude_length _ _ _ (Nat.le_of_succ_le trimmed)
  · exact parseMagnitude_length _ _ _ trimmed

/-- The endptr is in the string. -/
theorem wsStrtou32Endptr_length (str : List Char)
    : (wsStrtou32Endptr str).endptr.length ≤ str.length := by
  have parsed : (gAsciiStrtoull 10 str).rest.length ≤ str.length := by
    have long := gParseLongLong_length 10 str
    simp only [gAsciiStrtoull]
    split
    · exact long
    · exact long
  have wide : (wsBasestrtou64 10 true str).endptr.length ≤ str.length := by
    simp only [wsBasestrtou64]
    repeat' split
    · exact Nat.le_refl _
    all_goals exact parsed
  simp only [wsStrtou32Endptr, wsBasestrtouBits]
  repeat' split
  all_goals exact wide

end PacketDissector.Wsutil
