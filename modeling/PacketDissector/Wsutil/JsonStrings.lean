import PacketDissector.Wsutil.JsonDumper
import PacketDissector.Wsutil.WsJson

/-! What json_decode_string_inplace leaves in place, and that it reads back the strings written
by json_puts_string.
-/

namespace PacketDissector.Wsutil

open PacketDissector.Library

variable {c e : Char} {input : Text}

theorem decode_plain (plain : c ≠ '\\') (input : Text)
    : jsonDecodeStringInplace (c :: input) = (jsonDecodeStringInplace input).map (c :: ·) := by
  rw [jsonDecodeStringInplace]
  · exact fun _ _ _ _ _ same => (plain same).elim
  · exact fun _ _ same => (plain same).elim
  · exact fun same => (plain same).elim

theorem decode_simple (known : simpleEscape e = some c) (input : Text)
    : jsonDecodeStringInplace ('\\' :: e :: input)
      = (jsonDecodeStringInplace input).map (c :: ·) := by
  have notUnicode : e ≠ 'u' := by
    rintro rfl
    cases known
  rw [jsonDecodeStringInplace]
  · simp only [known]
  · intro a b d f rest same
    exact (notUnicode same).elim

theorem decode_unicode {a b d f : Char} {unicodeHex : Nat}
    (digits : fourDigits a b d f = some unicodeHex) {rest : Text}
    (escape : unicodeEscape unicodeHex input = some (c, rest))
    : jsonDecodeStringInplace ('\\' :: 'u' :: a :: b :: d :: f :: input)
      = (jsonDecodeStringInplace rest).map (c :: ·) := by
  rw [jsonDecodeStringInplace]
  simp only [digits]
  split <;> simp_all

/-- A character that an escape stands for is not NUL. -/
theorem unicharOf_notNul {n : Nat} {c : Char} (valid : unicharOf n = some c) : c ≠ '\x00' := by
  unfold unicharOf at valid
  split at valid
  · rename_i proper
    obtain rfl := Option.some.inj valid
    intro nul
    rw [Char.ofNat, dif_pos proper.1] at nul
    have code : (Char.ofNatAux n proper.1).toNat = 0 := congrArg Char.toNat nul
    exact proper.2 code
  · cases valid

theorem unicodeEscape_some {n : Nat} {input rest : Text} {c : Char}
    (escape : unicodeEscape n input = some (c, rest))
    : c ≠ '\x00' ∧ rest <:+ input := by
  unfold unicodeEscape at escape
  split at escape
  · split at escape
    · rename_i a b d e tail
      obtain ⟨trail, -, character⟩ := Option.bind_eq_some_iff.mp escape
      split at character
      · obtain ⟨found, valid, same⟩ := Option.map_eq_some_iff.mp character
        obtain ⟨rfl, rfl⟩ := Prod.mk.inj same
        exact ⟨unicharOf_notNul valid, List.suffix_append ['\\', 'u', a, b, d, e] _⟩
      · cases character
    · cases escape
  · split at escape
    · cases escape
    · obtain ⟨found, valid, same⟩ := Option.map_eq_some_iff.mp escape
      obtain ⟨rfl, rfl⟩ := Prod.mk.inj same
      exact ⟨unicharOf_notNul valid, List.suffix_refl _⟩

theorem simpleEscape_notNul {e c : Char} (known : simpleEscape e = some c) : c ≠ '\x00' := by
  unfold simpleEscape at known
  split at known <;> cases known <;> decide

/-- A decoded text that fits in place of another: it has no NUL and is no longer. -/
def Fits (decoded text : Text) : Prop := '\x00' ∉ decoded ∧ decoded.length ≤ text.length

/-- One character more fits in place of what it was decoded from. -/
theorem Fits.cons {found : Option Text} {shorter text decoded : Text} (notNul : c ≠ '\x00')
    (less : shorter.length < text.length) (decodes : found.map (c :: ·) = some decoded)
    (fits : ∀ tail, found = some tail → Fits tail shorter)
    : Fits decoded text := by
  obtain ⟨tail, known, rfl⟩ := Option.map_eq_some_iff.mp decodes
  obtain ⟨noNul, short⟩ := fits tail known
  refine ⟨?_, by rw [List.length_cons]; omega⟩
  rw [List.mem_cons, not_or]
  exact ⟨fun nul => notNul nul.symm, noNul⟩

/-- What is decoded in place fits, by induction over the escapes. -/
theorem decode_fits {text decoded : Text} (noNul : '\x00' ∉ text)
    (decodes : jsonDecodeStringInplace text = some decoded)
    : Fits decoded text := by
  fun_induction jsonDecodeStringInplace text generalizing decoded with
  | case1 =>
      obtain rfl := Option.some.inj decodes
      exact ⟨nofun, Nat.le_refl _⟩
  | case4 a b d e input unicodeHex digits c rest escape ih =>
      -- Behind the four digits, the second escape of a surrogate pair is taken as well.
      obtain ⟨notNul, suffix⟩ := unicodeEscape_some escape
      have short := suffix.length_le
      refine .cons notNul ?_ decodes fun tail known => ih ?_ known
      · simp only [List.length_cons]
        omega
      · intro nul
        have inside : '\x00' ∈ input := suffix.subset nul
        exact noNul (List.mem_append_right ['\\', 'u', a, b, d, e] inside)
  | case6 e input notUnicode c known ih =>
      refine .cons (simpleEscape_notNul known) ?_ decodes fun tail known => ih ?_ known
      · simp only [List.length_cons]
        omega
      · exact fun nul => noNul (List.mem_append_right ['\\', e] nul)
  | case8 c input notUnicode notSimple notLast ih =>
      rw [List.mem_cons, not_or] at noNul
      refine .cons (fun nul => noNul.1 nul.symm) ?_ decodes fun tail known => ih noNul.2 known
      exact Nat.lt_succ_self _
  | case2 | case3 | case5 | case7 => cases decodes

theorem fourDigits_hexByte {n : Nat} (control : n < 32)
    : fourDigits '0' '0' (Nat.digitChar (n / 16)) (Nat.digitChar (n % 16)) = some n := by
  have all : (List.range 32).all (fun n =>
      fourDigits '0' '0' (Nat.digitChar (n / 16)) (Nat.digitChar (n % 16)) = some n) = true := by
    decide +kernel
  simpa using List.all_eq_true.mp all n (List.mem_range.mpr control)

/-- The number of a character that is neither NUL nor a surrogate stands for it. -/
theorem unicharOf_toNat (notNul : c ≠ '\x00') : unicharOf c.toNat = some c := by
  have notZero : c.toNat ≠ 0 := by
    intro zero
    have nul : c = Char.ofNat 0 := zero ▸ (Char.ofNat_toNat c).symm
    exact notNul nul
  have valid : c.toNat.isValidChar := c.valid
  rw [unicharOf, if_pos ⟨valid, notZero⟩, Char.ofNat_toNat]

/-- The escape of a control character is read back. -/
theorem decode_jsonCntrl (control : c.toNat < 32) (notNul : c ≠ '\x00') (input : Text)
    : jsonDecodeStringInplace ('\\' :: (jsonCntrl c ++ input))
      = (jsonDecodeStringInplace input).map (c :: ·) := by
  have character : ∀ n, c.toNat = n → c = Char.ofNat n := fun n same => by
    rw [← same, Char.ofNat_toNat]
  simp only [jsonCntrl]
  split
  · rename_i code
    obtain rfl := character _ code
    exact decode_simple rfl input
  split
  · rename_i code
    obtain rfl := character _ code
    exact decode_simple rfl input
  split
  · rename_i code
    obtain rfl := character _ code
    exact decode_simple rfl input
  split
  · rename_i code
    obtain rfl := character _ code
    exact decode_simple rfl input
  split
  · rename_i code
    obtain rfl := character _ code
    exact decode_simple rfl input
  · have noSurrogate : unicodeEscape c.toNat input = some (c, input) := by
      have notLead : isLeadSurrogate c.toNat = false := by
        simp only [isLeadSurrogate, Bool.and_eq_false_iff, decide_eq_false_iff_not]
        omega
      have notTrail : isTrailSurrogate c.toNat = false := by
        simp only [isTrailSurrogate, Bool.and_eq_false_iff, decide_eq_false_iff_not]
        omega
      simp [unicodeEscape, notLead, notTrail, unicharOf_toNat notNul]
    exact decode_unicode (fourDigits_hexByte control) noSurrogate

/-- One character of a string is read back. -/
theorem decode_jsonPutsChar (before : Option Char) (notNul : c ≠ '\x00') (input : Text)
    : jsonDecodeStringInplace (jsonPutsChar false before c ++ input)
      = (jsonDecodeStringInplace input).map (c :: ·) := by
  simp only [jsonPutsChar]
  split
  · rename_i control
    exact decode_jsonCntrl control notNul input
  · split
    · rename_i slash
      obtain rfl := slash.2
      exact decode_simple rfl input
    · split
      · rename_i special
        rcases special with rfl | rfl
        · exact decode_simple rfl input
        · exact decode_simple rfl input
      · rename_i ordinary
        simp only [not_or] at ordinary
        simpa using decode_plain ordinary.1 input

/-- Strings without NUL are read back as they were written, by induction over the characters. -/
theorem decode_jsonPutsChars (before : Option Char) {chars : Text} (noNul : '\x00' ∉ chars)
    : jsonDecodeStringInplace (jsonPutsChars false before chars) = some chars := by
  induction chars generalizing before with
  | nil => simp [jsonPutsChars, jsonDecodeStringInplace]
  | cons c rest ih =>
      rw [List.mem_cons, not_or] at noNul
      have notNul : c ≠ '\x00' := fun same => noNul.1 same.symm
      rw [jsonPutsChars, decode_jsonPutsChar before notNul, ih _ noNul.2, Option.map_some]

end PacketDissector.Wsutil
