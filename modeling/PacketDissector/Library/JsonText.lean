import Mathlib.Data.List.Basic

/-! The grammar of JSON texts without white space between tokens, as lists of characters, and
how texts are put together.
-/

namespace PacketDissector.Library

/-- The characters of a text. -/
abbrev Text := List Char

/-- Tokens with commas between them. -/
def commaJoin : List Text → Text
  | [] => []
  | [token] => token
  | token :: rest => token ++ ',' :: commaJoin rest

/-- An array or an object by its brackets and its tokens. -/
def bracketed (opener closer : Char) (tokens : List Text) : Text :=
  opener :: commaJoin tokens ++ [closer]

/-- An array of texts. -/
def jsonArray (elements : List Text) : Text := bracketed '[' ']' elements

/-- A member of an object, by the texts of its name and value. -/
def jsonMember (name value : Text) : Text := name ++ ':' :: value

/-- An object of members. -/
def jsonObject (members : List (Text × Text)) : Text :=
  bracketed '\x7b' '\x7d' (members.map fun member => jsonMember member.1 member.2)

/-- A hexadecimal digit. -/
def isHexDigit (c : Char) : Bool :=
  c.isDigit || ('a' ≤ c && c ≤ 'f') || ('A' ≤ c && c ≤ 'F')

/-- What may stand between the quotes of a string. -/
inductive IsStringBody : Text → Prop
  | nil : IsStringBody []
  | plain {c : Char} {rest : Text} (printable : 0x20 ≤ c.toNat) (notQuote : c ≠ '"')
      (notBackslash : c ≠ '\\') (tail : IsStringBody rest) : IsStringBody (c :: rest)
  | escape {c : Char} {rest : Text}
      (known : c ∈ ['"', '\\', '/', 'b', 'f', 'n', 'r', 't'])
      (tail : IsStringBody rest) : IsStringBody ('\\' :: c :: rest)
  | unicode {digits rest : Text} (four : digits.length = 4)
      (hex : ∀ c ∈ digits, isHexDigit c = true)
      (tail : IsStringBody rest) : IsStringBody ('\\' :: 'u' :: (digits ++ rest))

/-- A string with its quotes. -/
def IsString (text : Text) : Prop := ∃ body, text = '"' :: body ++ ['"'] ∧ IsStringBody body

/-- Digits, at least one. -/
def IsDigits (text : Text) : Prop := text ≠ [] ∧ ∀ c ∈ text, c.isDigit = true

/-- An integer part: digits without a leading zero. -/
def IsIntegerPart (text : Text) : Prop :=
  IsDigits text ∧ (text.head? = some '0' → text = ['0'])

/-- A number without an exponent. -/
def IsNumber (text : Text) : Prop :=
  ∃ sign integer fraction : Text, text = sign ++ integer ++ fraction
    ∧ (sign = [] ∨ sign = ['-']) ∧ IsIntegerPart integer
    ∧ (fraction = [] ∨ ∃ digits, fraction = '.' :: digits ∧ IsDigits digits)

/-- A JSON text. -/
inductive IsJson : Text → Prop
  | word {text : Text} (known : text ∈ ["true".toList, "false".toList, "null".toList])
      : IsJson text
  | number {text : Text} (number : IsNumber text) : IsJson text
  | string {text : Text} (string : IsString text) : IsJson text
  | array {elements : List Text} (each : ∀ element ∈ elements, IsJson element)
      : IsJson (jsonArray elements)
  | object {members : List (Text × Text)} (names : ∀ member ∈ members, IsString member.1)
      (values : ∀ member ∈ members, IsJson member.2)
      : IsJson (jsonObject members)

/-- Lines of text, each ended by a newline. -/
def textLines (lines : List Text) : Text := lines.flatMap fun line => line ++ ['\n']

/-- One more token, which needs a comma unless it is the first. -/
theorem commaJoin_concat (tokens : List Text) (token : Text)
    : commaJoin (tokens ++ [token])
      = commaJoin tokens ++ (if tokens = [] then [] else [',']) ++ token := by
  induction tokens with
  | nil => rfl
  | cons first rest ih =>
      cases rest with
      | nil => simp [commaJoin]
      | cons second rest =>
          simp only [List.cons_append] at ih ⊢
          simp [commaJoin, ih]

/-- The length of tokens with a comma after each. -/
def lengthWithCommas : List Text → Nat
  | [] => 0
  | token :: rest => token.length + 1 + lengthWithCommas rest

/-- It is one more than that of the joined tokens. -/
theorem commaJoin_length {tokens : List Text} (nonempty : tokens ≠ [])
    : (commaJoin tokens).length + 1 = lengthWithCommas tokens := by
  induction tokens with
  | nil => exact (nonempty rfl).elim
  | cons first rest ih =>
      cases rest with
      | nil => rfl
      | cons second rest =>
          have later := ih (List.cons_ne_nil _ _)
          simp only [commaJoin, List.length_append, List.length_cons, lengthWithCommas]
            at later ⊢
          omega

/-- Leaving tokens out makes the text shorter, by induction on what is left out. -/
theorem length_sum_of_sublist {fewer tokens : List Text} (sublist : fewer.Sublist tokens)
    : lengthWithCommas fewer + tokens.length ≤ lengthWithCommas tokens + fewer.length := by
  induction sublist with
  | slnil => exact Nat.le_refl _
  | cons token _ ih =>
      simp only [lengthWithCommas, List.length_cons]
      omega
  | cons_cons token _ ih =>
      simp only [lengthWithCommas, List.length_cons]
      omega

/-- An array has all of its elements: leaving one out changes the text. -/
theorem eq_of_jsonArray_sublist {fewer elements : List Text}
    (sublist : fewer.Sublist elements) (nonempty : ∀ element ∈ elements, element ≠ [])
    (same : jsonArray fewer = jsonArray elements)
    : fewer = elements := by
  have sameLength : (commaJoin fewer).length = (commaJoin elements).length := by
    have lengths := congrArg List.length same
    simpa [jsonArray, bracketed] using lengths
  cases elements with
  | nil => exact List.sublist_nil.mp sublist
  | cons first rest =>
      have whole := commaJoin_length (List.cons_ne_nil first rest)
      have firstLength := List.length_pos_iff.mpr (nonempty first List.mem_cons_self)
      have bound := length_sum_of_sublist sublist
      apply sublist.eq_of_length_le
      by_cases empty : fewer = []
      · rw [empty] at sameLength
        simp only [lengthWithCommas] at whole
        simp only [commaJoin, List.length_nil] at sameLength
        omega
      · have part := commaJoin_length empty
        omega

@[simp]
theorem textLines_append (first rest : List Text)
    : textLines (first ++ rest) = textLines first ++ textLines rest := by
  simp [textLines]

/-- Bodies of strings can be put one after the other, by induction over the first. -/
theorem IsStringBody.append {first rest : Text} (body : IsStringBody first)
    (tail : IsStringBody rest)
    : IsStringBody (first ++ rest) := by
  induction body with
  | nil => exact tail
  | plain printable notQuote notBackslash _ ih =>
      exact .plain printable notQuote notBackslash ih
  | escape known _ ih => exact .escape known ih
  | unicode four hex _ ih =>
      simp only [List.cons_append, List.append_assoc]
      exact .unicode four hex ih

/-- Characters that need no escape, by induction over them. -/
theorem isStringBody_of_forall {text : Text}
    (plain : ∀ c ∈ text, 0x20 ≤ c.toNat ∧ c ≠ '"' ∧ c ≠ '\\')
    : IsStringBody text := by
  induction text with
  | nil => exact .nil
  | cons c rest ih =>
      obtain ⟨printable, notQuote, notBackslash⟩ := plain c List.mem_cons_self
      exact .plain printable notQuote notBackslash
        (ih fun d member => plain d (List.mem_cons_of_mem c member))

/-- Only zero is written with a zero first, by induction on the digits before the last. -/
theorem toDigits_head_zero (n : Nat) (zero : (Nat.toDigits 10 n).head? = some '0') : n = 0 := by
  induction n using Nat.strongRecOn with
  | _ n ih =>
      rw [Nat.toDigits_eq_if (by decide)] at zero
      by_cases small : n < 10
      · simp only [small, if_true, List.head?_cons, Option.some.injEq] at zero
        exact (Nat.digitChar_eq_zero).mp zero
      · simp only [small, if_false, List.head?_append] at zero
        have first : (Nat.toDigits 10 (n / 10)).head? = some '0' := by
          obtain ⟨c, tail, digits⟩ :=
            List.exists_cons_of_ne_nil (Nat.toDigits_ne_nil (n := n / 10) (b := 10))
          rw [digits] at zero ⊢
          exact zero
        have smaller := ih (n / 10) (by omega) first
        omega

/-- The decimal digits of a natural number are an integer part. -/
theorem isIntegerPart_toDigits (n : Nat) : IsIntegerPart (Nat.toDigits 10 n) := by
  refine ⟨⟨Nat.toDigits_ne_nil, fun c member => ?_⟩, fun zero => ?_⟩
  · exact Nat.isDigit_of_mem_toDigits (by decide) (by decide) member
  · rw [toDigits_head_zero n zero]
    rfl

/-- Hexadecimal digits need no escape, by induction on the digits before the last. -/
theorem isStringBody_toDigits (n : Nat) : IsStringBody (Nat.toDigits 16 n) := by
  have plain : ∀ d < 16, 0x20 ≤ (Nat.digitChar d).toNat ∧ Nat.digitChar d ≠ '"'
      ∧ Nat.digitChar d ≠ '\\' := by
    decide
  have digit : ∀ d < 16, IsStringBody [Nat.digitChar d] := fun d small =>
    .plain (plain d small).1 (plain d small).2.1 (plain d small).2.2 .nil
  induction n using Nat.strongRecOn with
  | _ n ih =>
      rw [Nat.toDigits_eq_if (by decide)]
      by_cases small : n < 16
      · simp only [small, if_true]
        exact digit n small
      · simp only [small, if_false]
        exact (ih (n / 16) (by omega)).append (digit (n % 16) (Nat.mod_lt n (by decide)))

end PacketDissector.Library
