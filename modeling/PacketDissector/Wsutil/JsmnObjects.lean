import PacketDissector.Wsutil.JsmnSteps
import PacketDissector.Wsutil.WsJson

/-! The tokens of an object whose values are strings, numbers and words, with any white space
between them.
-/

namespace PacketDissector.Wsutil

open PacketDissector.Library

variable {pos read : Nat} {c : Char} {chars more rest : Text} {s t u : JsmnState}

-----------------------------------------------------------------------------------------
-- Scanning
-----------------------------------------------------------------------------------------

/-- The loop goes from one state to the other over some characters, with the rest of the text
behind them.
-/
def Scans (pos : Nat) (chars rest : Text) (s t : JsmnState) : Prop :=
  ∀ u, Returns (parseFrom (pos + chars.length) 0 rest) t () u →
    Returns (parseFrom pos 0 (chars ++ rest)) s () u

theorem Scans.append (first : Scans pos chars (more ++ rest) s t)
    (second : Scans (pos + chars.length) more rest t u)
    : Scans pos (chars ++ more) rest s u := by
  intro v returns
  rw [List.append_assoc]
  refine first v (second v ?_)
  rwa [Nat.add_assoc, ← List.length_append]

/-- A white space character. -/
def isBlank (c : Char) : Bool := c ∈ ['\t', '\r', '\n', ' ']

variable {placed spare pairs : List JsmnTok} {next : JsmnTok} {super : Int}

/-- A text that is read as a primitive. -/
def IsPrimitive (text : Text) : Prop :=
  (∀ c ∈ text, 32 ≤ c.toNat ∧ c.toNat < 127 ∧ endsPrimitive c = false)
  ∧ ∃ c rest, text = c :: rest ∧ c ∉ ['\x7b', '[', '"']

/-- The text of a string or a primitive, and what it stands for. -/
inductive Means : Text → Text → Prop
  | string {body value : Text} (isBody : IsStringBody body)
      (decodes : jsonDecodeStringInplace body = some value) : Means ('"' :: body ++ ['"']) value
  | primitive {text : Text} (primitive : IsPrimitive text) : Means text text

/-- A member of an object: a name without escapes, the text of its value, and white space before
and after each of them.
-/
structure FlatMember where
  name : Text
  text : Text
  value : Text
  blanks : Fin 4 → Text
  plain : ∀ c ∈ name, 0x20 ≤ c.toNat ∧ c ≠ '"' ∧ c ≠ '\\'
  means : Means text value
  blank : ∀ i, ∀ c ∈ blanks i, isBlank c = true

/-- The text of a member. -/
def FlatMember.written (member : FlatMember) : Text :=
  member.blanks 0 ++ ('"' :: member.name ++ ['"']) ++ member.blanks 1 ++ [':'] ++ member.blanks 2
    ++ member.text ++ member.blanks 3

/-- The token of a value at a place. -/
def valueToken (pos : Nat) (text : Text) : JsmnTok :=
  if text.head? = some '"' then
    ⟨.string, (pos + 1 : Nat), (pos + text.length - 1 : Nat), 0⟩
  else ⟨.primitive, pos, (pos + text.length : Nat), 0⟩

/-- The place of the value of a member. -/
def FlatMember.valuePos (pos : Nat) (member : FlatMember) : Nat :=
  pos + (member.blanks 0).length + (member.name.length + 2) + (member.blanks 1).length + 1
    + (member.blanks 2).length

/-- The tokens of a member at a place. -/
def FlatMember.tokens (pos : Nat) (member : FlatMember) : List JsmnTok :=
  [⟨.string, (pos + (member.blanks 0).length + 1 : Nat),
      (pos + (member.blanks 0).length + 1 + member.name.length : Nat), 1⟩,
    valueToken (member.valuePos pos) member.text]

/-- An object of members, with white space around it. -/
def flatObject (before after : Text) (members : List FlatMember) : Text :=
  before ++ bracketed '\x7b' '\x7d' (members.map FlatMember.written) ++ after

end PacketDissector.Wsutil
