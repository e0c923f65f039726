import PacketDissector.Sharkd.JsonHelpers
import PacketDissector.Sharkd.RequestLines
import PacketDissector.Wsutil.JsonStrings

/-! What json_dumper writes as a line with an object of strings is read back as a request with
these strings as its attributes.
-/

namespace PacketDissector.Sharkd.Line

open PacketDissector.Library
open PacketDissector.Wsutil

variable {s t : JsonDumper}

/-- A name that needs no escape, and a string without NUL. -/
structure NamedString where
  name : String
  value : String
  plain : ∀ c ∈ name.toList, 0x20 ≤ c.toNat ∧ c ≠ '"' ∧ c ≠ '\\' ∧ c ≠ '/'
  noNul : '\x00' ∉ value.toList

/-- An attribute of these strings. -/
def NamedString.pair (member : NamedString) : String × String := (member.name, member.value)

/-- The member of a flat object that is written. -/
def NamedString.member (string : NamedString) : FlatMember where
  name := string.name.toList
  text := jsonPutsString string.value false
  value := string.value.toList
  blanks := fun _ => []
  plain := fun c known =>
    have ⟨printable, notQuote, notBackslash, _⟩ := string.plain c known
    ⟨printable, notQuote, notBackslash⟩
  means := .string (isStringBody_jsonPutsChars none _) (decode_jsonPutsChars none string.noNul)
  blank := nofun

end PacketDissector.Sharkd.Line
