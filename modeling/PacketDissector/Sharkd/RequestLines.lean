import PacketDissector.Sharkd.SessionLinesContract
import PacketDissector.Wsutil.JsmnObjects

/-! Lines with one object of strings, numbers and words are requests with its members as their
attributes.
-/

namespace PacketDissector.Sharkd.Line

open PacketDissector.Library
open PacketDissector.Wsutil

variable {before after text line : Text} {token : JsmnTok} {c : Char}

/-- A line with an object of members, and white space around it. -/
structure RequestLine where
  before : Text
  after : Text
  members : List FlatMember
  blank : ∀ c ∈ before ++ after, isBlank c = true

/-- The text of the line. -/
def RequestLine.written (request : RequestLine) : Text :=
  flatObject request.before request.after request.members

end PacketDissector.Sharkd.Line
