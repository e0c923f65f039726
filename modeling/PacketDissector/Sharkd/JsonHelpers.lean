import PacketDissector.Sharkd.Session
import PacketDissector.Wsutil.Base64Contract

/-! What the helpers of sharkd_session.c write: well-formed values, elements of arrays and
members of objects.
-/

namespace PacketDissector.Sharkd

open PacketDissector.Library PacketDissector.Wsutil

/-- The program writes one well-formed value at a depth. -/
def WritesJson (d : Nat) (x : DumperM Unit) : Prop :=
  ∃ text, IsJson text ∧ WritesValue d x text

/-- The program writes well-formed elements of an array whose inside has a depth. -/
def WritesElements (d : Nat) (x : DumperM Unit) : Prop :=
  ∃ elements, (∀ element ∈ elements, IsJson element) ∧ WritesTokens .array d x elements

/-- A member of an object is well formed. -/
def IsMember (member : Text × Text) : Prop := IsString member.1 ∧ IsJson member.2

/-- The program writes well-formed members of an object whose inside has a depth. -/
def WritesMembers (d : Nat) (x : DumperM Unit) : Prop :=
  ∃ members : List (Text × Text), (∀ member ∈ members, IsMember member)
    ∧ WritesTokens .object d x (members.map fun member => jsonMember member.1 member.2)

variable {d : Nat} {x y : DumperM Unit}

theorem WritesElements.nil (d : Nat) : WritesElements d (pure ()) :=
  ⟨[], by simp, WritesTokens.nil _ d⟩

theorem WritesMembers.nil (d : Nat) : WritesMembers d (pure ()) :=
  ⟨[], by simp, WritesTokens.nil _ d⟩

/-- Elements of one program after those of another. -/
theorem WritesElements.bind (here : WritesElements d x) (later : WritesElements d y)
    : WritesElements d (x >>= fun _ => y) := by
  obtain ⟨first, firstJson, firstWritten⟩ := here
  obtain ⟨rest, restJson, restWritten⟩ := later
  refine ⟨first ++ rest, fun element member => ?_, firstWritten.bind restWritten⟩
  rcases List.mem_append.mp member with inFirst | inRest
  · exact firstJson element inFirst
  · exact restJson element inRest

/-- Members of one program after those of another. -/
theorem WritesMembers.bind (here : WritesMembers d x) (later : WritesMembers d y)
    : WritesMembers d (x >>= fun _ => y) := by
  obtain ⟨first, firstJson, firstWritten⟩ := here
  obtain ⟨rest, restJson, restWritten⟩ := later
  refine ⟨first ++ rest, fun pair member => ?_, ?_⟩
  · rcases List.mem_append.mp member with inFirst | inRest
    · exact firstJson pair inFirst
    · exact restJson pair inRest
  · rw [List.map_append]
    exact firstWritten.bind restWritten

/-- A value is an element of the array it is written in. -/
theorem WritesJson.element (value : WritesJson d x) : WritesElements d x := by
  obtain ⟨text, json, written⟩ := value
  exact ⟨[text], by simpa using json, written.element⟩

/-- A value under a name is a member of the object it is written in. -/
theorem WritesJson.member (name : String) (value : WritesJson d x)
    : WritesMembers d (jsonDumperSetMemberName name >>= fun _ => x) := by
  obtain ⟨text, json, written⟩ := value
  refine ⟨[(jsonPutsString name false, text)], ?_, written.member name⟩
  simpa [IsMember] using ⟨isString_jsonPutsString name, json⟩

/-- An object of members is a value. -/
theorem WritesMembers.object (members : WritesMembers (d + 1) x)
    (room : d + 1 < jsonDumperMaxDepth)
    : WritesJson d (do jsonDumperBeginObject; x; jsonDumperEndObject) := by
  obtain ⟨pairs, each, written⟩ := members
  exact ⟨_, .object (fun pair member => (each pair member).1) fun pair member =>
    (each pair member).2, writesValue_object room written⟩

/-- An array of elements is a value. -/
theorem WritesElements.array (elements : WritesElements (d + 1) x)
    (room : d + 1 < jsonDumperMaxDepth)
    : WritesJson d (do jsonDumperBeginArray; x; jsonDumperEndArray) := by
  obtain ⟨texts, each, written⟩ := elements
  exact ⟨_, .array each, writesValue_array room written⟩

theorem writesJson_string (d : Nat) (str : String)
    : WritesJson d (sharkdJsonValueString none str) :=
  ⟨_, .string (isString_jsonPutsString str), writesValue_string d str⟩

theorem writesJson_anyf {text : Text} (d : Nat) (json : IsJson text)
    : WritesJson d (sharkdJsonValueAnyf none text) :=
  ⟨text, json, writesValue_vaList d text⟩

theorem isJson_decimal (n : Nat) : IsJson (decimal n) :=
  .number ⟨[], decimal n, [], by simp, Or.inl rfl, isIntegerPart_toDigits n, Or.inl rfl⟩

/-- A helper with a key writes the member with the value that it writes without. -/
theorem writesMembers_string (d : Nat) (key str : String)
    : WritesMembers d (sharkdJsonValueString key str) :=
  (writesJson_string d str).member key

theorem writesMembers_anyf {text : Text} (d : Nat) (key : String) (json : IsJson text)
    : WritesMembers d (sharkdJsonValueAnyf key text) :=
  (writesJson_anyf d json).member key

/-- A text without characters that need an escape is a string between quotes. -/
theorem writesMembers_stringf {text : Text} (d : Nat) (key : String) (body : IsStringBody text)
    : WritesMembers d (sharkdJsonValueStringf key text) := by
  have value : WritesJson d (jsonDumperValueVaList ('"' :: text ++ ['"'])) :=
    ⟨_, .string ⟨text, rfl, body⟩, writesValue_vaList d _⟩
  exact value.member key

/-- Data under a key. -/
theorem writesMembers_base64 (key : String) (data : List UInt8)
    (room : d + 1 < jsonDumperMaxDepth)
    : WritesMembers d (sharkdJsonValueBase64 key data) := by
  have written := writesValue_base64 [data] room
  simp only [writeBase64Pieces, bind_pure_unit] at written
  have value : WritesJson d
      (do jsonDumperBeginBase64; jsonDumperWriteBase64 data; jsonDumperEndBase64) :=
    ⟨_, .string ⟨_, rfl, isStringBody_base64 _⟩, written⟩
  exact value.member key

/-- An array under a key, between sharkd_json_array_open and sharkd_json_array_close. -/
theorem WritesElements.arrayMember (elements : WritesElements (d + 1) x) (key : String)
    (room : d + 1 < jsonDumperMaxDepth)
    : WritesMembers d (do sharkdJsonArrayOpen key; x; sharkdJsonArrayClose) := by
  have named := (elements.array room).member key
  simpa only [sharkdJsonArrayOpen, sharkdJsonArrayClose, setKey, bind_assoc] using named

/-- Between two states in which nothing is open, some lines of JSON were written. -/
structure Answered (s t : JsonDumper) : Prop where
  idle : t.Idle
  lines : ∃ texts, (∀ text ∈ texts, IsJson text)
    ∧ t.outputFile = s.outputFile ++ textLines texts

variable {s t u : JsonDumper}

theorem Answered.refl (idle : s.Idle) : Answered s s :=
  ⟨idle, [], by simp, by simp [textLines]⟩

theorem Answered.trans (first : Answered s t) (rest : Answered t u) : Answered s u := by
  obtain ⟨-, texts, json, output⟩ := first
  obtain ⟨idle, texts', json', output'⟩ := rest
  refine ⟨idle, texts ++ texts', fun text member => ?_, ?_⟩
  · rcases List.mem_append.mp member with here | later
    · exact json text here
    · exact json' text later
  · rw [output', output, textLines_append, List.append_assoc]

/-- A value and json_dumper_finish are an answer. -/
theorem WritesJson.answer (value : WritesJson 0 x) (idle : s.Idle)
    : Ends (x >>= fun _ => jsonDumperFinish >>= fun _ => pure ()) s (fun _ t => Answered s t)
        fun _ => False := by
  obtain ⟨text, json, written⟩ := value
  have line := written.line idle
  rw [← bind_assoc]
  refine Ends.bind line fun _ t finished => returns_pure.ends ?_
  exact ⟨finished.1, [text], by simpa using json, finished.2⟩

end PacketDissector.Sharkd
