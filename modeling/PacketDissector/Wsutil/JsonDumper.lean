import Mathlib.Algebra.Group.Nat.Defs
import PacketDissector.Epan.Exceptions
import PacketDissector.Library.Base64
import PacketDissector.Library.JsonText

/-! The writer of JSON texts in json_dumper.c, with the checks that keep the order of its
calls.
-/

namespace PacketDissector.Wsutil

open PacketDissector.Library PacketDissector.Epan

/-- JSON_DUMPER_TYPE_NONE to JSON_DUMPER_TYPE_BASE64. -/
inductive ElementType where
  | none
  | value
  | object
  | array
  | base64
  deriving DecidableEq, Repr

/-- An element of json_dumper.state: a type and JSON_DUMPER_HAS_NAME. -/
structure ElementState where
  type : ElementType
  hasName : Bool
  deriving DecidableEq, Repr

/-- The element state 0. -/
def ElementState.zero : ElementState := ⟨.none, false⟩

/-- JSON_DUMPER_BEGIN to JSON_DUMPER_FINISH. -/
inductive Change where
  | begin
  | «end»
  | setName
  | setValue
  | writeBase64
  | finish
  deriving DecidableEq, Repr

/-- JSON_DUMPER_MAX_DEPTH. -/
def jsonDumperMaxDepth : Nat := 1100

/-- A json_dumper. The output file is what was written to it, and the flags are apart. The
depth is never negative, since only a begin that is still open can be ended. The bytes of
base64_save that are not encoded yet are base64Save.
-/
structure JsonDumper where
  outputFile : Text
  prettyPrint : Bool
  dotToUnderscore : Bool
  flagsError : Bool
  noDebug : Bool
  currentDepth : Nat
  base64Save : List UInt8
  state : Nat → ElementState

/-- A json_dumper that is initialised with zeroes. -/
def JsonDumper.initial : JsonDumper where
  outputFile := []
  prettyPrint := false
  dotToUnderscore := false
  flagsError := false
  noDebug := false
  currentDepth := 0
  base64Save := []
  state := fun _ => .zero

/-- Code that writes JSON. -/
abbrev DumperM := EStateM Stop JsonDumper

/-- The hexadecimal digits of a byte. -/
def hexByte (n : Nat) : Text := [Nat.digitChar (n / 16), Nat.digitChar (n % 16)]

/-- What follows the backslash of a control character, by the table json_cntrl. -/
def jsonCntrl (c : Char) : Text :=
  if c.toNat = 8 then ['b']
  else if c.toNat = 9 then ['t']
  else if c.toNat = 10 then ['n']
  else if c.toNat = 12 then ['f']
  else if c.toNat = 13 then ['r']
  else 'u' :: '0' :: '0' :: hexByte c.toNat

/-- One character of json_puts_string, after the character before it. -/
def jsonPutsChar (dotToUnderscore : Bool) (before : Option Char) (c : Char) : Text :=
  if c.toNat < 0x20 then '\\' :: jsonCntrl c
  else if before = some '<' ∧ c = '/' then ['\\', '/']
  else if c = '\\' ∨ c = '"' then ['\\', c]
  else if dotToUnderscore ∧ c = '.' then ['_']
  else [c]

/-- The loop of json_puts_string. -/
def jsonPutsChars (dotToUnderscore : Bool) : Option Char → Text → Text
  | _, [] => []
  | before, c :: rest =>
      jsonPutsChar dotToUnderscore before c ++ jsonPutsChars dotToUnderscore (some c) rest

/-- json_puts_string. -/
def jsonPutsString (str : Option String) (dotToUnderscore : Bool) : Text :=
  match str with
  | none => "null".toList
  | some str => '"' :: jsonPutsChars dotToUnderscore none str.toList ++ ['"']

/-- The bits of an element state. -/
def ElementState.bits (state : ElementState) : Nat :=
  state.type.ctorIdx + if state.hasName then 8 else 0

/-- A state in the message of json_dumper_bad, which is 0xbad outside the array. -/
def JsonDumper.stateText (s : JsonDumper) (depth : Int) : String :=
  if 0 ≤ depth ∧ depth < jsonDumperMaxDepth then
    String.ofList (hexByte (s.state depth.toNat).bits)
  else "bad"

/-- The message of json_dumper_bad. -/
def JsonDumper.badMessage (s : JsonDumper) (change : Change) (type : ElementType)
    (what : String)
    : String :=
  let depth : Int := s.currentDepth
  s!"Bad json_dumper state: {what}; change={change.ctorIdx} type={type.ctorIdx}"
    ++ s!" depth={depth} prev/curr/next state={s.stateText (depth - 1)}"
    ++ s!" {s.stateText depth} {s.stateText (depth + 1)}"

/-- json_dumper_bad. -/
def jsonDumperBad (change : Change) (type : ElementType) (what : String) : DumperM Unit := do
  let s ← get
  if s.noDebug then pure () else gError (s.badMessage change type what)

/-- prev_state in json_dumper_check_state. -/
def JsonDumper.prevState (s : JsonDumper) : ElementState :=
  if s.currentDepth > 0 then s.state (s.currentDepth - 1) else .zero

/-- The switch of json_dumper_check_state. -/
def JsonDumper.allows (s : JsonDumper) (change : Change) (type : ElementType) : Bool :=
  let prevType := s.prevState.type
  match change with
  | .begin => s.currentDepth + 1 < jsonDumperMaxDepth
  | .end => prevType = type && !s.prevState.hasName
  | .setName => prevType = .object && !s.prevState.hasName
  | .setValue =>
      match prevType with
      | .object => s.prevState.hasName
      | .array => true
      | .base64 => false
      | .none | .value => (s.state s.currentDepth).type = .none
  | .writeBase64 => prevType = .base64 && (type = .none || type = .base64)
  | .finish => s.currentDepth = 0

/-- json_dumper_check_state. -/
def jsonDumperCheckState (change : Change) (type : ElementType) : DumperM Bool := do
  let s ← get
  if s.flagsError then
    jsonDumperBad change type "previous corruption detected"
    pure false
  else if s.currentDepth ≥ jsonDumperMaxDepth then
    modify fun s => { s with flagsError := true }
    jsonDumperBad change type "depth corruption"
    pure false
  else if s.allows change type then pure true
  else
    modify fun s => { s with flagsError := true }
    jsonDumperBad change type "illegal transition"
    pure false

/-- fputs to the output file. -/
def JsonDumper.puts (s : JsonDumper) (text : Text) : JsonDumper :=
  { s with outputFile := s.outputFile ++ text }

/-- An assignment to an element of the state. -/
def JsonDumper.setState (s : JsonDumper) (depth : Nat) (state : ElementState) : JsonDumper :=
  { s with state := Function.update s.state depth state }

/-- print_newline_indent. -/
def JsonDumper.printNewlineIndent (s : JsonDumper) (depth : Nat) : JsonDumper :=
  if s.prettyPrint then s.puts ('\n' :: List.replicate (2 * depth) ' ') else s

/-- The comma, newline and indentation of prepare_token. -/
def JsonDumper.separate (s : JsonDumper) : JsonDumper :=
  let s := if s.state s.currentDepth = .zero then s else s.puts [',']
  s.printNewlineIndent s.currentDepth

/-- prepare_token. -/
def JsonDumper.prepareToken (s : JsonDumper) : JsonDumper :=
  if s.currentDepth = 0 then s
  else
    let prevState := s.state (s.currentDepth - 1)
    let s := s.setState (s.currentDepth - 1) { prevState with hasName := false }
    match prevState.type with
    | .object => if prevState.hasName then s else s.separate
    | .array => s.separate
    | .none | .value | .base64 => s

/-- finish_token. -/
def JsonDumper.finishToken (s : JsonDumper) (closeChar : Char) : JsonDumper :=
  let s :=
    if s.state s.currentDepth = .zero then s else s.printNewlineIndent (s.currentDepth - 1)
  s.puts [closeChar]

/-- The shape of the routines of json_dumper: a check, and then a change of the state. -/
def jsonDumperChange (change : Change) (type : ElementType) (body : JsonDumper → JsonDumper)
    : DumperM Unit := do
  if ← jsonDumperCheckState change type then modify body

/-- What json_dumper_begin_object and its like do after the check. -/
def JsonDumper.opened (s : JsonDumper) (type : ElementType) (openChar : Char) : JsonDumper :=
  let s := (s.prepareToken.puts [openChar]).setState s.currentDepth ⟨type, false⟩
  { s with currentDepth := s.currentDepth + 1 }.setState (s.currentDepth + 1) .zero

/-- What json_dumper_end_object and json_dumper_end_array do after the check. -/
def JsonDumper.closed (s : JsonDumper) (closeChar : Char) : JsonDumper :=
  let s := s.finishToken closeChar
  { s with currentDepth := s.currentDepth - 1 }

/-- What the routines for a value do after the check. -/
def JsonDumper.withValue (s : JsonDumper) (text : Text) : JsonDumper :=
  (s.prepareToken.puts text).setState s.currentDepth ⟨.value, false⟩

/-- What json_dumper_set_member_name does after the check. -/
def JsonDumper.withName (s : JsonDumper) (name : String) : JsonDumper :=
  let s := s.prepareToken.puts (jsonPutsString name s.dotToUnderscore)
  let s := s.puts (if s.prettyPrint then [':', ' '] else [':'])
  let prevState := s.state (s.currentDepth - 1)
  s.setState (s.currentDepth - 1) { prevState with hasName := true }

/-- json_dumper_begin_object. -/
def jsonDumperBeginObject : DumperM Unit :=
  jsonDumperChange .begin .object fun s => s.opened .object '\x7b'

/-- json_dumper_set_member_name. -/
def jsonDumperSetMemberName (name : String) : DumperM Unit :=
  jsonDumperChange .setName .none fun s => s.withName name

/-- json_dumper_end_object. -/
def jsonDumperEndObject : DumperM Unit :=
  jsonDumperChange .end .object fun s => s.closed '\x7d'

/-- json_dumper_begin_array. -/
def jsonDumperBeginArray : DumperM Unit :=
  jsonDumperChange .begin .array fun s => s.opened .array '['

/-- json_dumper_end_array. -/
def jsonDumperEndArray : DumperM Unit :=
  jsonDumperChange .end .array fun s => s.closed ']'

/-- json_dumper_value_string. -/
def jsonDumperValueString (value : Option String) : DumperM Unit :=
  jsonDumperChange .setValue .value fun s => s.withValue (jsonPutsString value false)

/-- json_dumper_value_va_list, with the text that vfprintf makes of its arguments. -/
def jsonDumperValueVaList (text : Text) : DumperM Unit :=
  jsonDumperChange .setValue .value fun s => s.withValue text

/-- json_dumper_finish. -/
def jsonDumperFinish : DumperM Bool := do
  if ← jsonDumperCheckState .finish .none then
    modify fun s => (s.puts ['\n']).setState 0 .zero
    pure true
  else pure false

/-- The letters of g_base64_encode_step. -/
def base64Letters : Text :=
  "ABCDEFGHIJKLMNOPQRSTUVWXYZabcdefghijklmnopqrstuvwxyz0123456789+/".toList

/-- One of the letters. -/
def base64Letter (n : Nat) : Char := (base64Letters[n]?).getD '='

/-- The number of a letter in the base64 alphabet: A to Z, a to z, 0 to 9, plus and slash. -/
def base64Value (c : Char) : Option Nat :=
  if 'A' ≤ c ∧ c ≤ 'Z' then some (c.toNat - 'A'.toNat)
  else if 'a' ≤ c ∧ c ≤ 'z' then some (c.toNat - 'a'.toNat + 26)
  else if '0' ≤ c ∧ c ≤ '9' then some (c.toNat - '0'.toNat + 52)
  else if c = '+' then some 62
  else if c = '/' then some 63
  else none

theorem base64Value_letter {n : Nat} (below : n < 64)
    : base64Value (base64Letter n) = some n := by
  have all : (List.range 64).all (fun n => base64Value (base64Letter n) = some n) = true := by
    decide +kernel
  simpa using List.all_eq_true.mp all n (List.mem_range.mpr below)

/-- The letters of GLib with the numbers of the base64 alphabet. -/
def base64Alphabet : Base64.Alphabet Char where
  letter := base64Letter
  value := base64Value
  pad := '='
  value_letter _ below := base64Value_letter below
  value_pad := rfl

/-- g_base64_encode_step: the characters for whole groups of three bytes, and the bytes
left.
-/
def gBase64EncodeStep (data : List UInt8) : Text × List UInt8 := Base64.step base64Alphabet data

/-- g_base64_encode_close. -/
def gBase64EncodeClose (left : List UInt8) : Text := Base64.close base64Alphabet left

/-- CHUNK_SIZE. -/
def chunkSize : Nat := 1024

/-- The loop of json_dumper_write_base64: what it writes, and the bytes left. -/
def base64Chunks (save data : List UInt8) : Text × List UInt8 :=
  if data = [] then ([], save)
  else
    let (chars, left) := gBase64EncodeStep (save ++ data.take chunkSize)
    let (more, left) := base64Chunks left (data.drop chunkSize)
    (chars ++ more, left)
termination_by data.length
decreasing_by
  rename_i notEmpty
  have nonempty := List.length_pos_iff.mpr notEmpty
  simp only [List.length_drop, chunkSize]
  omega

/-- json_dumper_begin_base64. -/
def jsonDumperBeginBase64 : DumperM Unit :=
  jsonDumperChange .begin .base64 fun s => { s with base64Save := [] }.opened .base64 '"'

/-- json_dumper_write_base64. -/
def jsonDumperWriteBase64 (data : List UInt8) : DumperM Unit :=
  jsonDumperChange .writeBase64 .base64 fun s =>
    let (chars, left) := base64Chunks s.base64Save data
    { s.puts chars with base64Save := left }.setState s.currentDepth ⟨.base64, false⟩

/-- json_dumper_end_base64. -/
def jsonDumperEndBase64 : DumperM Unit :=
  jsonDumperChange .end .base64 fun s =>
    let s := (s.puts (gBase64EncodeClose s.base64Save)).puts ['"']
    { s with currentDepth := s.currentDepth - 1 }

end PacketDissector.Wsutil
