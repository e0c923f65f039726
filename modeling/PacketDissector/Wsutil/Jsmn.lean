import Mathlib.Algebra.Group.Int.Defs
import PacketDissector.Library.JsonText
import PacketDissector.Library.Stateful

/-! The tokenizer of JSON texts in jsmn.c. It runs once without tokens, to count them, and once
with an array of them.
-/

namespace PacketDissector.Wsutil

open PacketDissector.Library

/-- jsmntype_t. -/
inductive JsmnType where
  | undefined
  | object
  | array
  | string
  | primitive
  deriving DecidableEq, Repr

/-- A jsmntok_t. -/
structure JsmnTok where
  type : JsmnType
  start : Int
  «end» : Int
  size : Int
  deriving DecidableEq, Repr

/-- A token of zeroes. -/
def JsmnTok.zero : JsmnTok := ⟨.undefined, 0, 0, 0⟩

/-- enum jsmnerr. -/
inductive JsmnErr where
  | nomem
  | inval
  | part
  deriving DecidableEq, Repr

/-- How the tokenizer stops: with an error, or with an access outside the array of tokens. -/
inductive JsmnStop where
  | error (err : JsmnErr)
  | outside
  deriving DecidableEq, Repr

/-- A jsmn_parser without its position, the tokens unless they are NULL, and the local count. -/
structure JsmnState where
  toknext : Nat
  toksuper : Int
  tokens : Option (List JsmnTok)
  count : Nat
  deriving DecidableEq, Repr

/-- Code of the tokenizer. -/
abbrev JsmnM := EStateM JsmnStop JsmnState

/-- jsmn_init, for some tokens. -/
def jsmnInit (tokens : Option (List JsmnTok)) : JsmnState := ⟨0, -1, tokens, 0⟩

/-- A token is open: it has a start and no end. -/
def JsmnTok.isOpen (token : JsmnTok) : Bool := token.start ≠ -1 && token.end = -1

/-- A token for an object or an array. -/
def JsmnTok.isCompound (token : JsmnTok) : Bool := token.type = .array || token.type = .object

/-- A change of the token with an index. -/
def changeToken (i : Int) (change : JsmnTok → JsmnTok) : JsmnM Unit := do
  match (← get).tokens with
  | some tokens =>
      if 0 ≤ i ∧ i < tokens.length then
        modify fun s => { s with tokens := some (tokens.modify i.toNat change) }
      else throw .outside
  | none => throw .outside

/-- jsmn_alloc_token, with the error of its callers. -/
def jsmnAllocToken : JsmnM Int := do
  let s ← get
  if s.toknext ≥ (s.tokens.getD []).length then throw (.error .nomem)
  else
    modify fun s => { s with toknext := s.toknext + 1 }
    changeToken s.toknext fun token => { token with start := -1, «end» := -1, size := 0 }
    pure s.toknext

/-- The search from the last token below an index down to the first. -/
def lastToken (wanted : JsmnTok → Bool) : Nat → JsmnM (Option Nat)
  | 0 => pure none
  | i + 1 => do
      match ((← get).tokens.getD [])[i]? with
      | none => throw .outside
      | some token => if wanted token then pure (some i) else lastToken wanted i

/-- tokens[parser->toksuper].size++, when there is a superior token. -/
def countInSuper : JsmnM Unit := do
  let s ← get
  if s.toksuper ≠ -1 then changeToken s.toksuper fun token => { token with size := token.size + 1 }
  else pure ()

/-- The case of an opening bracket. -/
def openToken (pos : Nat) (type : JsmnType) : JsmnM Unit := do
  modify fun s => { s with count := s.count + 1 }
  match (← get).tokens with
  | none => pure ()
  | some _ => do
      let token ← jsmnAllocToken
      countInSuper
      changeToken token fun t => { t with type, start := pos }
      modify fun s => { s with toksuper := s.toknext - 1 }

/-- The second loop of the case of a closing bracket, for the token that was closed. -/
def superToken (closed : Nat) : JsmnM Unit := do
  match ← lastToken JsmnTok.isOpen (closed + 1) with
  | some i => modify fun s => { s with toksuper := i }
  | none => pure ()

/-- The first part of the case of a closing bracket, for the last open token. -/
def closeLast (pos : Nat) (type : JsmnType) (i : Nat) : JsmnM Unit := do
  match ((← get).tokens.getD [])[i]? with
  | none => throw .outside
  | some token =>
      if token.type ≠ type then throw (.error .inval)
      else
        modify fun s => { s with toksuper := -1 }
        changeToken i fun token => { token with «end» := (pos + 1 : Nat) }

/-- The case of a closing bracket. -/
def closeToken (pos : Nat) (type : JsmnType) : JsmnM Unit := do
  match (← get).tokens with
  | none => pure ()
  | some _ => do
      match ← lastToken JsmnTok.isOpen (← get).toknext with
      | none => throw (.error .inval)
      | some i => do
          closeLast pos type i
          superToken i

/-- The search in the case of a comma. -/
def leaveName : JsmnM Unit := do
  match ← lastToken (fun token => token.isCompound && token.isOpen) (← get).toknext with
  | some i => modify fun s => { s with toksuper := i }
  | none => pure ()

/-- The case of a comma. -/
def commaToken : JsmnM Unit := do
  let s ← get
  match s.tokens with
  | none => pure ()
  | some tokens =>
      if s.toksuper = -1 then pure ()
      else if s.toksuper < 0 then throw .outside
      else
        match tokens[s.toksuper.toNat]? with
        | none => throw .outside
        | some token => if token.isCompound then pure () else leaveName

/-- The token of a string or a primitive. -/
def addToken (type : JsmnType) (start stop : Nat) : JsmnM Unit := do
  match (← get).tokens with
  | none => modify fun s => { s with count := s.count + 1 }
  | some _ => do
      let token ← jsmnAllocToken
      changeToken token fun _ => ⟨type, start, stop, 0⟩
      modify fun s => { s with count := s.count + 1 }
      countInSuper

/-- A hexadecimal digit, by its code. -/
def isHexCode (c : Char) : Bool :=
  (48 ≤ c.toNat && c.toNat ≤ 57) || (65 ≤ c.toNat && c.toNat ≤ 70)
    || (97 ≤ c.toNat && c.toNat ≤ 102)

/-- The loop of jsmn_parse_string: the characters before the closing quote, after some that
were read and with some hexadecimal digits still to come.
-/
def stringLoop : Nat → Nat → Text → Except JsmnErr Nat
  | _, _, [] => .error .part
  | read, digits + 1, c :: rest =>
      if c = '\x00' then .error .part
      else if isHexCode c then stringLoop (read + 1) digits rest
      else .error .inval
  | read, 0, '\\' :: c :: rest =>
      if c ∈ ['"', '/', '\\', 'b', 'f', 'r', 'n', 't'] then stringLoop (read + 2) 0 rest
      else if c = 'u' then stringLoop (read + 2) 4 rest
      else .error .inval
  | read, 0, c :: rest =>
      if c = '\x00' then .error .part
      else if c = '"' then .ok read
      else stringLoop (read + 1) 0 rest

/-- A character that ends a primitive. -/
def endsPrimitive (c : Char) : Bool := c ∈ [':', '\t', '\r', '\n', ' ', ',', ']', '\x7d']

/-- The loop of jsmn_parse_primitive: its characters, after some that were read. -/
def primitiveLoop : Nat → Text → Except JsmnErr Nat
  | read, [] => .ok read
  | read, c :: rest =>
      if c = '\x00' ∨ endsPrimitive c then .ok read
      else if c.toNat < 32 ∨ c.toNat ≥ 127 then .error .inval
      else primitiveLoop (read + 1) rest

/-- An error of the loops. -/
def orStop {α : Type} : Except JsmnErr α → JsmnM α
  | .ok a => pure a
  | .error err => throw (.error err)

/-- The switch of jsmn_parse for the character at a position: the characters after it that belong
to its token.
-/
def parseChar (pos : Nat) (c : Char) (rest : Text) : JsmnM Nat :=
  if c = '\x7b' then (fun _ => 0) <$> openToken pos .object
  else if c = '[' then (fun _ => 0) <$> openToken pos .array
  else if c = '\x7d' then (fun _ => 0) <$> closeToken pos .object
  else if c = ']' then (fun _ => 0) <$> closeToken pos .array
  else if c = '"' then do
    let length ← orStop (stringLoop 0 0 rest)
    addToken .string (pos + 1) (pos + 1 + length)
    pure (length + 1)
  else if c ∈ ['\t', '\r', '\n', ' '] then pure 0
  else if c = ':' then
    (fun _ => 0) <$> modify fun s : JsmnState => { s with toksuper := s.toknext - 1 }
  else if c = ',' then (fun _ => 0) <$> commaToken
  else do
    let length ← orStop (primitiveLoop 0 (c :: rest))
    addToken .primitive pos (pos + length)
    pure (length - 1)

/-- The loop of jsmn_parse from a position on, with the characters that the last token has taken
already.
-/
def parseFrom : Nat → Nat → Text → JsmnM Unit
  | _, _, [] => pure ()
  | pos, taken + 1, _ :: rest => parseFrom (pos + 1) taken rest
  | pos, 0, c :: rest =>
      if c = '\x00' then pure ()
      else do
        let taken ← parseChar pos c rest
        parseFrom (pos + 1) taken rest

/-- The last loop of jsmn_parse. -/
def checkClosed : JsmnM Unit := do
  match (← get).tokens with
  | none => pure ()
  | some _ => do
      match ← lastToken JsmnTok.isOpen (← get).toknext with
      | some _ => throw (.error .part)
      | none => pure ()

/-- jsmn_parse. -/
def jsmnParse (js : Text) : JsmnM Nat := do
  parseFrom 0 0 js
  checkClosed
  pure (← get).count

end PacketDissector.Wsutil
