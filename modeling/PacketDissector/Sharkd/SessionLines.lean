import PacketDissector.Sharkd.Session
import PacketDissector.Wsutil.WsJson

/-! The loop of sharkd_session_main in sharkd_session.c: a line of JSON becomes tokens, and the
tokens become attributes in the buffer of the line.
-/

namespace PacketDissector.Sharkd.Line

open PacketDissector.Library
open PacketDissector.Wsutil

/-- The sanity checks of sharkd_session_process. -/
inductive SanityCheck where
  | notObject
  | notEven
  | notString
  | wrongType
  | cannotUnescape
  | noReq
  deriving DecidableEq, Repr

/-- The branches of sharkd_session_process for the value of req. -/
inductive Handler where
  | load
  | status
  | analyse
  | info
  | check
  | complete
  | frames
  | tap
  | follow
  | iograph
  | intervals
  | frame
  | setcomment
  | setconf
  | dumpconf
  | download
  | bye
  | unknown
  deriving DecidableEq, Repr

/-- How the processing of a line stops: at a sanity check, or with an access outside of buf or
tokens.
-/
inductive LineStop where
  | check (check : SanityCheck)
  | outside
  deriving DecidableEq, Repr

/-- Code that works on buf. -/
abbrev LineM := EStateM LineStop Text

/-- A request with its attributes, as its handler gets them. -/
structure Request where
  handler : Handler
  attributes : Attributes
  deriving DecidableEq, Repr

/-- What becomes of a line: sharkd_session_main returns a code, a sanity check fails, or a
request is handled.
-/
inductive LineOutcome where
  | closed (code : Nat)
  | refused (check : SanityCheck)
  | request (request : Request)
  | outside
  deriving DecidableEq, Repr

/-- buf[i] = c. -/
def setBuf (i : Int) (c : Char) : LineM Unit := do
  if 0 ≤ i ∧ i < (← get).length then modify fun buf => buf.set i.toNat c
  else throw .outside

/-- The string at &buf[i], up to its NUL. -/
def readString (i : Int) : LineM Text := do
  let buf ← get
  if 0 ≤ i ∧ '\x00' ∈ buf.drop i.toNat then pure ((buf.drop i.toNat).takeWhile (· ≠ '\x00'))
  else throw .outside

/-- A string and its NUL are put at &buf[i]. -/
def writeString (i : Int) (text : Text) : LineM Unit := do
  if 0 ≤ i ∧ i + text.length < (← get).length then
    modify fun buf =>
      buf.take i.toNat ++ text ++ '\x00' :: buf.drop (i.toNat + text.length + 1)
  else throw .outside

/-- json_decode_string_inplace for &buf[i]. What it leaves there is not used after FALSE. -/
def decodeAt (i : Int) : LineM Bool := do
  match jsonDecodeStringInplace (← readString i) with
  | some text => do
      writeString i text
      pure true
  | none => pure false

/-- json_find_attr: the start of the value. -/
def jsonFindAttr (attr : Text) : List JsmnTok → LineM (Option Int)
  | name :: value :: rest => do
      if (← readString name.start) = attr then pure (some value.start)
      else jsonFindAttr attr rest
  | _ => pure none

/-- A turn of the loop of sharkd_session_process. -/
def splitPair (name value : JsmnTok) : LineM Unit := do
  if name.type ≠ .string then throw (.check .notString)
  else if value.type ≠ .string ∧ value.type ≠ .primitive then throw (.check .wrongType)
  else
    setBuf name.end '\x00'
    setBuf value.end '\x00'
    if value.type = .string then
      if ← decodeAt value.start then pure () else throw (.check .cannotUnescape)
    else pure ()

/-- The loop of sharkd_session_process. -/
def splitStrings : List JsmnTok → LineM Unit
  | name :: value :: rest => do
      splitPair name value
      splitStrings rest
  | _ => pure ()

/-- The strings that json_find_attr compares and returns, in order. -/
def readAttributes : List JsmnTok → LineM Attributes
  | name :: value :: rest => do
      let attr ← readString name.start
      let text ← readString value.start
      pure ((String.ofList attr, String.ofList text) :: (← readAttributes rest))
  | _ => pure []

/-- The comparisons of tok_req. -/
def handlerOf (tokReq : String) : Handler :=
  match tokReq with
  | "load" => .load
  | "status" => .status
  | "analyse" => .analyse
  | "info" => .info
  | "check" => .check
  | "complete" => .complete
  | "frames" => .frames
  | "tap" => .tap
  | "follow" => .follow
  | "iograph" => .iograph
  | "intervals" => .intervals
  | "frame" => .frame
  | "setcomment" => .setcomment
  | "setconf" => .setconf
  | "dumpconf" => .dumpconf
  | "download" => .download
  | "bye" => .bye
  | _ => .unknown

/-- sharkd_session_process after its loop, with the attributes that the handler can find. -/
def dispatch (tokens : List JsmnTok) : LineM Request := do
  match ← jsonFindAttr "req".toList tokens with
  | none => throw (.check .noReq)
  | some tokReq => do
      let handler := handlerOf (String.ofList (← readString tokReq))
      pure ⟨handler, ← readAttributes tokens⟩

/-- sharkd_session_process, without the handlers. -/
def sharkdSessionProcess (tokens : List JsmnTok) (count : Nat) : LineM Request := do
  if count < 1 then throw (.check .notObject)
  else
    match tokens with
    | [] => throw .outside
    | first :: rest =>
        if first.type ≠ .object then throw (.check .notObject)
        else if (count - 1) % 2 = 1 then throw (.check .notEven)
        else if rest.length < count - 1 then throw .outside
        else do
          splitStrings (rest.take (count - 1))
          dispatch (rest.take (count - 1))

/-- The process ends: sharkd_session_main returns, or a bye is handled. -/
def LineOutcome.ends : LineOutcome → Bool
  | .closed _ => true
  | .outside => true
  | .request served => served.handler = .bye
  | .refused _ => false

/-- json_parse returned an error, which sharkd_session_main returns a code for. -/
def closedBy (code : Nat) : JsmnStop → LineOutcome
  | .error _ => .closed code
  | .outside => .outside

/-- The end of a turn: sharkd_session_process for tokens. -/
def processLine (line : Text) (tokens : List JsmnTok) (ret : Nat) : LineOutcome :=
  match (sharkdSessionProcess tokens ret).run (line ++ ['\x00']) with
  | .ok request _ => .request request
  | .error (.check check) _ => .refused check
  | .error .outside _ => .outside

/-- A turn of the loop of sharkd_session_main, for a line as fgets leaves it in buf and the
tokens that were allocated. The outcome comes with the tokens that are kept.
-/
def sessionLine (line : Text) (tokens : List JsmnTok) : LineOutcome × List JsmnTok :=
  match jsonParse line none with
  | .error stop _ => (closedBy 1 stop, tokens)
  | .ok 0 _ => (.closed 1, tokens)
  | .ok counted _ =>
      let ret := counted + 1
      let tokens := if tokens.length < ret then tokens.rightpad ret .zero else tokens
      -- memset: the tokens of earlier lines stay behind those that are cleared.
      let cleared := List.replicate ret JsmnTok.zero
      match jsonParse line (some cleared) with
      | .error stop s => (closedBy 2 stop, s.tokens.getD [] ++ tokens.drop ret)
      | .ok 0 s => (.closed 2, s.tokens.getD [] ++ tokens.drop ret)
      | .ok ret' s =>
          let tokens := s.tokens.getD [] ++ tokens.drop ret
          (processLine line tokens ret', tokens)

/-- The loop of sharkd_session_main: the outcomes of its lines up to the end. -/
def sharkdSessionMain : List Text → List JsmnTok → List LineOutcome
  | [], _ => []
  | line :: rest, tokens =>
      let (outcome, tokens) := sessionLine line tokens
      if outcome.ends then [outcome] else outcome :: sharkdSessionMain rest tokens

end PacketDissector.Sharkd.Line
