import PacketDissector.Wsutil.JsonDumper

/-! What calls of the json_dumper routines in their proper order write: values in arrays, members
in objects, and lines of texts.
-/

namespace PacketDissector.Wsutil

open PacketDissector.Library PacketDissector.Epan

/-- No error so far, and the flags that this program leaves unset. -/
structure JsonDumper.Plain (s : JsonDumper) : Prop where
  noError : s.flagsError = false
  compact : s.prettyPrint = false
  dots : s.dotToUnderscore = false

/-- A value can be written next. -/
structure JsonDumper.Slot (s : JsonDumper) : Prop extends s.Plain where
  room : s.currentDepth < jsonDumperMaxDepth
  allowed : s.allows .setValue .value = true

/-- A value with a text was written in a slot. -/
structure JsonDumper.Filled (before : JsonDumper) (text : Text) (after : JsonDumper) : Prop
    extends after.Plain where
  depth : after.currentDepth = before.currentDepth
  output : after.outputFile = before.prepareToken.outputFile ++ text
  below : ∀ i < before.currentDepth, after.state i = before.prepareToken.state i
  used : after.state before.currentDepth ≠ .zero

/-- The brackets of an object or an array. -/
def ElementType.brackets : ElementType → Char × Char
  | .object => ('\x7b', '\x7d')
  | _ => ('[', ']')

/-- An object or array was opened in a slot and holds some tokens so far. -/
structure JsonDumper.Inside (s : JsonDumper) (type : ElementType) (base : JsonDumper)
    (tokens : List Text) : Prop extends s.Plain where
  room : base.currentDepth + 1 < jsonDumperMaxDepth
  depth : s.currentDepth = base.currentDepth + 1
  output : s.outputFile
    = base.prepareToken.outputFile ++ type.brackets.1 :: commaJoin tokens
  below : ∀ i < base.currentDepth, s.state i = base.prepareToken.state i
  container : s.state base.currentDepth = ⟨type, false⟩
  used : s.state (base.currentDepth + 1) = .zero ↔ tokens = []

/-- Nothing is open, and the last text was finished. -/
structure JsonDumper.Idle (s : JsonDumper) : Prop extends s.Plain where
  depth : s.currentDepth = 0
  fresh : s.state 0 = .zero

/-- The program writes one value at a depth. -/
def WritesValue (d : Nat) (x : DumperM Unit) (text : Text) : Prop :=
  ∀ s : JsonDumper, s.currentDepth = d → s.Slot →
    Ends x s (fun _ t => s.Filled text t) fun _ => False

/-- The program writes tokens into an object or array whose inside has a depth. -/
def WritesTokens (type : ElementType) (d : Nat) (x : DumperM Unit) (tokens : List Text)
    : Prop :=
  ∀ (base : JsonDumper) (before : List Text) (s : JsonDumper), base.currentDepth + 1 = d →
    s.Inside type base before →
      Ends x s (fun _ t => t.Inside type base (before ++ tokens)) fun _ => False

-----------------------------------------------------------------------------------------
-- Strings
-----------------------------------------------------------------------------------------

theorem digitChar_isHex : ∀ d < 16, isHexDigit (Nat.digitChar d) = true := by
  decide

theorem hexByte_isHex {n : Nat} (byte : n < 256) : ∀ c ∈ hexByte n, isHexDigit c = true := by
  intro c member
  rcases List.mem_pair.mp member with rfl | rfl
  · exact digitChar_isHex _ (by omega)
  · exact digitChar_isHex _ (by omega)

/-- A character is written as a part of a string. -/
theorem isStringBody_jsonPutsChar (before : Option Char) (c : Char)
    : IsStringBody (jsonPutsChar false before c) := by
  simp only [jsonPutsChar]
  split
  · rename_i control
    simp only [jsonCntrl]
    repeat' split
    · exact .escape (by simp) .nil
    · exact .escape (by simp) .nil
    · exact .escape (by simp) .nil
    · exact .escape (by simp) .nil
    · exact .escape (by simp) .nil
    · have four : ('0' :: '0' :: hexByte c.toNat).length = 4 := rfl
      have hex : ∀ d ∈ '0' :: '0' :: hexByte c.toNat, isHexDigit d = true := by
        intro d member
        simp only [List.mem_cons] at member
        rcases member with rfl | rfl | member
        · rfl
        · rfl
        · exact hexByte_isHex (Nat.lt_trans control (by decide)) d member
      simpa using IsStringBody.unicode four hex .nil
  · rename_i printable
    split
    · exact .escape (by simp) .nil
    · split
      · rename_i special
        rcases special with rfl | rfl
        · exact .escape (by simp) .nil
        · exact .escape (by simp) .nil
      · rename_i ordinary
        simp only [not_or] at ordinary
        simpa using IsStringBody.plain (Nat.le_of_not_lt printable) ordinary.2 ordinary.1 .nil

/-- json_puts_string writes a string, by induction over its characters. -/
theorem isStringBody_jsonPutsChars (before : Option Char) (chars : Text)
    : IsStringBody (jsonPutsChars false before chars) := by
  induction chars generalizing before with
  | nil => exact .nil
  | cons c rest ih => exact (isStringBody_jsonPutsChar before c).append (ih _)

theorem isString_jsonPutsString (str : String) : IsString (jsonPutsString str false) :=
  ⟨_, rfl, isStringBody_jsonPutsChars none str.toList⟩

-----------------------------------------------------------------------------------------
-- Single steps
-----------------------------------------------------------------------------------------

variable {s t base : JsonDumper} {type : ElementType} {tokens : List Text} {text : Text}
  {d : Nat}

/-- A check that is passed leaves the state alone. -/
theorem jsonDumperCheckState_returns {change : Change} (plain : s.Plain)
    (room : s.currentDepth < jsonDumperMaxDepth) (allowed : s.allows change type = true)
    : Returns (jsonDumperCheckState change type) s true s := by
  refine Returns.bind returns_get ?_
  simp only [plain.noError, Bool.false_eq_true, if_false, ge_iff_le, Nat.not_le.mpr room,
    allowed, if_true]
  exact returns_pure

/-- A routine that is allowed makes its change. -/
theorem jsonDumperChange_returns {change : Change} {body : JsonDumper → JsonDumper}
    (plain : s.Plain) (room : s.currentDepth < jsonDumperMaxDepth)
    (allowed : s.allows change type = true)
    : Returns (jsonDumperChange change type body) s () (body s) := by
  refine Returns.bind (jsonDumperCheckState_returns plain room allowed) ?_
  simp only [if_true]
  exact returns_modify body

@[simp]
theorem puts_state (s : JsonDumper) (text : Text) : (s.puts text).state = s.state := rfl

@[simp]
theorem puts_currentDepth (s : JsonDumper) (text : Text)
    : (s.puts text).currentDepth = s.currentDepth :=
  rfl

@[simp]
theorem puts_outputFile (s : JsonDumper) (text : Text)
    : (s.puts text).outputFile = s.outputFile ++ text :=
  rfl

@[simp]
theorem setState_state (s : JsonDumper) (depth : Nat) (state : ElementState)
    : (s.setState depth state).state = Function.update s.state depth state :=
  rfl

@[simp]
theorem setState_currentDepth (s : JsonDumper) (depth : Nat) (state : ElementState)
    : (s.setState depth state).currentDepth = s.currentDepth :=
  rfl

@[simp]
theorem setState_outputFile (s : JsonDumper) (depth : Nat) (state : ElementState)
    : (s.setState depth state).outputFile = s.outputFile :=
  rfl

theorem JsonDumper.Plain.puts (plain : s.Plain) (text : Text) : (s.puts text).Plain :=
  ⟨plain.noError, plain.compact, plain.dots⟩

theorem JsonDumper.Plain.setState (plain : s.Plain) (depth : Nat) (state : ElementState)
    : (s.setState depth state).Plain :=
  ⟨plain.noError, plain.compact, plain.dots⟩

/-- Without pretty printing only a comma separates. -/
theorem separate_of_plain (plain : s.Plain)
    : s.separate = if s.state s.currentDepth = .zero then s else s.puts [','] := by
  simp only [JsonDumper.separate, JsonDumper.printNewlineIndent]
  split
  · simp [plain.compact]
  · simp [JsonDumper.puts, plain.compact]

theorem prepareToken_frame (plain : s.Plain)
    : s.prepareToken.Plain ∧ s.prepareToken.currentDepth = s.currentDepth := by
  simp only [JsonDumper.prepareToken]
  split
  · exact ⟨plain, rfl⟩
  · have cleared := plain.setState (s.currentDepth - 1)
      { s.state (s.currentDepth - 1) with hasName := false }
    have separated := separate_of_plain cleared
    split <;> try split
    all_goals
      try rw [separated]
      try split
      all_goals exact ⟨⟨plain.noError, plain.compact, plain.dots⟩, rfl⟩

/-- Between the tokens of an array or an object only a comma may be missing. -/
theorem prepareToken_between (plain : s.Plain) (depth : s.currentDepth = d + 1)
    (container : s.state d = ⟨type, false⟩) (compound : type = .object ∨ type = .array)
    : s.prepareToken.state = s.state
      ∧ s.prepareToken.outputFile
        = s.outputFile ++ if s.state (d + 1) = .zero then [] else [','] := by
  have notTop : ¬ s.currentDepth = 0 := by omega
  have here : s.currentDepth - 1 = d := by omega
  have unchanged : s.setState d ⟨type, false⟩ = s := by
    simp [JsonDumper.setState, ← container]
  have separated := separate_of_plain plain
  rw [depth] at separated
  simp only [JsonDumper.prepareToken, notTop, if_false, here, container, unchanged, separated]
  rcases compound with rfl | rfl
  all_goals
    simp only [Bool.false_eq_true, if_false]
    split <;> simp

/-- After the name of a member nothing comes before its value. -/
theorem prepareToken_named (depth : s.currentDepth = d + 1)
    (container : s.state d = ⟨.object, true⟩)
    : s.prepareToken = s.setState d ⟨.object, false⟩ := by
  have notTop : ¬ s.currentDepth = 0 := by omega
  have here : s.currentDepth - 1 = d := by omega
  simp only [JsonDumper.prepareToken, notTop, if_false, here, container, if_true]

-----------------------------------------------------------------------------------------
-- Values
-----------------------------------------------------------------------------------------

/-- A text that is put out as it is. -/
theorem writesValue_withValue (d : Nat) (text : Text)
    : WritesValue d (jsonDumperChange .setValue .value fun s => s.withValue text) text := by
  intro s _ slot
  obtain ⟨plain, depth⟩ := prepareToken_frame slot.toPlain
  refine (jsonDumperChange_returns slot.toPlain slot.room slot.allowed).ends ?_
  refine ⟨(plain.puts text).setState _ _, depth, rfl, fun i below => ?_, ?_⟩
  · simp [JsonDumper.withValue, Function.update_of_ne (Nat.ne_of_lt below)]
  · simp [JsonDumper.withValue, ElementState.zero]

theorem writesValue_string (d : Nat) (value : Option String)
    : WritesValue d (jsonDumperValueString value) (jsonPutsString value false) :=
  writesValue_withValue d _

theorem writesValue_vaList (d : Nat) (text : Text)
    : WritesValue d (jsonDumperValueVaList text) text :=
  writesValue_withValue d text

/-- A container is opened in a slot, with nothing inside. -/
theorem opened_inside (slot : s.Slot) (room : s.currentDepth + 1 < jsonDumperMaxDepth)
    : (s.opened type type.brackets.1).Inside type s [] := by
  obtain ⟨plain, depth⟩ := prepareToken_frame slot.toPlain
  refine ⟨⟨plain.noError, plain.compact, plain.dots⟩, room, ?_, rfl, fun i below => ?_, ?_, ?_⟩
  · simp [JsonDumper.opened, depth]
  · have notHere : i ≠ s.currentDepth := Nat.ne_of_lt below
    have notInside : i ≠ s.currentDepth + 1 := by omega
    simp [JsonDumper.opened, depth, Function.update_of_ne notHere,
      Function.update_of_ne notInside]
  · simp [JsonDumper.opened, depth]
  · simp [JsonDumper.opened, depth]

/-- The container is what the checks look at. -/
theorem JsonDumper.Inside.prevState (inside : t.Inside type s tokens)
    : t.prevState = ⟨type, false⟩ := by
  simp [JsonDumper.prevState, inside.depth, inside.container]

/-- A container is closed after its tokens. -/
theorem closed_filled (inside : t.Inside type s tokens) (compound : type ≠ .none)
    : s.Filled (bracketed type.brackets.1 type.brackets.2 tokens)
        (t.closed type.brackets.2) := by
  have finished : t.finishToken type.brackets.2 = t.puts [type.brackets.2] := by
    simp [JsonDumper.finishToken, JsonDumper.printNewlineIndent, inside.compact]
  simp only [JsonDumper.closed, finished]
  refine ⟨⟨inside.noError, inside.compact, inside.dots⟩, ?_, ?_, inside.below, ?_⟩
  · simp [inside.depth]
  · simp [inside.output, bracketed]
  · simp [inside.container, ElementState.zero, compound]

/-- A container with the tokens that the program between its brackets writes. -/
theorem writesValue_container {body : DumperM Unit} (compound : type ≠ .none)
    (room : d + 1 < jsonDumperMaxDepth) (inner : WritesTokens type (d + 1) body tokens)
    : WritesValue d
        (jsonDumperChange .begin type (fun s => s.opened type type.brackets.1) >>= fun _ =>
          body >>= fun _ => jsonDumperChange .end type fun s => s.closed type.brackets.2)
        (bracketed type.brackets.1 type.brackets.2 tokens) := by
  rintro s rfl slot
  have canOpen : s.allows .begin type = true := by simp [JsonDumper.allows, room]
  refine Returns.bind_ends (jsonDumperChange_returns slot.toPlain slot.room canOpen) ?_
  refine Ends.bind (inner s [] _ rfl (opened_inside slot room)) ?_
  intro _ t inside
  have canClose : t.allows .end type = true := by
    simp [JsonDumper.allows, inside.prevState]
  have stillRoom : t.currentDepth < jsonDumperMaxDepth := inside.depth ▸ room
  exact (jsonDumperChange_returns inside.toPlain stillRoom canClose).ends
    (closed_filled inside compound)

/-- An object whose members the program between its braces writes. -/
theorem writesValue_object {body : DumperM Unit} (room : d + 1 < jsonDumperMaxDepth)
    (inner : WritesTokens .object (d + 1) body tokens)
    : WritesValue d (do jsonDumperBeginObject; body; jsonDumperEndObject)
        (bracketed '\x7b' '\x7d' tokens) :=
  writesValue_container (by decide) room inner

/-- An array whose elements the program between its brackets writes. -/
theorem writesValue_array {body : DumperM Unit} (room : d + 1 < jsonDumperMaxDepth)
    (inner : WritesTokens .array (d + 1) body tokens)
    : WritesValue d (do jsonDumperBeginArray; body; jsonDumperEndArray)
        (jsonArray tokens) :=
  writesValue_container (by decide) room inner

-----------------------------------------------------------------------------------------
-- Tokens
-----------------------------------------------------------------------------------------

theorem WritesTokens.nil (type : ElementType) (d : Nat) : WritesTokens type d (pure ()) [] := by
  intro base before s _ inside
  rw [List.append_nil]
  exact Returns.ends returns_pure inside

/-- Tokens of one program after those of another. -/
theorem WritesTokens.bind {x y : DumperM Unit} {first rest : List Text}
    (here : WritesTokens type d x first) (later : WritesTokens type d y rest)
    : WritesTokens type d (x >>= fun _ => y) (first ++ rest) := by
  intro base before s depth inside
  refine Ends.bind (here base before s depth inside) ?_
  intro _ t inside'
  rw [← List.append_assoc]
  exact later base _ t depth inside'

/-- A token with a lead is added when its value is filled in after the comma and the lead. -/
theorem JsonDumper.Inside.fill {u : JsonDumper} (inside : s.Inside type base tokens)
    (lead : Text) (depth : u.currentDepth = s.currentDepth)
    (state : ∀ i < s.currentDepth, u.prepareToken.state i = s.state i)
    (output : u.prepareToken.outputFile
      = s.outputFile ++ (if s.state s.currentDepth = .zero then [] else [',']) ++ lead)
    (filled : u.Filled text t)
    : t.Inside type base (tokens ++ [lead ++ text]) := by
  have used : s.state s.currentDepth = .zero ↔ tokens = [] := inside.depth ▸ inside.used
  have kept : ∀ i < s.currentDepth, t.state i = s.state i := fun i below =>
    (filled.below i (depth ▸ below)).trans (state i below)
  refine ⟨filled.toPlain, inside.room, filled.depth.trans (depth.trans inside.depth), ?_,
    fun i below => ?_, ?_, ?_⟩
  · simp only [filled.output, output, used, inside.output, commaJoin_concat,
      List.append_assoc, List.cons_append]
  · have deeper : i < s.currentDepth := inside.depth ▸ Nat.lt_succ_of_lt below
    exact (kept i deeper).trans (inside.below i below)
  · have here : base.currentDepth < s.currentDepth := inside.depth ▸ Nat.lt_succ_self _
    exact (kept _ here).trans inside.container
  · have written := filled.used
    rw [depth, inside.depth] at written
    simp [written]

/-- Inside an array a value can come next. -/
theorem JsonDumper.Inside.slot (inside : s.Inside .array base tokens) : s.Slot where
  toPlain := inside.toPlain
  room := inside.depth ▸ inside.room
  allowed := by simp [JsonDumper.allows, inside.prevState]

/-- A value is an element of the array it is written in. -/
theorem WritesValue.element {x : DumperM Unit} (value : WritesValue d x text)
    : WritesTokens .array d x [text] := by
  intro base before s depth inside
  obtain ⟨state, output⟩ :=
    prepareToken_between inside.toPlain inside.depth inside.container (Or.inr rfl)
  rw [← inside.depth] at output
  refine (value s (inside.depth.trans depth) inside.slot).imp ?_ fun _ impossible => impossible
  intro _ t filled
  refine inside.fill [] rfl (fun i _ => congrFun state i) ?_ filled
  rw [output, List.append_nil]

/-- A name and a value are a member of the object they are written in. -/
theorem WritesValue.member {x : DumperM Unit} (name : String) (value : WritesValue d x text)
    : WritesTokens .object d (jsonDumperSetMemberName name >>= fun _ => x)
        [jsonMember (jsonPutsString name false) text] := by
  intro base before s depth inside
  obtain ⟨state, output⟩ :=
    prepareToken_between inside.toPlain inside.depth inside.container (Or.inl rfl)
  rw [← inside.depth] at output
  have room : s.currentDepth < jsonDumperMaxDepth := inside.depth ▸ inside.room
  have canName : s.allows .setName .none = true := by
    simp [JsonDumper.allows, inside.prevState]
  refine Returns.bind_ends (jsonDumperChange_returns inside.toPlain room canName) ?_
  obtain ⟨plain, same⟩ := prepareToken_frame inside.toPlain
  have here : s.prepareToken.currentDepth - 1 = base.currentDepth := by
    rw [same, inside.depth]
    rfl
  have named : (s.withName name).state
      = Function.update s.state base.currentDepth ⟨.object, true⟩ := by
    simp [JsonDumper.withName, here, state, inside.container]
  have namedPlain : (s.withName name).Plain := ⟨plain.noError, plain.compact, plain.dots⟩
  have namedDepth : (s.withName name).currentDepth = base.currentDepth + 1 :=
    same.trans inside.depth
  have namedContainer : (s.withName name).state base.currentDepth = ⟨.object, true⟩ := by
    simp [named]
  have slot : (s.withName name).Slot :=
    ⟨namedPlain, namedDepth ▸ inside.room, by
      simp [JsonDumper.allows, JsonDumper.prevState, namedDepth, namedContainer]⟩
  refine (value _ (namedDepth.trans depth) slot).imp ?_ fun _ impossible => impossible
  intro _ t filled
  have prepared := prepareToken_named namedDepth namedContainer
  have token : jsonMember (jsonPutsString name false) text
      = jsonPutsString name false ++ [':'] ++ text := by
    simp [jsonMember]
  rw [token]
  refine inside.fill (jsonPutsString name false ++ [':']) (namedDepth.trans inside.depth.symm)
    (fun i _ => ?_) ?_ filled
  · rw [prepared, setState_state, named, Function.update_idem]
    by_cases isHere : i = base.currentDepth
    · simp [isHere, inside.container]
    · simp [isHere]
  · have compact : (s.prepareToken.puts (jsonPutsString name false)).prettyPrint = false :=
      plain.compact
    rw [prepared]
    simp [JsonDumper.withName, output, compact, inside.dots]

-----------------------------------------------------------------------------------------
-- Lines
-----------------------------------------------------------------------------------------

theorem JsonDumper.Idle.slot (idle : s.Idle) : s.Slot where
  toPlain := idle.toPlain
  room := idle.depth ▸ by decide
  allowed := by
    simp [JsonDumper.allows, JsonDumper.prevState, idle.depth, idle.fresh, ElementState.zero]

/-- json_dumper_finish ends the line when nothing is open. -/
theorem jsonDumperFinish_returns (plain : s.Plain) (depth : s.currentDepth = 0)
    : ∃ t, Returns jsonDumperFinish s true t ∧ t.Idle
        ∧ t.outputFile = s.outputFile ++ ['\n'] := by
  refine ⟨(s.puts ['\n']).setState 0 .zero, ?_, ?_, rfl⟩
  · have room : s.currentDepth < jsonDumperMaxDepth := depth ▸ by decide
    have canFinish : s.allows .finish .none = true := by simp [JsonDumper.allows, depth]
    refine Returns.bind (jsonDumperCheckState_returns plain room canFinish) ?_
    simp only [if_true]
    exact Returns.bind (returns_modify _) returns_pure
  · exact ⟨(plain.puts _).setState _ _, depth, by simp⟩

/-- A value and json_dumper_finish write a line. -/
theorem WritesValue.line {x : DumperM Unit} (value : WritesValue 0 x text) (idle : s.Idle)
    : Ends (x >>= fun _ => jsonDumperFinish) s
        (fun _ t => t.Idle ∧ t.outputFile = s.outputFile ++ textLines [text])
        fun _ => False := by
  refine Ends.bind (value s idle.depth idle.slot) ?_
  intro _ t filled
  have top : s.prepareToken = s := by simp [JsonDumper.prepareToken, idle.depth]
  obtain ⟨u, finished, idle', output⟩ :=
    jsonDumperFinish_returns filled.toPlain (filled.depth.trans idle.depth)
  refine finished.ends ⟨idle', ?_⟩
  rw [output, filled.output, top]
  simp [textLines]

end PacketDissector.Wsutil
