import PacketDissector.Wsutil.JsonDumperContract

/-! Bytes that are written in any number of pieces between json_dumper_begin_base64 and
json_dumper_end_base64 make one string, which decodes to all of them.
-/

namespace PacketDissector.Wsutil

open PacketDissector.Library PacketDissector.Epan

variable {s t base : JsonDumper} {data : List UInt8} {d : Nat}

/-- A base64 string was begun in a slot, and some bytes were written into it so far. -/
structure JsonDumper.Encoding (s base : JsonDumper) (data : List UInt8) : Prop
    extends s.Plain where
  room : base.currentDepth + 1 < jsonDumperMaxDepth
  depth : s.currentDepth = base.currentDepth + 1
  output : s.outputFile
    = base.prepareToken.outputFile ++ '"' :: (Base64.step base64Alphabet data).1
  save : s.base64Save = (Base64.step base64Alphabet data).2
  below : ∀ i < base.currentDepth, s.state i = base.prepareToken.state i
  container : s.state base.currentDepth = ⟨.base64, false⟩

/-- The calls of json_dumper_write_base64 for some pieces. -/
def writeBase64Pieces : List (List UInt8) → DumperM Unit
  | [] => pure ()
  | piece :: rest => do
      jsonDumperWriteBase64 piece
      writeBase64Pieces rest

/-- The loop over chunks encodes what one step would, by induction over the chunks; at most two
bytes are saved between them.
-/
theorem base64Chunks_eq {save : List UInt8} (short : save.length < 3) (data : List UInt8)
    : base64Chunks save data = Base64.step base64Alphabet (save ++ data) := by
  induction save, data using base64Chunks.induct with
  | case1 save =>
      rw [base64Chunks, if_pos rfl, List.append_nil, Base64.step_short _ short]
  | case2 save data notEmpty chars left stepped more left' rest ih =>
      have split : save ++ data = (save ++ data.take chunkSize) ++ data.drop chunkSize := by
        rw [List.append_assoc, List.take_append_drop]
      have leftShort : left.length < 3 := by
        have here := Base64.step_left_length base64Alphabet (save ++ data.take chunkSize)
        rwa [show Base64.step base64Alphabet (save ++ data.take chunkSize) = (chars, left) from
          stepped] at here
      rw [base64Chunks, if_neg notEmpty, split, Base64.step_append]
      simp only [gBase64EncodeStep] at stepped ⊢
      simp only [stepped, ih leftShort]

/-- The saved bytes take no part in the preparation of a token. -/
theorem prepareToken_base64Save (s : JsonDumper) (save : List UInt8)
    : ({ s with base64Save := save } : JsonDumper).prepareToken
      = { s.prepareToken with base64Save := save } := by
  have separated : ∀ s : JsonDumper, ({ s with base64Save := save } : JsonDumper).separate
      = { s.separate with base64Save := save } := by
    intro s
    by_cases fresh : s.state s.currentDepth = .zero <;> cases pretty : s.prettyPrint
    all_goals
      simp [JsonDumper.separate, JsonDumper.printNewlineIndent, JsonDumper.puts, fresh, pretty]
  by_cases top : s.currentDepth = 0
  · simp [JsonDumper.prepareToken, top]
  · have inner := separated (s.setState (s.currentDepth - 1)
      { s.state (s.currentDepth - 1) with hasName := false })
    simp only [JsonDumper.prepareToken, top, if_false]
    split
    · split
      · rfl
      · exact inner
    · exact inner
    · rfl
    · rfl
    · rfl

theorem beginBase64_ends (slot : s.Slot) (room : s.currentDepth + 1 < jsonDumperMaxDepth)
    : Ends jsonDumperBeginBase64 s (fun _ t => t.Encoding s []) fun _ => False := by
  have canOpen : s.allows .begin .base64 = true := by simp [JsonDumper.allows, room]
  have unsaved : JsonDumper.Plain { s with base64Save := [] } :=
    ⟨slot.noError, slot.compact, slot.dots⟩
  obtain ⟨plain, -⟩ := prepareToken_frame unsaved
  obtain ⟨-, depth⟩ := prepareToken_frame slot.toPlain
  refine (jsonDumperChange_returns slot.toPlain slot.room canOpen).ends ?_
  refine ⟨⟨plain.noError, plain.compact, plain.dots⟩, room, ?_, ?_, ?_, fun i below => ?_, ?_⟩
  · simp [JsonDumper.opened, prepareToken_base64Save, depth]
  · simp [JsonDumper.opened, prepareToken_base64Save, Base64.step]
  · simp [JsonDumper.opened, prepareToken_base64Save, JsonDumper.setState, JsonDumper.puts,
      Base64.step]
  · have notHere : i ≠ s.currentDepth := Nat.ne_of_lt below
    have notInside : i ≠ s.currentDepth + 1 := by omega
    simp [JsonDumper.opened, prepareToken_base64Save, depth, Function.update_of_ne notHere,
      Function.update_of_ne notInside]
  · simp [JsonDumper.opened, prepareToken_base64Save, depth]

/-- The string is what the checks look at. -/
theorem JsonDumper.Encoding.prevState (encoding : s.Encoding base data)
    : s.prevState = ⟨.base64, false⟩ := by
  simp [JsonDumper.prevState, encoding.depth, encoding.container]

theorem JsonDumper.Encoding.stillRoom (encoding : s.Encoding base data)
    : s.currentDepth < jsonDumperMaxDepth :=
  encoding.depth ▸ encoding.room

/-- One more piece. -/
theorem writeBase64_ends (encoding : s.Encoding base data) (piece : List UInt8)
    : Ends (jsonDumperWriteBase64 piece) s (fun _ t => t.Encoding base (data ++ piece))
        fun _ => False := by
  have canWrite : s.allows .writeBase64 .base64 = true := by
    simp [JsonDumper.allows, encoding.prevState]
  refine (jsonDumperChange_returns encoding.toPlain encoding.stillRoom canWrite).ends ?_
  have short : s.base64Save.length < 3 := by
    rw [encoding.save]
    exact Base64.step_left_length _ data
  have whole := Base64.step_append base64Alphabet data piece
  have chunks := base64Chunks_eq short piece
  rw [encoding.save] at chunks
  simp only [encoding.save, chunks]
  refine ⟨⟨encoding.noError, encoding.compact, encoding.dots⟩, encoding.room, encoding.depth,
    ?_, ?_, fun i below => ?_, ?_⟩
  · simp [JsonDumper.setState, JsonDumper.puts, encoding.output, whole]
  · simp [JsonDumper.setState, whole]
  · have notHere : i ≠ s.currentDepth := by
      rw [encoding.depth]
      omega
    simpa [JsonDumper.setState, JsonDumper.puts, Function.update_of_ne notHere]
      using encoding.below i below
  · have notHere : base.currentDepth ≠ s.currentDepth := by
      rw [encoding.depth]
      omega
    simpa [JsonDumper.setState, JsonDumper.puts, Function.update_of_ne notHere]
      using encoding.container

/-- Any number of pieces, by induction over them. -/
theorem writeBase64Pieces_ends (pieces : List (List UInt8)) (encoding : s.Encoding base data)
    : Ends (writeBase64Pieces pieces) s (fun _ t => t.Encoding base (data ++ pieces.flatten))
        fun _ => False := by
  induction pieces generalizing s data with
  | nil =>
      refine returns_pure.ends ?_
      simpa using encoding
  | cons piece rest ih =>
      refine Ends.bind (writeBase64_ends encoding piece) fun _ t written => ?_
      rw [List.flatten_cons, ← List.append_assoc]
      exact ih written

theorem endBase64_ends (encoding : s.Encoding base data)
    : Ends jsonDumperEndBase64 s
        (fun _ t => base.Filled ('"' :: Base64.encode base64Alphabet data ++ ['"']) t)
        fun _ => False := by
  have canClose : s.allows .end .base64 = true := by
    simp [JsonDumper.allows, encoding.prevState]
  refine (jsonDumperChange_returns encoding.toPlain encoding.stillRoom canClose).ends ?_
  refine ⟨⟨encoding.noError, encoding.compact, encoding.dots⟩, ?_, ?_, encoding.below, ?_⟩
  · simp [JsonDumper.puts, encoding.depth]
  · simp [JsonDumper.puts, encoding.output, encoding.save, gBase64EncodeClose, Base64.encode]
  · simp [JsonDumper.puts, encoding.container, ElementState.zero]

/-- The pieces are one value. -/
theorem writesValue_base64 (pieces : List (List UInt8)) (room : d + 1 < jsonDumperMaxDepth)
    : WritesValue d
        (do jsonDumperBeginBase64; writeBase64Pieces pieces; jsonDumperEndBase64)
        ('"' :: Base64.encode base64Alphabet pieces.flatten ++ ['"']) := by
  rintro s rfl slot
  refine Ends.bind (beginBase64_ends slot room) fun _ t begun => ?_
  refine Ends.bind (writeBase64Pieces_ends pieces begun) fun _ u written => ?_
  exact endBase64_ends written

/-- A character that needs no escape in a string. -/
def IsPlain (c : Char) : Prop := 0x20 ≤ c.toNat ∧ c ≠ '"' ∧ c ≠ '\\'

/-- A letter is plain. -/
theorem base64Letter_plain {n : Nat} (below : n < 64) : IsPlain (base64Letter n) := by
  have all : (List.range 64).all (fun n => 0x20 ≤ (base64Letter n).toNat
      ∧ base64Letter n ≠ '"' ∧ base64Letter n ≠ '\\') = true := by
    decide +kernel
  simpa [IsPlain] using List.all_eq_true.mp all n (List.mem_range.mpr below)

theorem isPlain_base64 (data : List UInt8)
    : ∀ c ∈ Base64.encode base64Alphabet data, IsPlain c := by
  apply Base64.forall_encode
  · exact fun n below => base64Letter_plain below
  · exact ⟨by decide, by decide, by decide⟩

theorem isStringBody_base64 (data : List UInt8)
    : IsStringBody (Base64.encode base64Alphabet data) :=
  isStringBody_of_forall (isPlain_base64 data)

/-- Between json_dumper_begin_base64 and json_dumper_end_base64 any pieces of data make one
string of plain characters, which a strict decoder takes back to the pieces, one after the
other: all characters are letters of the base64 alphabet, but for the padding of the last group.
-/
theorem base64Pieces_roundTrip (pieces : List (List UInt8)) (d : Nat)
    (room : d + 1 < jsonDumperMaxDepth)
    : ∃ body : Text, (∀ c ∈ body, IsPlain c)
        ∧ WritesValue d
          (do jsonDumperBeginBase64; writeBase64Pieces pieces; jsonDumperEndBase64)
          ('"' :: body ++ ['"'])
        ∧ Base64.decode base64Alphabet body = some pieces.flatten :=
  ⟨_, isPlain_base64 _, writesValue_base64 pieces room, Base64.decode_encode _ _⟩

/-- Two pieces, at the top. -/
theorem base64Pieces_roundTrip_two
    : ∃ body : Text, (∀ c ∈ body, IsPlain c)
        ∧ WritesValue 0
          (do jsonDumperBeginBase64; writeBase64Pieces [[1, 2], [3, 4, 5]]; jsonDumperEndBase64)
          ('"' :: body ++ ['"'])
        ∧ Base64.decode base64Alphabet body = some [1, 2, 3, 4, 5] :=
  base64Pieces_roundTrip [[1, 2], [3, 4, 5]] 0 (by decide)

/-- A text with padding inside, or with a character that is no letter, is not decoded. -/
example : Base64.decode base64Alphabet "AQI=AwQF".toList = none
    ∧ Base64.decode base64Alphabet "AQ!!".toList = none := by
  decide +kernel

end PacketDissector.Wsutil
