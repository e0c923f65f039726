import PacketDissector.Sharkd.SessionLines
import PacketDissector.Wsutil.JsmnPasses
import PacketDissector.Wsutil.JsonStrings

/-! The strings that a request is split into in place are those of its line: what one token is
made into does not reach to another one.
-/

namespace PacketDissector.Sharkd.Line

open PacketDissector.Library
open PacketDissector.Wsutil

-----------------------------------------------------------------------------------------
-- Requests of lines
-----------------------------------------------------------------------------------------

/-- The text of a token. -/
def slice (line : Text) (token : JsmnTok) : Text :=
  (line.drop token.start.toNat).take (token.end - token.start).toNat

/-- The text that a value stands for, if there is one. -/
def valueOf (line : Text) (value : JsmnTok) : Option Text :=
  if value.type = .string then jsonDecodeStringInplace (slice line value)
  else some (slice line value)

/-- The attributes of a line, or the sanity check that fails first. -/
def attributesOf (line : Text) : List JsmnTok → Except SanityCheck Attributes
  | name :: value :: rest =>
      if name.type ≠ .string then .error .notString
      else if value.type ≠ .string ∧ value.type ≠ .primitive then .error .wrongType
      else
        match valueOf line value with
        | none => .error .cannotUnescape
        | some text =>
            (attributesOf line rest).map
              ((String.ofList (slice line name), String.ofList text) :: ·)
  | _ => .ok []

/-- The request with some attributes. -/
def withHandler (attributes : Attributes) : Except SanityCheck Request :=
  match Sharkd.jsonFindAttr attributes "req" with
  | none => .error .noReq
  | some tokReq => .ok ⟨handlerOf tokReq, attributes⟩

/-- The request of a line, or the sanity check that fails first. -/
def requestOf (line : Text) : List JsmnTok → Except SanityCheck Request
  | [] => .error .notObject
  | first :: rest =>
      if first.type ≠ .object then .error .notObject
      else if rest.length % 2 = 1 then .error .notEven
      else (attributesOf line rest).bind withHandler

-----------------------------------------------------------------------------------------
-- Strings in the buffer
-----------------------------------------------------------------------------------------

variable {line buf done text : Text} {start : Int} {i : Nat} {token name value : JsmnTok}
variable {tokens : List JsmnTok} {attributes : Attributes}

/-- A string with its NUL starts at an index of a buffer. -/
def Reads (buf : Text) (start : Int) (text : Text) : Prop :=
  '\x00' ∉ text ∧ ∃ before after, buf = before ++ text ++ '\x00' :: after ∧ start = before.length

/-- What comes behind a buffer does not change its strings. -/
theorem Reads.append (reads : Reads buf start text) (rest : Text)
    : Reads (buf ++ rest) start text := by
  obtain ⟨noNul, before, after, rfl, starts⟩ := reads
  exact ⟨noNul, before, after ++ rest, by simp, starts⟩

theorem readString_returns (reads : Reads buf start text)
    : Returns (readString start) buf text buf := by
  obtain ⟨noNul, before, after, rfl, rfl⟩ := reads
  apply Returns.bind returns_get
  have rest : (before ++ text ++ '\x00' :: after).drop before.length = text ++ '\x00' :: after := by
    rw [List.append_assoc, List.drop_left]
  have inside : 0 ≤ (before.length : Int)
      ∧ '\x00' ∈ (before ++ text ++ '\x00' :: after).drop (before.length : Int).toNat := by
    refine ⟨Int.natCast_nonneg _, ?_⟩
    rw [Int.toNat_natCast, rest]
    exact List.mem_append_right _ List.mem_cons_self
  rw [if_pos inside, Int.toNat_natCast, rest]
  have stops : (text ++ '\x00' :: after).takeWhile (· ≠ '\x00') = text := by
    rw [List.takeWhile_append_of_pos]
    · simp
    · intro c member
      simp only [ne_eq, decide_not, Bool.not_eq_eq_eq_not, Bool.not_true, decide_eq_false_iff_not]
      rintro rfl
      exact noNul member
  rw [stops]
  exact returns_pure

/-- One character becomes NUL. -/
theorem setBuf_returns (before after : Text) (c d : Char)
    : Returns (setBuf before.length d) (before ++ c :: after) () (before ++ d :: after) := by
  apply Returns.bind returns_get
  have inside : 0 ≤ (before.length : Int)
      ∧ (before.length : Int) < (before ++ c :: after).length := by
    simp only [List.length_append, List.length_cons]
    omega
  rw [if_pos inside]
  have same := List.set_append_right (s := before) (t := c :: after) before.length d (Nat.le_refl _)
  rw [Nat.sub_self, List.set_cons_zero] at same
  have modified := returns_modify (ε := LineStop) (s := before ++ c :: after) fun buf : Text =>
    buf.set (before.length : Int).toNat d
  rwa [Int.toNat_natCast, same] at modified

/-- A text that fits is put in place of a string. -/
theorem writeString_returns {decoded : Text} (before after : Text) (c : Char)
    (short : decoded.length ≤ text.length)
    : Returns (writeString before.length decoded) (before ++ text ++ c :: after) ()
        (before ++ decoded ++ '\x00' :: (text ++ [c]).drop (decoded.length + 1) ++ after) := by
  apply Returns.bind returns_get
  have inside : 0 ≤ (before.length : Int) ∧ (before.length : Int) + decoded.length
      < (before ++ text ++ c :: after).length := by
    simp only [List.length_append, List.length_cons]
    omega
  rw [if_pos inside]
  have modified := returns_modify (ε := LineStop) (s := before ++ text ++ c :: after)
    fun buf : Text => buf.take (before.length : Int).toNat ++ decoded
      ++ '\x00' :: buf.drop ((before.length : Int).toNat + decoded.length + 1)
  have kept : (before ++ text ++ c :: after).take before.length = before := by
    rw [List.append_assoc, List.take_left]
  have behind : (before ++ text ++ c :: after).drop (before.length + decoded.length + 1)
      = (text ++ [c]).drop (decoded.length + 1) ++ after := by
    have whole : before ++ text ++ c :: after = before ++ ((text ++ [c]) ++ after) := by simp
    rw [whole, Nat.add_assoc, List.drop_length_add_append, List.drop_append_of_le_length]
    simp only [List.length_append, List.length_singleton]
    omega
  rw [Int.toNat_natCast, kept, behind] at modified
  simpa using modified

-----------------------------------------------------------------------------------------
-- Pairs
-----------------------------------------------------------------------------------------

/-- The part of the buffer of a line from an index on. -/
def unread (line : Text) (i : Nat) : Text := (line ++ ['\x00']).drop i

/-- The bounds of a token in its line. -/
def Within (line : Text) (token : JsmnTok) : Prop :=
  ∃ start stop : Nat, token.start = start ∧ token.end = stop ∧ start ≤ stop ∧ stop ≤ line.length

theorem slice_noNul (noNul : '\x00' ∉ line) (token : JsmnTok) : '\x00' ∉ slice line token :=
  fun nul => noNul (List.mem_of_mem_drop (List.mem_of_mem_take nul))

/-- A token as a part of what is unread. -/
theorem unread_split {start stop : Nat} (starts : token.start = start)
    (stops : token.end = stop) (order : start ≤ stop) (within : stop ≤ line.length)
    (further : i ≤ start)
    : ∃ gap c, unread line i = gap ++ slice line token ++ c :: unread line (stop + 1)
      ∧ i + gap.length = start ∧ start + (slice line token).length = stop := by
  have known : slice line token = (line.drop start).take (stop - start) := by
    have length : (stop : Int) - (start : Int) = ((stop - start : Nat) : Int) := by omega
    rw [slice, starts, stops, length, Int.toNat_natCast, Int.toNat_natCast]
  have first : unread line i = (unread line i).take (start - i) ++ unread line start := by
    have rest : unread line start = (unread line i).drop (start - i) := by
      rw [unread, unread, List.drop_drop, Nat.add_sub_cancel' further]
    rw [rest, List.take_append_drop]
  have second : unread line start = slice line token ++ unread line stop := by
    have rest : unread line stop = (unread line start).drop (stop - start) := by
      rw [unread, unread, List.drop_drop, Nat.add_sub_cancel' order]
    have text : slice line token = (unread line start).take (stop - start) := by
      rw [known, unread, List.drop_append_of_le_length (Nat.le_trans order within),
        List.take_append_of_le_length]
      rw [List.length_drop]
      omega
    rw [rest, text, List.take_append_drop]
  have inside : stop < (line ++ ['\x00']).length := by
    rw [List.length_append, List.length_singleton]
    omega
  refine ⟨(unread line i).take (start - i), (line ++ ['\x00'])[stop], ?_, ?_, ?_⟩
  · rw [List.append_assoc, unread, unread, ← List.drop_eq_getElem_cons inside]
    rw [unread, unread] at first second
    rw [← second, ← first]
  · rw [List.length_take, unread, List.length_drop, List.length_append, List.length_singleton]
    omega
  · rw [known, List.length_take, List.length_drop]
    omega

/-- A pair that was split: its strings are in the part of the buffer that is done. -/
def SplitInto (line done : Text) (name value : JsmnTok) (buf : Text) : Prop :=
  ∃ more text, buf = done ++ more ++ unread line (done ++ more).length
    ∧ value.isCompound = false ∧ value.end = (((done ++ more).length - 1 : Nat) : Int)
    ∧ Reads (done ++ more) name.start (slice line name)
    ∧ Reads (done ++ more) value.start text
    ∧ ∀ rest, attributesOf line (name :: value :: rest)
        = (attributesOf line rest).map
            ((String.ofList (slice line name), String.ofList text) :: ·)

/-- A sanity check fails, as it does for the tokens of a line. -/
def FailsAs {α : Type} (expected : Except SanityCheck α) (stop : LineStop) : Prop :=
  ∃ check, stop = .check check ∧ expected = .error check

/-- The pieces of a pair that was split. -/
theorem splitInto_of_pieces {gap gap' tail : Text} {stop : Nat} (noNul : '\x00' ∉ slice line name)
    (noNul' : '\x00' ∉ text) (leaf : value.isCompound = false)
    (starts : name.start = ((done ++ gap).length : Nat))
    (starts' : value.start = ((done ++ gap ++ slice line name ++ '\x00' :: gap').length : Nat))
    (stops : value.end = stop)
    (length : (done ++ gap ++ slice line name ++ '\x00' :: gap' ++ text
      ++ '\x00' :: tail).length = stop + 1)
    (attributes : ∀ rest, attributesOf line (name :: value :: rest)
      = (attributesOf line rest).map ((String.ofList (slice line name), String.ofList text) :: ·))
    : SplitInto line done name value
        (done ++ gap ++ slice line name ++ '\x00' :: gap' ++ text ++ '\x00' :: tail
          ++ unread line (stop + 1)) := by
  have whole : done ++ (gap ++ slice line name ++ '\x00' :: gap' ++ text ++ '\x00' :: tail)
      = done ++ gap ++ slice line name ++ '\x00' :: gap' ++ text ++ '\x00' :: tail := by
    simp
  refine ⟨gap ++ slice line name ++ '\x00' :: gap' ++ text ++ '\x00' :: tail, text, ?_, leaf, ?_,
    ?_, ?_, attributes⟩
  · rw [whole, length]
  · rw [whole, length, Nat.add_sub_cancel, stops]
  · rw [whole]
    exact ⟨noNul, done ++ gap, gap' ++ text ++ '\x00' :: tail, by simp, starts⟩
  · rw [whole]
    exact ⟨noNul', done ++ gap ++ slice line name ++ '\x00' :: gap', tail, rfl, starts'⟩

theorem decodeAt_returns {raw before after : Text}
    (decodes : jsonDecodeStringInplace raw = some text) (noNul : '\x00' ∉ raw)
    : Returns (decodeAt before.length) (before ++ raw ++ '\x00' :: after) true
        (before ++ text ++ '\x00' :: (raw ++ ['\x00']).drop (text.length + 1) ++ after) := by
  have reads : Reads (before ++ raw ++ '\x00' :: after) before.length raw :=
    ⟨noNul, before, after, rfl, rfl⟩
  apply Returns.bind (readString_returns reads)
  rw [decodes]
  exact Returns.bind (writeString_returns before after '\x00' (decode_fits noNul decodes).2)
    returns_pure

theorem decodeAt_fails {raw before after : Text} (fails : jsonDecodeStringInplace raw = none)
    (noNul : '\x00' ∉ raw)
    : Returns (decodeAt before.length) (before ++ raw ++ '\x00' :: after) false
        (before ++ raw ++ '\x00' :: after) := by
  have reads : Reads (before ++ raw ++ '\x00' :: after) before.length raw :=
    ⟨noNul, before, after, rfl, rfl⟩
  apply Returns.bind (readString_returns reads)
  rw [fails]
  exact returns_pure

/-- The two writes of a turn. -/
theorem setBuf_pair (first : Within line name)
    (second : Within line value) (further : done.length ≤ name.start)
    (before : name.end < value.start)
    : ∃ gap gap' stop, value.end = ((stop : Nat) : Int)
      ∧ name.start = ((done ++ gap).length : Nat)
      ∧ value.start = ((done ++ gap ++ slice line name ++ '\x00' :: gap').length : Nat)
      ∧ (done ++ gap ++ slice line name ++ '\x00' :: gap' ++ slice line value).length = stop
      ∧ Returns (setBuf name.end '\x00' >>= fun _ => setBuf value.end '\x00')
          (done ++ unread line done.length) ()
          (done ++ gap ++ slice line name ++ '\x00' :: gap' ++ slice line value
            ++ '\x00' :: unread line (stop + 1)) := by
  obtain ⟨start, stop, starts, stops, order, within⟩ := first
  obtain ⟨start', stop', starts', stops', order', within'⟩ := second
  obtain ⟨gap, c, split, gapLength, length⟩ :=
    unread_split starts stops order within (i := done.length) (by omega)
  obtain ⟨gap', c', split', gapLength', length'⟩ :=
    unread_split starts' stops' order' within' (i := stop + 1) (by omega)
  have place : (done ++ gap ++ slice line name).length = stop := by
    simp only [List.length_append]
    omega
  have place' : (done ++ gap ++ slice line name ++ '\x00' :: gap' ++ slice line value).length
      = stop' := by
    simp only [List.length_append, List.length_cons] at place ⊢
    omega
  refine ⟨gap, gap', stop', stops', ?_, ?_, place', ?_⟩
  · rw [starts, List.length_append, gapLength]
  · rw [starts']
    simp only [List.length_append, List.length_cons] at place' ⊢
    omega
  · have one := setBuf_returns (done ++ gap ++ slice line name) (unread line (stop + 1)) c '\x00'
    have two := setBuf_returns
      (done ++ gap ++ slice line name ++ '\x00' :: gap' ++ slice line value)
      (unread line (stop' + 1)) c' '\x00'
    rw [place, ← stops] at one
    rw [place', ← stops'] at two
    have buffer : done ++ unread line done.length
        = done ++ gap ++ slice line name ++ c :: unread line (stop + 1) := by
      rw [split]
      simp
    have buffer' : done ++ gap ++ slice line name ++ '\x00' :: unread line (stop + 1)
        = done ++ gap ++ slice line name ++ '\x00' :: gap' ++ slice line value
          ++ c' :: unread line (stop' + 1) := by
      rw [split']
      simp
    rw [buffer'] at one
    rw [buffer]
    exact one.bind two

theorem splitPair_ends (noNul : '\x00' ∉ line) (first : Within line name)
    (second : Within line value) (further : done.length ≤ name.start)
    (precedes : Precedes name value) (rest : List JsmnTok)
    : Ends (splitPair name value) (done ++ unread line done.length)
        (fun _ buf => SplitInto line done name value buf)
        (FailsAs (attributesOf line (name :: value :: rest))) := by
  unfold splitPair
  by_cases string : name.type = .string
  · rw [if_neg (not_not_intro string)]
    by_cases leaf : value.type ≠ .string ∧ value.type ≠ .primitive
    · rw [if_pos leaf]
      refine raises_throw.ends ⟨_, rfl, ?_⟩
      rw [attributesOf, if_neg (not_not_intro string), if_pos leaf]
    · rw [if_neg leaf]
      have compound : name.isCompound = false := by simp [JsmnTok.isCompound, string]
      have single : value.isCompound = false := by
        rw [not_and, not_not] at leaf
        by_cases escaped : value.type = .string
        · simp [JsmnTok.isCompound, escaped]
        · simp [JsmnTok.isCompound, leaf escaped]
      obtain ⟨gap, gap', stop, stops, starts, starts', length, writes⟩ :=
        setBuf_pair first second further (precedes compound)
      rw [← bind_assoc]
      apply writes.bind_ends
      have known : ∀ rest, attributesOf line (name :: value :: rest)
          = (valueOf line value).elim (.error .cannotUnescape) fun text =>
            (attributesOf line rest).map
              ((String.ofList (slice line name), String.ofList text) :: ·) := by
        intro rest
        rw [attributesOf, if_neg (not_not_intro string), if_neg leaf]
        cases valueOf line value <;> rfl
      by_cases escaped : value.type = .string
      · rw [if_pos escaped, starts']
        rw [valueOf, if_pos escaped] at known
        cases decodes : jsonDecodeStringInplace (slice line value) with
        | none =>
            rw [decodes] at known
            apply (decodeAt_fails decodes (slice_noNul noNul value)).bind_ends
            exact raises_throw.ends ⟨_, rfl, known rest⟩
        | some text =>
            rw [decodes] at known
            apply (decodeAt_returns decodes (slice_noNul noNul value)).bind_ends
            obtain ⟨noNul', short⟩ := decode_fits (slice_noNul noNul value) decodes
            refine returns_pure.ends (splitInto_of_pieces (slice_noNul noNul name) noNul' single
              starts starts' stops ?_ known)
            simp only [List.length_append, List.length_cons, List.length_drop,
              List.length_nil] at length ⊢
            omega
      · rw [if_neg escaped]
        rw [valueOf, if_neg escaped] at known
        have whole : (done ++ gap ++ slice line name ++ '\x00' :: gap' ++ slice line value
            ++ ['\x00']).length = stop + 1 := by
          rw [List.length_append, length, List.length_singleton]
        have pieces := splitInto_of_pieces (slice_noNul noNul name) (slice_noNul noNul value)
          single starts starts' stops whole known
        rw [List.append_assoc _ ['\x00']] at pieces
        exact returns_pure.ends pieces
  · rw [if_pos string]
    refine raises_throw.ends ⟨_, rfl, ?_⟩
    rw [attributesOf, if_pos string]

-----------------------------------------------------------------------------------------
-- All pairs
-----------------------------------------------------------------------------------------

/-- The attributes that the pairs of some tokens start in a buffer. -/
inductive Stored (buf : Text) : List JsmnTok → Attributes → Prop
  | none {tokens : List JsmnTok} (few : ∀ name value rest, tokens = name :: value :: rest → False)
      : Stored buf tokens []
  | pair {name value : JsmnTok} {tokens : List JsmnTok} {attr text : String}
      {attributes : Attributes} (first : Reads buf name.start attr.toList)
      (second : Reads buf value.start text.toList) (rest : Stored buf tokens attributes)
      : Stored buf (name :: value :: tokens) ((attr, text) :: attributes)

/-- After the loop, the attributes are in the buffer behind what was there. -/
def Splits (line done : Text) (tokens : List JsmnTok) (buf : Text) : Prop :=
  (∃ tail, buf = done ++ tail) ∧ ∃ attributes, attributesOf line tokens = .ok attributes
    ∧ Stored buf tokens attributes

/-- The loop splits the pairs that come after what is done, by induction over them. -/
theorem splitStrings_ends (noNul : '\x00' ∉ line) (within : ∀ token ∈ tokens, Within line token)
    (ordered : tokens.Pairwise Precedes) (further : ∀ token ∈ tokens, done.length ≤ token.start)
    : Ends (splitStrings tokens) (done ++ unread line done.length)
        (fun _ buf => Splits line done tokens buf) (FailsAs (attributesOf line tokens)) := by
  induction tokens using splitStrings.induct generalizing done with
  | case2 tokens few =>
      rw [splitStrings.eq_2 _ few]
      exact returns_pure.ends ⟨⟨_, rfl⟩, [], attributesOf.eq_2 _ _ few, .none few⟩
  | case1 name value rest ih =>
      rw [splitStrings]
      obtain ⟨before, after⟩ := List.pairwise_cons.mp ordered
      obtain ⟨after, ordered⟩ := List.pairwise_cons.mp after
      have first := within name List.mem_cons_self
      have second := within value (List.mem_cons_of_mem _ List.mem_cons_self)
      refine (splitPair_ends noNul first second (further name List.mem_cons_self)
        (before value List.mem_cons_self) rest).bind ?_
      rintro ⟨⟩ _ ⟨more, text, rfl, single, stops, readsName, readsValue, known⟩
      have within' : ∀ token ∈ rest, Within line token := fun token member =>
        within token (List.mem_cons_of_mem _ (List.mem_cons_of_mem _ member))
      -- The NUL behind the value stands before the next token, as the value has no brackets.
      have further' : ∀ token ∈ rest, (done ++ more).length ≤ token.start := by
        intro token member
        have next := after token member single
        omega
      refine (ih within' ordered further').imp ?_ ?_
      · rintro ⟨⟩ _ ⟨⟨tail, rfl⟩, attributes, expected, stored⟩
        refine ⟨⟨more ++ tail, List.append_assoc ..⟩,
          (String.ofList (slice line name), String.ofList text) :: attributes, ?_,
          .pair ?_ ?_ stored⟩
        · exact (known rest).trans (congrArg _ expected)
        · rw [String.toList_ofList]
          exact readsName.append tail
        · rw [String.toList_ofList]
          exact readsValue.append tail
      · rintro _ ⟨check, rfl, expected⟩
        exact ⟨check, rfl, (known rest).trans (congrArg _ expected)⟩

/-- The value that is found for a name, in the buffer. -/
inductive Found (buf : Text) : Option Int → Option String → Prop
  | none : Found buf none none
  | some {i : Int} {text : String} (reads : Reads buf i text.toList)
      : Found buf (some i) (some text)

/-- The first attribute of a name is found in the buffer, by induction over them. -/
theorem jsonFindAttr_returns (stored : Stored buf tokens attributes) (attr : String)
    : ∃ found, Returns (jsonFindAttr attr.toList tokens) buf found buf
        ∧ Found buf found (Sharkd.jsonFindAttr attributes attr) := by
  induction stored with
  | none few =>
      refine ⟨Option.none, ?_, .none⟩
      rw [jsonFindAttr.eq_2 _ _ few]
      exact returns_pure
  | @pair name value tokens other text attributes first second rest ih =>
      rw [jsonFindAttr, Sharkd.jsonFindAttr]
      by_cases same : other = attr
      · subst same
        refine ⟨value.start, ?_, ?_⟩
        · apply Returns.bind (readString_returns first)
          rw [if_pos rfl]
          exact returns_pure
        · rw [List.find?_cons_of_pos (by simp)]
          exact .some second
      · obtain ⟨found, returns, agrees⟩ := ih
        refine ⟨found, ?_, ?_⟩
        · apply Returns.bind (readString_returns first)
          rw [if_neg fun equal => same (String.toList_inj.mp equal)]
          exact returns
        · rw [List.find?_cons_of_neg (by simpa using same)]
          exact agrees

theorem readAttributes_returns (stored : Stored buf tokens attributes)
    : Returns (readAttributes tokens) buf attributes buf := by
  induction stored with
  | none few =>
      rw [readAttributes.eq_2 _ few]
      exact returns_pure
  | pair first second rest ih =>
      rw [readAttributes]
      apply Returns.bind (readString_returns first)
      apply Returns.bind (readString_returns second)
      apply Returns.bind ih
      rw [String.ofList_toList, String.ofList_toList]
      exact returns_pure

-----------------------------------------------------------------------------------------
-- Processing
-----------------------------------------------------------------------------------------

/-- The request is found by its attributes. -/
theorem dispatch_ends (stored : Stored buf tokens attributes)
    : Ends (dispatch tokens) buf (fun request _ => withHandler attributes = .ok request)
        (FailsAs (withHandler attributes)) := by
  obtain ⟨found, returns, agrees⟩ := jsonFindAttr_returns stored "req"
  apply returns.bind_ends
  unfold withHandler
  generalize Sharkd.jsonFindAttr attributes "req" = tokReq at agrees
  cases agrees with
  | none => exact raises_throw.ends ⟨_, rfl, rfl⟩
  | some reads =>
      apply (readString_returns reads).bind_ends
      apply (readAttributes_returns stored).bind_ends
      rw [String.ofList_toList]
      exact returns_pure.ends rfl

/-- The tokens of a line are processed to its request, with more tokens behind them or not. -/
theorem sharkdSessionProcess_ends (noNul : '\x00' ∉ line) (spans : Spans line tokens)
    (behind : List JsmnTok)
    : Ends (sharkdSessionProcess (tokens ++ behind) tokens.length) (line ++ ['\x00'])
        (fun request _ => requestOf line tokens = .ok request)
        (FailsAs (requestOf line tokens)) := by
  unfold sharkdSessionProcess
  cases tokens with
  | nil => exact raises_throw.ends ⟨_, rfl, rfl⟩
  | cons first rest =>
      have some : ¬ (first :: rest).length < 1 := by simp
      have count : (first :: rest).length - 1 = rest.length := rfl
      have enough : ¬ (rest ++ behind).length < rest.length := by simp
      have pairs : (rest ++ behind).take rest.length = rest := List.take_left
      rw [if_neg some, count]
      simp only [List.cons_append]
      rw [pairs, if_neg enough]
      split
      · rename_i other
        refine raises_throw.ends ⟨_, rfl, ?_⟩
        rw [requestOf, if_pos other]
      split
      · rename_i isObject odd
        refine raises_throw.ends ⟨_, rfl, ?_⟩
        rw [requestOf, if_neg isObject, if_pos odd]
      · rename_i isObject even
        rw [requestOf, if_neg isObject, if_neg even]
        have within : ∀ token ∈ rest, Within line token := fun token member =>
          spans.bounds token (List.mem_cons_of_mem _ member)
        have further : ∀ token ∈ rest, (([] : Text).length : Int) ≤ token.start := by
          intro token member
          obtain ⟨start, -, starts, -⟩ := within token member
          rw [starts]
          exact Int.natCast_nonneg start
        have ordered := (List.pairwise_cons.mp spans.ordered).2
        have split := splitStrings_ends noNul within ordered further
        refine (split.imp (fun _ _ done => done) ?_).bind ?_
        · rintro _ ⟨check, rfl, expected⟩
          exact ⟨check, rfl, by rw [expected]; rfl⟩
        · rintro ⟨⟩ buf ⟨-, attributes, expected, stored⟩
          rw [expected]
          exact dispatch_ends stored

-----------------------------------------------------------------------------------------
-- Sessions
-----------------------------------------------------------------------------------------

/-- The tokens of a line, or the code that it closes the session with. -/
def lineTokens (line : Text) : Except Nat (List JsmnTok) :=
  match jsonParse line none with
  | .error _ _ => .error 1
  | .ok 0 _ => .error 1
  | .ok count _ =>
      match jsonParse line (some (List.replicate (count + 1) .zero)) with
      | .error _ _ => .error 2
      | .ok ret s => .ok ((s.tokens.getD []).take ret)

/-- The outcome of what a line asks for. -/
def LineOutcome.of : Except SanityCheck Request → LineOutcome
  | .ok asked => .request asked
  | .error check => .refused check

/-- The outcome of a line by itself. -/
def lineOutcome (line : Text) : LineOutcome :=
  match lineTokens line with
  | .error code => .closed code
  | .ok tokens => .of (requestOf line tokens)

/-- The outcomes up to the one that ends the process. -/
def untilEnd : List LineOutcome → List LineOutcome
  | [] => []
  | outcome :: rest => if outcome.ends then [outcome] else outcome :: untilEnd rest

theorem processLine_eq (noNul : '\x00' ∉ line) (spans : Spans line tokens)
    (behind : List JsmnTok)
    : processLine line (tokens ++ behind) tokens.length = .of (requestOf line tokens) := by
  have ends := sharkdSessionProcess_ends noNul spans behind
  unfold processLine
  simp only [Ends] at ends
  cases result : (sharkdSessionProcess (tokens ++ behind) tokens.length).run (line ++ ['\x00']) with
  | ok asked buf =>
      rw [result] at ends
      simp only at ends
      rw [ends, LineOutcome.of]
  | error stop buf =>
      rw [result] at ends
      obtain ⟨check, rfl, expected⟩ := ends
      rw [expected, LineOutcome.of]

theorem closedBy_eq {stop : JsmnStop} (refused : Refused stop) (code : Nat)
    : closedBy code stop = .closed code := by
  rcases refused with rfl | rfl <;> rfl

/-- A turn of the loop, whatever tokens were allocated before. -/
theorem sessionLine_outcome (noNul : '\x00' ∉ line) (tokens : List JsmnTok)
    : (sessionLine line tokens).1 = lineOutcome line := by
  unfold sessionLine lineOutcome lineTokens
  rcases jsmnParse_passes noNul with ⟨⟨stop, s, raises, refused⟩, -⟩ | ⟨count, s, counts, passes⟩
  · have first : jsonParse line none = .error stop s := raises
    simp only [first, closedBy_eq refused]
  · have first : jsonParse line none = .ok count s := counts
    cases count with
    | zero => simp only [first]
    | succ count =>
        -- One token more than the first pass has counted.
        have ends := passes (List.replicate (count + 1 + 1) .zero) (by simp)
        simp only [Ends] at ends
        simp only [first]
        cases second : jsonParse line (some (List.replicate (count + 1 + 1) .zero)) with
        | error stop t =>
            rw [← jsonParse, second] at ends
            simp only [closedBy_eq ends]
        | ok ret t =>
            rw [← jsonParse, second] at ends
            obtain ⟨rfl, placed, super, rfl, length, spans⟩ := ends
            simp only [scanned, Option.getD_some, List.append_assoc]
            rw [← length, processLine_eq noNul spans, List.take_left]

theorem untilEnd_subset (outcomes : List LineOutcome) : untilEnd outcomes ⊆ outcomes := by
  induction outcomes with
  | nil => exact List.Subset.refl _
  | cons outcome rest ih =>
      rw [untilEnd]
      split
      · exact List.cons_subset_cons outcome (List.nil_subset rest)
      · exact List.cons_subset_cons outcome ih

theorem of_ne_outside (asked : Except SanityCheck Request) : LineOutcome.of asked ≠ .outside := by
  cases asked with
  | error check => exact nofun
  | ok asked => exact nofun

theorem lineOutcome_ne_outside (line : Text) : lineOutcome line ≠ .outside := by
  unfold lineOutcome
  split
  · exact nofun
  · exact of_ne_outside _

/-- The outcomes of a session, by induction over its lines. -/
theorem sharkdSessionMain_outcomes {lines : List Text} (noNul : ∀ line ∈ lines, '\x00' ∉ line)
    (tokens : List JsmnTok)
    : sharkdSessionMain lines tokens = untilEnd (lines.map lineOutcome) := by
  induction lines generalizing tokens with
  | nil => rfl
  | cons line rest ih =>
      have first := sessionLine_outcome (noNul line List.mem_cons_self) tokens
      have others := ih fun other member => noNul other (List.mem_cons_of_mem _ member)
      rw [sharkdSessionMain, List.map_cons, untilEnd, ← first]
      rcases sessionLine line tokens with ⟨outcome, kept⟩
      simp only [others kept]

/-- Each line of a session has its own outcome. The tokens of earlier lines are not read, and
nothing is read or written outside of the tokens and of the line with its NUL.
-/
theorem sharkdSessionMain_eq (lines : List Text) (tokens : List JsmnTok)
    (noNul : ∀ line ∈ lines, '\x00' ∉ line)
    : sharkdSessionMain lines tokens = untilEnd (lines.map lineOutcome)
      ∧ LineOutcome.outside ∉ sharkdSessionMain lines tokens := by
  have same := sharkdSessionMain_outcomes noNul tokens
  refine ⟨same, fun outside => ?_⟩
  rw [same] at outside
  obtain ⟨line, -, outcome⟩ := List.mem_map.mp (untilEnd_subset _ outside)
  exact lineOutcome_ne_outside line outcome

theorem sharkdSessionMain_eq_three
    : sharkdSessionMain ["[1]\n".toList, "\x7b\"req\"\n".toList, "[2]\n".toList] []
      = [.refused .notObject, .closed 2] := by
  have each := sharkdSessionMain_eq ["[1]\n".toList, "\x7b\"req\"\n".toList, "[2]\n".toList] []
    (by decide)
  exact each.1.trans rfl

end PacketDissector.Sharkd.Line
