import PacketDissector.Wsutil.JsmnPlaces

/-! The two passes over a text: the second one, with as many tokens as the first one has
counted, stays within them and places them in the text.
-/

namespace PacketDissector.Wsutil

open PacketDissector.Library

variable {α β : Type} {text rest : Text} {reach pos n : Nat} {c : Char}

/-- The state of the first pass. -/
def counted (n : Nat) : JsmnState := ⟨0, -1, none, n⟩

/-- The text is not accepted. -/
def Refused (stop : JsmnStop) : Prop := stop = .error .inval ∨ stop = .error .part

/-- What a second pass returns and leaves, for some more tokens. -/
def Placing (text : Text) (reach more : Nat) (placed spare : List JsmnTok) (a b : α)
    (s : JsmnState) : Prop :=
  b = a ∧ ∃ placed' super', s = scanned placed' (spare.drop more) super'
    ∧ placed'.length = placed.length + more ∧ Scanning text reach placed' super'

/-- Neither pass returns: the second one does not even with many tokens. -/
def Fails (text : Text) (reach : Nat) (x : JsmnM α) : Prop :=
  (∀ n, ∃ stop s, Raises x (counted n) stop s ∧ Refused stop)
  ∧ ∃ most, ∀ placed spare super, Scanning text reach placed super → most ≤ spare.length →
    Ends x (scanned placed spare super) (fun _ _ => False) fun _ => True

/-- From a place in the text, both passes fail, or the first pass counts some more tokens. Then
the second pass needs no other tokens, and refuses the text or does the same.
-/
def Passes (text : Text) (reach : Nat) (x : JsmnM α) (after : α → Nat → Prop) : Prop :=
  Fails text reach x
  ∨ ∃ a more reach', after a reach' ∧ (∀ n, Returns x (counted n) a (counted (n + more)))
    ∧ ∀ placed spare super, Scanning text reach placed super → more ≤ spare.length →
      Ends x (scanned placed spare super) (Placing text reach' more placed spare a) Refused

variable {x : JsmnM α} {f : α → JsmnM β} {after : α → Nat → Prop} {after' : β → Nat → Prop}

theorem Fails.bind (first : Fails text reach x) : Fails text reach (x >>= f) := by
  obtain ⟨refuses, most, fails⟩ := first
  refine ⟨fun n => ?_, most, fun placed spare super state room => ?_⟩
  · obtain ⟨stop, s, raises, refused⟩ := refuses n
    exact ⟨stop, s, raises.bind_first, refused⟩
  · exact (fails placed spare super state room).bind fun _ _ none => none.elim

/-- Passes run one after the other. -/
theorem Passes.bind (first : Passes text reach x after)
    (second : ∀ a reach', after a reach' → Passes text reach' (f a) after')
    : Passes text reach (x >>= f) after' := by
  rcases first with fails | ⟨a, more, reach', holds, counts, places⟩
  · exact Or.inl fails.bind
  have spared : ∀ {spare : List JsmnTok} {more' : Nat}, more + more' ≤ spare.length →
      more' ≤ (spare.drop more).length := by
    intro spare more' room
    rw [List.length_drop]
    omega
  rcases second a reach' holds with
    ⟨refuses, most, fails⟩ | ⟨b, more', reach'', holds', counts', places'⟩
  · refine Or.inl ⟨fun n => ?_, more + most, fun placed spare super state room => ?_⟩
    · obtain ⟨stop, s, raises, refused⟩ := refuses (n + more)
      exact ⟨stop, s, Raises.bind_rest (counts n) raises, refused⟩
    · refine ((places placed spare super state (by omega)).imp (fun _ _ placing => placing)
        fun _ _ => trivial).bind ?_
      rintro _ _ ⟨rfl, placed', super', rfl, -, state'⟩
      -- The second program fails from the place that the first one reached.
      exact fails placed' _ super' state' (spared room)
  · refine Or.inr ⟨b, more + more', reach'', holds', fun n => ?_, ?_⟩
    · rw [← Nat.add_assoc]
      exact (counts n).bind (counts' (n + more))
    · intro placed spare super state room
      apply (places placed spare super state (by omega)).bind
      rintro _ _ ⟨rfl, placed', super', rfl, length, state'⟩
      refine (places' placed' _ super' state' (spared room)).imp ?_ fun _ refused => refused
      rintro _ _ ⟨rfl, placed'', super'', rfl, length', state''⟩
      refine ⟨rfl, placed'', super'', ?_, by omega, state''⟩
      rw [List.drop_drop]

theorem passes_pure {a : α} (holds : after a reach) : Passes text reach (pure a) after := by
  refine Or.inr ⟨a, 0, reach, holds, fun n => returns_pure, ?_⟩
  intro placed spare super state _
  exact returns_pure.ends ⟨rfl, placed, super, rfl, rfl, state⟩

/-- A value in place of the one that was returned. -/
theorem Passes.const (b : β) (passes : Passes text reach x fun _ reach' => after' b reach')
    : Passes text reach ((fun _ => b) <$> x) after' := by
  rw [map_eq_pure_bind]
  exact passes.bind fun _ _ holds => passes_pure holds

/-- Loops that end with an error do so in both passes. -/
theorem orStop_passes {result : Except JsmnErr α} (enough : result ≠ .error .nomem)
    : Passes text reach (orStop result) fun a reach' => result = .ok a ∧ reach' = reach := by
  cases result with
  | error e =>
      refine Or.inl ⟨fun n => ⟨.error e, counted n, raises_throw, ?_⟩, 0,
        fun _ _ _ _ _ => raises_throw.ends trivial⟩
      cases e with
      | nomem => exact absurd rfl enough
      | inval => exact Or.inl rfl
      | part => exact Or.inr rfl
  | ok a => exact passes_pure ⟨rfl, rfl⟩

/-- A string or a primitive from the place that was reached, or after it. -/
theorem addToken_passes {type : JsmnType} {start stop : Nat} (reach' : Nat)
    (kind : type = .string ∨ type = .primitive) (further : reach ≤ start) (order : start ≤ stop)
    (beyond : stop ≤ reach') (within : reach' ≤ text.length)
    (free : start = reach → ∃ c, text[start]? = some c ∧ endsLeaf c = false)
    (ended : ∀ c, text[stop]? = some c → endsLeaf c = true)
    : Passes text reach (addToken type start stop) fun _ r => r = reach' := by
  refine Or.inr ⟨(), 1, reach', rfl, fun n => returns_modify _, ?_⟩
  intro placed spare super state room
  cases spare with
  | nil => cases room
  | cons next spare =>
      have counted := state.countedIn
      refine (addToken_returns state.least state.inside type start stop).ends
        ⟨rfl, _, super, rfl, by simp, ?_⟩
      refine counted.add (Nat.le_trans (Nat.le_trans further order) beyond) within
        (.leaf kind order beyond ended) ?_ counted.least (Int.le_of_lt counted.inside)
      exact fun other member => (counted.each other member).precedes rfl further free

/-- An opening bracket at the place that was reached. -/
theorem openToken_passes {type : JsmnType} (kind : type = .object ∨ type = .array)
    (here : text[pos]? = some c) (free : endsLeaf c = false)
    : Passes text pos (openToken pos type) fun _ reach' => reach' = pos + 1 := by
  refine Or.inr ⟨(), 1, pos + 1, rfl, fun n => ?_, ?_⟩
  · apply Returns.bind (returns_modify _)
    apply Returns.bind returns_get
    exact returns_pure
  · intro placed spare super state room
    obtain ⟨within, -⟩ := List.getElem?_eq_some_iff.mp here
    cases spare with
    | nil => cases room
    | cons next spare =>
        have counted := state.countedIn
        refine (openToken_returns state.least state.inside pos type).ends
          ⟨rfl, _, placed.length, rfl, by simp, ?_⟩
        refine counted.add (Nat.le_succ _) within (.opened kind (Nat.lt_succ_self pos)) ?_
          (by omega) (by simp)
        exact fun other member =>
          (counted.each other member).precedes rfl (Nat.le_refl _) fun _ => ⟨c, here, free⟩

theorem superIndex_least (found : Option Nat) : -1 ≤ superIndex found := by
  cases found with
  | none => exact Int.le_refl _
  | some i => exact Int.le_trans (by decide) (Int.natCast_nonneg i)

theorem superIndex_inside {found : Option Nat} {length : Nat}
    (inside : ∀ i, found = some i → i < length)
    : superIndex found < length := by
  cases found with
  | none => exact Int.lt_of_lt_of_le (by decide) (Int.natCast_nonneg length)
  | some i => exact Int.ofNat_lt.mpr (inside i rfl)

/-- A closing bracket at the place that was reached. -/
theorem closeToken_passes {type : JsmnType} (here : text[pos]? = some c)
    : Passes text pos (closeToken pos type) fun _ reach' => reach' = pos + 1 := by
  refine Or.inr ⟨(), 0, pos + 1, rfl, fun n => ?_, ?_⟩
  · apply Returns.bind returns_get
    exact returns_pure
  · intro placed spare super state _
    obtain ⟨within, -⟩ := List.getElem?_eq_some_iff.mp here
    cases last : lastBelow JsmnTok.isOpen placed placed.length with
    | none => exact (closeToken_raises_unopened pos type last).ends (Or.inl rfl)
    | some i =>
        obtain ⟨below, isOpen, -⟩ := lastBelow_eq_some.mp last
        obtain ⟨token, there⟩ : ∃ token, placed[i]? = some token :=
          ⟨placed[i], List.getElem?_eq_getElem below⟩
        rw [there, Option.any_some] at isOpen
        by_cases same : token.type = type
        · subst same
          refine (closeToken_returns spare super pos last there).ends
            ⟨rfl, _, _, rfl, List.length_modify .., ?_⟩
          apply state.close there isOpen within (superIndex_least _)
          refine superIndex_inside fun j found => ?_
          obtain ⟨least, -, -⟩ := lastBelow_eq_some.mp found
          omega
        · exact (closeToken_raises_mismatch pos last there same).ends (Or.inl rfl)

/-- A comma at the place that was reached. -/
theorem commaToken_passes (here : text[pos]? = some c)
    : Passes text pos commaToken fun _ reach' => reach' = pos + 1 := by
  refine Or.inr ⟨(), 0, pos + 1, rfl, fun n => ?_, ?_⟩
  · apply Returns.bind returns_get
    exact returns_pure
  · intro placed spare super state _
    obtain ⟨within, -⟩ := List.getElem?_eq_some_iff.mp here
    have state' := state.mono (Nat.le_succ pos) within
    rcases Int.lt_or_le super 0 with negative | positive
    · obtain rfl : super = -1 := by
        have least := state.least
        omega
      exact commaToken_returns_top.ends ⟨rfl, placed, -1, rfl, rfl, state'⟩
    · obtain ⟨i, rfl⟩ := Int.eq_ofNat_of_zero_le positive
      have below : i < placed.length := Int.ofNat_lt.mp state.inside
      have there : placed[i]? = some placed[i] := List.getElem?_eq_getElem below
      cases compound : placed[i].isCompound with
      | true =>
          exact (commaToken_returns_compound there compound).ends
            ⟨rfl, placed, i, rfl, rfl, state'⟩
      | false =>
          refine (commaToken_returns_leaf there compound).ends ⟨rfl, placed, _, rfl, rfl, ?_⟩
          refine state'.under (superIndex_least _) (superIndex_inside fun j found => ?_)
          -- Without an object to go back to, the superior token stays.
          rcases Option.or_eq_some_iff.mp found with found | ⟨-, found⟩
          · exact (lastBelow_eq_some.mp found).1
          · cases found
            exact below

/-- A colon at the place that was reached. -/
theorem colon_passes (here : text[pos]? = some c)
    : Passes text pos (modify fun s : JsmnState => { s with toksuper := s.toknext - 1 })
        fun _ reach' => reach' = pos + 1 := by
  refine Or.inr ⟨(), 0, pos + 1, rfl, fun n => returns_modify _, ?_⟩
  intro placed spare super state _
  obtain ⟨within, -⟩ := List.getElem?_eq_some_iff.mp here
  refine colon_returns.ends ⟨rfl, placed, _, rfl, rfl, ?_⟩
  exact (state.mono (Nat.le_succ pos) within).under (by omega) (by omega)

/-- Other white space. -/
theorem blank_passes (here : text[pos]? = some c)
    : Passes text pos (pure 0) fun taken reach' => reach' = pos + 1 + taken := by
  refine Or.inr ⟨0, 0, pos + 1, rfl, fun n => returns_pure, ?_⟩
  intro placed spare super state _
  obtain ⟨within, -⟩ := List.getElem?_eq_some_iff.mp here
  exact returns_pure.ends ⟨rfl, placed, super, rfl, rfl, state.mono (Nat.le_succ pos) within⟩

theorem stringLoop_ne_nomem (read digits : Nat) (rest : Text)
    : stringLoop read digits rest ≠ .error .nomem := by
  fun_induction stringLoop read digits rest with
  | case3 read digits c rest notNul hex ih => exact ih
  | case5 read c rest known ih => exact ih
  | case6 read rest unknown ih => exact ih
  | case10 read c rest notEscape notNul notQuote ih => exact ih
  | case1 | case2 | case4 | case7 | case8 | case9 =>
      intro same
      cases same

theorem primitiveLoop_ne_nomem (read : Nat) (rest : Text)
    : primitiveLoop read rest ≠ .error .nomem := by
  fun_induction primitiveLoop read rest with
  | case4 read c rest inner valid ih => exact ih
  | case1 | case2 | case3 =>
      intro same
      cases same

/-- One turn of the loop. -/
theorem parseChar_passes (noNul : '\x00' ∉ text) (left : text.drop pos = c :: rest)
    : Passes text pos (parseChar pos c rest) fun taken reach' => reach' = pos + 1 + taken := by
  have at_pos : ∀ k, text[pos + k]? = (c :: rest)[k]? := fun k => by
    rw [← left, List.getElem?_drop]
  have here : text[pos]? = some c := at_pos 0
  have length : text.length = pos + rest.length + 1 := by
    have whole := congrArg List.length left
    obtain ⟨within, -⟩ := List.getElem?_eq_some_iff.mp here
    rw [List.length_drop, List.length_cons] at whole
    omega
  unfold parseChar
  split
  · rename_i brace
    subst brace
    exact (openToken_passes (Or.inl rfl) here rfl).const 0
  split
  · rename_i bracket
    subst bracket
    exact (openToken_passes (Or.inr rfl) here rfl).const 0
  split
  · exact (closeToken_passes here).const 0
  split
  · exact (closeToken_passes here).const 0
  split
  · apply (orStop_passes (stringLoop_ne_nomem 0 0 rest)).bind
    rintro k reach' ⟨ok, rfl⟩
    obtain ⟨k, rfl, quote⟩ := stringLoop_ok ok
    rw [Nat.zero_add]
    have quoted : text[reach' + 1 + k]? = some '"' := by
      rw [Nat.add_assoc, Nat.add_comm 1 k, at_pos, List.getElem?_cons_succ, quote]
    obtain ⟨within, -⟩ := List.getElem?_eq_some_iff.mp quoted
    refine Passes.bind (addToken_passes (reach' + 1 + (k + 1)) (Or.inl rfl)
      (by omega) (by omega) (by omega) (by omega) (fun same => by omega) ?_) ?_
    · intro d there
      obtain rfl := Option.some.inj (quoted.symm.trans there)
      rfl
    · rintro _ _ rfl
      exact passes_pure rfl
  split
  · exact blank_passes here
  split
  · exact (colon_passes here).const 0
  split
  · exact (commaToken_passes here).const 0
  · rename_i notBrace notBracket notEnd notClose notQuote notBlank notColon notComma
    have free : endsLeaf c = false := by
      simp only [List.mem_cons, not_or] at notBlank
      simp [endsLeaf, endsPrimitive, notEnd, notClose, notQuote, notBlank, notColon, notComma]
    apply (orStop_passes (primitiveLoop_ne_nomem 0 (c :: rest))).bind
    rintro k reach' ⟨ok, rfl⟩
    obtain ⟨k, rfl, within, ends⟩ := primitiveLoop_ok ok
    rw [Nat.zero_add, List.length_cons] at *
    have ended : ∀ d, text[reach' + k]? = some d → endsLeaf d = true := by
      intro d there
      have notNul : d ≠ '\x00' := by
        rintro rfl
        exact noNul (List.mem_of_getElem? there)
      rw [at_pos] at there
      have stops := (ends d there).resolve_left notNul
      rw [endsLeaf, stops, Bool.or_true]
    have some : k ≠ 0 := by
      rintro rfl
      rw [ended c here] at free
      cases free
    refine Passes.bind (addToken_passes (reach' + 1 + (k - 1)) (Or.inr rfl)
      (by omega) (by omega) (by omega) (by omega) (fun _ => ⟨c, here, free⟩) ended) ?_
    rintro _ _ rfl
    exact passes_pure rfl

/-- The loop over the rest of a text, by induction over it. -/
theorem parseFrom_passes (noNul : '\x00' ∉ text) {taken : Nat} (left : text.drop pos = rest)
    : Passes text (pos + taken) (parseFrom pos taken rest) fun _ _ => True := by
  induction rest generalizing pos taken with
  | nil =>
      rw [parseFrom]
      exact passes_pure trivial
  | cons c rest ih =>
      have next : text.drop (pos + 1) = rest := by
        rw [← List.drop_drop, left, List.drop_one, List.tail_cons]
      cases taken with
      | succ taken =>
          -- A character of the last token: the place that was reached is behind it already.
          have shifted : Passes text (pos + 1 + taken) (parseFrom (pos + 1) taken rest)
              fun _ _ => True := ih next
          rwa [Nat.add_right_comm] at shifted
      | zero =>
          rw [parseFrom]
          split
          · exact passes_pure trivial
          · apply (parseChar_passes noNul left).bind
            rintro taken _ rfl
            exact ih next

/-- Tokens in a text that was read: their bounds, in order, and that a string or a primitive
ends before the next token starts.
-/
structure Spans (text : Text) (tokens : List JsmnTok) : Prop where
  bounds : ∀ token ∈ tokens, ∃ start stop : Nat, token.start = start ∧ token.end = stop
    ∧ start ≤ stop ∧ stop ≤ text.length
  ordered : tokens.Pairwise Precedes

theorem Scanning.spans {placed : List JsmnTok} {super : Int}
    (state : Scanning text reach placed super)
    (closed : ∀ token ∈ placed, token.isOpen = false)
    : Spans text placed where
  bounds := by
    intro token member
    have within := state.within
    have closed := closed token member
    cases state.each token member with
    | leaf kind order most ended => exact ⟨_, _, rfl, rfl, order, by omega⟩
    | opened kind most =>
        rw [isOpen_eq_true rfl rfl] at closed
        cases closed
    | closed kind order most => exact ⟨_, _, rfl, rfl, Nat.le_of_lt order, by omega⟩
  ordered := state.ordered

theorem scanning_start (text : Text) : Scanning text 0 [] (-1) :=
  ⟨Nat.zero_le _, nofun, .nil, Int.le_refl _, by decide⟩

/-- Both passes fail, or a first pass counts the text. Then a second pass with no fewer tokens
refuses it, or returns the same count with as many tokens in place.
-/
theorem jsmnParse_passes (noNul : '\x00' ∉ text)
    : ((∃ stop s, Raises (jsmnParse text) (jsmnInit none) stop s ∧ Refused stop)
        ∧ ∃ most, ∀ spare, most ≤ spare.length →
          Ends (jsmnParse text) (jsmnInit (some spare)) (fun _ _ => False) fun _ => True)
      ∨ ∃ count s, Returns (jsmnParse text) (jsmnInit none) count s
        ∧ ∀ spare, count ≤ spare.length →
          Ends (jsmnParse text) (jsmnInit (some spare))
            (fun ret t => ret = count ∧ ∃ placed super, t = scanned placed (spare.drop count) super
              ∧ placed.length = count ∧ Spans text placed)
            Refused := by
  have start := scanning_start text
  have loop : Passes text 0 (parseFrom 0 0 text) fun _ _ => True :=
    parseFrom_passes noNul List.drop_zero
  rcases loop with fails | ⟨⟨⟩, count, reach, -, counts, places⟩
  · obtain ⟨refuses, most, fails⟩ := Fails.bind (f := fun _ => do
      checkClosed
      pure (← get).count) fails
    exact Or.inl ⟨refuses 0, most, fun spare => fails [] spare (-1) start⟩
  · refine Or.inr ⟨count, counted count, ?_, ?_⟩
    · have counts := counts 0
      rw [Nat.zero_add] at counts
      apply Returns.bind counts
      refine Returns.bind (Returns.bind returns_get returns_pure) ?_
      exact Returns.bind returns_get returns_pure
    · intro spare room
      apply (places [] spare (-1) start room).bind
      rintro _ _ ⟨-, placed, super, rfl, length, state⟩
      rw [List.length_nil, Nat.zero_add] at length
      cases last : lastBelow JsmnTok.isOpen placed placed.length with
      | some i => exact (checkClosed_raises last).bind_first.ends (Or.inr rfl)
      | none =>
          apply Returns.bind_ends (checkClosed_returns last)
          apply Returns.bind_ends returns_get
          refine returns_pure.ends ⟨length, placed, super, rfl, length, state.spans ?_⟩
          intro token member
          obtain ⟨i, there⟩ := List.mem_iff_getElem?.mp member
          obtain ⟨below, -⟩ := List.getElem?_eq_some_iff.mp there
          simpa [there] using lastBelow_eq_none.mp last i below

end PacketDissector.Wsutil
