import PacketDissector.Wsutil.Jsmn

/-! What the steps of the tokenizer do to the tokens, while there is room for them. -/

namespace PacketDissector.Wsutil

open PacketDissector.Library

variable {placed spare : List JsmnTok} {super : Int} {wanted : JsmnTok → Bool} {i n pos : Nat}
variable {next : JsmnTok} {type : JsmnType}

/-- The state with some tokens in place and some to spare. -/
def scanned (placed spare : List JsmnTok) (super : Int) : JsmnState :=
  ⟨placed.length, super, some (placed ++ spare), placed.length⟩

/-- A token with an end is not open. -/
theorem isOpen_eq_false {token : JsmnTok} {stop : Nat} (ends : token.end = stop)
    : token.isOpen = false := by
  have proper : token.end ≠ -1 := by omega
  simp only [JsmnTok.isOpen, proper, decide_false, Bool.and_false]

/-- A token with a start and without an end is open. -/
theorem isOpen_eq_true {token : JsmnTok} {start : Nat} (starts : token.start = start)
    (ends : token.end = -1)
    : token.isOpen = true := by
  have proper : token.start ≠ -1 := by omega
  simp only [JsmnTok.isOpen, proper, ends, ne_eq, not_false_eq_true, decide_true, Bool.and_self]

theorem modify_append {α : Type} {first : List α} (inside : i < first.length) (rest : List α)
    (change : α → α)
    : (first ++ rest).modify i change = first.modify i change ++ rest := by
  induction first generalizing i with
  | nil => cases inside
  | cons a first ih =>
      cases i with
      | zero => rfl
      | succ i => simpa using ih (Nat.lt_of_succ_lt_succ inside)

theorem modify_concat {α : Type} (first : List α) (a : α) (rest : List α) (change : α → α)
    : (first ++ a :: rest).modify first.length change = first ++ change a :: rest := by
  induction first with
  | nil => rfl
  | cons b first ih => simpa using ih

theorem changeToken_returns {s : JsmnState} {toks : List JsmnTok} (tokens : s.tokens = some toks)
    (inside : i < toks.length) (change : JsmnTok → JsmnTok)
    : Returns (changeToken i change) s () { s with tokens := some (toks.modify i change) } := by
  apply Returns.bind returns_get
  have within : 0 ≤ (i : Int) ∧ (i : Int) < toks.length := by omega
  simp only [tokens, within, and_self, if_true, Int.toNat_natCast]
  exact returns_modify _

/-- The superior token with one child more. -/
def countedIn (super : Int) (toks : List JsmnTok) : List JsmnTok :=
  if super = -1 then toks
  else toks.modify super.toNat fun token => { token with size := token.size + 1 }

@[simp]
theorem countedIn_length (super : Int) (toks : List JsmnTok)
    : (countedIn super toks).length = toks.length := by
  unfold countedIn
  split
  · rfl
  · exact List.length_modify ..

theorem countedIn_append (least : -1 ≤ super) (inside : super < placed.length)
    (rest : List JsmnTok)
    : countedIn super (placed ++ rest) = countedIn super placed ++ rest := by
  unfold countedIn
  split
  · rfl
  · exact modify_append (by omega) rest _

theorem countInSuper_returns {s : JsmnState} {toks : List JsmnTok} (tokens : s.tokens = some toks)
    (least : -1 ≤ s.toksuper) (inside : s.toksuper < toks.length)
    : Returns countInSuper s () { s with tokens := some (countedIn s.toksuper toks) } := by
  apply Returns.bind returns_get
  by_cases none : s.toksuper = -1
  · rw [if_neg (not_not_intro none), countedIn, if_pos none, ← tokens]
    exact returns_pure
  · rw [if_pos none, countedIn, if_neg none]
    have changed := changeToken_returns (i := s.toksuper.toNat) tokens (by omega) fun token =>
      { token with size := token.size + 1 }
    rwa [Int.toNat_of_nonneg (by omega)] at changed

/-- Allocation takes a spare token. -/
theorem jsmnAllocToken_returns {count : Nat}
    : Returns jsmnAllocToken ⟨placed.length, super, some (placed ++ next :: spare), count⟩
        placed.length
        ⟨placed.length + 1, super,
          some (placed ++ { next with start := -1, «end» := -1, size := 0 } :: spare), count⟩ := by
  apply Returns.bind returns_get
  have room : placed.length < (placed ++ next :: spare).length := by simp
  simp only [Option.getD_some, ge_iff_le, Nat.not_le.mpr room, if_false]
  apply Returns.bind (returns_modify _)
  apply Returns.bind (changeToken_returns rfl room _)
  simp only [modify_concat]
  exact returns_pure

/-- The last token below an index that is wanted. -/
def lastBelow (wanted : JsmnTok → Bool) (toks : List JsmnTok) : Nat → Option Nat
  | 0 => none
  | i + 1 => if toks[i]?.any wanted then some i else lastBelow wanted toks i

/-- The search finds it, by induction on the index. -/
theorem lastToken_returns {s : JsmnState} (tokens : s.tokens = some (placed ++ spare))
    (inside : i ≤ placed.length)
    : Returns (lastToken wanted i) s (lastBelow wanted placed i) s := by
  induction i with
  | zero => exact returns_pure
  | succ i ih =>
      apply Returns.bind returns_get
      have here : (placed ++ spare)[i]? = some placed[i] := by
        rw [List.getElem?_append_left inside, List.getElem?_eq_getElem inside]
      have same : placed[i]? = some placed[i] := List.getElem?_eq_getElem inside
      simp only [tokens, Option.getD_some, here, lastBelow, same, Option.any_some]
      split
      · exact returns_pure
      · exact ih (Nat.le_of_succ_le inside)

theorem lastBelow_eq_some {toks : List JsmnTok}
    : lastBelow wanted toks n = some i
      ↔ i < n ∧ toks[i]?.any wanted = true
        ∧ ∀ j, i < j → j < n → toks[j]?.any wanted = false := by
  induction n with
  | zero => simp [lastBelow]
  | succ n ih =>
      rw [lastBelow]
      constructor
      · intro found
        split at found
        · rename_i yes
          obtain rfl := Option.some.inj found
          exact ⟨Nat.lt_succ_self n, yes, fun j above below => by omega⟩
        · rename_i no
          obtain ⟨below, yes, others⟩ := ih.mp found
          refine ⟨Nat.lt_succ_of_lt below, yes, fun j above least => ?_⟩
          rcases Nat.lt_succ_iff_lt_or_eq.mp least with least | rfl
          · exact others j above least
          · exact Bool.eq_false_iff.mpr no
      · rintro ⟨below, yes, others⟩
        rcases Nat.lt_succ_iff_lt_or_eq.mp below with below | rfl
        · rw [if_neg (Bool.eq_false_iff.mp (others n below (Nat.lt_succ_self n)))]
          exact ih.mpr ⟨below, yes, fun j above least => others j above (Nat.lt_succ_of_lt least)⟩
        · rw [if_pos yes]

theorem lastBelow_eq_none {toks : List JsmnTok}
    : lastBelow wanted toks n = none ↔ ∀ j < n, toks[j]?.any wanted = false := by
  induction n with
  | zero => simp [lastBelow]
  | succ n ih =>
      rw [lastBelow, Nat.forall_lt_succ_right, ← ih]
      cases toks[n]?.any wanted <;> simp

variable (least : -1 ≤ super) (inside : super < placed.length)

include least inside in
/-- A string or a primitive is one token more, counted in the superior one. -/
theorem addToken_returns (type : JsmnType) (start stop : Nat)
    : Returns (addToken type start stop) (scanned placed (next :: spare) super) ()
        (scanned (countedIn super placed ++ [⟨type, start, stop, 0⟩]) spare super) := by
  apply Returns.bind returns_get
  apply Returns.bind jsmnAllocToken_returns
  apply Returns.bind (changeToken_returns rfl (by simp) _)
  apply Returns.bind (returns_modify _)
  have counted := countInSuper_returns
    (s := ⟨placed.length + 1, super, some (placed ++ ⟨type, start, stop, 0⟩ :: spare),
      placed.length + 1⟩) rfl least (by simp; omega)
  simp only [modify_concat]
  simpa [scanned, countedIn_append least inside] using counted

include least inside in
/-- A bracket is one token more, and the superior one of those that follow. -/
theorem openToken_returns (pos : Nat) (type : JsmnType)
    : Returns (openToken pos type) (scanned placed (next :: spare) super) ()
        (scanned (countedIn super placed ++ [⟨type, pos, -1, 0⟩]) spare placed.length) := by
  apply Returns.bind (returns_modify _)
  apply Returns.bind returns_get
  apply Returns.bind jsmnAllocToken_returns
  have counted := countInSuper_returns
    (s := ⟨placed.length + 1, super,
      some (placed ++ { next with start := -1, «end» := -1, size := 0 } :: spare),
      placed.length + 1⟩) rfl least (by simp; omega)
  rw [countedIn_append least inside] at counted
  apply Returns.bind counted
  apply Returns.bind (changeToken_returns rfl (by simp) _)
  have place := modify_concat (countedIn super placed)
    { next with start := -1, «end» := -1, size := 0 } spare
    fun t => { t with type, start := pos }
  rw [countedIn_length] at place
  simp only [place]
  have last : ((placed.length + 1 : Nat) : Int) - 1 = placed.length := by omega
  simpa [scanned, last] using returns_modify (ε := JsmnStop)
    (s := (⟨placed.length + 1, super,
      some (countedIn super placed ++ ⟨type, pos, -1, 0⟩ :: spare), placed.length + 1⟩
        : JsmnState))
    fun s => { s with toksuper := s.toknext - 1 }

/-- The superior token is the one before the colon. -/
theorem colon_returns
    : Returns (modify fun s : JsmnState => { s with toksuper := s.toknext - 1 } : JsmnM PUnit)
        (scanned placed spare super) () (scanned placed spare (placed.length - 1)) :=
  returns_modify _

/-- A token with its end. -/
def JsmnTok.closedAt (pos : Nat) (token : JsmnTok) : JsmnTok :=
  { token with «end» := (pos + 1 : Nat) }

/-- A token or none, as an index. -/
def superIndex : Option Nat → Int
  | some i => i
  | none => -1

/-- The search for an open token. -/
theorem lastOpen_returns {found : Option Nat}
    (last : lastBelow JsmnTok.isOpen placed placed.length = found)
    : Returns (lastToken JsmnTok.isOpen placed.length) (scanned placed spare super) found
        (scanned placed spare super) :=
  last ▸ lastToken_returns rfl (Nat.le_refl _)

/-- A closing bracket closes the last open token, when that has its type. -/
theorem closeToken_returns (spare : List JsmnTok) (super : Int) (pos : Nat) {token : JsmnTok}
    (last : lastBelow JsmnTok.isOpen placed placed.length = some i)
    (here : placed[i]? = some token)
    : Returns (closeToken pos token.type) (scanned placed spare super) ()
        (scanned (placed.modify i (JsmnTok.closedAt pos)) spare
          (superIndex (lastBelow JsmnTok.isOpen (placed.modify i (JsmnTok.closedAt pos)) (i + 1))))
      := by
  obtain ⟨below, -, -⟩ := lastBelow_eq_some.mp last
  have stored : (placed ++ spare)[i]? = some token := by
    rw [List.getElem?_append_left below, here]
  apply Returns.bind returns_get
  apply Returns.bind returns_get
  apply Returns.bind (lastOpen_returns last)
  have closed : Returns (closeLast pos token.type i) (scanned placed spare super) ()
      (scanned (placed.modify i (JsmnTok.closedAt pos)) spare (-1)) := by
    apply Returns.bind returns_get
    simp only [scanned, Option.getD_some, stored, ne_eq, not_true, if_false]
    apply Returns.bind (returns_modify _)
    have changed := changeToken_returns (s := ⟨placed.length, -1, some (placed ++ spare),
      placed.length⟩) rfl (i := i) (by simp; omega) (JsmnTok.closedAt pos)
    rw [modify_append below] at changed
    simp only [List.length_modify]
    exact changed
  apply Returns.bind closed
  refine Returns.bind (lastToken_returns (s := scanned _ _ _) rfl
    (by rw [List.length_modify]; exact below)) ?_
  cases lastBelow JsmnTok.isOpen (placed.modify i (JsmnTok.closedAt pos)) (i + 1) with
  | none => exact returns_pure
  | some super => exact returns_modify _

/-- A closing bracket is refused without an open token. -/
theorem closeToken_raises_unopened (pos : Nat) (type : JsmnType)
    (last : lastBelow JsmnTok.isOpen placed placed.length = none)
    : Raises (closeToken pos type) (scanned placed spare super) (.error .inval)
        (scanned placed spare super) := by
  apply Raises.bind_rest returns_get
  apply Raises.bind_rest returns_get
  apply Raises.bind_rest (lastOpen_returns last)
  exact raises_throw

/-- A closing bracket is refused when the last open token has the other type. -/
theorem closeToken_raises_mismatch (pos : Nat) {token : JsmnTok}
    (last : lastBelow JsmnTok.isOpen placed placed.length = some i)
    (here : placed[i]? = some token) (other : token.type ≠ type)
    : Raises (closeToken pos type) (scanned placed spare super) (.error .inval)
        (scanned placed spare super) := by
  obtain ⟨below, -, -⟩ := lastBelow_eq_some.mp last
  have stored : (placed ++ spare)[i]? = some token := by
    rw [List.getElem?_append_left below, here]
  apply Raises.bind_rest returns_get
  apply Raises.bind_rest returns_get
  apply Raises.bind_rest (lastOpen_returns last)
  apply Raises.bind_first
  apply Raises.bind_rest returns_get
  simp only [scanned, Option.getD_some, stored, ne_eq, other, not_false_eq_true, if_true]
  exact raises_throw

/-- A comma after a member or an element keeps a compound superior token. -/
theorem commaToken_returns_compound {token : JsmnTok} (here : placed[i]? = some token)
    (compound : token.isCompound = true)
    : Returns commaToken (scanned placed spare i) () (scanned placed spare i) := by
  apply Returns.bind returns_get
  have stored : (placed ++ spare)[i]? = some token := by
    rw [List.getElem?_append_left (List.getElem?_eq_some_iff.mp here).1, here]
  have index : ¬ (i : Int) = -1 ∧ ¬ (i : Int) < 0 := by omega
  simp only [scanned, index, if_false, Int.toNat_natCast, stored, compound, if_true]
  exact returns_pure

/-- A comma at the top keeps the state. -/
theorem commaToken_returns_top
    : Returns commaToken (scanned placed spare (-1)) () (scanned placed spare (-1)) := by
  apply Returns.bind returns_get
  exact returns_pure

/-- The tokens that a comma looks for. -/
def JsmnTok.isOpenCompound (token : JsmnTok) : Bool := token.isCompound && token.isOpen

/-- A comma after another token returns to the last open object or array, if there is one. -/
theorem commaToken_returns_leaf {token : JsmnTok} (here : placed[i]? = some token)
    (leaf : token.isCompound = false)
    : Returns commaToken (scanned placed spare i) ()
        (scanned placed spare
          (superIndex ((lastBelow JsmnTok.isOpenCompound placed placed.length).or (some i)))) := by
  apply Returns.bind returns_get
  have stored : (placed ++ spare)[i]? = some token := by
    rw [List.getElem?_append_left (List.getElem?_eq_some_iff.mp here).1, here]
  have index : ¬ (i : Int) = -1 ∧ ¬ (i : Int) < 0 := by omega
  simp only [scanned, index, if_false, Int.toNat_natCast, stored, leaf, Bool.false_eq_true]
  apply Returns.bind returns_get
  have search : Returns (lastToken JsmnTok.isOpenCompound placed.length) (scanned placed spare i)
      (lastBelow JsmnTok.isOpenCompound placed placed.length) (scanned placed spare i) :=
    lastToken_returns rfl (Nat.le_refl _)
  apply Returns.bind search
  cases lastBelow JsmnTok.isOpenCompound placed placed.length with
  | none => exact returns_pure
  | some super => exact returns_modify _

/-- The last loop finds nothing that is open, or the text is partial. -/
theorem checkClosed_returns (last : lastBelow JsmnTok.isOpen placed placed.length = none)
    : Returns checkClosed (scanned placed spare super) () (scanned placed spare super) := by
  apply Returns.bind returns_get
  apply Returns.bind returns_get
  apply Returns.bind (lastOpen_returns last)
  exact returns_pure

theorem checkClosed_raises (last : lastBelow JsmnTok.isOpen placed placed.length = some i)
    : Raises checkClosed (scanned placed spare super) (.error .part)
        (scanned placed spare super) := by
  apply Raises.bind_rest returns_get
  apply Raises.bind_rest returns_get
  apply Raises.bind_rest (lastOpen_returns last)
  exact raises_throw

end PacketDissector.Wsutil
