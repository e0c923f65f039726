import PacketDissector.Wsutil.JsmnSteps

/-! Where tokens stand in their text: in bounds, and one after the other. -/

namespace PacketDissector.Wsutil

open PacketDissector.Library

/-- A string stops at a quote, by induction over the loop. -/
theorem stringLoop_ok {read digits n : Nat} {text : Text}
    (ok : stringLoop read digits text = .ok n)
    : ∃ k, n = read + k ∧ text[k]? = some '"' := by
  fun_induction stringLoop read digits text with
  | case1 => cases ok
  | case2 => cases ok
  | case3 read digits c rest notNul hex ih =>
      obtain ⟨k, rfl, quote⟩ := ih ok
      exact ⟨k + 1, by omega, quote⟩
  | case4 => cases ok
  | case5 read c rest known ih =>
      obtain ⟨k, rfl, quote⟩ := ih ok
      exact ⟨k + 2, by omega, quote⟩
  | case6 read rest unknown ih =>
      obtain ⟨k, rfl, quote⟩ := ih ok
      exact ⟨k + 2, by omega, quote⟩
  | case7 => cases ok
  | case8 => cases ok
  | case9 read rest notNul =>
      obtain rfl := Except.ok.inj ok
      exact ⟨0, rfl, rfl⟩
  | case10 read c rest notEscape notNul notQuote ih =>
      obtain ⟨k, rfl, quote⟩ := ih ok
      exact ⟨k + 1, by omega, quote⟩

/-- A primitive stops at a character that ends it, or at the end of the text. -/
theorem primitiveLoop_ok {read n : Nat} {text : Text} (ok : primitiveLoop read text = .ok n)
    : ∃ k, n = read + k ∧ k ≤ text.length
        ∧ ∀ c, text[k]? = some c → c = '\x00' ∨ endsPrimitive c = true := by
  fun_induction primitiveLoop read text with
  | case1 =>
      obtain rfl := Except.ok.inj ok
      exact ⟨0, rfl, Nat.le_refl _, fun c some => by cases some⟩
  | case2 read c rest ends =>
      obtain rfl := Except.ok.inj ok
      refine ⟨0, rfl, Nat.zero_le _, fun d here => ?_⟩
      obtain rfl : c = d := by simpa using here
      exact ends
  | case3 => cases ok
  | case4 read c rest inner valid ih =>
      obtain ⟨k, rfl, within, ends⟩ := ih ok
      exact ⟨k + 1, by omega, Nat.succ_le_succ within, ends⟩

/-- A character that comes right after a string or a primitive. -/
def endsLeaf (c : Char) : Bool := c = '"' || endsPrimitive c

/-- A token in the part of a text that was read. -/
inductive Placed (text : Text) (reach : Nat) : JsmnTok → Prop
  | leaf {type : JsmnType} {start stop : Nat} {size : Int}
      (kind : type = .string ∨ type = .primitive) (order : start ≤ stop) (within : stop ≤ reach)
      (ended : ∀ c, text[stop]? = some c → endsLeaf c = true)
      : Placed text reach ⟨type, start, stop, size⟩
  | opened {type : JsmnType} {start : Nat} {size : Int}
      (kind : type = .object ∨ type = .array) (within : start < reach)
      : Placed text reach ⟨type, start, -1, size⟩
  | closed {type : JsmnType} {start stop : Nat} {size : Int}
      (kind : type = .object ∨ type = .array) (order : start < stop) (within : stop ≤ reach)
      : Placed text reach ⟨type, start, stop, size⟩

/-- A string or a primitive ends before the next token starts. -/
def Precedes (first second : JsmnTok) : Prop :=
  first.isCompound = false → first.end < second.start

/-- The tokens of the part of a text that was read, with the superior one. -/
structure Scanning (text : Text) (reach : Nat) (placed : List JsmnTok) (super : Int) : Prop where
  within : reach ≤ text.length
  each : ∀ token ∈ placed, Placed text reach token
  ordered : placed.Pairwise Precedes
  least : -1 ≤ super
  inside : super < placed.length

variable {text rest : Text} {reach reach' pos : Nat} {placed : List JsmnTok} {super : Int}
variable {token : JsmnTok} {c : Char}

theorem Placed.mono (within : Placed text reach token) (further : reach ≤ reach')
    : Placed text reach' token := by
  cases within with
  | leaf kind order within ended => exact .leaf kind order (Nat.le_trans within further) ended
  | opened kind within => exact .opened kind (Nat.lt_of_lt_of_le within further)
  | closed kind order within => exact .closed kind order (Nat.le_trans within further)

/-- The number of children says nothing about the place. -/
theorem Placed.resize (within : Placed text reach token) (size : Int)
    : Placed text reach { token with size } := by
  cases within with
  | leaf kind order within ended => exact .leaf kind order within ended
  | opened kind within => exact .opened kind within
  | closed kind order within => exact .closed kind order within

/-- An open token is an object or an array, and can be closed. -/
theorem Placed.close (within : Placed text reach token) (isOpen : token.isOpen = true)
    : Placed text (reach + 1) (token.closedAt reach) ∧ token.isCompound = true := by
  cases within with
  | leaf =>
      rw [isOpen_eq_false rfl] at isOpen
      cases isOpen
  | opened kind within =>
      refine ⟨.closed kind (Nat.lt_succ_of_lt within) (Nat.le_refl _), ?_⟩
      rcases kind with rfl | rfl <;> rfl
  | closed =>
      rw [isOpen_eq_false rfl] at isOpen
      cases isOpen

/-- A string or a primitive that was read precedes every token that starts later, or at a
character that cannot come right after it.
-/
theorem Placed.precedes (within : Placed text reach token) {next : JsmnTok} {start : Nat}
    (starts : next.start = start) (further : reach ≤ start)
    (free : start = reach → ∃ c, text[start]? = some c ∧ endsLeaf c = false)
    : Precedes token next := by
  intro leaf
  have compound : ∀ {type : JsmnType}, type = .object ∨ type = .array →
      ∀ start stop size, JsmnTok.isCompound ⟨type, start, stop, size⟩ = true := by
    intro type kind start stop size
    rcases kind with rfl | rfl <;> rfl
  cases within with
  | leaf kind order within ended =>
      rename_i stop size
      rw [starts]
      rcases Nat.lt_or_ge stop start with before | reached
      · exact Int.ofNat_lt.mpr before
      · obtain rfl : start = stop := by omega
        obtain ⟨c, here, free⟩ := free (by omega)
        rw [ended c here] at free
        cases free
  | opened kind => rw [compound kind] at leaf; cases leaf
  | closed kind => rw [compound kind] at leaf; cases leaf

theorem forall_modify {α : Type} {P : α → Prop} {l : List α} {i : Nat} {change : α → α}
    (each : ∀ a ∈ l, P a) (changed : ∀ a, l[i]? = some a → P (change a))
    : ∀ a ∈ l.modify i change, P a := by
  intro a member
  obtain ⟨j, here⟩ := List.mem_iff_getElem?.mp member
  rw [List.getElem?_modify] at here
  split at here
  · rename_i same
    subst same
    obtain ⟨b, there, rfl⟩ := Option.map_eq_some_iff.mp here
    exact changed b there
  · obtain ⟨b, there, rfl⟩ := Option.map_eq_some_iff.mp here
    exact each b (List.mem_of_getElem? there)

theorem pairwise_modify {α : Type} {R : α → α → Prop} {l : List α} {i : Nat} {change : α → α}
    (pairs : l.Pairwise R) (left : ∀ a b, l[i]? = some a → R a b → R (change a) b)
    (right : ∀ a b, l[i]? = some b → R a b → R a (change b))
    : (l.modify i change).Pairwise R := by
  rw [List.pairwise_iff_getElem] at pairs ⊢
  intro j k inJ inK before
  rw [List.length_modify] at inJ inK
  have related := pairs j k inJ inK before
  simp only [List.getElem_modify]
  by_cases first : i = j
  · subst first
    rw [if_pos rfl, if_neg (Nat.ne_of_lt before)]
    exact left _ _ (List.getElem?_eq_getElem inJ) related
  · rw [if_neg first]
    by_cases second : i = k
    · subst second
      rw [if_pos rfl]
      exact right _ _ (List.getElem?_eq_getElem inK) related
    · rw [if_neg second]
      exact related

/-- Reading on keeps the tokens. -/
theorem Scanning.mono (state : Scanning text reach placed super) (further : reach ≤ reach')
    (within : reach' ≤ text.length)
    : Scanning text reach' placed super :=
  { state with within, each := fun token member => (state.each token member).mono further }

/-- Any of the tokens may be the superior one. -/
theorem Scanning.under (state : Scanning text reach placed super) {super' : Int}
    (least : -1 ≤ super') (inside : super' < placed.length)
    : Scanning text reach placed super' :=
  { state with least, inside }

theorem Scanning.countedIn (state : Scanning text reach placed super)
    : Scanning text reach (countedIn super placed) super := by
  unfold Wsutil.countedIn
  split
  · exact state
  · exact {
      within := state.within
      each := forall_modify state.each fun a here =>
        (state.each a (List.mem_of_getElem? here)).resize _
      ordered := pairwise_modify state.ordered (fun _ _ _ before => before) fun _ _ _ before =>
        before
      least := state.least
      inside := by rw [List.length_modify]; exact state.inside
    }

/-- One token more, after all others. -/
theorem Scanning.add (state : Scanning text reach placed super) (further : reach ≤ reach')
    (within : reach' ≤ text.length) (new : Placed text reach' token)
    (after : ∀ other ∈ placed, Precedes other token) {super' : Int} (least : -1 ≤ super')
    (inside : super' ≤ placed.length)
    : Scanning text reach' (placed ++ [token]) super' where
  within := within
  each := by
    intro other member
    rcases List.mem_append.mp member with old | last
    · exact (state.each other old).mono further
    · rw [List.mem_singleton.mp last]
      exact new
  ordered := by
    rw [List.pairwise_append]
    refine ⟨state.ordered, List.pairwise_singleton .., fun other old last member => ?_⟩
    rw [List.mem_singleton.mp member]
    exact after other old
  least := least
  inside := by
    rw [List.length_append, List.length_singleton]
    omega

/-- One open token less. -/
theorem Scanning.close (state : Scanning text reach placed super) {i : Nat}
    (here : placed[i]? = some token) (isOpen : token.isOpen = true)
    (within : reach + 1 ≤ text.length) {super' : Int} (least : -1 ≤ super')
    (inside : super' < placed.length)
    : Scanning text (reach + 1) (placed.modify i (JsmnTok.closedAt reach)) super' := by
  obtain ⟨closed, compound⟩ := (state.each token (List.mem_of_getElem? here)).close isOpen
  have same : ∀ a, placed[i]? = some a → a = token := fun a there =>
    Option.some.inj (there.symm.trans here)
  exact {
    within
    each := forall_modify (state.mono (Nat.le_succ _) within).each fun a there =>
      same a there ▸ closed
    ordered := pairwise_modify state.ordered
      (fun a b there before leaf => by
        rw [same a there] at leaf
        exact absurd compound (Bool.eq_false_iff.mp leaf))
      fun a b _ before => before
    least
    inside := by rw [List.length_modify]; exact inside
  }

end PacketDissector.Wsutil
