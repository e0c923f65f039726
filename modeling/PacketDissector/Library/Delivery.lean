import Mathlib.Data.List.Forall2
import Mathlib.Tactic.TypeStar

/-! Offering items in order to a receiver that may refuse to be called again, and the queue
of receivers: what its operations do to two queues that are related place by place.
-/

namespace PacketDissector.Library

variable {α β : Type*}

/-- (OfferedUntil stop items calls) says that calls offers the items in order, each once,
and ends early only after a call whose answer satisfies stop.
-/
inductive OfferedUntil (stop : β → Prop) : List α → List (α × β) → Prop where
  | done : OfferedUntil stop [] []
  | stopped {item : α} {rest : List α} {answer : β} (stops : stop answer)
    : OfferedUntil stop (item :: rest) [(item, answer)]
  | next {item : α} {rest : List α} {answer : β} {calls : List (α × β)}
    (continues : ¬ stop answer) (later : OfferedUntil stop rest calls)
    : OfferedUntil stop (item :: rest) ((item, answer) :: calls)

/-- No call is made only if there was nothing to offer. -/
theorem OfferedUntil.eq_nil_iff {stop : β → Prop} {items : List α} {calls : List (α × β)}
    (offered : OfferedUntil stop items calls)
    : calls = [] ↔ items = [] := by
  cases offered <;> simp

/-- The first element that p picks is changed by f. -/
def adjustFirst (p : α → Bool) (f : α → α) : List α → List α
  | [] => []
  | a :: rest => if p a then f a :: rest else a :: adjustFirst p f rest

variable {R : α → β → Prop} {p : α → Bool} {q : β → Bool} {xs : List α} {ys : List β}

/-- Changes that keep the relation keep it along the queue, by induction on the places. -/
theorem forall₂_adjustFirst {f : α → α} {g : β → β} (related : List.Forall₂ R xs ys)
    (picks : ∀ a b, R a b → p a = q b) (kept : ∀ a b, R a b → p a = true → R (f a) (g b))
    : List.Forall₂ R (adjustFirst p f xs) (adjustFirst q g ys) := by
  induction related with
  | nil => exact .nil
  | @cons a b _ _ here later ih =>
      cases picked : p a with
      | true =>
          have other : q b = true := (picks a b here).symm.trans picked
          simp only [adjustFirst, picked, other, if_true]
          exact .cons (kept a b here picked) later
      | false =>
          have other : q b = false := (picks a b here).symm.trans picked
          simp only [adjustFirst, picked, other, Bool.false_eq_true, if_false]
          exact .cons here ih

/-- Taking out the first element picked keeps the relation, by induction on the places. -/
theorem forall₂_eraseP (related : List.Forall₂ R xs ys) (picks : ∀ a b, R a b → p a = q b)
    : List.Forall₂ R (xs.eraseP p) (ys.eraseP q) := by
  induction related with
  | nil => exact .nil
  | @cons a b _ _ here later ih =>
      cases picked : p a with
      | true =>
          have other : q b = true := (picks a b here).symm.trans picked
          simpa only [List.eraseP_cons, picked, other, cond_true] using later
      | false =>
          have other : q b = false := (picks a b here).symm.trans picked
          simp only [List.eraseP_cons, picked, other, cond_false]
          exact .cons here ih

/-- The first elements picked are related, or there is none in either queue. -/
theorem rel_find? (related : List.Forall₂ R xs ys) (picks : ∀ a b, R a b → p a = q b)
    : Option.Rel R (xs.find? p) (ys.find? q) := by
  induction related with
  | nil => exact .none
  | @cons a b _ _ here later ih =>
      cases picked : p a with
      | true =>
          have other : q b = true := (picks a b here).symm.trans picked
          simpa only [List.find?_cons, picked, other] using .some here
      | false =>
          have other : q b = false := (picks a b here).symm.trans picked
          simpa only [List.find?_cons, picked, other] using ih

/-- Related queues hold related elements at each place. -/
theorem forall₂_getElem? (related : List.Forall₂ R xs ys) {place : Nat} {b : β}
    (found : ys[place]? = some b)
    : ∃ a, xs[place]? = some a ∧ R a b := by
  induction related generalizing place with
  | nil => simp at found
  | @cons a _ _ _ here _ ih =>
      cases place with
      | zero =>
          obtain rfl := Option.some.inj (by simpa using found)
          exact ⟨a, rfl, here⟩
      | succ place => simpa using ih (by simpa using found)

end PacketDissector.Library
