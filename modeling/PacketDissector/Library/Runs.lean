import Mathlib.Logic.Basic
import Mathlib.Tactic.TypeStar

/-! Runs of a deterministic labelled machine. A label names the choice taken by the
environment or the scheduler, so an interleaving is a list of labels.
-/

namespace PacketDissector.Library

variable {σ ε : Type*}

/-- (runLabels step s labels) is the state reached from s, or none once a label is not
enabled.
-/
def runLabels (step : σ → ε → Option σ) : σ → List ε → Option σ
  | s, [] => some s
  | s, label :: rest =>
      match step s label with
      | some next => runLabels step next rest
      | none => none

/-- (StepsMeet step P s labels) requires P of every transition the run from s takes. -/
def StepsMeet (step : σ → ε → Option σ) (P : σ → ε → σ → Prop) : σ → List ε → Prop
  | _, [] => True
  | s, label :: rest =>
      ∀ next, step s label = some next → P s label next ∧ StepsMeet step P next rest

variable {step : σ → ε → Option σ} {P Q : σ → ε → σ → Prop}

/-- A run through one more label continues from the state its step reaches. -/
@[simp]
theorem runLabels_cons_of_step {s next : σ} {label : ε} {rest : List ε}
    (taken : step s label = some next)
    : runLabels step s (label :: rest) = runLabels step next rest := by
  simp [runLabels, taken]

/-- A run over two label lists composes, by induction over the first list. -/
theorem runLabels_append {s : σ} {first rest : List ε}
    : runLabels step s (first ++ rest)
      = (runLabels step s first).bind fun middle => runLabels step middle rest := by
  induction first generalizing s with
  | nil => rfl
  | cons label tail ih =>
      simp only [List.cons_append, runLabels]
      cases step s label with
      | none => rfl
      | some next => exact ih

/-- An invariant kept by every transition meeting Q holds at the end of each run whose
transitions meet Q, by induction over the labels.
-/
theorem runLabels_invariant (Inv : σ → Prop)
    (kept : ∀ s label next, Inv s → step s label = some next → Q s label next → Inv next)
    {s t : σ} {labels : List ε} (start : Inv s) (meets : StepsMeet step Q s labels)
    (ends : runLabels step s labels = some t)
    : Inv t := by
  induction labels generalizing s with
  | nil =>
      obtain rfl : s = t := by simpa [runLabels] using ends
      exact start
  | cons label rest ih =>
      simp only [runLabels] at ends
      cases taken : step s label with
      | none => simp [taken] at ends
      | some next =>
          rw [taken] at ends
          obtain ⟨here, later⟩ := meets next taken
          exact ih (kept s label next start taken here) later ends

/-- Every run meets what is always true. -/
theorem stepsMeet_true {s : σ} {labels : List ε}
    : StepsMeet step (fun _ _ _ => True) s labels := by
  induction labels generalizing s with
  | nil => trivial
  | cons label rest ih => exact fun next _ => ⟨trivial, ih⟩

/-- An invariant kept by every transition holds at the end of each run. -/
theorem runLabels_keeps (Inv : σ → Prop)
    (kept : ∀ s label next, Inv s → step s label = some next → Inv next)
    {s t : σ} {labels : List ε} (start : Inv s) (ends : runLabels step s labels = some t)
    : Inv t :=
  runLabels_invariant Inv (fun s label next holds taken _ => kept s label next holds taken) start
    stepsMeet_true ends

/-- If, from states satisfying Inv, each transition satisfies P exactly when it satisfies
Q, and Q keeps Inv, then a whole run satisfies P exactly when it satisfies Q. Induction
over the labels, with Inv carried to the next state by Q.
-/
theorem stepsMeet_iff (Inv : σ → Prop)
    (local_iff : ∀ s label next,
      Inv s → step s label = some next → (P s label next ↔ Q s label next))
    (kept : ∀ s label next, Inv s → step s label = some next → Q s label next → Inv next)
    {s : σ} {labels : List ε} (start : Inv s)
    : StepsMeet step P s labels ↔ StepsMeet step Q s labels := by
  induction labels generalizing s with
  | nil => exact Iff.rfl
  | cons label rest ih =>
      constructor
      · intro h next taken
        have hq := (local_iff s label next start taken).mp (h next taken).1
        exact ⟨hq, (ih (kept s label next start taken hq)).mp (h next taken).2⟩
      · intro h next taken
        have hq := (h next taken).1
        exact ⟨(local_iff s label next start taken).mpr hq,
          (ih (kept s label next start taken hq)).mpr (h next taken).2⟩

end PacketDissector.Library
