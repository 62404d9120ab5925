import Mathlib.Tactic.Common
import Mathlib.Data.List.Basic

namespace Machine

/-- The runs of a labelled transition system, with their labels oldest first. -/
inductive Run {σ ℓ : Type} (step : σ → ℓ → σ → Prop) : σ → List ℓ → σ → Prop where
  | nil (s : σ) : Run step s [] s
  | cons {s t u : σ} {label : ℓ} {labels : List ℓ} :
      step s label t → Run step t labels u → Run step s (label :: labels) u

namespace Run

variable {σ ℓ α : Type} {step : σ → ℓ → σ → Prop} {s t u : σ} {labels first second : List ℓ}

theorem single {label : ℓ} (one : step s label t) : Run step s [label] t := .cons one (.nil t)

theorem append (before : Run step s first t) (after : Run step t second u) : Run step s (first ++ second) u := by
  induction before with
  | nil => exact after
  | cons one _ ih => exact .cons one (ih after)

/-- What every step preserves holds at the end of every run. -/
theorem preserves {holds : σ → Prop}
    (stable : ∀ {s t : σ} {label : ℓ}, step s label t → holds s → holds t)
    (run : Run step s labels t) (start : holds s) : holds t := by
  induction run with
  | nil => exact start
  | cons one _ ih => exact ih (stable one start)

theorem preserves_of_labels {holds : σ → Prop} {allowed : ℓ → Prop}
    (stable : ∀ {s t : σ} {label : ℓ}, step s label t → allowed label → holds s → holds t)
    (run : Run step s labels t) (every : ∀ label ∈ labels, allowed label) (start : holds s) :
    holds t := by
  induction run with
  | nil => exact start
  | cons one _ ih =>
    obtain ⟨now, later⟩ := List.forall_mem_cons.mp every
    exact ih later (stable one now start)

/-- What holds of the empty history and every step carries on holds of a run's history and end. -/
theorem history {holds : List ℓ → σ → Prop}
    (stable : ∀ {past : List ℓ} {s t : σ} {label : ℓ}, step s label t → holds past s → holds (past ++ [label]) t)
    (run : Run step s labels t) (start : holds [] s) : holds labels t := by
  suffices carried : ∀ past, holds past s → holds (past ++ labels) t from carried [] start
  clear start
  induction run with
  | nil s =>
    intro past held
    rw [List.append_nil]
    exact held
  | cons one _ ih =>
    intro past held
    rw [List.append_cons]
    exact ih _ (stable one held)

theorem mono {step' : σ → ℓ → σ → Prop} (imp : ∀ {s t : σ} {label : ℓ}, step s label t → step' s label t)
    (run : Run step s labels t) : Run step' s labels t := by
  induction run with
  | nil s => exact .nil s
  | cons one _ ih => exact .cons (imp one) ih

/-- A run whose every step follows `next` on an abstraction ends where folding `next` over
    its labels does. -/
theorem simulates {view : σ → α} {next : α → ℓ → α}
    (follows : ∀ {s t : σ} {label : ℓ}, step s label t → view t = next (view s) label)
    (run : Run step s labels t) : view t = labels.foldl next (view s) := by
  induction run with
  | nil => rfl
  | cons one _ ih => rw [ih, follows one, List.foldl_cons]

end Run

section Since

variable {ℓ : Type} {begins ends : ℓ → Prop}

/-- Some label of the history begins it and no later one ends it. -/
def Since (begins ends : ℓ → Prop) (labels : List ℓ) : Prop :=
  ∃ before label after, labels = before ++ label :: after ∧ begins label ∧ ∀ later ∈ after, ¬ ends later

@[simp] theorem not_since_nil : ¬ Since begins ends [] := by
  rintro ⟨before, label, after, empty, -⟩
  exact List.append_ne_nil_of_right_ne_nil before (List.cons_ne_nil label after) empty.symm

theorem since_snoc (labels : List ℓ) (last : ℓ) :
    Since begins ends (labels ++ [last]) ↔ begins last ∨ Since begins ends labels ∧ ¬ ends last := by
  constructor
  · rintro ⟨before, label, after, whole, started, quiet⟩
    rcases List.eq_nil_or_concat after with rfl | ⟨after, final, rfl⟩
    · obtain ⟨-, same⟩ := List.append_inj' whole rfl
      obtain rfl : last = label := List.head_eq_of_cons_eq same
      exact .inl started
    · rw [List.concat_eq_append, ← List.cons_append, ← List.append_assoc] at whole
      obtain ⟨rfl, same⟩ := List.append_inj' whole rfl
      obtain rfl : last = final := List.head_eq_of_cons_eq same
      rw [List.concat_eq_append] at quiet
      exact .inr ⟨⟨before, label, after, rfl, started, fun later member => quiet later (List.mem_append_left _ member)⟩,
        quiet last (List.mem_append_right _ (List.mem_singleton_self last))⟩
  · rintro (started | ⟨⟨before, label, after, rfl, started, quiet⟩, kept⟩)
    · exact ⟨labels, last, [], rfl, started, by simp⟩
    · refine ⟨before, label, after ++ [last], by simp, started, ?_⟩
      intro later member
      rcases List.mem_append.mp member with member | member
      · exact quiet later member
      · rw [List.mem_singleton.mp member]
        exact kept

end Since

end Machine
