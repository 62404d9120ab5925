import Mathlib.Tactic.Common
import Mathlib.Data.List.Basic

namespace Machine

structure Span where
  base : Nat
  length : Nat

namespace Span

variable {s t : Span} {x : Nat}

def stop (s : Span) : Nat := s.base + s.length

def Holds (s : Span) (x : Nat) : Prop := s.base ≤ x ∧ x < s.stop

/-- Membership with the end included. -/
def Touches (s : Span) (x : Nat) : Prop := s.base ≤ x ∧ x ≤ s.stop

def Apart (s t : Span) : Prop := s.stop ≤ t.base ∨ t.stop ≤ s.base

theorem Holds.touches (holds : s.Holds x) : s.Touches x := ⟨holds.1, Nat.le_of_lt holds.2⟩

theorem touches_iff : s.Touches x ↔ s.Holds x ∨ s.stop = x := by
  simp only [Touches, Holds, stop]
  omega

theorem Apart.not_holds (apart : s.Apart t) (holds : t.Holds x) : ¬ s.Holds x := by
  simp only [Apart, Holds, stop] at *
  omega

theorem Apart.symm (apart : s.Apart t) : t.Apart s := Or.comm.mp apart

section Search

variable {α : Type} {span : α → Span} {test : α → Bool} {newer older : List α} {m : α}

theorem stop_of_touches (apart : (newer ++ m :: older).Pairwise fun e f => (span e).Apart (span f))
    (holds : (span m).Holds x) {e : α} (member : e ∈ newer) (touches : (span e).Touches x) :
    (span e).stop = x := by
  have before := (List.pairwise_append.mp apart).2.2 e member m (by simp)
  exact (touches_iff.mp touches).resolve_left (before.not_holds holds)

/-- A search for an entry that touches `x` finds the holder of `x` if nothing listed before
    it ends at `x`. -/
theorem find_holder (tests : ∀ e ∈ newer ++ m :: older, test e = true ↔ (span e).Touches x)
    (apart : (newer ++ m :: older).Pairwise fun e f => (span e).Apart (span f))
    (holds : (span m).Holds x) (clear : ∀ e ∈ newer, (span e).stop ≠ x) :
    (newer ++ m :: older).find? test = some m := by
  have skip : newer.find? test = none := by
    rw [List.find?_eq_none]
    intro e member hit
    have touches := (tests e (List.mem_append_left _ member)).mp hit
    exact clear e member (stop_of_touches apart holds member touches)
  have found : test m = true := (tests m (by simp)).mpr holds.touches
  rw [List.find?_append, skip, Option.none_or, List.find?_cons_of_pos found]

/-- It stops at an entry that ends at `x` if one is listed before the holder. -/
theorem find_end (tests : ∀ e ∈ newer ++ m :: older, test e = true ↔ (span e).Touches x)
    (apart : (newer ++ m :: older).Pairwise fun e f => (span e).Apart (span f))
    (holds : (span m).Holds x) {e : α} (member : e ∈ newer) (ends : (span e).stop = x) :
    ∃ f ∈ newer, (newer ++ m :: older).find? test = some f ∧ (span f).stop = x := by
  have hit : test e = true :=
    (tests e (List.mem_append_left _ member)).mpr (touches_iff.mpr (.inr ends))
  obtain ⟨f, found⟩ := Option.isSome_iff_exists.mp (List.find?_isSome.mpr ⟨e, member, hit⟩)
  have listed := List.mem_of_find?_eq_some found
  have touches := (tests f (List.mem_append_left _ listed)).mp (List.find?_some found)
  refine ⟨f, listed, ?_, stop_of_touches apart holds listed touches⟩
  rw [List.find?_append, found, Option.some_or]

end Search

end Span

end Machine
