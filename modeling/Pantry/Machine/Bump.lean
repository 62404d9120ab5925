import Mathlib.Tactic.Common
import Mathlib.Data.List.Basic

/-! A bump allocator in unbounded arithmetic: one cursor, which moves over blocks that start on
    multiples of `g`. -/

namespace Machine

/-- Where the next block starts when the cursor is at `c`: behind it, on a multiple of `g`. -/
def bumpStart (g c : Nat) : Nat := c / g * g + g

/-- The start and the size of each block that is given out from `c` on. -/
def layout (g c : Nat) : List Nat → List (Nat × Nat)
  | [] => []
  | size :: rest => (bumpStart g c, size) :: layout g (bumpStart g c + size) rest

def bumpEnd (g c : Nat) : List Nat → Nat
  | [] => c
  | size :: rest => bumpEnd g (bumpStart g c + size) rest

variable {g c size : Nat} {sizes : List Nat}

theorem bumpStart_above (positive : 0 < g) : c < bumpStart g c := Nat.lt_div_mul_add positive

theorem bumpStart_aligned : bumpStart g c % g = 0 := by rw [bumpStart, Nat.add_mod_right, Nat.mul_mod_left]

theorem layout_snoc : layout g c (sizes ++ [size]) = layout g c sizes ++ [(bumpStart g (bumpEnd g c sizes), size)] := by
  induction sizes generalizing c with
  | nil => rfl
  | cons first rest ih => rw [List.cons_append, layout, ih, layout, bumpEnd, List.cons_append]

theorem bumpEnd_snoc : bumpEnd g c (sizes ++ [size]) = bumpStart g (bumpEnd g c sizes) + size := by
  induction sizes generalizing c with
  | nil => rfl
  | cons first rest ih => rw [List.cons_append, bumpEnd, ih, bumpEnd]

theorem layout_sizes : (layout g c sizes).map Prod.snd = sizes := by
  induction sizes generalizing c with
  | nil => rfl
  | cons first rest ih => rw [layout, List.map_cons, ih]

theorem bumpEnd_above (positive : 0 < g) : c ≤ bumpEnd g c sizes := by
  induction sizes generalizing c with
  | nil => exact Nat.le_refl c
  | cons first rest ih =>
    have above : c < bumpStart g c := bumpStart_above positive
    have later := ih (c := bumpStart g c + first)
    rw [bumpEnd]
    omega

theorem layout_aligned : ∀ block ∈ layout g c sizes, block.1 % g = 0 := by
  induction sizes generalizing c with
  | nil =>
    intro block member
    cases member
  | cons first rest ih => exact List.forall_mem_cons.mpr ⟨bumpStart_aligned, ih⟩

theorem layout_within (positive : 0 < g) :
    ∀ block ∈ layout g c sizes, c < block.1 ∧ block.1 + block.2 ≤ bumpEnd g c sizes := by
  induction sizes generalizing c with
  | nil =>
    intro block member
    cases member
  | cons first rest ih =>
    have above : c < bumpStart g c := bumpStart_above positive
    refine List.forall_mem_cons.mpr ⟨⟨above, bumpEnd_above positive⟩, ?_⟩
    intro block member
    obtain ⟨behind, before⟩ := ih block member
    exact ⟨by omega, before⟩

/-- Each block ends before the next ones start. -/
theorem layout_ordered (positive : 0 < g) :
    (layout g c sizes).Pairwise fun first second => first.1 + first.2 < second.1 := by
  induction sizes generalizing c with
  | nil => exact .nil
  | cons first rest ih =>
    exact .cons (fun block member => (layout_within positive block member).1) ih

end Machine
