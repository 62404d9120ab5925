import Pantry.Panwrap.Translate

namespace Panwrap

open Machine

section First

variable {w : Nat} {mmaps : List (MappedMemory w)} {m : MappedMemory w} {gpuAddr : BitVec 64} {sz : BitVec w}

def First (mmaps : List (MappedMemory w)) (gpuAddr : BitVec 64) (m : MappedMemory w) : Prop :=
  m.gpuContains gpuAddr = true ∧
    ∃ newer older, mmaps = newer ++ m :: older ∧ ∀ e ∈ newer, e.gpuContains gpuAddr = false

theorem find_iff_first : findGpuMappedMem mmaps gpuAddr = some m ↔ First mmaps gpuAddr m := by
  unfold findGpuMappedMem First
  rw [List.find?_eq_some_iff_append]
  simp only [Bool.not_eq_true']

theorem gpuContains_bounds (width : w ≤ 64) (contains : m.gpuContains gpuAddr = true) :
    m.gpuVa.toNat ≤ gpuAddr.toNat ∧ gpuAddr.toNat ≤ m.gpuSpan.stop ∧ m.gpuSpan.stop < 2 ^ 64 := by
  have bound := m.length.isLt
  have power : 2 ^ w ≤ 2 ^ 64 := Nat.pow_le_pow_right (by decide) width
  have base := m.gpuVa.isLt
  simp only [MappedMemory.gpuContains, Bool.and_eq_true, decide_eq_true_eq, BitVec.le_def, BitVec.toNat_add,
    BitVec.toNat_setWidth_of_le width] at contains
  simp only [MappedMemory.gpuSpan, Span.stop]
  omega

theorem fetch_nonnull (width : w ≤ 64) (hit : fetchMappedGpu mmaps gpuAddr sz ≠ 0#w) :
    ∃ m, First mmaps gpuAddr m ∧ gpuAddr ≠ 0#64 ∧
      ((gpuAddr - m.gpuVa).toNat + sz.toNat) % 2 ^ 64 ≤ m.length.toNat ∧
        fetchMappedGpu mmaps gpuAddr sz = m.addr + (gpuAddr - m.gpuVa).setWidth w := by
  have nonnull : gpuAddr ≠ 0#64 := by
    intro null
    exact hit (by rw [fetchMappedGpu, if_pos null])
  cases found : findGpuMappedMem mmaps gpuAddr with
  | none => exact absurd (by simp only [fetchMappedGpu, if_neg nonnull, found]) hit
  | some m =>
    rw [fetch_eq nonnull found] at hit ⊢
    have passes : ¬ gpuAddr - m.gpuVa + sz.setWidth 64 > m.length.setWidth 64 := fun past => hit (if_pos past)
    refine ⟨m, find_iff_first.mp found, nonnull, ?_, if_neg passes⟩
    simp only [gt_iff_lt, BitVec.lt_def, BitVec.toNat_add, BitVec.toNat_setWidth_of_le width, Nat.not_lt] at passes
    exact passes

theorem fetch_of_first (width : w ≤ 64) (first : First mmaps gpuAddr m) (nonnull : gpuAddr ≠ 0#64)
    (passes : ((gpuAddr - m.gpuVa).toNat + sz.toNat) % 2 ^ 64 ≤ m.length.toNat) :
    fetchMappedGpu mmaps gpuAddr sz = m.addr + (gpuAddr - m.gpuVa).setWidth w := by
  rw [fetch_eq nonnull (find_iff_first.mpr first), if_neg]
  simp only [gt_iff_lt, BitVec.lt_def, BitVec.toNat_add, BitVec.toNat_setWidth_of_le width, Nat.not_lt]
  exact passes

end First

section Soundness

variable {w : Nat}

def Sound (mmaps : List (MappedMemory w)) (gpuAddr : BitVec 64) (sz : BitVec w) : Prop :=
  fetchMappedGpu mmaps gpuAddr sz ≠ 0#w →
    ∃ m ∈ mmaps, m.gpuVa.toNat ≤ gpuAddr.toNat ∧ gpuAddr.toNat + sz.toNat ≤ m.gpuVa.toNat + m.length.toNat ∧
      fetchMappedGpu mmaps gpuAddr sz = m.addr + (gpuAddr - m.gpuVa).setWidth w

/-- The sum in the bounds check wraps, and the check passes for what is left of it. -/
structure MappedMemory.CheckWraps (m : MappedMemory w) (gpuAddr : BitVec 64) (sz : BitVec w) : Prop where
  wraps : 2 ^ 64 ≤ (gpuAddr - m.gpuVa).toNat + sz.toNat
  passes : (gpuAddr - m.gpuVa).toNat + sz.toNat ≤ m.length.toNat + 2 ^ 64
  notNull : m.addr + (gpuAddr - m.gpuVa).setWidth w ≠ 0#w

def ChecksHold (mmaps : List (MappedMemory w)) (gpuAddr : BitVec 64) (sz : BitVec w) : Prop :=
  gpuAddr ≠ 0#64 → ∀ m, First mmaps gpuAddr m → ¬ m.CheckWraps gpuAddr sz

theorem offset_toNat {gpuVa gpuAddr : BitVec 64} (start : gpuVa.toNat ≤ gpuAddr.toNat) :
    (gpuAddr - gpuVa).toNat = gpuAddr.toNat - gpuVa.toNat := BitVec.toNat_sub_of_le (BitVec.le_def.mpr start)

theorem checksHold_of_narrow (narrow : w ≤ 32) (mmaps : List (MappedMemory w)) (gpuAddr : BitVec 64) (sz : BitVec w) :
    ChecksHold mmaps gpuAddr sz := by
  intro _ m first wrapped
  obtain ⟨start, ends, -⟩ := gpuContains_bounds (narrow.trans (by decide)) first.1
  have wraps := wrapped.wraps
  have length := m.length.isLt
  have size := sz.isLt
  have power : 2 ^ w ≤ 2 ^ 32 := Nat.pow_le_pow_right (by decide) narrow
  rw [offset_toNat start] at wraps
  simp only [MappedMemory.gpuSpan, Span.stop] at ends
  omega

/-- Translation is sound where the bounds check does not wrap, and nowhere else, unless a mapping
    itself reaches past the last GPU address. -/
theorem fetch_sound_iff (build : Build) (mmaps : List (MappedMemory build.bits)) (gpuAddr : BitVec 64)
    (sz : BitVec build.bits) :
    (ChecksHold mmaps gpuAddr sz → Sound mmaps gpuAddr sz) ∧
      ((∀ m ∈ mmaps, m.gpuSpan.stop < 2 ^ 64) → Sound mmaps gpuAddr sz → ChecksHold mmaps gpuAddr sz) := by
  have width := build.bits_le
  constructor
  · intro holds hit
    obtain ⟨m, first, nonnull, passes, value⟩ := fetch_nonnull width hit
    obtain ⟨start, ends, inSpace⟩ := gpuContains_bounds width first.1
    have offset := offset_toNat start
    have size := sz.isLt
    have power : 2 ^ build.bits ≤ 2 ^ 64 := Nat.pow_le_pow_right (by decide) width
    have notNull : m.addr + (gpuAddr - m.gpuVa).setWidth build.bits ≠ 0#(build.bits) := value ▸ hit
    have small : (gpuAddr - m.gpuVa).toNat + sz.toNat < 2 ^ 64 := by
      by_contra wraps
      exact holds nonnull m first ⟨by omega, by omega, notNull⟩
    rw [Nat.mod_eq_of_lt small] at passes
    obtain ⟨-, newer, older, rfl, -⟩ := first
    exact ⟨m, List.mem_append_right _ (List.mem_cons_self ..), start, by omega, value⟩
  · intro inSpace sound nonnull m first wrapped
    obtain ⟨wraps, passes, notNull⟩ := wrapped
    obtain ⟨start, -, -⟩ := gpuContains_bounds width first.1
    have offset := offset_toNat start
    have size := sz.isLt
    have bound := gpuAddr.isLt
    have power : 2 ^ build.bits ≤ 2 ^ 64 := Nat.pow_le_pow_right (by decide) width
    have value : fetchMappedGpu mmaps gpuAddr sz = m.addr + (gpuAddr - m.gpuVa).setWidth build.bits :=
      fetch_of_first width first nonnull (by omega)
    obtain ⟨other, member, -, fits, -⟩ := sound (value ▸ notNull)
    have last := inSpace other member
    simp only [MappedMemory.gpuSpan, Span.stop] at last
    omega

def page : MappedMemory 64 := ⟨0x1000#64, 0x50000#64, 0x1000#64⟩

theorem huge_size_translates : ¬ Sound [page] 0x1001#64 0xFFFFFFFFFFFFFFFF#64 := by
  intro sound
  obtain ⟨m, member, -, fits, -⟩ := sound (by decide)
  obtain rfl := List.mem_singleton.mp member
  exact absurd fits (by decide)

end Soundness

end Panwrap
