import Pantry.Machine.Span
import Pantry.Panwrap.Tracker

namespace Panwrap

open Machine

variable {w : Nat}

namespace MappedMemory

def gpuSpan (m : MappedMemory w) : Span := ⟨m.gpuVa.toNat, m.length.toNat⟩

/-- A GPU range that is not empty and whose end is a GPU address too. -/
structure GpuValid (m : MappedMemory w) : Prop where
  nonempty : 0 < m.length.toNat
  noWrap : m.gpuSpan.stop < 2 ^ 64

theorem gpuContains_iff (width : w ≤ 64) {m : MappedMemory w} (noWrap : m.gpuSpan.stop < 2 ^ 64)
    (addr : BitVec 64) : m.gpuContains addr = true ↔ m.gpuSpan.Touches addr.toNat := by
  simp only [gpuSpan, Span.stop] at noWrap
  simp only [gpuContains, gpuSpan, Span.Touches, Span.stop, Bool.and_eq_true, decide_eq_true_eq,
    BitVec.le_def, BitVec.toNat_add, BitVec.toNat_setWidth_of_le width, Nat.mod_eq_of_lt noWrap]

end MappedMemory

section Fetch

variable {mmaps : List (MappedMemory w)} {mem : MappedMemory w} {gpuAddr : BitVec 64} {sz : BitVec w}

theorem fetch_eq (nonnull : gpuAddr ≠ 0#64) (found : findGpuMappedMem mmaps gpuAddr = some mem) :
    fetchMappedGpu mmaps gpuAddr sz =
      if gpuAddr - mem.gpuVa + sz.setWidth 64 > mem.length.setWidth 64 then 0#w
      else mem.addr + (gpuAddr - mem.gpuVa).setWidth w := by
  simp only [fetchMappedGpu, nonnull, ↓reduceIte, found]

theorem fetch_hit (width : w ≤ 64) (nonnull : gpuAddr ≠ 0#64)
    (found : findGpuMappedMem mmaps gpuAddr = some mem)
    (start : mem.gpuVa.toNat ≤ gpuAddr.toNat)
    (fits : gpuAddr.toNat + sz.toNat ≤ mem.gpuSpan.stop) :
    fetchMappedGpu mmaps gpuAddr sz = mem.addr + (gpuAddr - mem.gpuVa).setWidth w := by
  have bound := mem.length.isLt
  have power : 2 ^ w ≤ 2 ^ 64 := Nat.pow_le_pow_right (by decide) width
  rw [fetch_eq nonnull found, if_neg]
  simp only [MappedMemory.gpuSpan, Span.stop] at fits
  simp only [gt_iff_lt, BitVec.lt_def, BitVec.toNat_add, BitVec.toNat_setWidth_of_le width,
    BitVec.toNat_sub_of_le (BitVec.le_def.mpr start)]
  rw [Nat.mod_eq_of_lt] <;> omega

theorem fetch_past_end (width : w ≤ 64) (nonnull : gpuAddr ≠ 0#64)
    (found : findGpuMappedMem mmaps gpuAddr = some mem)
    (ends : mem.gpuSpan.stop = gpuAddr.toNat) (positive : 0 < sz.toNat)
    (noWrap : gpuAddr.toNat + sz.toNat < 2 ^ 64) :
    fetchMappedGpu mmaps gpuAddr sz = 0#w := by
  rw [fetch_eq nonnull found, if_pos]
  simp only [MappedMemory.gpuSpan, Span.stop] at ends
  have start : mem.gpuVa ≤ gpuAddr := BitVec.le_def.mpr (by omega)
  simp only [gt_iff_lt, BitVec.lt_def, BitVec.toNat_add, BitVec.toNat_setWidth_of_le width,
    BitVec.toNat_sub_of_le start]
  rw [Nat.mod_eq_of_lt] <;> omega

end Fetch

/-- The translation of an address inside `m` is right exactly when no mapping added after `m`
    ends at that address, the CPU address asked for being other than NULL. -/
theorem fetch_complete_iff (build : Build) (newer older : List (MappedMemory build.bits))
    (m : MappedMemory build.bits) (gpuAddr : BitVec 64) (sz : BitVec build.bits)
    (valid : ∀ e ∈ newer ++ m :: older, e.GpuValid)
    (apart : (newer ++ m :: older).Pairwise fun e f => e.gpuSpan.Apart f.gpuSpan)
    (nonnull : gpuAddr ≠ 0#64) (positive : 0 < sz.toNat) (start : m.gpuSpan.base ≤ gpuAddr.toNat)
    (fits : gpuAddr.toNat + sz.toNat ≤ m.gpuSpan.stop) :
    (fetchMappedGpu (newer ++ m :: older) gpuAddr sz =
        m.addr + (gpuAddr - m.gpuVa).setWidth build.bits ∧
      fetchMappedGpu (newer ++ m :: older) gpuAddr sz ≠ 0#(build.bits)) ↔
    (∀ e ∈ newer, e.gpuSpan.stop ≠ gpuAddr.toNat) ∧
      m.addr + (gpuAddr - m.gpuVa).setWidth build.bits ≠ 0#(build.bits) := by
  have width := build.bits_le
  have tests : ∀ e ∈ newer ++ m :: older,
      e.gpuContains gpuAddr = true ↔ e.gpuSpan.Touches gpuAddr.toNat :=
    fun e member => MappedMemory.gpuContains_iff width (valid e member).noWrap gpuAddr
  have holds : m.gpuSpan.Holds gpuAddr.toNat := ⟨start, by omega⟩
  constructor
  · rintro ⟨value, notNull⟩
    refine ⟨fun e member ends => notNull ?_, value ▸ notNull⟩
    obtain ⟨f, -, found, stops⟩ := Span.find_end tests apart holds member ends
    have last := (valid m (by simp)).noWrap
    exact fetch_past_end width nonnull found stops positive (by omega)
  · rintro ⟨clear, notNull⟩
    have found : findGpuMappedMem (newer ++ m :: older) gpuAddr = some m :=
      Span.find_holder tests apart holds clear
    have value := fetch_hit width nonnull found start fits
    exact ⟨value, value ▸ notNull⟩

def lowerMapping : MappedMemory 32 := ⟨0x1000#32, 0x50000#32, 0x1000#64⟩

def upperMapping : MappedMemory 32 := ⟨0x1000#32, 0x80000#32, 0x2000#64⟩

theorem lowerMapping_valid : lowerMapping.GpuValid := ⟨by decide, by decide⟩

theorem upperMapping_valid : upperMapping.GpuValid := ⟨by decide, by decide⟩

theorem mappings_apart : lowerMapping.gpuSpan.Apart upperMapping.gpuSpan := .inl (by decide)

theorem adjacent_mapping_hides_start :
    lowerMapping.GpuValid ∧ upperMapping.GpuValid ∧ lowerMapping.gpuSpan.Apart upperMapping.gpuSpan ∧
      upperMapping.gpuSpan.base ≤ 0x2000 ∧ 0x2000 + 4 ≤ upperMapping.gpuSpan.stop ∧
      fetchMappedGpu [lowerMapping, upperMapping] 0x2000#64 4#32 = 0#32 :=
  ⟨lowerMapping_valid, upperMapping_valid, mappings_apart, by decide, by decide, by decide⟩

theorem fetch_complete_past_start :
    (fetchMappedGpu [lowerMapping, upperMapping] 0x2004#64 4#32 =
        upperMapping.addr + (0x2004#64 - upperMapping.gpuVa).setWidth 32 ∧
      fetchMappedGpu [lowerMapping, upperMapping] 0x2004#64 4#32 ≠ 0#32) ↔
    (∀ e ∈ [lowerMapping], e.gpuSpan.stop ≠ (0x2004#64).toNat) ∧
      upperMapping.addr + (0x2004#64 - upperMapping.gpuVa).setWidth 32 ≠ 0#32 := by
  have valid : ∀ e ∈ [lowerMapping] ++ upperMapping :: [], e.GpuValid := by
    simp [lowerMapping_valid, upperMapping_valid]
  have apart : ([lowerMapping] ++ upperMapping :: []).Pairwise fun e f => e.gpuSpan.Apart f.gpuSpan := by
    simp [mappings_apart]
  exact fetch_complete_iff .ilp32 [lowerMapping] [] upperMapping 0x2004#64 4#32 valid apart (by decide)
    (by decide) (by decide) (by decide)

end Panwrap
