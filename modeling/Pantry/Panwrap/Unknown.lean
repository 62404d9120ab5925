import Mathlib.Data.List.Find
import Pantry.Panwrap.Attribution
import Pantry.Panwrap.Bounds

namespace Panwrap

open Machine Decoder

section Lookups

variable {w : Nat} {mmaps : List (MappedMemory w)} {gpuAddr : BitVec 64} {sz : BitVec w}

def known (mmaps : List (MappedMemory w)) : List (MappedMemory w) := mmaps.filter fun m => m.gpuVa != 0#64

/-- A lookup is answered by a known mapping, and the mappings that are not known make no difference
    to an address inside one that is. -/
structure Undisturbed (mmaps : List (MappedMemory w)) (gpuAddr : BitVec 64) (sz : BitVec w) : Prop where
  answered : fetchMappedGpu mmaps gpuAddr sz ≠ 0#w → ∀ m, First mmaps gpuAddr m → m.gpuVa ≠ 0#64
  unchanged : ∀ m ∈ known mmaps, m.gpuSpan.Holds gpuAddr.toNat →
    fetchMappedGpu mmaps gpuAddr sz = fetchMappedGpu (known mmaps) gpuAddr sz

def UnknownBelow (gpuAddr : BitVec 64) (mmaps : List (MappedMemory w)) : Prop :=
  ∀ m ∈ mmaps, m.gpuVa = 0#64 → m.length.toNat < gpuAddr.toNat

theorem unknown_contains_iff (width : w ≤ 64) {m : MappedMemory w} (unknown : m.gpuVa = 0#64) :
    m.gpuContains gpuAddr = true ↔ gpuAddr.toNat ≤ m.length.toNat := by
  rw [MappedMemory.gpuContains, unknown, BitVec.zero_add, Bool.and_eq_true, decide_eq_true_eq, decide_eq_true_eq,
    BitVec.le_def, BitVec.le_def, BitVec.toNat_setWidth_of_le width, BitVec.toNat_zero]
  exact and_iff_right (Nat.zero_le _)

theorem find_known (width : w ≤ 64) (below : UnknownBelow gpuAddr mmaps) :
    findGpuMappedMem (known mmaps) gpuAddr = findGpuMappedMem mmaps gpuAddr := by
  unfold findGpuMappedMem known
  rw [List.find?_filter]
  apply List.find?_congr
  intro m member
  by_cases unknown : m.gpuVa = 0#64
  · have missed : ¬ m.gpuContains gpuAddr = true := fun contains =>
      absurd ((unknown_contains_iff width unknown).mp contains) (Nat.not_le.mpr (below m member unknown))
    simp [unknown, missed]
  · simp [unknown]

theorem UnknownBelow.undisturbed (width : w ≤ 64) (below : UnknownBelow gpuAddr mmaps) (sz : BitVec w) :
    Undisturbed mmaps gpuAddr sz where
  answered := by
    rintro - m ⟨contains, newer, older, rfl, -⟩ unknown
    have short := below m (List.mem_append_right _ (List.mem_cons_self ..)) unknown
    have long := (unknown_contains_iff width unknown).mp contains
    omega
  unchanged := by
    intro m _ _
    rw [fetchMappedGpu, fetchMappedGpu, find_known width below]

theorem disturbed_of_head (width : w ≤ 64) {m : MappedMemory w} (unknown : m.gpuVa = 0#64) (nonnull : gpuAddr ≠ 0#64)
    (fits : gpuAddr.toNat + sz.toNat ≤ m.length.toNat) (notNull : m.addr + gpuAddr.setWidth w ≠ 0#w) :
    ¬ Undisturbed (m :: mmaps) gpuAddr sz := by
  intro undisturbed
  have contains : m.gpuContains gpuAddr = true := (unknown_contains_iff width unknown).mpr (by omega)
  have first : First (m :: mmaps) gpuAddr m := ⟨contains, [], mmaps, rfl, by simp⟩
  have offset : gpuAddr - m.gpuVa = gpuAddr := by rw [unknown, BitVec.sub_zero]
  have length := m.length.isLt
  have power : 2 ^ w ≤ 2 ^ 64 := Nat.pow_le_pow_right (by decide) width
  have value : fetchMappedGpu (m :: mmaps) gpuAddr sz = m.addr + (gpuAddr - m.gpuVa).setWidth w :=
    fetch_of_first width first nonnull (by rw [offset, Nat.mod_eq_of_lt] <;> omega)
  rw [offset] at value
  exact undisturbed.answered (value ▸ notNull) m first unknown

end Lookups

section Runs

variable {build : Build} {cfg : Config}

def Label.MapsUnknown (t : Tracker build.bits) (length : BitVec build.bits) (label : Label build) : Prop :=
  ∃ fd offset, label.call.MapsAt fd length offset ∧ MmapTraced t.maliFd fd ∧
    t.attributed offset label.reply.ptr = 0#64

/-- A step that records no mapping without a GPU address, or one shorter than `gpuAddr`. -/
def BelowStep (cfg : Config) (gpuAddr : BitVec 64) (σ : Sys build.bits) (label : Label build) (σ' : Sys build.bits) :
    Prop :=
  Step cfg σ label σ' ∧ ∀ length, label.MapsUnknown σ.tracker length → length.toNat < gpuAddr.toNat

theorem UnknownBelow.next {gpuAddr : BitVec 64} {t : Tracker build.bits} (below : UnknownBelow gpuAddr t.mmaps)
    {label : Label build} (short : ∀ length, label.MapsUnknown t length → length.toNat < gpuAddr.toNat) :
    UnknownBelow gpuAddr (t.next label.call label.reply).mmaps := by
  rcases t.mmaps_next label with same | ⟨addr, dropped⟩ | ⟨fd, length, offset, maps, traced, added⟩
  · rw [same]
    exact below
  · rw [dropped]
    exact fun m member => below m (List.mem_of_mem_eraseP member)
  · rw [added]
    exact List.forall_mem_cons.mpr ⟨fun unknown => short length ⟨fd, offset, maps, traced, unknown⟩, below⟩

theorem run_unknownBelow {gpuAddr : BitVec 64} {σ σ' : Sys build.bits} {labels : List (Label build)}
    (run : Run (BelowStep cfg gpuAddr) σ labels σ') (below : UnknownBelow gpuAddr σ.tracker.mmaps) :
    UnknownBelow gpuAddr σ'.tracker.mmaps := by
  apply run.preserves _ below
  intro s t label step held
  rw [step.1.tracker]
  exact held.next step.2

theorem mmaps_of_mapsUnknown {σ σ' : Sys build.bits} {label : Label build} (step : Step cfg σ label σ')
    {length : BitVec build.bits} (maps : label.MapsUnknown σ.tracker length) :
    σ'.tracker.mmaps = ⟨length, label.reply.ptr, 0#64⟩ :: σ.tracker.mmaps := by
  obtain ⟨fd, offset, at_, traced, unknown⟩ := maps
  rw [step.tracker, ← unknown]
  obtain ⟨call, reply⟩ := label
  cases call with
  | mmap addr length' prot flags fd' offset' =>
    obtain ⟨rfl, rfl, rfl⟩ := at_
    simp only [Tracker.next, Tracker.mapped, if_pos traced]
  | mmap64 addr length' prot flags fd' offset' =>
    obtain ⟨rfl, rfl, rfl⟩ := at_
    simp only [Tracker.next, Tracker.mapped, if_pos traced]
  | _ => exact at_.elim

/-- Lookups of `gpuAddr` go undisturbed while every mapping recorded without a GPU address is shorter
    than `gpuAddr`. The first that is not takes every lookup that fits it. -/
theorem lookups_undisturbed (gpuAddr : BitVec 64) (proc : Proc build.bits) (labels : List (Label build))
    (σ : Sys build.bits) (run : Run (BelowStep cfg gpuAddr) (start proc) labels σ) :
    (∀ sz, Undisturbed σ.tracker.mmaps gpuAddr sz) ∧
      ∀ label σ', Step cfg σ label σ' → ∀ length, label.MapsUnknown σ.tracker length → gpuAddr ≠ 0#64 →
        label.reply.ptr + gpuAddr.setWidth build.bits ≠ 0#(build.bits) →
          ∀ sz : BitVec build.bits, gpuAddr.toNat + sz.toNat ≤ length.toNat →
            ¬ Undisturbed σ'.tracker.mmaps gpuAddr sz := by
  have below : UnknownBelow gpuAddr σ.tracker.mmaps :=
    run_unknownBelow run fun m member => absurd member List.not_mem_nil
  refine ⟨below.undisturbed build.bits_le, ?_⟩
  intro label σ' step length maps nonnull notNull sz fits
  rw [mmaps_of_mapsUnknown step maps]
  exact disturbed_of_head build.bits_le rfl nonnull fits notNull

def tracking : Label .lp64 := ⟨.mmap64 0 0x1000#64 0#32 1#32 3 0x3000#64, ⟨0, 0x50000#64, fun _ => 0#8⟩⟩

theorem tracking_page_answers :
    ∃ σ : Sys Build.lp64.bits, Run (Step x86) (start ⟨fun _ => 0#8, 0⟩) [opening "/dev/mali0" 3, tracking] σ ∧
      fetchMappedGpu σ.tracker.mmaps 0x10#64 4#64 = 0x50010#64 ∧ ¬ Undisturbed σ.tracker.mmaps 0x10#64 4#64 := by
  obtain ⟨σ₁, opened⟩ := step_opening "/dev/mali0" 3 (start ⟨fun _ => 0#8, 0⟩)
  obtain ⟨σ, mapped⟩ := step_of_decodable x86 tracking σ₁ trivial
  have run : Run (Step x86) (start ⟨fun _ => 0#8, 0⟩) [opening "/dev/mali0" 3, tracking] σ :=
    .cons opened (.single mapped)
  have mmaps : σ.tracker.mmaps = [⟨0x1000#64, 0x50000#64, 0#64⟩] := by
    rw [run_tracker run]
    decide
  refine ⟨σ, run, ?_, ?_⟩
  · rw [mmaps]
    decide
  · rw [mmaps]
    exact disturbed_of_head (by decide) rfl (by decide) (by decide) (by decide)

theorem below_opening (t : Tracker Build.lp64.bits) (length : BitVec 64) :
    ¬ (opening "/dev/mali0" 3).MapsUnknown t length := by
  rintro ⟨fd, offset, ⟨⟩, -⟩

theorem past_tracking_page :
    ∃ σ : Sys Build.lp64.bits, Run (BelowStep x86 0x2000#64) (start ⟨fun _ => 0#8, 0⟩)
        [opening "/dev/mali0" 3, tracking] σ ∧ ∀ sz, Undisturbed σ.tracker.mmaps 0x2000#64 sz := by
  obtain ⟨σ₁, opened⟩ := step_opening "/dev/mali0" 3 (start ⟨fun _ => 0#8, 0⟩)
  obtain ⟨σ, mapped⟩ := step_of_decodable x86 tracking σ₁ trivial
  have run : Run (BelowStep x86 0x2000#64) (start ⟨fun _ => 0#8, 0⟩) [opening "/dev/mali0" 3, tracking] σ := by
    refine .cons ⟨opened, fun length maps => absurd maps (below_opening _ length)⟩ (.single ⟨mapped, ?_⟩)
    rintro length ⟨fd, offset, ⟨rfl, rfl, rfl⟩, -⟩
    decide
  exact ⟨σ, run, (lookups_undisturbed 0x2000#64 _ _ σ run).1⟩

end Runs

end Panwrap
