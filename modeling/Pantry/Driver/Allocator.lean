import Pantry.Driver.Shim
import Pantry.Machine.Align
import Pantry.Machine.Footprint

namespace Driver

open Machine Panwrap Decoder Program

def cbmaPages : Nat := 1024

def galloc (sz : BitVec 32) : Drive (BitVec 32) := do
  modify fun d => { d with cbmaBottom := (d.cbmaBottom &&& 0xFFFFFC00#32) + 0x400#32 + sz }
  let d ← get
  pure (d.cbmaBottom - sz)

def gfree (ptr : BitVec 32) : Drive Unit := printf "gfree %p\n" [.nat ptr.toNat]

def initCbma (kernel : Kernel) (fd : BitVec 32) : Drive Unit := do
  let bottom ← allocGpuPages kernel fd (BitVec.ofNat 32 cbmaPages)
    (maliMemProtCpuRd ||| maliMemProtCpuWr ||| maliMemProtGpuRd ||| maliMemProtGpuWr ||| maliMemSameVa)
  modify fun d => { d with cbmaBottom := bottom.setWidth 32 }
  modify fun d => { d with cbmaTop := d.cbmaBottom }
  let d ← get
  memcpy d.cbmaBottom 0 (List.replicate (cbmaPages <<< pageShift) 0#8)

section Slots

/-- The address of the arena's k-th kilobyte; `galloc` gives out nothing but these. -/
def slot (base : BitVec 32) (k : Nat) : BitVec 32 := base + BitVec.ofNat 32 (0x400 * k)

def slots (base : BitVec 32) (j k : Nat) : Set (BitVec 32) :=
  between 32 (base.toNat + 0x400 * j) (base.toNat + 0x400 * k)

def arenaSlots : Nat := 0x1000

/-- The arena lies below the end of the address space, on a page boundary. -/
structure Placed (base : BitVec 32) : Prop where
  aligned : base.toNat % 0x1000 = 0
  fits : base.toNat + 0x400 * arenaSlots ≤ 2 ^ 32

variable {base : BitVec 32} {i j k off n : Nat}

theorem slots_mono {j' k' : Nat} (low : j' ≤ j) (high : k ≤ k') : slots base j k ⊆ slots base j' k' :=
  between_mono (by omega) (by omega)

theorem slots_disjoint {j' k' : Nat} (apart : k ≤ j' ∨ k' ≤ j) : Disjoint (slots base j k) (slots base j' k') :=
  between_disjoint (by omega)

namespace Placed

variable (placed : Placed base)
include placed

theorem slot_toNat (inside : 0x400 * k + off < 0x400 * arenaSlots) :
    (slot base k + BitVec.ofNat 32 off).toNat = base.toNat + 0x400 * k + off := by
  have fits := placed.fits
  unfold slot
  rw [BitVec.toNat_add, BitVec.toNat_add, BitVec.toNat_ofNat, BitVec.toNat_ofNat]
  unfold arenaSlots at *
  omega

theorem read_store_apart {m : Memory 32} {content : List Byte} {width off' : Nat}
    (apart : 0x400 * i + off + width / 8 ≤ 0x400 * j + off' ∨ 0x400 * j + off' + content.length ≤ 0x400 * i + off)
    (left : 0x400 * i + off + width / 8 < 0x400 * arenaSlots)
    (right : 0x400 * j + off' + content.length < 0x400 * arenaSlots) :
    (m.store (slot base j + BitVec.ofNat 32 off') content).read width (slot base i) off =
      m.read width (slot base i) off := by
  have fits := placed.fits
  have atLeft : (slot base i + BitVec.ofNat 32 off).toNat = _ := placed.slot_toNat (by omega)
  have atRight : (slot base j + BitVec.ofNat 32 off').toNat = _ := placed.slot_toNat (by omega)
  have bound : width / 8 ≤ 2 ^ 32 := by unfold arenaSlots at *; omega
  apply Memory.read_store_other bound
  rw [region_between (by rw [atLeft]; omega), region_between (by rw [atRight]; omega), atLeft, atRight]
  exact between_disjoint (by omega)

theorem slot_ne_zero (positive : 0 < k) (inside : k < arenaSlots) : slot base k ≠ 0#32 := by
  intro zero
  have value : (slot base k + BitVec.ofNat 32 0).toNat = base.toNat + 0x400 * k + 0 := placed.slot_toNat (by omega)
  rw [BitVec.add_zero, zero, BitVec.toNat_ofNat] at value
  omega

theorem region_slots (low : 0x400 * j ≤ 0x400 * i + off) (high : 0x400 * i + off + n ≤ 0x400 * k)
    (inside : k ≤ arenaSlots) : region (slot base i + BitVec.ofNat 32 off) n ⊆ slots base j k := by
  have fits := placed.fits
  intro a member
  have some : 0 < n := Nat.lt_of_le_of_lt (Nat.zero_le _) member
  have value : (slot base i + BitVec.ofNat 32 off).toNat = base.toNat + 0x400 * i + off := placed.slot_toNat (by omega)
  rw [region_between (by rw [value]; omega), value] at member
  exact between_mono (by omega) (by omega) member

end Placed

end Slots

/-- The next block of `galloc` starts at slot `k`. -/
structure Cursor (base : BitVec 32) (k : Nat) (bottom : BitVec 32) : Prop where
  placed : Placed base
  next : (bottom &&& 0xFFFFFC00#32) + 0x400#32 = slot base k

def Zeroed (base : BitVec 32) (k : Nat) (m : Memory 32) : Prop := ∀ a ∈ slots base k arenaSlots, m a = 0#8

structure Arena (base : BitVec 32) (k : Nat) (d : State) : Prop where
  cursor : Cursor base k d.cbmaBottom
  zeroed : Zeroed base k d.mem

section Galloc

variable {base bottom : BitVec 32} {k n : Nat} {d : State}

theorem Placed.round (placed : Placed base) (room : k + n / 0x400 < arenaSlots) :
    (slot base k + BitVec.ofNat 32 n) &&& 0xFFFFFC00#32 = slot base (k + n / 0x400) := by
  have aligned := placed.aligned
  have mask : 0xFFFFFC00#32 = ~~~lowMask 32 10 := by decide
  have value : (slot base k + BitVec.ofNat 32 n).toNat = base.toNat + 0x400 * k + n :=
    placed.slot_toNat (by omega)
  have target : (slot base (k + n / 0x400) + BitVec.ofNat 32 0).toNat = base.toNat + 0x400 * (k + n / 0x400) + 0 :=
    placed.slot_toNat (by omega)
  rw [BitVec.add_zero, Nat.add_zero] at target
  apply BitVec.eq_of_toNat_eq
  rw [mask, clear_low_toNat, value, target]
  omega

theorem slot_succ : slot base k + 0x400#32 = slot base (k + 1) := by
  unfold slot
  rw [Nat.mul_add, BitVec.ofNat_add, BitVec.add_assoc]

theorem Placed.cursor (placed : Placed base) (room : k + n / 0x400 < arenaSlots) :
    Cursor base (k + n / 0x400 + 1) (slot base k + BitVec.ofNat 32 n) :=
  ⟨placed, by rw [placed.round room, slot_succ]⟩

theorem Placed.first (placed : Placed base) : Cursor base 1 base := by
  have start : slot base 0 + BitVec.ofNat 32 0 = base := by
    unfold slot
    rw [Nat.mul_zero, BitVec.add_zero, BitVec.add_zero]
  have cursor := placed.cursor (k := 0) (n := 0) (by decide)
  rwa [start] at cursor

theorem galloc_runs (cursor : Cursor base k d.cbmaBottom) :
    Runs (galloc (BitVec.ofNat 32 n)) d [] (slot base k)
      { d with cbmaBottom := slot base k + BitVec.ofNat 32 n } := by
  have moved : slot base k + BitVec.ofNat 32 n - BitVec.ofNat 32 n = slot base k := by ring
  unfold galloc
  rw [← cursor.next] at moved ⊢
  refine runs_bind.mpr ⟨[], (), _, [], runs_modify.mpr ⟨rfl, rfl⟩, ?_, rfl⟩
  exact runs_bind.mpr ⟨[], _, _, [], runs_get.mpr ⟨rfl, rfl, rfl⟩, runs_pure.mpr ⟨rfl, moved.symm, rfl⟩, rfl⟩

/-- A call of `galloc` in front of a program: it gives out slot `k` and moves on behind the block. -/
theorem meets_galloc_bind {α : Type} {f : BitVec 32 → Drive α} {Q : List Event → α → State → Prop}
    (cursor : Cursor base k d.cbmaBottom) :
    Meets (galloc (BitVec.ofNat 32 n) >>= f) d Q ↔
      Meets (f (slot base k)) { d with cbmaBottom := slot base k + BitVec.ofNat 32 n } Q := by
  rw [meets_bind, (galloc_runs cursor).meets]
  rfl

end Galloc

theorem initCbma_meets {kernel : Kernel} {fd : BitVec 32} {d : State} {gpuVa : BitVec 64}
    (granted : kernel.memAlloc d.calls = some gpuVa) (placed : Placed (kernel.mmap64 (d.calls + 1))) :
    Meets (initCbma kernel fd) d fun _ _ d' => Arena (kernel.mmap64 (d.calls + 1)) 1 d' := by
  unfold initCbma
  apply (allocGpuPages_same_meets granted (by decide)).bind
  rintro _ _ _ ⟨-, rfl, rfl⟩
  have whole : ((kernel.mmap64 (d.calls + 1)).setWidth 64).setWidth 32 = kernel.mmap64 (d.calls + 1) :=
    BitVec.setWidth_setWidth_of_le _ (by decide)
  rw [meets_modify_bind, meets_modify_bind, meets_get_bind, whole]
  unfold memcpy
  rw [meets_modify]
  refine ⟨placed.first, ?_⟩
  intro a member
  have fits := placed.fits
  apply Memory.store_replicate
  rw [BitVec.add_zero, region_between (by exact fits)]
  exact slots_mono (Nat.zero_le 1) (Nat.le_refl _) member

end Driver
