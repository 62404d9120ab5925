import Pantry.Driver.Allocator
import Pantry.Machine.Bump
import Mathlib.Logic.Relation

namespace Driver

open Machine Panwrap Decoder Program

def arenaSize : Nat := cbmaPages <<< pageShift

structure Block where
  start : BitVec 32
  size : BitVec 32
  deriving DecidableEq, Repr

def Block.bytes (block : Block) : Set (BitVec 32) := region block.start block.size.toNat

def Block.Inside (base : BitVec 32) (block : Block) : Prop :=
  base.toNat ≤ block.start.toNat ∧ block.start.toNat + block.size.toNat ≤ base.toNat + arenaSize

structure Owned where
  driver : State
  blocks : List Block

/-- What the callers of the allocator can do: allocate, free, and write inside their blocks. -/
inductive AllocStep : Owned → Owned → Prop where
  | galloc {d d' : State} {blocks : List Block} {sz p : BitVec 32} {out : List Event} :
      Runs (galloc sz) d out p d' → AllocStep ⟨d, blocks⟩ ⟨d', blocks ++ [⟨p, sz⟩]⟩
  | gfree {d d' : State} {blocks : List Block} {p : BitVec 32} {out : List Event} :
      Runs (gfree p) d out () d' → AllocStep ⟨d, blocks⟩ ⟨d', blocks⟩
  | write {d : State} {blocks : List Block} {mem : Memory 32} :
      Changes {a | ∃ block ∈ blocks, a ∈ block.bytes} d.mem mem → AllocStep ⟨d, blocks⟩ ⟨{ d with mem := mem }, blocks⟩

structure PageAligned (base : BitVec 32) : Prop where
  aligned : base.toNat % 0x1000 = 0
  fits : base.toNat + arenaSize < 2 ^ 32

def sizes (blocks : List Block) : List Nat := blocks.map fun block => block.size.toNat

/-- How far the cursor has moved, if it could move without end. -/
def extent (blocks : List Block) : Nat := bumpEnd 0x400 0 (sizes blocks)

def place (base : BitVec 32) (block : Nat × Nat) : Block :=
  ⟨BitVec.ofNat 32 (base.toNat + block.1), BitVec.ofNat 32 block.2⟩

/-- The blocks and the cursor are those of a bump allocator, around the end of the address space. -/
structure Laid (base : BitVec 32) (s : Owned) : Prop where
  bottom : s.driver.cbmaBottom = BitVec.ofNat 32 (base.toNat + extent s.blocks)
  blocks : s.blocks = (layout 0x400 0 (sizes s.blocks)).map (place base)

/-- What no block covers is as `init_cbma` left it. -/
def Fresh (base : BitVec 32) (s : Owned) : Prop :=
  ∀ a ∈ region base arenaSize, (∀ block ∈ s.blocks, a ∉ block.bytes) → s.driver.mem a = 0#8

section Steps

variable {base : BitVec 32} {s s' : Owned} {d : State}

theorem cursor_next (aligned : base.toNat % 0x1000 = 0) (c : Nat) :
    (BitVec.ofNat 32 (base.toNat + c) &&& 0xFFFFFC00#32) + 0x400#32 =
      BitVec.ofNat 32 (base.toNat + bumpStart 0x400 c) := by
  have mask : 0xFFFFFC00#32 = ~~~lowMask 32 10 := by decide
  apply BitVec.eq_of_toNat_eq
  rw [mask, BitVec.toNat_add, clear_low_toNat, BitVec.toNat_ofNat, BitVec.toNat_ofNat, BitVec.toNat_ofNat]
  unfold bumpStart
  omega

theorem galloc_returns (d : State) (sz : BitVec 32) :
    Runs (galloc sz) d [] ((d.cbmaBottom &&& 0xFFFFFC00#32) + 0x400#32)
      { d with cbmaBottom := (d.cbmaBottom &&& 0xFFFFFC00#32) + 0x400#32 + sz } := by
  have start : (d.cbmaBottom &&& 0xFFFFFC00#32) + 0x400#32 =
      (d.cbmaBottom &&& 0xFFFFFC00#32) + 0x400#32 + sz - sz := by ring
  unfold galloc
  refine runs_bind.mpr ⟨[], (), _, [], runs_modify.mpr ⟨rfl, rfl⟩, ?_, rfl⟩
  exact runs_bind.mpr ⟨[], _, _, [], runs_get.mpr ⟨rfl, rfl, rfl⟩, runs_pure.mpr ⟨rfl, start, rfl⟩, rfl⟩

theorem gfree_after {p : BitVec 32} : After (gfree p) d fun _ _ d' => d' = d := by
  unfold gfree printf
  rw [after_put]

theorem Laid.step (aligned : base.toNat % 0x1000 = 0) (laid : Laid base s) (step : AllocStep s s') : Laid base s' := by
  cases step with
  | @galloc d d' blocks sz p out runs =>
    obtain ⟨-, rfl, rfl⟩ := runs.unique (galloc_returns d sz)
    have start := cursor_next aligned (extent blocks)
    rw [← laid.bottom] at start
    have more : sizes (blocks ++ [⟨(d.cbmaBottom &&& 0xFFFFFC00#32) + 0x400#32, sz⟩]) = sizes blocks ++ [sz.toNat] := by
      rw [sizes, List.map_append]
      rfl
    constructor
    · change (d.cbmaBottom &&& 0xFFFFFC00#32) + 0x400#32 + sz = BitVec.ofNat 32 (base.toNat + extent (blocks ++ [_]))
      rw [extent, more, bumpEnd_snoc, ← Nat.add_assoc, BitVec.ofNat_add, BitVec.ofNat_toNat, BitVec.setWidth_eq, start]
      rfl
    · change blocks ++ [_] = (layout 0x400 0 (sizes (blocks ++ [_]))).map (place base)
      rw [more, layout_snoc, List.map_append, ← laid.blocks, start]
      simp only [List.map_singleton, place, BitVec.ofNat_toNat, BitVec.setWidth_eq]
      rfl
  | gfree runs =>
    rw [gfree_after _ _ _ runs]
    exact laid
  | write => exact ⟨laid.bottom, laid.blocks⟩

theorem Fresh.step (fresh : Fresh base s) (step : AllocStep s s') : Fresh base s' := by
  cases step with
  | galloc runs =>
    obtain ⟨-, -, rfl⟩ := runs.unique (galloc_returns _ _)
    intro a inside outside
    exact fresh a inside fun block member => outside block (List.mem_append_left _ member)
  | gfree runs =>
    rw [gfree_after _ _ _ runs]
    exact fresh
  | @write d blocks mem changes =>
    intro a inside outside
    have unowned : a ∉ {a | ∃ block ∈ blocks, a ∈ block.bytes} := by
      rintro ⟨block, member, covered⟩
      exact outside block member covered
    exact (changes a unowned).trans (fresh a inside outside)

theorem Laid.start {base : BitVec 32} (bottom : d.cbmaBottom = base) : Laid base ⟨d, []⟩ := by
  refine ⟨?_, rfl⟩
  change d.cbmaBottom = BitVec.ofNat 32 (base.toNat + 0)
  rw [bottom, Nat.add_zero, BitVec.ofNat_toNat, BitVec.setWidth_eq]

theorem Fresh.start (zeroed : ∀ a ∈ region base arenaSize, d.mem a = 0#8) : Fresh base ⟨d, []⟩ :=
  fun a inside _ => zeroed a inside

theorem allocGpuPages_same_after {kernel : Kernel} {fd pages eFlags : BitVec 32}
    (same : eFlags &&& maliMemSameVa ≠ 0#32) :
    After (allocGpuPages kernel fd pages eFlags) d fun _ va _ =>
      va = (kernel.mmap64 (d.calls + 1)).setWidth 64 := by
  unfold allocGpuPages ioctlMemAlloc mmap64 printf
  simp only [after_bind, after_get, after_put, after_modify, if_pos same]
  split
  · simp only [after_pure]
  · exact after_badIoctl

theorem initCbma_after {kernel : Kernel} {fd : BitVec 32} :
    After (initCbma kernel fd) d fun _ _ d' =>
      d'.cbmaBottom = kernel.mmap64 (d.calls + 1) ∧
        ∀ a ∈ region (kernel.mmap64 (d.calls + 1)) arenaSize, d'.mem a = 0#8 := by
  have whole : ((kernel.mmap64 (d.calls + 1)).setWidth 64).setWidth 32 = kernel.mmap64 (d.calls + 1) :=
    BitVec.setWidth_setWidth_of_le _ (by decide)
  unfold initCbma
  rw [after_bind]
  refine (allocGpuPages_same_after (by decide)).mono ?_
  rintro _ _ d' rfl
  unfold memcpy
  rw [after_bind, after_modify, after_bind, after_modify, after_bind, after_get, after_modify, whole]
  refine ⟨rfl, fun a inside => ?_⟩
  apply Memory.store_replicate
  rw [BitVec.add_zero]
  exact inside

theorem initCbma_returns {kernel : Kernel} {fd : BitVec 32} {gpuVa : BitVec 64}
    (granted : kernel.memAlloc d.calls = some gpuVa) : Returns (initCbma kernel fd) d := by
  suffices meets : Meets (initCbma kernel fd) d fun _ _ _ => True from meets.returns
  unfold initCbma
  apply (allocGpuPages_same_meets granted (by decide)).bind
  intro _ _ _ _
  unfold memcpy
  rw [meets_modify_bind, meets_modify_bind, meets_get_bind, meets_modify]
  trivial

end Steps

section Placement

variable {base : BitVec 32} {s s' : Owned}

theorem PageAligned.place_start (arena : PageAligned base) {start : Nat} (size : Nat)
    (low : start ≤ arenaSize + 0x400) :
    (place base (start, size)).start.toNat = base.toNat + start := by
  obtain ⟨aligned, fits⟩ := arena
  have size : arenaSize = 0x400000 := rfl
  change (BitVec.ofNat 32 (base.toNat + start)).toNat = _
  rw [BitVec.toNat_ofNat]
  omega

theorem PageAligned.fits_of_inside (arena : PageAligned base) {sizes : List Nat} (small : ∀ size ∈ sizes, size < 2 ^ 32)
    (inside : ∀ block ∈ (layout 0x400 0 sizes).map (place base),
      block.start = 0#32 ∨ block.start.toNat + block.size.toNat ≤ base.toNat + arenaSize) :
    bumpEnd 0x400 0 sizes ≤ arenaSize := by
  induction sizes using List.reverseRecOn with
  | nil => exact Nat.zero_le _
  | append_singleton sizes size ih =>
    rw [layout_snoc, List.map_append] at inside
    have before : bumpEnd 0x400 0 sizes ≤ arenaSize :=
      ih (fun size member => small size (List.mem_append_left _ member))
        fun block member => inside block (List.mem_append_left _ member)
    have low : bumpStart 0x400 (bumpEnd 0x400 0 sizes) ≤ arenaSize + 0x400 := by
      unfold bumpStart
      omega
    have start := arena.place_start size low
    have last := inside _ (List.mem_append_right _ (List.mem_singleton_self _))
    have fits : size < 2 ^ 32 := small size (List.mem_append_right _ (List.mem_singleton_self _))
    have whole : (place base (bumpStart 0x400 (bumpEnd 0x400 0 sizes), size)).size.toNat = size := by
      change (BitVec.ofNat 32 size).toNat = size
      rw [BitVec.toNat_ofNat, Nat.mod_eq_of_lt fits]
    rw [start, whole] at last
    rw [bumpEnd_snoc]
    rcases last with zero | inside
    · have value := congrArg BitVec.toNat zero
      have positive : 0 < bumpStart 0x400 (bumpEnd 0x400 0 sizes) := Nat.zero_lt_of_lt (bumpStart_above (by decide))
      rw [start, BitVec.toNat_ofNat] at value
      omega
    · omega

theorem Laid.member (laid : Laid base s) {block : Block} (member : block ∈ s.blocks) :
    ∃ start, (start, block.size.toNat) ∈ layout 0x400 0 (sizes s.blocks) ∧ block = place base (start, block.size.toNat) := by
  have placed := member
  rw [laid.blocks] at placed
  obtain ⟨⟨start, size⟩, entry, rfl⟩ := List.mem_map.mp placed
  have small : size < 2 ^ 32 := by
    have listed := List.mem_map_of_mem (f := Prod.snd) entry
    rw [layout_sizes] at listed
    obtain ⟨other, -, rfl⟩ := List.mem_map.mp listed
    exact other.size.isLt
  have whole : (BitVec.ofNat 32 size).toNat = size := by rw [BitVec.toNat_ofNat, Nat.mod_eq_of_lt small]
  refine ⟨start, ?_, ?_⟩
  · change (start, (BitVec.ofNat 32 size).toNat) ∈ _
    rw [whole]
    exact entry
  · change place base (start, size) = place base (start, (BitVec.ofNat 32 size).toNat)
    rw [whole]

theorem Laid.inside (laid : Laid base s) (arena : PageAligned base) (fits : extent s.blocks ≤ arenaSize) :
    ∀ block ∈ s.blocks, block.start.toNat % 0x400 = 0 ∧ block.Inside base := by
  intro block member
  obtain ⟨start, entry, same⟩ := laid.member member
  obtain ⟨-, before⟩ := layout_within (by decide) _ entry
  have multiple := layout_aligned _ entry
  have aligned := arena.aligned
  have address : block.start.toNat = base.toNat + start := by
    rw [same]
    apply arena.place_start
    unfold extent at fits
    omega
  unfold extent at fits
  refine ⟨?_, ?_, ?_⟩
  · omega
  · omega
  · omega

theorem Block.Inside.bytes_subset {block : Block} (inside : block.Inside base) (arena : PageAligned base) :
    block.bytes ⊆ region base arenaSize := by
  have fits := arena.fits
  obtain ⟨above, before⟩ := inside
  unfold Block.bytes
  rw [region_between (by omega), region_between (by omega)]
  exact between_mono above before

theorem Laid.apart (laid : Laid base s) (arena : PageAligned base) (fits : extent s.blocks ≤ arenaSize) :
    s.blocks.Pairwise fun first second => first.start < second.start ∧ Disjoint first.bytes second.bytes := by
  have ordered : (layout 0x400 0 (sizes s.blocks)).Pairwise fun first second => first.1 + first.2 < second.1 :=
    layout_ordered (by decide)
  have top := arena.fits
  rw [laid.blocks, List.pairwise_map]
  refine ordered.imp_of_mem ?_
  intro first second inFirst inSecond order
  obtain ⟨-, beforeFirst⟩ := layout_within (by decide) first inFirst
  obtain ⟨-, beforeSecond⟩ := layout_within (by decide) second inSecond
  unfold extent at fits
  have startFirst : (place base first).start.toNat = base.toNat + first.1 := arena.place_start first.2 (by omega)
  have startSecond : (place base second).start.toNat = base.toNat + second.1 := arena.place_start second.2 (by omega)
  have sizeFirst : (place base first).size.toNat ≤ first.2 := Nat.mod_le _ _
  have sizeSecond : (place base second).size.toNat ≤ second.2 := Nat.mod_le _ _
  constructor
  · rw [BitVec.lt_def, startFirst, startSecond]
    omega
  · apply region_disjoint
    · rw [startFirst, startSecond]
      omega
    · rw [startSecond]
      omega

theorem Laid.fits (laid : Laid base s) (arena : PageAligned base)
    (inside : ∀ block ∈ s.blocks, block.start = 0#32 ∨ block.start.toNat + block.size.toNat ≤ base.toNat + arenaSize) :
    extent s.blocks ≤ arenaSize := by
  rw [laid.blocks] at inside
  refine arena.fits_of_inside ?_ inside
  intro size member
  obtain ⟨block, -, rfl⟩ := List.mem_map.mp member
  exact block.size.isLt

end Placement

def Reaches (kernel : Kernel) (fd : BitVec 32) (d : State) (s : Owned) : Prop :=
  ∃ out d', Runs (initCbma kernel fd) d out () d' ∧ Relation.ReflTransGen AllocStep ⟨d', []⟩ s

section Runs

variable {kernel : Kernel} {fd : BitVec 32} {d : State} {s : Owned}

theorem reaches_laid (aligned : (kernel.mmap64 (d.calls + 1)).toNat % 0x1000 = 0) (reaches : Reaches kernel fd d s) :
    Laid (kernel.mmap64 (d.calls + 1)) s ∧ Fresh (kernel.mmap64 (d.calls + 1)) s := by
  obtain ⟨out, d', started, run⟩ := reaches
  obtain ⟨bottom, zeroed⟩ := initCbma_after out () d' started
  induction run with
  | refl => exact ⟨.start bottom, .start zeroed⟩
  | tail _ step ih => exact ⟨ih.1.step aligned step, ih.2.step step⟩

/-- Blocks that end inside the arena are aligned, in order, apart from each other, and zero when given out. -/
theorem galloc_fresh (arena : PageAligned (kernel.mmap64 (d.calls + 1))) (reaches : Reaches kernel fd d s)
    (inside : ∀ block ∈ s.blocks,
      block.start.toNat + block.size.toNat ≤ (kernel.mmap64 (d.calls + 1)).toNat + arenaSize) :
    (∀ block ∈ s.blocks,
        block.start.toNat % 0x400 = 0 ∧ (kernel.mmap64 (d.calls + 1)).toNat ≤ block.start.toNat) ∧
      (s.blocks.Pairwise fun first second => first.start < second.start ∧ Disjoint first.bytes second.bytes) ∧
      ∀ sz out p d', Runs (galloc sz) s.driver out p d' →
        p.toNat + sz.toNat ≤ (kernel.mmap64 (d.calls + 1)).toNat + arenaSize →
          ∀ a ∈ region p sz.toNat, d'.mem a = 0#8 := by
  obtain ⟨laid, fresh⟩ := reaches_laid arena.aligned reaches
  have fits := laid.fits arena fun block member => .inr (inside block member)
  refine ⟨?_, laid.apart arena fits, ?_⟩
  · intro block member
    obtain ⟨multiple, within⟩ := laid.inside arena fits block member
    exact ⟨multiple, within.1⟩
  · intro sz out p d' runs ends a covered
    have step : AllocStep s ⟨d', s.blocks ++ [⟨p, sz⟩]⟩ := .galloc runs
    have laid' := laid.step arena.aligned step
    have fits' := laid'.fits arena <| by
      intro block member
      rcases List.mem_append.mp member with old | new
      · exact .inr (inside block old)
      · rw [List.mem_singleton.mp new]
        exact .inr ends
    have apart := laid'.apart arena fits'
    have newest : (⟨p, sz⟩ : Block) ∈ s.blocks ++ [⟨p, sz⟩] := List.mem_append_right _ (List.mem_singleton_self _)
    obtain ⟨-, within⟩ := laid'.inside arena fits' ⟨p, sz⟩ newest
    obtain ⟨-, -, rfl⟩ := runs.unique (galloc_returns s.driver sz)
    apply fresh a (within.bytes_subset arena covered)
    intro block old
    obtain ⟨-, disjoint⟩ := (List.pairwise_append.mp apart).2.2 block old _ (List.mem_singleton_self _)
    exact Set.disjoint_right.mp disjoint covered

/-- `galloc` keeps inside the arena if and only if the cursor does, were it to move without end. -/
theorem galloc_inside_iff (arena : PageAligned (kernel.mmap64 (d.calls + 1))) (reaches : Reaches kernel fd d s) :
    (∀ block ∈ s.blocks, block.start = 0#32 ∨ block.Inside (kernel.mmap64 (d.calls + 1))) ↔
      extent s.blocks ≤ arenaSize := by
  obtain ⟨laid, -⟩ := reaches_laid arena.aligned reaches
  constructor
  · intro inside
    apply laid.fits arena
    intro block member
    rcases inside block member with failed | inside
    · exact .inl failed
    · exact .inr inside.2
  · intro fits block member
    exact .inr (laid.inside arena fits block member).2

variable (kernel fd d) in
theorem reaches_blocks {gpuVa : BitVec 64} (granted : kernel.memAlloc d.calls = some gpuVa)
    (aligned : (kernel.mmap64 (d.calls + 1)).toNat % 0x1000 = 0) (requests : List (BitVec 32)) :
    ∃ s, Reaches kernel fd d s ∧
      s.blocks = (layout 0x400 0 (requests.map BitVec.toNat)).map (place (kernel.mmap64 (d.calls + 1))) := by
  suffices reached : ∃ s, Reaches kernel fd d s ∧ sizes s.blocks = requests.map BitVec.toNat by
    obtain ⟨s, reaches, same⟩ := reached
    obtain ⟨laid, -⟩ := reaches_laid aligned reaches
    refine ⟨s, reaches, ?_⟩
    rw [← same]
    exact laid.blocks
  induction requests using List.reverseRecOn with
  | nil =>
    obtain ⟨out, _, d', runs⟩ := initCbma_returns granted
    exact ⟨⟨d', []⟩, ⟨out, d', runs, .refl⟩, rfl⟩
  | append_singleton requests sz ih =>
    obtain ⟨s, ⟨out, d', started, run⟩, same⟩ := ih
    refine ⟨_, ⟨out, d', started, run.tail (.galloc (galloc_returns s.driver sz))⟩, ?_⟩
    rw [List.map_append, ← same, sizes, List.map_append]
    rfl

end Runs

theorem grantingKernel_arena : PageAligned (grantingKernel.mmap64 1) := ⟨by decide, by decide⟩

theorem two_blocks_fresh :
    ∃ s, Reaches grantingKernel 3#32 (.start fun _ => 0xFF#8) s ∧
      s.blocks = [⟨0x10000400#32, 0x401#32⟩, ⟨0x10000C00#32, 0#32⟩] ∧
      ∀ sz out p d', Runs (galloc sz) s.driver out p d' → p.toNat + sz.toNat ≤ 0x10400000 →
        ∀ a ∈ region p sz.toNat, d'.mem a = 0#8 := by
  obtain ⟨s, reaches, blocks⟩ := reaches_blocks grantingKernel 3#32 (.start fun _ => 0xFF#8) rfl (by decide) [0x401#32, 0#32]
  have places : s.blocks = [⟨0x10000400#32, 0x401#32⟩, ⟨0x10000C00#32, 0#32⟩] := blocks
  refine ⟨s, reaches, places, (galloc_fresh grantingKernel_arena reaches ?_).2.2⟩
  rw [places]
  decide

theorem small_blocks_inside :
    ∃ s, Reaches grantingKernel 3#32 (.start fun _ => 0#8) s ∧
      s.blocks = [⟨0x10000400#32, 64#32⟩, ⟨0x10000800#32, 0x3FF800#32⟩] ∧
      ∀ block ∈ s.blocks, block.start = 0#32 ∨ block.Inside 0x10000000#32 := by
  obtain ⟨s, reaches, blocks⟩ := reaches_blocks grantingKernel 3#32 (.start fun _ => 0#8) rfl (by decide) [64#32, 0x3FF800#32]
  have places : s.blocks = [⟨0x10000400#32, 64#32⟩, ⟨0x10000800#32, 0x3FF800#32⟩] := blocks
  refine ⟨s, reaches, places, (galloc_inside_iff grantingKernel_arena reaches).mpr ?_⟩
  rw [places]
  decide

/-- A request for more than the arena is granted, and the block reaches out of it. -/
theorem large_block_escapes :
    ∃ s, Reaches grantingKernel 3#32 (.start fun _ => 0#8) s ∧ s.blocks = [⟨0x10000400#32, 0x500000#32⟩] ∧
      ¬ ∀ block ∈ s.blocks, block.start = 0#32 ∨ block.Inside 0x10000000#32 := by
  obtain ⟨s, reaches, blocks⟩ := reaches_blocks grantingKernel 3#32 (.start fun _ => 0#8) rfl (by decide) [0x500000#32]
  have places : s.blocks = [⟨0x10000400#32, 0x500000#32⟩] := blocks
  refine ⟨s, reaches, places, ?_⟩
  rw [places]
  unfold Block.Inside
  decide

end Driver
