import Pantry.Driver.RoundTrip

namespace Driver

open Machine Panwrap Decoder Program

section Mfbd

variable {base : BitVec 32} {k : Nat} {d : State} {heapFreeAddress scratchpad : BitVec 64}

/-- The writes of `make_mfbd` for a fragment job; `block2` is what it reads back. -/
def fragmentMfbdWrites (heapFreeAddress scratchpad block2 : BitVec 64) : List SlotWrite := [
  .assign 0 64 (scratchpad + svOffset),
  .assign 0 72 (scratchpad + svOffset + 0x200#64),
  .assign 0 8 scratchpad,
  .assign 0 88 (heapFreeAddress ||| 0x8000000#64),
  .assign 0 60 0xF0#32,
  .assign 0 80 heapFreeAddress,
  .assign 0 0 0x1F00000000#64,
  .assign 0 56 0x1600#32,
  .assign 0 232 0xFFFFF8C0#64,
  .assign 0 32 0x02D801C2#32,
  .assign 0 40 0x02D801C2#32,
  .assign 0 44 0x01001080#32,
  .assign 0 48 0xC0210000#32,
  .assign 0 52 0x00000000#32,
  ⟨0, TentativeMfbd.block3Offset, Field.image (Field.array (mfbdBlock3 0x5ABA5ABA#64 block2))⟩]

theorem fragmentMfbdWrites_ends {block2 : BitVec 64} :
    ∀ e ∈ fragmentMfbdWrites heapFreeAddress scratchpad block2, e.Ends 1 := by
  simp only [fragmentMfbdWrites, List.forall_mem_cons, SlotWrite.assign_ends]
  simp [SlotWrite.Ends, Field.sizes_array, mfbdBlock3, TentativeMfbd.block3Offset]

def fragmentFbdOf (base : BitVec 32) (k : Nat) : BitVec 32 := slot base k ||| BitVec.ofNat 32 fbdType ||| fbdFragment

theorem makeMfbd_fragment_meets (cursor : Cursor base k d.cbmaBottom) (room : k + 1 ≤ arenaSlots) :
    Meets (makeMfbd false heapFreeAddress scratchpad) d fun events fbd d' =>
      fbd = (fragmentFbdOf base k).setWidth 64 ∧ Built base k (k + 1) 0 ∅ d events d' ∧
        ∃ block2, d'.mem = wrote base k (fragmentMfbdWrites heapFreeAddress scratchpad block2) d.mem := by
  unfold makeMfbd
  rw [meets_galloc_bind cursor]
  simp only [meets_assign_bind, meets_whenever_bind, meets_get_bind, meets_memcpy_bind, meets_pure, Bool.false_eq_true,
    ↓reduceIte]
  refine ⟨rfl, ?_, _, rfl⟩
  exact .of_wrote (cursor.placed.small (by decide) room) rfl fragmentMfbdWrites_ends room (Changes.refl ∅ d.mem)

/-- What the decoder reads of a framebuffer descriptor that `make_mfbd` filled in for a fragment job. -/
structure FragmentFbd (heap scratchpad : BitVec 64) (f : TentativeMfbd) : Prop where
  flags : f.flags = 0xF0#32
  heapFreeAddress : f.heapFreeAddress = heap
  ugaT : f.ugaT = scratchpad
  block2 : f.block2 0 = scratchpad + svOffset ∧ f.block2 1 = scratchpad + svOffset + 0x200#64
  unknown1 : f.unknown1 = 0x1600#32
  unknown2 : f.unknown2 = heap ||| 0x8000000#64
  unknown3 : f.unknown3 = 0xFFFFF8C0#64
  blah : f.blah = 0x1F00000000#64

theorem fragmentMfbd_laid (m : Memory 32) (block2 : BitVec 64) :
    FragmentFbd heapFreeAddress scratchpad
      (TentativeMfbd.load (wrote base k (fragmentMfbdWrites heapFreeAddress scratchpad block2) m) (slot base k)) := by
  have length : (Field.image (Field.array (mfbdBlock3 0x5ABA5ABA#64 block2))).length = 72 := by
    rw [Field.image_length, Field.sizes_array]
    rfl
  have before {width off : Nat} (m' : Memory 32) (part : off + width / 8 ≤ 136 ∨ 136 + 72 ≤ off)
      (bound : off + width / 8 ≤ 2 ^ 32) :
      (m'.store (slot base k + BitVec.ofNat 32 TentativeMfbd.block3Offset)
        (Field.image (Field.array (mfbdBlock3 0x5ABA5ABA#64 block2)))).read width (slot base k) off =
        m'.read width (slot base k) off := by
    apply Memory.read_store_part ?_ bound (by rw [length]; decide)
    rw [length]
    exact part
  constructor
  all_goals simp only [fragmentMfbdWrites, wrote_assign, wrote_store, wrote_nil, Nat.add_zero, TentativeMfbd.load,
    TentativeMfbd.block2Offset, Fin.val_zero, Fin.val_one, Nat.mul_zero, Nat.mul_one, Nat.reduceAdd]
  all_goals simp (disch := decide) only [before, Memory.read_write_part, Memory.read_write, and_self]

end Mfbd

section Fragment

variable {kernel : Kernel} {fd base resource : BitVec 32} {k l : Nat} {d : State} {m m' : Memory 32}
  {heap scratchpad framebuffer : BitVec 64} {other : Set (BitVec 32)}

def fragmentHeader : JobDescriptorHeader where
  exceptionStatus := jobNotStarted
  jobDescriptorSize := job32Bit
  jobType := jobTypeFragment
  jobIndex := indexFragment

def fragmentPayload (base : BitVec 32) (k : Nat) : PayloadFragment where
  minTileCoord := makeTileCoord 0#32 0#32 0#32
  maxTileCoord := makeTileCoord 29#32 45#32 0#32
  fragmentFbd := (fragmentFbdOf base (k + 1)).setWidth 64

def fragmentWrites (base : BitVec 32) (k : Nat) : List SlotWrite := [
  ⟨0, 0, Field.image (headerFields fragmentHeader)⟩,
  ⟨0, JobDescriptorHeader.size, Field.image (fragmentFields (fragmentPayload base k))⟩]

theorem fragmentFields_sizes (f : PayloadFragment) : Field.sizes (fragmentFields f) = 16 := by
  simp [Field.sizes, fragmentFields, Field.size]

theorem fragmentWrites_ends : ∀ e ∈ fragmentWrites base k, e.Ends 1 := by
  simp [fragmentWrites, SlotWrite.Ends, headerFields_sizes, fragmentFields_sizes, JobDescriptorHeader.size]

theorem load_fragment_store (m : Memory 32) (p : BitVec 32) (f : PayloadFragment) :
    PayloadFragment.load (m.store p (Field.image (fragmentFields f))) p = f := by
  have sizes : (fragmentFields f).map Field.size = [4, 4, 8] := by simp [fragmentFields, Field.size]
  have bound : Field.sizes (fragmentFields f) ≤ 2 ^ 32 := by
    rw [fragmentFields_sizes]
    decide
  have field (i off : Nat) {width : Nat} {value : BitVec width} (whole : 8 ∣ width)
      (place : ([4, 4, 8].take i).sum = off) (member : (fragmentFields f)[i]? = some ⟨width, value⟩) :
      (m.store p (Field.image (fragmentFields f))).read width p off = value := by
    refine Memory.read_image m p bound whole ?_ member
    rw [Field.sizes, List.map_take, sizes, place]
  unfold PayloadFragment.load
  rw [field 0 0 (by decide) rfl rfl, field 1 4 (by decide) rfl rfl, field 2 8 (by decide) rfl rfl]

/-- A fragment job at slot `k` and its framebuffer descriptor behind it. -/
structure FragmentLaid (base : BitVec 32) (k : Nat) (heap scratchpad : BitVec 64) (m : Memory 32) : Prop where
  header : JobDescriptorHeader.load m (slot base k) = fragmentHeader
  payload : PayloadFragment.load m (slot base k + BitVec.ofNat 32 JobDescriptorHeader.size) = fragmentPayload base k
  framebuffer : FragmentFbd heap scratchpad (TentativeMfbd.load m (slot base (k + 1)))

theorem load_mfbd_congr {p : BitVec 32}
    (same : ∀ width off, off + width / 8 ≤ TentativeMfbd.size → m'.read width p off = m.read width p off) :
    TentativeMfbd.load m' p = TentativeMfbd.load m p := by
  unfold TentativeMfbd.size at same
  unfold TentativeMfbd.load TentativeMfbd.block2Offset TentativeMfbd.block3Offset
  have block2 (i : Fin 2) := same 64 (64 + 8 * i.val) (by omega)
  have weights (i : Fin 8) := same 32 (96 + 4 * i.val) (by omega)
  have block3 (i : Fin 22) := same 32 (136 + 4 * i.val) (by omega)
  simp only [block2, weights, block3]
  rw [same 64 0 (by decide), same 64 8 (by decide), same 32 56 (by decide), same 32 60 (by decide),
    same 64 80 (by decide), same 64 88 (by decide), same 64 128 (by decide), same 64 224 (by decide),
    same 64 232 (by decide)]

theorem FragmentLaid.keep (laid : FragmentLaid base k heap scratchpad m)
    (same : ∀ i, k ≤ i → i < k + 2 → ∀ width off, off + width / 8 ≤ 0x400 →
      m'.read width (slot base i) off = m.read width (slot base i) off) :
    FragmentLaid base k heap scratchpad m' where
  header :=
    (load_header_congr fun width off part => same k (Nat.le_refl k) (by omega) width off (by omega)).trans laid.header
  payload := by
    rw [← laid.payload]
    unfold PayloadFragment.load JobDescriptorHeader.size
    simp only [Memory.read_part]
    have job := same k (Nat.le_refl k) (by omega)
    rw [job 32 _ (by decide), job 32 _ (by decide), job 64 _ (by decide)]
  framebuffer := by
    rw [load_mfbd_congr fun width off part => same (k + 1) (by omega) (by omega) width off
      (by unfold TentativeMfbd.size at part; omega)]
    exact laid.framebuffer

theorem load_fragment_header (m : Memory 32) :
    JobDescriptorHeader.load (wrote base k (fragmentWrites base k) m) (slot base k) = fragmentHeader := by
  have length : (Field.image (fragmentFields (fragmentPayload base k))).length = 16 := by
    rw [Field.image_length, fragmentFields_sizes]
  simp only [fragmentWrites, wrote_store, wrote_nil, Nat.add_zero, BitVec.add_zero]
  rw [load_header_store_behind (by decide) (by rw [length]; decide), load_header_store]

theorem load_fragment_payload (m : Memory 32) :
    PayloadFragment.load (wrote base k (fragmentWrites base k) m)
      (slot base k + BitVec.ofNat 32 JobDescriptorHeader.size) = fragmentPayload base k := by
  simp only [fragmentWrites, wrote_store, wrote_nil, Nat.add_zero]
  rw [load_fragment_store]

theorem fragment_laid {block2 : BitVec 64} (placed : Placed base) (room : k + 2 ≤ arenaSlots) :
    FragmentLaid base k heap scratchpad
      (wrote base k (fragmentWrites base k) (wrote base (k + 1) (fragmentMfbdWrites heap scratchpad block2) m)) where
  header := load_fragment_header _
  payload := load_fragment_payload _
  framebuffer := by
    have packet : Changes (slots base k (k + 1)) (wrote base (k + 1) (fragmentMfbdWrites heap scratchpad block2) m)
        (wrote base k (fragmentWrites base k) (wrote base (k + 1) (fragmentMfbdWrites heap scratchpad block2) m)) :=
      wrote_changes placed fragmentWrites_ends (by omega)
    have apart : Disjoint (slots base (k + 1) (k + 1 + 1)) (slots base k (k + 1)) := slots_disjoint (.inr (Nat.le_refl _))
    rw [load_mfbd_congr fun width off part => placed.read_apart packet apart (by omega)
      (by unfold TentativeMfbd.size at part; omega)]
    exact fragmentMfbd_laid m block2

/-- What a job that waits for another leaves: it took the slots from `k` to below `l`, and its list of external
    resources is in place. -/
structure Depends (base : BitVec 32) (k l : Nat) (resource : BitVec 32) (framebuffer : BitVec 64) (d d' : State) :
    Prop where
  arena : Arena base l d'
  later : Later base k (region resource 8) d.mem d'.mem
  resource : d'.mem.read 64 resource 0 = framebuffer ||| maliExtResAccessExclusive

theorem Depends.of_write {bottom : BitVec 32} (cursor : Cursor base l bottom) (zeroed : Zeroed base l m)
    (later : Later base k (region resource 8) d.mem m) (apart : Disjoint (slots base 0 arenaSlots) (region resource 8))
    {d' : State} (same : d'.cbmaBottom = bottom)
    (mem : d'.mem = m.write resource 0 (framebuffer ||| maliExtResAccessExclusive)) :
    Depends base k l resource framebuffer d d' where
  arena := by
    refine ⟨same ▸ cursor, fun a member => ?_⟩
    have outside : a ∉ region (resource + BitVec.ofNat 32 0) (64 / 8) := by
      rw [BitVec.add_zero]
      exact Set.disjoint_left.mp apart (slots_mono (Nat.zero_le l) (Nat.le_refl _) member)
    rw [mem, Memory.write_other outside]
    exact zeroed a member
  later := by
    rw [mem]
    apply later.write
    rw [BitVec.add_zero]
    exact Set.subset_union_right
  resource := by
    rw [mem]
    exact Memory.read_write (by decide) (by decide)

def fragmentChainAtom (base : BitVec 32) (k : Nat) (resource count : BitVec 32) : MaliJdAtomV2 32 :=
  dependentAtom (jobAddress base k) resource (Driver.maliJdReqExternalResources ||| Driver.maliJdReqFs) maliJdPrioMedium
    (count.setWidth 8) ((count + 1#32).setWidth 8)

theorem jobChainFragment_meets (arena : Arena base k d) (room : k + 2 ≤ arenaSlots)
    (apart : Disjoint (slots base 0 arenaSlots) (region resource 8)) (queue : d.atomQueueSize < atomQueueMax)
    (submits : d.atomQueueSize + 1 = atomQueueMax → kernel.jobSubmit d.calls = true) :
    Meets (jobChainFragment kernel fd framebuffer heap scratchpad resource) d fun events packet d' =>
      packet = slot base k ∧ submitted events = [fragmentChainAtom base k resource d.atomCount] ∧
        FragmentLaid base k heap scratchpad d'.mem ∧ Depends base k (k + 2) resource framebuffer d d' := by
  have placed := arena.cursor.placed
  unfold jobChainFragment
  rw [meets_galloc_bind arena.cursor]
  have cursor : Cursor base (k + 1) (slot base k + BitVec.ofNat 32 (JobDescriptorHeader.size + PayloadFragment.size)) :=
    placed.small (by decide) (by omega)
  apply (makeMfbd_fragment_meets (by exact cursor) (by omega)).bind
  intro e₁ fbd d₁ made
  obtain ⟨rfl, mfbd, block2, mem⟩ := made
  rw [meets_memcpy_bind, meets_memcpy_bind, meets_get_bind, meets_assign_bind, meets_modify_bind, meets_get_bind]
  apply (submitJob_meets ?_ ?_).bind
  · intro e₂ _ d₂ queued
    obtain ⟨atoms, same, bottom⟩ := queued
    rw [meets_pure]
    dsimp only at same bottom
    have laid : FragmentLaid base k heap scratchpad (wrote base k (fragmentWrites base k) d₁.mem) := by
      rw [mem]
      exact fragment_laid placed room
    have written : d₂.mem = (wrote base k (fragmentWrites base k) d₁.mem).write resource 0
        (framebuffer ||| maliExtResAccessExclusive) := by
      rw [same]
      simp only [fragmentWrites, wrote_store, wrote_nil, Nat.add_zero]
      rfl
    have later : Later base k (region resource 8) d.mem (wrote base k (fragmentWrites base k) d₁.mem) := by
      have first : Later base (k + 1) (region resource 8) d.mem d₁.mem := mfbd.later (by omega) (Set.empty_subset _)
      exact (first.lower (Nat.le_succ k)).trans (wrote_later placed fragmentWrites_ends (by omega)) (Nat.le_refl k)
    have zeroed : Zeroed base (k + 2) (wrote base k (fragmentWrites base k) d₁.mem) := by
      have unused : Zeroed base (k + 1) d.mem := fun a member => arena.zeroed a (slots_mono (Nat.le_succ k) (Nat.le_refl _) member)
      have behind : Arena base (k + 2) d₁ := mfbd.arena (Set.disjoint_empty _) ⟨cursor, unused⟩
      exact behind.zeroed.wrote placed fragmentWrites_ends (by omega) (by omega)
    refine ⟨rfl, ?_, ?_, .of_write mfbd.cursor zeroed later apart bottom written⟩
    · have count : d₁.atomCount = d.atomCount := mfbd.atomCount
      simp only [submitted_append, mfbd.silent, atoms, List.nil_append, List.append_nil, count]
      rfl
    · apply laid.keep
      intro i low high width off part
      rw [written]
      have changed : Changes (region resource 8) (wrote base k (fragmentWrites base k) d₁.mem)
          ((wrote base k (fragmentWrites base k) d₁.mem).write resource 0 (framebuffer ||| maliExtResAccessExclusive)) := by
        apply (Changes.refl _ _).write
        rw [BitVec.add_zero]
      exact placed.read_apart changed (apart.mono_left (slots_mono (Nat.zero_le i) (by omega))) (by omega) part
  · exact mfbd.atomQueueSize ▸ queue
  · intro full
    have size : d₁.atomQueueSize = d.atomQueueSize := mfbd.atomQueueSize
    have calls : d₁.calls = d.calls := mfbd.calls
    dsimp only at full ⊢
    rw [size] at full
    rw [calls]
    exact submits full

end Fragment

section Replay

variable {kernel : Kernel} {fd base resource tilerJc fragmentJc : BitVec 32} {k : Nat} {d : State} {m m' : Memory 32}
  {heap framebuffer : BitVec 64}

def replayPayload (tilerJc fragmentJc : BitVec 32) (heap : BitVec 64) : MaliJdReplayPayload where
  tilerJcList := tilerJc.setWidth 64
  fragmentJc := fragmentJc.setWidth 64
  tilerHeapFree := heap
  fragmentHierarchyMask := 0#16
  tilerHierarchyMask := 0#16
  hierarchyDefaultWeight := 0x10000#32
  tilerCoreReq := Driver.maliJdReqT ||| maliJdReqCoherentGroup
  fragmentCoreReq := Driver.maliJdReqFs

def replayWrites (tilerJc fragmentJc : BitVec 32) (heap : BitVec 64) : List SlotWrite := [
  .assign 0 0 (tilerJc.setWidth 64),
  .assign 0 8 (fragmentJc.setWidth 64),
  .assign 0 16 heap,
  .assign 0 24 0#16,
  .assign 0 26 0#16,
  .assign 0 28 0x10000#32,
  .assign 0 32 (Driver.maliJdReqT ||| maliJdReqCoherentGroup),
  .assign 0 36 Driver.maliJdReqFs]

theorem replayWrites_ends : ∀ e ∈ replayWrites tilerJc fragmentJc heap, e.Ends 1 := by
  simp only [replayWrites, List.forall_mem_cons, SlotWrite.assign_ends]
  simp

theorem load_replay (m : Memory 32) :
    MaliJdReplayPayload.load (wrote base k (replayWrites tilerJc fragmentJc heap) m) (slot base k) =
      replayPayload tilerJc fragmentJc heap := by
  simp only [MaliJdReplayPayload.load, replayPayload, replayWrites, wrote_assign, wrote_nil, Nat.add_zero]
  simp (disch := decide) only [Memory.read_write_part, Memory.read_write]

theorem load_replay_congr {p : BitVec 32}
    (same : ∀ width off, off + width / 8 ≤ MaliJdReplayPayload.size → m'.read width p off = m.read width p off) :
    MaliJdReplayPayload.load m' p = MaliJdReplayPayload.load m p := by
  unfold MaliJdReplayPayload.size at same
  unfold MaliJdReplayPayload.load
  rw [same 64 0 (by decide), same 64 8 (by decide), same 64 16 (by decide), same 16 24 (by decide),
    same 16 26 (by decide), same 32 28 (by decide), same 32 32 (by decide), same 32 36 (by decide)]

def replayChainAtom (base : BitVec 32) (k : Nat) (resource count : BitVec 32) : MaliJdAtomV2 32 :=
  dependentAtom (jobAddress base k) resource (Driver.maliJdReqExternalResources ||| maliJdReqSoftReplay) maliJdPrioLow
    (count.setWidth 8) ((count + 1#32).setWidth 8)

theorem jobChainReplay_meets (arena : Arena base k d) (room : k + 1 ≤ arenaSlots)
    (apart : Disjoint (slots base 0 arenaSlots) (region resource 8)) (queue : d.atomQueueSize < atomQueueMax)
    (submits : d.atomQueueSize + 1 = atomQueueMax → kernel.jobSubmit d.calls = true) :
    Meets (jobChainReplay kernel fd tilerJc fragmentJc heap framebuffer resource) d fun events _ d' =>
      submitted events = [replayChainAtom base k resource d.atomCount] ∧
        MaliJdReplayPayload.load d'.mem (slot base k) = replayPayload tilerJc fragmentJc heap ∧
        Depends base k (k + 1) resource framebuffer d d' := by
  have placed := arena.cursor.placed
  have cursor : Cursor base (k + 1) (slot base k + BitVec.ofNat 32 MaliJdReplayPayload.size) :=
    placed.small (by decide) (by omega)
  unfold jobChainReplay
  rw [meets_get_bind, meets_galloc_bind arena.cursor]
  simp only [meets_assign_bind, meets_modify_bind, meets_get_bind]
  apply (submitJob_meets (by exact queue) (by exact submits)).mono
  intro events _ d' queued
  obtain ⟨atoms, same, bottom⟩ := queued
  have written : d'.mem = (wrote base k (replayWrites tilerJc fragmentJc heap) d.mem).write resource 0
      (framebuffer ||| maliExtResAccessExclusive) := same
  have unused : Zeroed base (k + 1) d.mem := fun a member => arena.zeroed a (slots_mono (Nat.le_succ k) (Nat.le_refl _) member)
  refine ⟨atoms, ?_, ?_⟩
  · have changed : Changes (region resource 8) (wrote base k (replayWrites tilerJc fragmentJc heap) d.mem) d'.mem := by
      rw [written]
      apply (Changes.refl _ _).write
      rw [BitVec.add_zero]
    have own : Disjoint (slots base k (k + 1)) (region resource 8) := apart.mono_left (slots_mono (Nat.zero_le k) room)
    rw [load_replay_congr fun width off part => placed.read_apart changed own (by omega)
      (by unfold MaliJdReplayPayload.size at part; omega)]
    exact load_replay d.mem
  · exact .of_write cursor (unused.wrote placed replayWrites_ends (by omega) (Nat.le_refl _))
      (wrote_later placed replayWrites_ends (by omega)) apart bottom written

end Replay

section Decode

variable {env : Env 32} {base : BitVec 32} {k : Nat} {s : Proc 32} {heap scratchpad : BitVec 64} (placed : Placed base)
  (positive : 0 < k) (room : k + 2 ≤ arenaSlots)
include placed

theorem fragmentFbd_slot {i : Nat} (inside : i < arenaSlots) :
    fbdAddress (fragmentFbdOf base i) = (slot base i).setWidth 64 := by
  have mask : fbdPointerMask 32 = ~~~lowMask 32 6 := by decide
  have aligned := slot_aligned placed inside
  rw [fbdAddress, fragmentFbdOf, mask, BitVec.or_assoc, strip_tag (by omega) (by decide)]

include positive room

/-- Tracing a fragment job finds its framebuffer descriptor, past the flags that it is handed with. -/
theorem fragment_yields (resolves : ArenaResolves env base) (laid : FragmentLaid base k heap scratchpad s.mem) :
    Yields (fun n => chaiTraceHwChain env n (jobAddress base k)) s
      [.descriptor (jobAddress base k) jobTypeFragment.toNat, .framebuffer ((slot base (k + 1)).setWidth 64)] () s := by
  have payload : fetchMappedGpu env.mmaps (payloadOf (jobAddress base k)) (BitVec.ofNat 32 PayloadFragment.size) =
      slot base k + BitVec.ofNat 32 JobDescriptorHeader.size :=
    payload_found placed (by omega) resolves positive (by decide) (by decide)
  have framebuffer : fbdAddress (fragmentFbd env s.mem (payloadOf (jobAddress base k))) = (slot base (k + 1)).setWidth 64 := by
    rw [fragmentFbd, payload, laid.payload]
    change fbdAddress (((fragmentFbdOf base (k + 1)).setWidth 64).setWidth 32) = _
    rw [BitVec.setWidth_setWidth_of_le _ (by decide), BitVec.setWidth_eq, fragmentFbd_slot placed (by omega)]
  have mapped : FragmentMapped env s.mem (payloadOf (jobAddress base k)) := by
    constructor
    · rw [Mapped, payload]
      exact payload_ne_zero placed (by omega)
    · rw [FbdMapped, framebuffer, Mapped,
        fetch_slot placed resolves (Nat.succ_pos k) (by decide) (by unfold TentativeMfbd.size; omega)]
      exact placed.slot_ne_zero (Nat.succ_pos k) (by omega)
  have traced := (checked_traceFragment env (payloadOf (jobAddress base k)) s).traces mapped
  rw [framebuffer] at traced
  have switched : Yields (fun n => tracePayload env n (slot base k) (payloadOf (jobAddress base k))) s
      [.framebuffer ((slot base (k + 1)).setWidth 64)] () s := by
    have notSet : fragmentHeader.jobType ≠ jobTypeSetValue := by decide
    have notVertex : ¬ (fragmentHeader.jobType = jobTypeVertex ∨ fragmentHeader.jobType = jobTypeTiler) := by decide
    unfold tracePayload
    rw [yields_deref_bind]
    refine ⟨placed.slot_ne_zero positive (by omega), ?_⟩
    simp only [laid.header, if_neg notSet, if_neg notVertex]
    exact yields_const.mpr traced
  have job := job_yields placed (by omega) resolves positive switched
  rw [laid.header] at job
  exact job.last (fuelled_traceJob env)

end Decode

end Driver
