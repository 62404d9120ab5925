import Pantry.Driver.Observed

/-! The whole program, up to the submission of its frame. -/

namespace Driver

open Machine Panwrap Decoder Program Bookkeeper

/-- Where the memory of the program lies: on the GPU, on the CPU or, where there is one address, on both. -/
structure Layout where
  scratchpad : BitVec 64
  heap : BitVec 64
  base : BitVec 32
  zeroes : BitVec 32
  gpu : BitVec 64
  cpu : BitVec 32
  gpu' : BitVec 64
  cpu' : BitVec 32

namespace Layout

variable (layout : Layout)

def arenaBlock : MappedMemory 32 := ⟨pagesLength (BitVec.ofNat 32 cbmaPages), layout.base, layout.base.setWidth 64⟩
def zeroBlock : MappedMemory 32 := ⟨pagesLength 0x20#32, layout.zeroes, layout.zeroes.setWidth 64⟩

def vertexBlock (shader : Buffer) : MappedMemory 32 := ⟨pagesLength (importPages shader), layout.cpu, layout.gpu⟩
def fragmentBlock (shader : Buffer) : MappedMemory 32 := ⟨pagesLength (importPages shader), layout.cpu', layout.gpu'⟩

end Layout

/-- The device answers the calls of the program with a layout. -/
structure Device.Provides (device : Device) (layout : Layout) : Prop where
  opens : device.openAt 0 ≠ 0#32 ∧ device.openAt 0 ≠ -1#32
  accepts : ∀ n, device.accepts n = true
  handle : device.mmap64 2 ≠ mapFailed
  arena : (device.memAlloc 5).isSome ∧ device.mmap64 6 = layout.base
  scratchpad : device.memAlloc 9 = some layout.scratchpad
  heap : device.memAlloc 10 = some layout.heap
  zeroes : (device.memAlloc 11).isSome ∧ device.mmap64 12 = layout.zeroes
  vertex : Imports device.toKernel 13 layout.gpu layout.cpu
  fragment : Imports device.toKernel 15 layout.gpu' layout.cpu'
  submits : ∀ n, device.jobSubmit n = true

/-- The memory that the program writes does not overlap, and of the blocks that the GPU sees no later one touches the
    arena from slot 1 on or the vertex shader. The arena's end is an address, and the vertex shader's record is no trap. -/
structure Layout.Apart (layout : Layout) (vertexShader fragmentShader : Buffer) (resource resource' : BitVec 32) : Prop where
  placed : Placed layout.base
  inner : 0 < layout.base.toNat ∧ layout.base.toNat + 0x400 * arenaSlots < 2 ^ 32
  lists : Disjoint (slots layout.base 0 arenaSlots) (region resource 8 ∪ region resource' 8)
  vertex : Disjoint (region layout.cpu vertexShader.bytes.length)
    (slots layout.base 0 arenaSlots ∪ (region resource 8 ∪ region resource' 8))
  fragment : Disjoint (slots layout.base 0 arenaSlots) (region layout.cpu' fragmentShader.bytes.length)
  shaders : Disjoint (region layout.cpu vertexShader.bytes.length) (region layout.cpu' fragmentShader.bytes.length)
  page : layout.gpu.toNat % 0x1000 = 0 ∧ 0 < layout.gpu.toNat
  fits : importedLength vertexShader < 2 ^ 32 ∧ layout.gpu.toNat + importedLength vertexShader < 2 ^ 64
  arenaSeen : ∀ e ∈ [layout.fragmentBlock fragmentShader, layout.vertexBlock vertexShader, layout.zeroBlock],
    ∀ addr : BitVec 64, layout.arenaBlock.gpuVa.toNat + 0x400 ≤ addr.toNat → layout.arenaBlock.gpuSpan.Holds addr.toNat →
      e.gpuContains addr = false
  shaderSeen : ∀ addr : BitVec 64, (layout.vertexBlock vertexShader).gpuSpan.Holds addr.toNat →
    (layout.fragmentBlock fragmentShader).gpuContains addr = false
  untrapped : sabotaged (slot layout.base 8) = false

/-- The events of a part of the program that sends nothing. -/
theorem plain_of_quiet {events : List Event} (sent : batches events = []) :
    ∀ event ∈ events.map SessionEvent.driver, event.plain = true := by
  intro event member
  obtain ⟨made, inside, rfl⟩ := List.mem_map.mp member
  have unsent : made.batch? = none := List.filterMap_eq_nil_iff.mp sent made inside
  cases made with
  | jobSubmit => cases unsent
  | _ => rfl

theorem Meets.drive {α : Type} {p : Drive α} {d : State} {Q : List Event → α → State → Prop} (meets : Meets p d Q) :
    Meets (drive p) d fun events x d' => ∃ inner, events = inner.map .driver ∧ Q inner x d' := by
  unfold Driver.drive
  rw [meets_embed]
  refine meets.mono ?_
  intro inner x d' holds
  exact ⟨inner, rfl, holds⟩

theorem initCbma_quiet {kernel : Kernel} {fd : BitVec 32} : Quiet kernel (initCbma kernel fd) := by
  unfold initCbma
  refine allocGpuPages_quiet.bind fun bottom => (quiet_modify ?_).bind fun _ => (quiet_modify ?_).bind fun _ => ?_
  · exact fun _ => ⟨rfl, rfl⟩
  · exact fun _ => ⟨rfl, rfl⟩
  · exact quiet_get.bind fun _ => memcpy_quiet

section Whole

variable {device : Device} {layout : Layout} {vertexShader fragmentShader : Buffer} {resource resource' fd : BitVec 32}
  {d : State}

theorem initCbma_places (provides : device.Provides layout) (placed : Placed layout.base) (calls : d.calls = 5) :
    Meets (drive (initCbma device.toKernel fd)) d fun events _ d' =>
      (∀ event ∈ events, event.plain = true) ∧ Arena layout.base 1 d' ∧ SameQueue d d' ∧ d'.calls = 7 := by
  obtain ⟨va, granted⟩ := Option.isSome_iff_exists.mp provides.arena.1
  have told : (⟨5, [], []⟩ : Account).Tells d := calls.symm
  have arena : Meets (initCbma device.toKernel fd) d _ :=
    initCbma_meets (by rw [calls]; exact granted) (by rw [calls, provides.arena.2]; exact placed)
  refine (Meets.drive ((arena.and (initCbma_quiet.keeps d)).and (uses_initCbma _ _ told))).mono ?_
  intro events _ d' built
  obtain ⟨inner, rfl, ⟨arena, -, sent, same⟩, -, account, told'⟩ := built
  rw [calls, provides.arena.2] at arena
  have count : _ = d'.calls := told'
  change Bookkeeper.account _ _ _ = _ at account
  rw [account] at count
  exact ⟨plain_of_quiet sent, arena, same, count.symm⟩

theorem setUp_meets (provides : device.Provides layout) (placed : Placed layout.base) (calls : d.calls = 4) :
    Meets (setUp device fd) d fun events areas d' =>
      (∀ event ∈ events, event.plain = true) ∧ areas = ⟨layout.scratchpad, layout.heap⟩ ∧ Arena layout.base 1 d' ∧
        SameQueue d d' ∧ d'.calls = 11 := by
  unfold setUp queryGpuProps streamCreate
  refine (mIoctl_meets (provides.accepts _)).bind ?_
  intro _ _ _ props
  obtain ⟨rfl, rfl⟩ := props
  refine (initCbma_places provides placed (congrArg (· + 1) calls)).bind ?_
  intro e₁ _ d₁ built
  obtain ⟨plain₁, arena, same, calls₁⟩ := built
  refine (mIoctl_meets (provides.accepts _)).bind ?_
  intro _ _ _ first
  obtain ⟨rfl, rfl⟩ := first
  refine (mIoctl_meets (provides.accepts _)).bind ?_
  intro _ _ _ second
  obtain ⟨rfl, rfl⟩ := second
  have granted : device.memAlloc (d₁.calls + 1 + 1) = some layout.scratchpad := by
    rw [calls₁]
    exact provides.scratchpad
  have scratchpad : Meets (allocGpuPages device.toKernel fd 8#32 0xC#32) { d₁ with calls := d₁.calls + 1 + 1 } _ :=
    (allocGpuPages_meets granted (by decide)).and (allocGpuPages_quiet.keeps _)
  refine (Meets.drive scratchpad).bind ?_
  intro _ _ _ reserved
  obtain ⟨e₂, rfl, ⟨-, rfl, rfl⟩, -, sent₂, -⟩ := reserved
  have granted' : device.memAlloc (d₁.calls + 1 + 1 + 1) = some layout.heap := by
    rw [calls₁]
    exact provides.heap
  have heap : Meets (allocGpuHeap device fd 0x8000#32) { d₁ with calls := d₁.calls + 1 + 1 + 1 } _ :=
    (ioctlMemAlloc_meets granted').and (ioctlMemAlloc_quiet.keeps _)
  refine (Meets.drive heap).bind ?_
  intro _ _ _ reserved
  obtain ⟨e₃, rfl, ⟨-, rfl, rfl⟩, -, sent₃, -⟩ := reserved
  rw [meets_pure]
  refine ⟨?_, rfl, ⟨arena.cursor, arena.zeroed⟩, ⟨same.atomCount, same.queued⟩, ?_⟩
  · have plain₂ := plain_of_quiet sent₂
    have plain₃ := plain_of_quiet sent₃
    simp only [List.cons_append, List.nil_append, List.append_nil, List.forall_mem_cons, List.forall_mem_append]
    exact ⟨rfl, plain₁, rfl, rfl, plain₂, plain₃⟩
  · show d₁.calls + 1 + 1 + 1 + 1 = 11
    rw [calls₁]

theorem Device.Provides.serves (provides : device.Provides layout)
    (apart : layout.Apart vertexShader fragmentShader resource resource') (calls : d.calls = 11) (empty : d.atomQueueSize = 0) :
    Serves device.toKernel layout.base d vertexShader fragmentShader layout.gpu layout.gpu' layout.cpu layout.cpu' where
  zeroes := by
    rw [calls]
    exact provides.zeroes.1
  vertex := by
    rw [calls]
    exact provides.vertex
  fragment := by
    rw [calls]
    exact provides.fragment
  vertexApart := (apart.vertex.mono_right Set.subset_union_left).symm
  fragmentApart := apart.fragment
  shadersApart := apart.shaders
  room := by
    rw [empty]
    decide
  submits := fun _ => provides.submits _

/-- The mappings of the program when it submits its frame, the latest first. -/
def Layout.maps (layout : Layout) (device : Device) (vertexShader fragmentShader : Buffer) : List (MappedMemory 32) := [
  layout.fragmentBlock fragmentShader, layout.vertexBlock vertexShader, layout.zeroBlock, layout.arenaBlock,
  ⟨pageSize, device.mmap64 2, 0#64⟩]

theorem Device.Provides.account_maps (provides : device.Provides layout) :
    (Account.chain device.toKernel vertexShader fragmentShader (Account.setUp device.toKernel (opened device))).maps =
      layout.maps device vertexShader fragmentShader := by
  have reserved (n : Nat) (gpu : BitVec 64) (granted : device.memAlloc n = some gpu) : (device.memAlloc n).getD 0#64 = gpu := by
    rw [granted, Option.getD_some]
  change ([⟨pagesLength (importPages fragmentShader), device.mmap64 16, (device.memAlloc 15).getD 0#64⟩,
    ⟨pagesLength (importPages vertexShader), device.mmap64 14, (device.memAlloc 13).getD 0#64⟩,
    ⟨pagesLength 0x20#32, device.mmap64 12, (device.mmap64 12).setWidth 64⟩,
    ⟨pagesLength (BitVec.ofNat 32 cbmaPages), device.mmap64 6, (device.mmap64 6).setWidth 64⟩,
    ⟨pageSize, device.mmap64 2, 0#64⟩] : List (MappedMemory 32)) = _
  rw [provides.vertex.mapped, provides.fragment.mapped, provides.zeroes.2, provides.arena.2,
    reserved 15 layout.gpu' provides.fragment.granted, reserved 13 layout.gpu provides.vertex.granted]
  rfl

/-- What the program puts out: it sets up its memory, which its account tells of, and submits the atoms of its frame. -/
structure Drawn (device : Device) (layout : Layout) (vertexShader fragmentShader : Buffer) (resource resource' : BitVec 32)
    (mem : Memory 32) (opening before : List SessionEvent) (batch : List (MaliJdAtomV2 32)) (m : Memory 32) : Prop where
  opens : ∃ d, Runs (openKernelModule device) (State.start mem) opening (device.openAt 0) d
  orderly : (keeper device.toKernel (device.openAt 0)).Orderly (opened device) before
  maps : ((keeper device.toKernel (device.openAt 0)).account (opened device) before).maps =
    layout.maps device vertexShader fragmentShader
  plain : ∀ event ∈ opening ++ before, event.plain = true
  atoms : batch = frameAtoms layout.base 3 resource resource' 0#32
  laid : JobsLaid layout.base
    (frameJobs layout.base 1 corners vertexShader chaiTriangleFan layout.heap layout.scratchpad layout.gpu layout.cpu) batch m

theorem main_meets (provides : device.Provides layout)
    (apart : layout.Apart vertexShader fragmentShader resource resource') (mem : Memory 32) :
    Meets (main device vertexShader fragmentShader resource resource') (State.start mem) fun events _ d' =>
      ∃ opening before batch, events = opening ++ before ++ [.driver (.jobSubmit (device.openAt 0) batch)] ∧
        Drawn device layout vertexShader fragmentShader resource resource' mem opening before batch d'.mem := by
  have opening : Meets (openKernelModule device) (State.start mem) _ :=
    openKernelModule_meets rfl provides.opens.2 provides.accepts provides.handle
  unfold main
  refine (opening.and fun _ _ _ runs => runs).bind ?_
  intro opening _ _ opens
  obtain ⟨⟨rfl, rfl, plain₀⟩, opens⟩ := opens
  have told : (opened device).Tells { State.start mem with calls := 4 } := rfl
  have ready : Meets (setUp device (device.openAt 0)) { State.start mem with calls := 4 } _ :=
    (setUp_meets provides apart.placed rfl).and (uses_setUp _ _ told)
  refine ready.bind ?_
  intro e₁ areas d₁ ready
  obtain ⟨⟨plain₁, rfl, arena, same, calls⟩, orderly₁, account₁, told₁⟩ := ready
  have none : d₁.atomQueueSize = 0 := by rw [← queued_length, same.queued]; rfl
  have count : d₁.atomCount = 0#32 := same.atomCount
  have room : 1 + (25 + corners.kilobytes) ≤ arenaSlots := by decide
  have clean : (Job.vertexTiler 1 corners vertexShader chaiTriangleFan layout.scratchpad layout.gpu layout.cpu).Clean
      layout.base := ⟨apart.untrapped, apart.page.1, provides.vertex.nonnull⟩
  have drawn : Meets (frame device.toKernel (device.openAt 0) corners chaiTriangleFan vertexShader fragmentShader layout.heap
      layout.scratchpad 0x1CAFE0000#64 resource resource') d₁ _ :=
    frame_meets arena (by decide) room (provides.serves apart calls none) clean provides.submits none apart.lists apart.vertex
  unfold printf
  simp only [meets_bind, drive, meets_embed, meets_put]
  refine drawn.mono ?_
  intro _ _ d₂ built
  obtain ⟨inner, d₃, atoms, runs, rfl, sent, named, laid⟩ := built
  rw [count] at named
  let prints : List SessionEvent := [.driver (.print "Allocated what we need..\n" []), .driver (.print "Tiling...\n" [])]
  have a₁ : (keeper device.toKernel (device.openAt 0)).account (opened device) e₁ =
      Account.setUp device.toKernel (opened device) := account₁
  rw [a₁] at told₁
  have chains : _ ∧ _ ∧ _ := keeps_frameChains d₁ _ told₁ _ _ _ runs
  obtain ⟨orderly₂, blocks, -⟩ := chains
  rw [driveKeeper, orderly_comap] at orderly₂
  rw [driveKeeper, account_comap] at blocks
  refine ⟨opening, e₁ ++ (prints ++ inner.map .driver), atoms, ?_, ⟨_, opens⟩, ?_, ?_, ?_, named, laid⟩
  · rw [List.map_append]
    simp only [List.append_assoc, prints, List.cons_append, List.nil_append]
    rfl
  · rw [orderly_append, a₁]
    exact ⟨orderly₁, trivial, trivial, orderly₂⟩
  · rw [account_append, a₁]
    exact (congrArg Prod.snd blocks).trans provides.account_maps
  · simp only [List.forall_mem_append]
    exact ⟨plain₀, plain₁, by decide, plain_of_quiet sent⟩

theorem Layout.arenaBlock_length (layout : Layout) : layout.arenaBlock.length.toNat = 0x400 * arenaSlots := by
  show (pagesLength (BitVec.ofNat 32 cbmaPages)).toNat = _
  decide

theorem block_length {shader : Buffer} (fits : importedLength shader < 2 ^ 32) :
    (pagesLength (importPages shader)).toNat = importedLength shader := by
  have length := shader.fits
  unfold importedLength at *
  unfold pagesLength importPages pageShift Buffer.size
  rw [BitVec.toNat_shiftLeft, BitVec.toNat_add, BitVec.toNat_ushiftRight, BitVec.toNat_ofNat, BitVec.toNat_ofNat,
    Nat.shiftLeft_eq, Nat.shiftRight_eq_div_pow]
  omega

section Found

variable {env : Env 32} (apart : layout.Apart vertexShader fragmentShader resource resource')
  (maps : env.mmaps = layout.maps device vertexShader fragmentShader)
include apart maps

theorem maps_arena : ArenaResolves env layout.base := by
  have found : env.mmaps = [layout.fragmentBlock fragmentShader, layout.vertexBlock vertexShader, layout.zeroBlock] ++
      layout.arenaBlock :: [⟨pageSize, device.mmap64 2, 0#64⟩] := maps
  have length := layout.arenaBlock_length
  have base : layout.arenaBlock.gpuVa.toNat = layout.base.toNat := BitVec.toNat_setWidth_of_le (by decide)
  have stop : layout.arenaBlock.gpuSpan.stop < 2 ^ 64 := by
    change layout.arenaBlock.gpuVa.toNat + layout.arenaBlock.length.toNat < 2 ^ 64
    rw [base, length]
    exact Nat.lt_trans apart.inner.2 (by decide)
  intro off n behind some fits
  have fetched := block_fetch found (by rw [base]; exact apart.inner.1) stop apart.arenaSeen behind some
    (by rw [length]; exact fits)
  exact fetched

theorem maps_shader : Resolves env layout.gpu layout.cpu (importedLength vertexShader) := by
  have found : env.mmaps = [layout.fragmentBlock fragmentShader] ++
      layout.vertexBlock vertexShader :: [layout.zeroBlock, layout.arenaBlock, ⟨pageSize, device.mmap64 2, 0#64⟩] := maps
  have length : (layout.vertexBlock vertexShader).length.toNat = importedLength vertexShader := block_length apart.fits.1
  have stop : (layout.vertexBlock vertexShader).gpuSpan.stop < 2 ^ 64 := by
    change layout.gpu.toNat + (layout.vertexBlock vertexShader).length.toNat < 2 ^ 64
    rw [length]
    exact apart.fits.2
  have resolves := block_resolves found apart.page.2 stop (List.forall_mem_singleton.mpr apart.shaderSeen)
  rw [length] at resolves
  exact resolves

theorem maps_gated {i : Nat} (inside : i < arenaSlots) : Gated env (jobAddress layout.base i) := by
  have member : layout.arenaBlock ∈ env.mmaps := by
    rw [maps]
    exact List.mem_cons_of_mem _ (List.mem_cons_of_mem _ (List.mem_cons_of_mem _ List.mem_cons_self))
  have placed : Placed layout.arenaBlock.addr := apart.placed
  have gated := arena_gated placed member layout.arenaBlock_length apart.inner.2 inside
  exact gated

end Found

/-- Whatever else panwrap does, when the program submits its frame it finds in it the frame that the program asked for. -/
theorem main_decodes (provides : device.Provides layout)
    (apart : layout.Apart vertexShader fragmentShader resource resource') (mem : Memory 32) :
    Meets (main device vertexShader fragmentShader resource resource') (State.start mem) fun events _ d' =>
      ∃ before first second third,
        events = before ++ [.driver (.jobSubmit (device.openAt 0) [first, second, third])] ∧
        ∀ cfg proc, (∃ seen σ, Observes device 0 before seen ∧ Run (Step cfg) (start proc) seen σ) ∧
          ∀ seen σ, Observes device 0 before seen → Run (Step cfg) (start proc) seen σ → ∀ s ptr p,
            HandsIn (slots layout.base 0 arenaSlots ∪ region layout.cpu vertexShader.bytes.length) [first, second, third]
              d'.mem s.mem ptr p →
            FrameDecodes (cfg.env σ.tracker.mmaps) s ptr layout.heap layout.scratchpad layout.gpu vertexShader third.jc := by
  refine (main_meets provides apart mem).mono ?_
  intro events _ d' built
  obtain ⟨opening, before, _, rfl, drawn⟩ := built
  obtain ⟨d, opens⟩ := drawn.opens
  have laid := drawn.laid
  rw [drawn.atoms] at laid ⊢
  refine ⟨opening ++ before, _, _, _, rfl, ?_⟩
  intro cfg proc
  constructor
  · obtain ⟨seen, observes, silent⟩ := plain_observed drawn.plain 0
    obtain ⟨σ, run⟩ := run_of_plain cfg silent (start proc)
    exact ⟨seen, σ, observes, run⟩
  · intro seen σ observes run s ptr p hands
    have tracked := opened_tracks opens rfl provides.opens.1 drawn.orderly observes run
    have maps : (cfg.env σ.tracker.mmaps).mmaps = layout.maps device vertexShader fragmentShader := by
      rw [tracked]
      exact drawn.maps
    exact laid.frame apart.placed (maps_arena apart maps) (fun _ => maps_gated apart maps) (maps_shader apart maps) hands

end Whole

section Witness

/-- A block whose end is before another's start touches none of its addresses. -/
theorem gpuContains_apart {e block : MappedMemory 32}
    (apart : block.gpuSpan.stop ≤ e.gpuVa.toNat ∨ e.gpuSpan.stop < block.gpuVa.toNat) {addr : BitVec 64}
    (inside : block.gpuSpan.Holds addr.toNat) : e.gpuContains addr = false := by
  rw [← Bool.not_eq_true]
  intro contains
  obtain ⟨low, high, -⟩ := gpuContains_bounds (by decide) contains
  obtain ⟨low', high'⟩ := inside
  change block.gpuVa.toNat ≤ addr.toNat at low'
  omega

def spreadLayout : Layout where
  scratchpad := 0x29000000#64
  heap := 0x2A000000#64
  base := 0x16000000#32
  zeroes := 0x1C000000#32
  gpu := 0x2D000000#64
  cpu := 0x1E000000#32
  gpu' := 0x2F000000#64
  cpu' := 0x20000000#32

theorem spreadingDevice_provides : spreadingDevice.Provides spreadLayout where
  opens := ⟨by decide, by decide⟩
  accepts := fun _ => rfl
  handle := by decide
  arena := ⟨rfl, rfl⟩
  scratchpad := rfl
  heap := rfl
  zeroes := ⟨rfl, rfl⟩
  vertex := ⟨rfl, rfl, by decide, by decide⟩
  fragment := ⟨rfl, rfl, by decide, by decide⟩
  submits := fun _ => rfl

theorem spreadLayout_apart : spreadLayout.Apart sampleShader sampleShader 0x9000#32 0x9100#32 := by
  have code : region spreadLayout.cpu sampleShader.bytes.length = between 32 0x1E000000 0x1E000040 := region_between (by decide)
  have code' : region spreadLayout.cpu' sampleShader.bytes.length = between 32 0x20000000 0x20000040 := region_between (by decide)
  have list : region 0x9000#32 8 = between 32 0x9000 0x9008 := region_between (by decide)
  have list' : region 0x9100#32 8 = between 32 0x9100 0x9108 := region_between (by decide)
  refine {
    placed := ⟨by decide, by decide⟩
    inner := ⟨by decide, by decide⟩
    lists := ?_
    vertex := ?_
    fragment := ?_
    shaders := ?_
    page := ⟨by decide, by decide⟩
    fits := ⟨by decide, by decide⟩
    arenaSeen := ?_
    shaderSeen := fun _ => gpuContains_apart (.inl (by decide))
    untrapped := by decide }
  · rw [list, list', Set.disjoint_union_right]
    exact ⟨between_disjoint (by decide), between_disjoint (by decide)⟩
  · rw [code, list, list', Set.disjoint_union_right, Set.disjoint_union_right]
    exact ⟨between_disjoint (by decide), between_disjoint (by decide), between_disjoint (by decide)⟩
  · rw [code']
    exact between_disjoint (by decide)
  · rw [code, code']
    exact between_disjoint (by decide)
  · simp only [List.forall_mem_cons]
    exact ⟨fun _ _ => gpuContains_apart (.inl (by decide)), fun _ _ => gpuContains_apart (.inl (by decide)),
      fun _ _ => gpuContains_apart (.inl (by decide)), fun _ none => absurd none List.not_mem_nil⟩

theorem prototype_decodes :
    ∃ before first second third d' seen σ,
      Runs (main spreadingDevice sampleShader sampleShader 0x9000#32 0x9100#32) (State.start fun _ => 0#8)
        (before ++ [.driver (.jobSubmit 3#32 [first, second, third])]) () d' ∧
      Observes spreadingDevice 0 before seen ∧ Run (Step x86) (start ⟨fun _ => 0#8, 0⟩) seen σ ∧
      FrameDecodes (x86.env σ.tracker.mmaps) ⟨handedIn d'.mem 0x8000#32 0x8100#32 [first, second, third], 0⟩ 0x8000#32
        0x2A000000#64 0x29000000#64 0x2D000000#64 sampleShader third.jc := by
  have meets : Meets (main spreadingDevice sampleShader sampleShader 0x9000#32 0x9100#32) (State.start fun _ => 0#8) _ :=
    main_decodes spreadingDevice_provides spreadLayout_apart _
  obtain ⟨_, _, d', runs, before, first, second, third, rfl, decodes⟩ := meets
  obtain ⟨⟨seen, σ, observes, run⟩, decodes⟩ := decodes x86 ⟨fun _ => 0#8, 0⟩
  refine ⟨before, first, second, third, d', seen, σ, runs, observes, run, ?_⟩
  apply decodes seen σ observes run _ _ 0x8100#32
  have array : region 0x8100#32 (MaliJdAtomV2.size * [first, second, third].length) = between 32 0x8100 0x8190 :=
    region_between (n := 144) (by decide)
  have argument : region 0x8000#32 24 = between 32 0x8000 0x8018 := region_between (by decide)
  have code : region spreadLayout.cpu sampleShader.bytes.length = between 32 0x1E000000 0x1E000040 := region_between (by decide)
  have small : MaliJdAtomV2.size * [first, second, third].length ≤ 2 ^ 32 := Nat.le_of_ble_eq_true rfl
  apply handedIn_handsIn ⟨by decide, by decide⟩ small
  · rw [array, argument]
    exact between_disjoint (by decide)
  · rw [batchRegion, array, argument, code, Set.disjoint_union_left, Set.disjoint_union_right, Set.disjoint_union_right]
    exact ⟨⟨between_disjoint (by decide), between_disjoint (by decide)⟩,
      between_disjoint (by decide), between_disjoint (by decide)⟩

end Witness

end Driver
