import Pantry.Driver.Workload

namespace Driver

open Machine Panwrap Decoder Program

section Frame

variable (kernel : Kernel) (fd : BitVec 32) (vertices : Buffer) (mode : BitVec 32) (vertexShader fragmentShader : Buffer)
  (heapFreeAddress scratchpad framebuffer : BitVec 64) (resource resource' : BitVec 32)

/-- The chains of one frame, as `main` submits them. `resource` and `resource'` are the addresses that `calloc`
    and `malloc` give to their lists of external resources. -/
def frameChains : Drive Unit := do
  let tilerJc ← jobChainVertexTiler kernel fd vertices mode vertexShader fragmentShader heapFreeAddress scratchpad
  let fragmentJc ← jobChainFragment kernel fd framebuffer heapFreeAddress scratchpad resource
  jobChainReplay kernel fd tilerJc fragmentJc heapFreeAddress framebuffer resource'

def frame : Drive Unit := do
  frameChains kernel fd vertices mode vertexShader fragmentShader heapFreeAddress scratchpad framebuffer resource resource'
  flushJobQueue kernel fd

end Frame

def frameJobs (base : BitVec 32) (b : Nat) (vertices vertexShader : Buffer) (mode : BitVec 32) (heap scratchpad gpu : BitVec 64)
    (cpu : BitVec 32) : List Job :=
  let f := b + (2 + vertices.kilobytes)
  [.vertexTiler b vertices vertexShader mode scratchpad gpu cpu, .fragment (f + 20) heap scratchpad,
    .replay (f + 22) (slot base (f + 11)) (slot base (f + 20)) heap]

def frameAtoms (base : BitVec 32) (f : Nat) (resource resource' count : BitVec 32) : List (MaliJdAtomV2 32) := [
  vertexTilerAtom (jobAddress base (f + 1)) ((count + 1#32).setWidth 8),
  fragmentChainAtom base (f + 20) resource (count + 1#32),
  replayChainAtom base (f + 22) resource' (count + 1#32 + 1#32)]

section Build

variable {kernel : Kernel} {fd base resource resource' mode cpu cpu' : BitVec 32} {k : Nat} {d : State}
  {vertices vertexShader fragmentShader : Buffer} {heap scratchpad framebuffer gpu gpu' : BitVec 64}

theorem frameChains_meets (arena : Arena base k d) (started : 0 < k) (room : k + (25 + vertices.kilobytes) ≤ arenaSlots)
    (serves : Serves kernel base d vertexShader fragmentShader gpu gpu' cpu cpu')
    (clean : (Job.vertexTiler k vertices vertexShader mode scratchpad gpu cpu).Clean base)
    (accepts : ∀ n, kernel.jobSubmit n = true) (empty : d.atomQueueSize = 0)
    (apart : Disjoint (slots base 0 arenaSlots) (region resource 8 ∪ region resource' 8))
    (codeApart : Disjoint (region cpu vertexShader.bytes.length)
      (slots base 0 arenaSlots ∪ (region resource 8 ∪ region resource' 8))) :
    Meets (frameChains kernel fd vertices mode vertexShader fragmentShader heap scratchpad framebuffer resource resource') d
      fun events _ d' =>
        batches events = [] ∧ d'.queued = frameAtoms base (k + (2 + vertices.kilobytes)) resource resource' d.atomCount ∧
          JobsLaid base (frameJobs base k vertices vertexShader mode heap scratchpad gpu cpu) d'.queued d'.mem := by
  have none : d.queued = [] := queued_empty empty
  have lists := Set.disjoint_union_right.mp apart
  have codeLists := Set.disjoint_union_right.mp (Set.disjoint_union_right.mp codeApart).2
  unfold frameChains
  apply ((working_start arena started empty).vertexTiler (by omega) serves clean
    fun _ member => absurd member List.not_mem_nil).bind
  intro e₁ _ d₁ first
  obtain ⟨rfl, count₁, adds₁⟩ := first
  obtain ⟨sent₁, queued₁, working₁⟩ := adds₁.kept (by rw [none]; decide)
  rw [none] at queued₁
  apply (working₁.fragment (by change _ + 20 + 2 ≤ arenaSlots; omega) accepts lists.1
    (List.forall_mem_singleton.mpr codeLists.1)).bind
  intro e₂ _ d₂ second
  obtain ⟨rfl, count₂, adds₂⟩ := second
  obtain ⟨sent₂, queued₂, working₂⟩ := adds₂.kept (by rw [queued₁]; exact (by decide : 2 < atomQueueMax))
  rw [queued₁] at queued₂
  apply (working₂.replay (by change _ + 20 + 2 + 1 ≤ arenaSlots; omega) accepts lists.2
    (List.forall_mem_cons.mpr ⟨codeLists.2, List.forall_mem_singleton.mpr (Set.empty_disjoint _)⟩)).mono
  intro e₃ _ d₃ third
  obtain ⟨-, adds₃⟩ := third
  obtain ⟨sent₃, queued₃, working₃⟩ := adds₃.kept (by rw [queued₂]; exact (by decide : 3 < atomQueueMax))
  rw [queued₂, count₂, count₁] at queued₃
  refine ⟨?_, queued₃, working₃.laid⟩
  rw [batches_append, batches_append, sent₁, sent₂, sent₃]
  rfl

theorem flushJobQueue_sends (some : d.atomQueueSize ≠ 0) :
    After (flushJobQueue kernel fd) d fun events _ _ => events = [.jobSubmit fd d.queued] := by
  unfold flushJobQueue ioctlJobSubmit
  rw [after_bind, after_get, if_pos some]
  simp only [after_bind, after_get, after_put, after_modify]
  split
  · rw [after_pure]
    rfl
  · exact after_badIoctl

theorem frame_meets (arena : Arena base k d) (started : 0 < k) (room : k + (25 + vertices.kilobytes) ≤ arenaSlots)
    (serves : Serves kernel base d vertexShader fragmentShader gpu gpu' cpu cpu')
    (clean : (Job.vertexTiler k vertices vertexShader mode scratchpad gpu cpu).Clean base)
    (accepts : ∀ n, kernel.jobSubmit n = true) (empty : d.atomQueueSize = 0)
    (apart : Disjoint (slots base 0 arenaSlots) (region resource 8 ∪ region resource' 8))
    (codeApart : Disjoint (region cpu vertexShader.bytes.length)
      (slots base 0 arenaSlots ∪ (region resource 8 ∪ region resource' 8))) :
    Meets (frame kernel fd vertices mode vertexShader fragmentShader heap scratchpad framebuffer resource resource') d
      fun events _ d' => ∃ before middle atoms,
        Runs (frameChains kernel fd vertices mode vertexShader fragmentShader heap scratchpad framebuffer resource resource') d
          before () middle ∧
        events = before ++ [.jobSubmit fd atoms] ∧ batches before = [] ∧
        atoms = frameAtoms base (k + (2 + vertices.kilobytes)) resource resource' d.atomCount ∧
        JobsLaid base (frameJobs base k vertices vertexShader mode heap scratchpad gpu cpu) atoms d'.mem := by
  have chains : Meets (frameChains kernel fd vertices mode vertexShader fragmentShader heap scratchpad framebuffer resource
      resource') d _ := frameChains_meets arena started room serves clean accepts empty apart codeApart
  obtain ⟨before, _, middle, runs, sent, queued, laid⟩ := chains
  have some : middle.atomQueueSize ≠ 0 := by
    rw [← queued_length, queued]
    exact Nat.succ_ne_zero 2
  unfold frame
  rw [meets_bind]
  refine ⟨before, (), middle, runs, ?_⟩
  apply ((flushJobQueue_meets some (accepts _)).and (flushJobQueue_sends some)).mono
  intro events _ d' flush
  obtain ⟨⟨-, rfl⟩, rfl⟩ := flush
  exact ⟨before, middle, middle.queued, runs, rfl, sent, queued, laid⟩

end Build

section Decode

/-- The submission at `ptr` decodes to the frame that was asked for: its jobs in an order they can run in, the
    framebuffers and the code they name, and a replay of the tiler job and the fragment job. -/
def FrameDecodes (env : Env 32) (s : Proc 32) (ptr : BitVec 32) (heap scratchpad gpu : BitVec 64) (vertexShader : Buffer)
    (replay : BitVec 64) : Prop :=
  ∃ set vertex tiler fragment fbd fbd' t,
    Yields (fun fuel => ioctlDecodePreJobSubmit env fuel ptr) s [
      .atom 0, .descriptor set jobTypeSetValue.toNat, .setValue (scratchpad + svOffset),
      .descriptor vertex jobTypeVertex.toNat, .shader gpu, .attribute 0#64, .framebuffer fbd,
      .descriptor tiler jobTypeTiler.toNat,
      .atom 1, .descriptor fragment jobTypeFragment.toNat, .framebuffer fbd', .atom 2] () t ∧
    Ordered ([set, vertex, tiler].map fun chain => JobDescriptorHeader.load s.mem (headerOf env chain)) ∧
    (TentativeMfbd.load s.mem (fetchMappedGpu env.mmaps fbd (BitVec.ofNat 32 TentativeMfbd.size))).block2 0 =
      scratchpad + svOffset ∧
    s.mem.bytes (fetchMappedGpu env.mmaps gpu (BitVec.ofNat 32 (0x880 - 0x540))) vertexShader.bytes.length =
      vertexShader.bytes ∧
    FragmentFbd heap scratchpad
      (TentativeMfbd.load s.mem (fetchMappedGpu env.mmaps fbd' (BitVec.ofNat 32 TentativeMfbd.size))) ∧
    MaliJdReplayPayload.load s.mem (fetchMappedGpu env.mmaps replay (BitVec.ofNat 32 MaliJdReplayPayload.size)) =
      replayPayload (tiler.setWidth 32) (fragment.setWidth 32) heap

variable {kernel : Kernel} {fd base resource resource' mode cpu cpu' : BitVec 32} {k : Nat} {d : State}
  {vertices vertexShader fragmentShader : Buffer} {heap scratchpad framebuffer gpu gpu' : BitVec 64}

theorem JobsLaid.frame {env : Env 32} {s : Proc 32} {ptr p : BitVec 32} {m : Memory 32} {atoms : List (MaliJdAtomV2 32)}
    (laid : JobsLaid base (frameJobs base k vertices vertexShader mode heap scratchpad gpu cpu) atoms m) (placed : Placed base)
    (resolves : ArenaResolves env base) (tracked : ∀ i < arenaSlots, Gated env (jobAddress base i))
    (shader : Resolves env gpu cpu (importedLength vertexShader))
    (hands : HandsIn (slots base 0 arenaSlots ∪ region cpu vertexShader.bytes.length) atoms m s.mem ptr p) :
    FrameDecodes env s ptr heap scratchpad gpu vertexShader (jobAddress base (k + (2 + vertices.kilobytes) + 22)) := by
  have bytes : codes (frameJobs base k vertices vertexShader mode heap scratchpad gpu cpu) =
      region cpu vertexShader.bytes.length := by
    ext a
    simp [codes, frameJobs, Job.code]
  have small : MaliJdAtomV2.size * atoms.length ≤ 2 ^ 32 := by
    rw [← laid.named.length_eq]
    exact Nat.le_of_ble_eq_true rfl
  rw [← bytes] at hands
  have found : ∀ job ∈ frameJobs base k vertices vertexShader mode heap scratchpad gpu cpu, job.Found env :=
    List.forall_mem_cons.mpr ⟨shader, List.forall_mem_cons.mpr ⟨trivial, List.forall_mem_singleton.mpr trivial⟩⟩
  obtain ⟨yields, shown⟩ := laid.decodes placed small resolves tracked found hands
  obtain ⟨chain, others⟩ := List.forall_mem_cons.mp shown
  obtain ⟨fragment, last⟩ := List.forall_mem_cons.mp others
  have address (i : Nat) : (jobAddress base i).setWidth 32 = slot base i := by
    rw [jobAddress, BitVec.setWidth_setWidth_of_le _ (by decide), BitVec.setWidth_eq]
  refine ⟨_, _, _, _, _, _, _, yields, chain.1, chain.2.1, chain.2.2, fragment, ?_⟩
  have replay := List.forall_mem_singleton.mp last
  rw [address, address]
  exact replay

theorem frame_decodes (arena : Arena base k d) (started : 0 < k) (room : k + (25 + vertices.kilobytes) ≤ arenaSlots)
    (serves : Serves kernel base d vertexShader fragmentShader gpu gpu' cpu cpu')
    (accepts : ∀ n, kernel.jobSubmit n = true) (empty : d.atomQueueSize = 0)
    (apart : Disjoint (slots base 0 arenaSlots) (region resource 8 ∪ region resource' 8))
    (codeApart : Disjoint (region cpu vertexShader.bytes.length)
      (slots base 0 arenaSlots ∪ (region resource 8 ∪ region resource' 8)))
    (aligned : gpu.toNat % 0x1000 = 0) (untrapped : sabotaged (slot base (k + (2 + vertices.kilobytes) + 5)) = false) :
    Meets (frame kernel fd vertices mode vertexShader fragmentShader heap scratchpad framebuffer resource resource') d
      fun events _ d' => ∃ first second third, batches events = [[first, second, third]] ∧
        ∀ env s ptr p, ArenaResolves env base → (∀ i < arenaSlots, Gated env (jobAddress base i)) →
          Resolves env gpu cpu (importedLength vertexShader) →
          HandsIn (slots base 0 arenaSlots ∪ region cpu vertexShader.bytes.length) [first, second, third] d'.mem s.mem ptr p →
          FrameDecodes env s ptr heap scratchpad gpu vertexShader third.jc := by
  have clean : (Job.vertexTiler k vertices vertexShader mode scratchpad gpu cpu).Clean base :=
    ⟨untrapped, aligned, serves.vertex.nonnull⟩
  refine (frame_meets arena started room serves clean accepts empty apart codeApart).mono ?_
  intro events _ d' built
  obtain ⟨before, _, _, -, rfl, sent, rfl, laid⟩ := built
  refine ⟨_, _, _, by rw [batches_append, sent]; rfl, ?_⟩
  intro env s ptr p resolves tracked shader hands
  exact laid.frame arena.cursor.placed resolves tracked shader hands

theorem triangle_frame_decodes :
    ∃ events packet d' first second third,
      Runs (frame spreadingKernel 3#32 triangle 4#32 tinyShader tinyShader 0x40000000#64 0x30000000#64 0x1CAFE0000#64
        0x9000#32 0x9100#32) initialised events packet d' ∧
      batches events = [[first, second, third]] ∧
      FrameDecodes tracedMappings ⟨handedIn d'.mem 0x8000#32 0x8100#32 [first, second, third], 0⟩ 0x8000#32 0x40000000#64
        0x30000000#64 0x24000000#64 tinyShader third.jc := by
  have code : region 0x15000000#32 tinyShader.bytes.length = between 32 0x15000000 0x15000003 := region_between (by decide)
  have lists : Disjoint (slots 0x11000000#32 0 arenaSlots) (region 0x9000#32 8 ∪ region 0x9100#32 8) := by
    rw [region_between (by decide), region_between (by decide), Set.disjoint_union_right]
    exact ⟨between_disjoint (by decide), between_disjoint (by decide)⟩
  have codeApart : Disjoint (region 0x15000000#32 tinyShader.bytes.length)
      (slots 0x11000000#32 0 arenaSlots ∪ (region 0x9000#32 8 ∪ region 0x9100#32 8)) := by
    rw [code, region_between (by decide), region_between (by decide), Set.disjoint_union_right, Set.disjoint_union_right]
    exact ⟨between_disjoint (by decide), between_disjoint (by decide), between_disjoint (by decide)⟩
  have meets : Meets (frame spreadingKernel 3#32 triangle 4#32 tinyShader tinyShader 0x40000000#64 0x30000000#64
      0x1CAFE0000#64 0x9000#32 0x9100#32) initialised _ :=
    frame_decodes initialised_arena (by decide) (by decide) spreadingKernel_serves (fun _ => rfl) rfl lists codeApart
      (by decide) (by decide)
  obtain ⟨events, packet, d', runs, first, second, third, sent, decodes⟩ := meets
  refine ⟨events, packet, d', first, second, third, runs, sent, ?_⟩
  apply decodes _ _ _ 0x8100#32 tracedMappings_arena (fun _ => tracedMappings_gated) tracedMappings_shader
  have array : region 0x8100#32 (MaliJdAtomV2.size * [first, second, third].length) = between 32 0x8100 0x8190 :=
    region_between (n := 144) (by decide)
  have argument : region 0x8000#32 24 = between 32 0x8000 0x8018 := region_between (by decide)
  have small : MaliJdAtomV2.size * [first, second, third].length ≤ 2 ^ 32 := Nat.le_of_ble_eq_true rfl
  apply handedIn_handsIn ⟨by decide, by decide⟩ small
  · rw [array, argument]
    exact between_disjoint (by decide)
  · rw [batchRegion, array, argument, code, Set.disjoint_union_left, Set.disjoint_union_right, Set.disjoint_union_right]
    exact ⟨⟨between_disjoint (by decide), between_disjoint (by decide)⟩,
      between_disjoint (by decide), between_disjoint (by decide)⟩

end Decode

end Driver
