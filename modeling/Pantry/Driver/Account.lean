import Pantry.Driver.Session
import Pantry.Machine.Bookkeeping

namespace Driver

open Machine Panwrap Decoder Program Bookkeeper

/-- The driver's own account of its memory: the blocks it has reserved and not mapped, and its mappings, the latest
    first. -/
structure Account where
  calls : Nat := 0
  pending : List AllocatedMemory := []
  maps : List (MappedMemory 32) := []

namespace Account

variable (kernel : Kernel) (a : Account)

def call : Account := { a with calls := a.calls + 1 }

def reserve (sameVa : Bool) : Account :=
  { a with calls := a.calls + 1, pending := ⟨(kernel.memAlloc a.calls).getD 0#64, sameVa⟩ :: a.pending }

/-- The driver maps no block but the one that it reserved last. -/
def map (length : BitVec 32) : Account where
  calls := a.calls + 1
  pending := a.pending.tail
  maps := ⟨length, kernel.mmap64 a.calls, match a.pending.head? with
    | some block => if block.sameVa then (kernel.mmap64 a.calls).setWidth 64 else block.gpuVa
    | none => 0#64⟩ :: a.maps

def block (sameVa : Bool) (length : BitVec 32) : Account := (a.reserve kernel sameVa).map kernel length

/-- The tracking handle is no block: the GPU does not see it. -/
def handle (length : BitVec 32) : Account :=
  { a with calls := a.calls + 1, maps := ⟨length, kernel.mmap64 a.calls, 0#64⟩ :: a.maps }

def see : SessionEvent → Account
  | .driver (.print ..) => a
  | .driver (.submitted ..) => a
  | .driver (.memAlloc _ _ _ _ flags) => a.reserve kernel (flags &&& Panwrap.maliMemSameVa ≠ 0#64)
  | .driver (.mmap64 _ length _) => a.map kernel length
  | .mmap _ length _ => a.handle kernel length
  | _ => a.call

/-- The memory calls are made on `fd`; what is mapped is the block that was reserved last. -/
def Fits (fd : BitVec 32) : SessionEvent → Prop
  | .driver (.memAlloc device ..) => device = fd
  | .driver (.mmap64 device _ offset) => device = fd ∧ ∃ block, a.pending.head? = some block ∧ block.gpuVa = offset
  | .mmap device _ offset => device = fd ∧ ∀ block ∈ a.pending, block.gpuVa ≠ offset.signExtend 64
  | .openAt .. => False
  | _ => True

end Account

def keeper (kernel : Kernel) (fd : BitVec 32) : Bookkeeper SessionEvent Account where
  see := Account.see kernel
  fits := fun a => a.Fits fd

def driveKeeper (kernel : Kernel) (fd : BitVec 32) : Bookkeeper Event Account := (keeper kernel fd).comap .driver

def Account.Tells (a : Account) (d : State) : Prop := a.calls = d.calls

def Account.blocks (a : Account) : List AllocatedMemory × List (MappedMemory 32) := (a.pending, a.maps)

/-- What `p` does to the account. -/
abbrev Uses {α : Type} (kernel : Kernel) (fd : BitVec 32) (p : Drive α) (effect : Account → Account) : Prop :=
  (driveKeeper kernel fd).Keeps Account.Tells id p effect

section Drive

variable {kernel : Kernel} {fd : BitVec 32} {α : Type}

theorem uses_modify {g : State → State} (same : ∀ d, (g d).calls = d.calls) : Uses kernel fd (modify g : Drive Unit) id :=
  keeps_modify fun _ d told => told.trans (same d).symm

theorem uses_printf {format : String} {args : List Arg} : Uses kernel fd (printf format args) id :=
  keeps_put (fun _ => ⟨trivial, trivial⟩) fun _ _ told => told

theorem uses_memcpy {p : BitVec 32} {off : Nat} {content : List Byte} : Uses kernel fd (memcpy p off content) id :=
  uses_modify fun _ => rfl

theorem uses_assign {p : BitVec 32} {off width : Nat} {value : BitVec width} : Uses kernel fd (assign p off value) id :=
  uses_modify fun _ => rfl

theorem uses_galloc {sz : BitVec 32} : Uses kernel fd (galloc sz) id := by
  unfold galloc
  refine (uses_modify ?_).before fun _ => keeps_get_bind fun _ => keeps_pure
  intro _
  rfl

theorem uses_setValueHelper {out : BitVec 64} : Uses kernel fd (setValueHelper out) id := by
  unfold setValueHelper
  exact uses_galloc.before fun _ => uses_memcpy.before fun _ => uses_memcpy.before fun _ => keeps_pure

theorem uses_makeMfbd {tiler : Bool} {heapFreeAddress scratchpad : BitVec 64} :
    Uses kernel fd (makeMfbd tiler heapFreeAddress scratchpad) id := by
  unfold makeMfbd
  refine uses_galloc.before fun _ => ?_
  iterate 8 refine uses_assign.before fun _ => ?_
  refine uses_assign.whenever.before fun _ => ?_
  iterate 5 refine uses_assign.before fun _ => ?_
  exact keeps_get_bind fun _ => uses_memcpy.before fun _ => keeps_pure

theorem uses_uploadVertices {vertices : Buffer} : Uses kernel fd (uploadVertices vertices) id := by
  unfold uploadVertices
  refine uses_galloc.before fun _ => uses_galloc.before fun _ => uses_memcpy.before fun _ => ?_
  iterate 3 refine uses_assign.before fun _ => ?_
  exact keeps_get_bind fun _ => uses_assign.before fun _ => keeps_pure

theorem uses_vertexTilerPayload {tiler : Bool} {fbd vertexBuffer zeroBuffer mode : BitVec 32} :
    Uses kernel fd (vertexTilerPayload tiler fbd vertexBuffer zeroBuffer mode) id := by
  unfold vertexTilerPayload
  iterate 7 refine uses_galloc.before fun _ => ?_
  exact keeps_pure

theorem uses_linkJobs {set vertex tiler : BitVec 32} : Uses kernel fd (linkJobs set vertex tiler) id := by
  unfold linkJobs
  iterate 5 refine uses_assign.before fun _ => ?_
  exact keeps_get_bind fun _ => uses_assign.before fun _ => keeps_get_bind fun _ => uses_assign

theorem ioctlMemAlloc_after {vaPages commitPages extent flags : BitVec 64} {d : State} :
    After (ioctlMemAlloc kernel fd vaPages commitPages extent flags) d fun events va d' =>
      events = [.memAlloc fd vaPages commitPages extent flags] ∧ kernel.memAlloc d.calls = some va ∧
        d' = { d with calls := d.calls + 1 } := by
  unfold ioctlMemAlloc
  simp only [after_bind, after_get, after_put, after_modify]
  split
  · rename_i va granted
    rw [after_pure]
    exact ⟨rfl, granted, rfl⟩
  · exact after_badIoctl

theorem uses_ioctlMemAlloc {vaPages commitPages extent flags : BitVec 64} :
    Uses kernel fd (ioctlMemAlloc kernel fd vaPages commitPages extent flags)
      fun a => a.reserve kernel (flags &&& Panwrap.maliMemSameVa ≠ 0#64) := by
  intro d a told
  refine ioctlMemAlloc_after.mono ?_
  intro events va d' reserved
  obtain ⟨rfl, -, rfl⟩ := reserved
  exact ⟨⟨rfl, trivial⟩, rfl, congrArg (· + 1) told⟩

theorem sameVa_signExtend (flags : BitVec 32) :
    flags.signExtend 64 &&& Panwrap.maliMemSameVa ≠ 0#64 ↔ flags &&& Driver.maliMemSameVa ≠ 0#32 := by
  have wide : flags.signExtend 64 &&& Panwrap.maliMemSameVa = (flags &&& Driver.maliMemSameVa).setWidth 64 := by
    have mask : Panwrap.maliMemSameVa = Driver.maliMemSameVa.setWidth 64 := by decide
    rw [mask]
    apply BitVec.eq_of_getLsbD_eq
    intro i inside
    simp only [BitVec.getLsbD_and, BitVec.getLsbD_setWidth, BitVec.getLsbD_signExtend, inside, decide_true, Bool.true_and]
    by_cases low : i < 32
    · simp only [low, ↓reduceIte]
    · simp only [BitVec.getLsbD_of_ge Driver.maliMemSameVa i (by omega), Bool.and_false]
  rw [wide, not_iff_not, ← BitVec.toNat_inj, ← BitVec.toNat_inj, BitVec.toNat_setWidth_of_le (by decide)]
  rfl

/-- The length that a number of pages is mapped with. -/
def pagesLength (pages : BitVec 32) : BitVec 32 := pages <<< pageShift

theorem allocGpuPages_own_after {pages eFlags : BitVec 32} (own : eFlags &&& Driver.maliMemSameVa = 0#32) {d : State} :
    After (allocGpuPages kernel fd pages eFlags) d fun events va d' => kernel.memAlloc d.calls = some va ∧
      d' = { d with calls := d.calls + 1 } ∧ ∃ format args,
        events = [.print format args, .memAlloc fd (pages.signExtend 64) (pages.signExtend 64) 0#64 (eFlags.signExtend 64)] := by
  unfold allocGpuPages printf
  rw [after_bind, after_put, after_bind]
  refine ioctlMemAlloc_after.mono ?_
  intro events va d' reserved
  obtain ⟨rfl, granted, rfl⟩ := reserved
  rw [if_neg (not_not.mpr own), after_pure]
  exact ⟨granted, rfl, _, _, rfl⟩

theorem uses_allocGpuPages_own {pages eFlags : BitVec 32} (own : eFlags &&& Driver.maliMemSameVa = 0#32) :
    Uses kernel fd (allocGpuPages kernel fd pages eFlags) fun a => a.reserve kernel false := by
  have flag : decide (eFlags.signExtend 64 &&& Panwrap.maliMemSameVa ≠ 0#64) = false := by
    rw [decide_eq_false_iff_not, sameVa_signExtend]
    exact not_not.mpr own
  intro d a told
  refine (allocGpuPages_own_after own).mono ?_
  intro events va d' reserved
  obtain ⟨-, rfl, _, _, rfl⟩ := reserved
  refine ⟨⟨trivial, rfl, trivial⟩, ?_, congrArg (· + 1) told⟩
  change a.reserve kernel (decide (eFlags.signExtend 64 &&& Panwrap.maliMemSameVa ≠ 0#64)) = a.reserve kernel false
  rw [flag]

theorem uses_allocGpuPages_same {pages eFlags : BitVec 32} (same : eFlags &&& Driver.maliMemSameVa ≠ 0#32) :
    Uses kernel fd (allocGpuPages kernel fd pages eFlags) fun a => a.block kernel true (pagesLength pages) := by
  have flag : decide (eFlags.signExtend 64 &&& Panwrap.maliMemSameVa ≠ 0#64) = true := by
    rw [decide_eq_true_iff, sameVa_signExtend]
    exact same
  intro d a told
  unfold allocGpuPages printf mmap64
  rw [after_bind, after_put, after_bind]
  refine ioctlMemAlloc_after.mono ?_
  intro events va d' reserved
  obtain ⟨rfl, granted, rfl⟩ := reserved
  rw [if_pos same]
  simp only [after_bind, after_get, after_put, after_modify, after_pure]
  have calls : a.calls = d.calls := told
  have given : (kernel.memAlloc a.calls).getD 0#64 = va := by rw [calls, granted, Option.getD_some]
  refine ⟨⟨trivial, rfl, ⟨rfl, _, rfl, given⟩, trivial⟩, ?_, congrArg (· + 1 + 1) told⟩
  change (a.reserve kernel (decide (eFlags.signExtend 64 &&& Panwrap.maliMemSameVa ≠ 0#64))).map kernel _ = _
  rw [flag]
  rfl

def importPages (shader : Buffer) : BitVec 32 := 1#32 + (shader.size >>> pageShift)

theorem uses_importShader {shader : Buffer} {fragment : Bool} :
    Uses kernel fd (importShader kernel fd shader fragment)
      fun a => a.block kernel false (pagesLength (importPages shader)) := by
  intro d a told
  unfold importShader
  rw [after_bind]
  refine (allocGpuPages_own_after (by decide)).mono ?_
  intro events va d' reserved
  obtain ⟨granted, rfl, _, _, rfl⟩ := reserved
  have calls : a.calls = d.calls := told
  have given : (kernel.memAlloc a.calls).getD 0#64 = va := by rw [calls, granted, Option.getD_some]
  unfold mmapGpu mmap64
  simp only [after_bind, after_get, after_put, after_modify, after_pure]
  split
  · rw [after_bind]
    unfold printf
    rw [after_put]
    exact fun _ _ _ runs => absurd runs not_runs_fail
  · unfold memcpy
    rw [after_pure, after_modify]
    exact ⟨⟨trivial, rfl, ⟨rfl, _, rfl, given⟩, trivial⟩, rfl, congrArg (· + 1 + 1) told⟩

theorem uses_vertexTilerHelper {tiler : Bool} {fbd vertexBuffer zeroBuffer mode : BitVec 32} {shader : Buffer} :
    Uses kernel fd (vertexTilerHelper kernel fd tiler fbd vertexBuffer zeroBuffer mode shader)
      fun a => a.block kernel false (pagesLength (importPages shader)) := by
  unfold vertexTilerHelper
  refine uses_galloc.before fun _ => uses_vertexTilerPayload.before fun _ => ?_
  refine uses_importShader.bind id fun _ => ?_
  refine uses_assign.before fun _ => uses_memcpy.whenever.before fun _ => ?_
  iterate 3 refine uses_assign.before fun _ => ?_
  refine uses_memcpy.before fun _ => uses_memcpy.whenever.before fun _ => ?_
  iterate 2 refine uses_assign.before fun _ => ?_
  refine uses_galloc.before fun _ => uses_assign.before fun _ => uses_assign.before fun _ => ?_
  exact uses_memcpy.before fun _ => uses_memcpy.before fun _ => keeps_pure

theorem uses_initCbma : Uses kernel fd (initCbma kernel fd)
    fun a => a.block kernel true (pagesLength (BitVec.ofNat 32 cbmaPages)) := by
  unfold initCbma
  have granted : Uses kernel fd (allocGpuPages kernel fd (BitVec.ofNat 32 cbmaPages) (maliMemProtCpuRd ||| maliMemProtCpuWr |||
      maliMemProtGpuRd ||| maliMemProtGpuWr ||| Driver.maliMemSameVa)) _ := uses_allocGpuPages_same (by decide)
  refine granted.bind id fun bottom => ?_
  have first : Uses kernel fd (modify fun d => { d with cbmaBottom := bottom.setWidth 32 } : Drive Unit) id :=
    uses_modify fun _ => rfl
  have second : Uses kernel fd (modify fun d => { d with cbmaTop := d.cbmaBottom } : Drive Unit) id :=
    uses_modify fun _ => rfl
  exact first.before fun _ => second.before fun _ => keeps_get_bind fun _ => uses_memcpy

/-- A flush makes one call and a submission may make one; neither concerns the memory. -/
theorem keeps_flushJobQueue :
    (driveKeeper kernel fd).Keeps Account.Tells Account.blocks (flushJobQueue kernel fd) id := by
  intro d a told
  unfold flushJobQueue ioctlJobSubmit printf
  rw [after_bind, after_get]
  split
  · simp only [after_bind, after_get, after_put, after_modify]
    split
    · rw [after_pure]
      exact ⟨⟨trivial, trivial⟩, rfl, congrArg (· + 1) told⟩
    · exact after_badIoctl
  · rw [after_put]
    exact ⟨⟨trivial, trivial⟩, rfl, told⟩

theorem keeps_submitJob {atom : MaliJdAtomV2 32} :
    (driveKeeper kernel fd).Keeps Account.Tells Account.blocks (submitJob kernel fd atom) id := by
  have marked : Uses kernel fd (put [.submitted fd atom] : Drive Unit) id :=
    keeps_put (fun _ => ⟨trivial, trivial⟩) fun _ _ told => told
  have queued : Uses kernel fd (modify fun d => { d with
      atomQueue := Function.update d.atomQueue d.atomQueueSize atom, atomQueueSize := d.atomQueueSize + 1 } : Drive Unit) id :=
    uses_modify fun _ => rfl
  unfold submitJob
  refine marked.before fun _ => keeps_get_bind fun d => ?_
  split
  · exact queued.before fun _ => keeps_flushJobQueue.whenever
  · exact keeps_fail

/-- What a chain of a vertex and a tiler job does to the account: its zeroes and its shaders are three blocks. -/
def Account.chain (kernel : Kernel) (vertexShader fragmentShader : Buffer) (a : Account) : Account :=
  ((a.block kernel true (pagesLength 0x20#32)).block kernel false (pagesLength (importPages vertexShader))).block kernel false
    (pagesLength (importPages fragmentShader))

theorem uses_countAtom : Uses kernel fd (modify fun d => { d with atomCount := d.atomCount + 1#32 } : Drive Unit) id :=
  uses_modify fun _ => rfl

theorem keeps_jobChainVertexTiler {vertices vertexShader fragmentShader : Buffer} {mode : BitVec 32}
    {heapFreeAddress scratchpad : BitVec 64} :
    (driveKeeper kernel fd).Keeps Account.Tells Account.blocks
      (jobChainVertexTiler kernel fd vertices mode vertexShader fragmentShader heapFreeAddress scratchpad)
      (Account.chain kernel vertexShader fragmentShader) := by
  unfold jobChainVertexTiler
  have zeroes : Uses kernel fd (allocGpuPages kernel fd 0x20#32
      (0x3800#32 ||| maliMemProtCpuRd ||| maliMemProtCpuWr ||| maliMemProtGpuRd)) _ := uses_allocGpuPages_same (by decide)
  refine uses_uploadVertices.before fun _ => uses_makeMfbd.before fun _ => ?_
  refine zeroes.bind (fun a => (a.block kernel false (pagesLength (importPages vertexShader))).block kernel false
    (pagesLength (importPages fragmentShader))) fun _ => uses_setValueHelper.before fun _ => ?_
  refine uses_vertexTilerHelper.bind (fun a => a.block kernel false (pagesLength (importPages fragmentShader))) fun _ => ?_
  refine uses_vertexTilerHelper.bind id fun _ => uses_linkJobs.before fun _ => uses_countAtom.before fun _ => ?_
  exact keeps_get_bind fun _ => keeps_submitJob.pure_bind _

theorem keeps_jobChainFragment {framebuffer heapFreeAddress scratchpad : BitVec 64} {resource : BitVec 32} :
    (driveKeeper kernel fd).Keeps Account.Tells Account.blocks
      (jobChainFragment kernel fd framebuffer heapFreeAddress scratchpad resource) id := by
  unfold jobChainFragment
  refine uses_galloc.before fun _ => uses_makeMfbd.before fun _ => uses_memcpy.before fun _ => uses_memcpy.before fun _ => ?_
  refine keeps_get_bind fun _ => uses_assign.before fun _ => uses_countAtom.before fun _ => keeps_get_bind fun _ => ?_
  exact keeps_submitJob.pure_bind _

theorem keeps_jobChainReplay {tilerJc fragmentJc : BitVec 32} {heapFreeAddress framebuffer : BitVec 64}
    {resource : BitVec 32} :
    (driveKeeper kernel fd).Keeps Account.Tells Account.blocks
      (jobChainReplay kernel fd tilerJc fragmentJc heapFreeAddress framebuffer resource) id := by
  unfold jobChainReplay
  refine keeps_get_bind fun _ => uses_galloc.before fun _ => ?_
  iterate 9 refine uses_assign.before fun _ => ?_
  exact uses_countAtom.before fun _ => keeps_get_bind fun _ => keeps_submitJob

theorem keeps_frameChains {vertices vertexShader fragmentShader : Buffer} {mode resource resource' : BitVec 32}
    {heapFreeAddress scratchpad framebuffer : BitVec 64} :
    (driveKeeper kernel fd).Keeps Account.Tells Account.blocks
      (frameChains kernel fd vertices mode vertexShader fragmentShader heapFreeAddress scratchpad framebuffer resource resource')
      (Account.chain kernel vertexShader fragmentShader) := by
  unfold frameChains
  refine keeps_jobChainVertexTiler.then_still fun _ => ?_
  exact keeps_jobChainFragment.then_still fun _ => keeps_jobChainReplay

end Drive

section Session

variable {device : Device} {fd : BitVec 32} {α : Type} {effect : Account → Account}

theorem keeps_drive {p : Drive α}
    (kept : (driveKeeper device.toKernel fd).Keeps Account.Tells Account.blocks p effect) :
    (keeper device.toKernel fd).Keeps Account.Tells Account.blocks (drive p) effect := keeps_embed.mpr kept

theorem uses_drive {p : Drive α} (kept : Uses device.toKernel fd p effect) :
    (keeper device.toKernel fd).Keeps Account.Tells id (drive p) effect := keeps_embed.mpr kept

theorem keeps_forget {p : Drive α} (kept : (driveKeeper device.toKernel fd).Keeps Account.Tells Account.blocks p effect) :
    (keeper device.toKernel fd).Keeps Account.Tells Account.blocks (forget p) effect := (keeps_drive kept).pure_bind _

theorem uses_mIoctl {event : SessionEvent} {request : BitVec 32}
    (other : ∀ a : Account, a.Fits fd event ∧ a.see device.toKernel event = a.call) :
    (keeper device.toKernel fd).Keeps Account.Tells id (mIoctl device event request) Account.call := by
  intro d a told
  unfold mIoctl
  simp only [after_bind, after_get, after_put, after_modify]
  split
  · rw [after_pure]
    refine ⟨⟨(other a).1, trivial⟩, (other a).2, ?_⟩
    change (a.see device.toKernel event).calls = d.calls + 1
    rw [(other a).2]
    exact congrArg (· + 1) told
  · unfold drive
    rw [after_embed]
    exact after_badIoctl

theorem uses_queryGpuProps : (keeper device.toKernel fd).Keeps Account.Tells id (queryGpuProps device fd) Account.call :=
  uses_mIoctl fun _ => ⟨trivial, rfl⟩

theorem uses_streamCreate {stream : StreamName} :
    (keeper device.toKernel fd).Keeps Account.Tells id (streamCreate device fd stream) Account.call :=
  uses_mIoctl fun _ => ⟨trivial, rfl⟩

theorem uses_freeGpu {addr : BitVec 64} :
    (keeper device.toKernel fd).Keeps Account.Tells id (freeGpu device fd addr) Account.call :=
  uses_mIoctl fun _ => ⟨trivial, rfl⟩

theorem uses_syncGpu {cpu bytes : BitVec 32} {gpu : BitVec 64} :
    (keeper device.toKernel fd).Keeps Account.Tells id (syncGpu device fd cpu gpu bytes) Account.call :=
  uses_mIoctl fun _ => ⟨trivial, rfl⟩

/-- What the calls of `main` before its frame do to the account. -/
def Account.setUp (kernel : Kernel) (a : Account) : Account :=
  (((a.call.block kernel true (pagesLength (BitVec.ofNat 32 cbmaPages))).call.call).reserve kernel false).reserve kernel false

theorem uses_allocGpuHeap {pages : BitVec 32} :
    Uses device.toKernel fd (allocGpuHeap device fd pages) fun a => a.reserve device.toKernel false := uses_ioctlMemAlloc

theorem uses_setUp :
    (keeper device.toKernel fd).Keeps Account.Tells id (setUp device fd) (Account.setUp device.toKernel) := by
  let rest (a : Account) : Account := (a.reserve device.toKernel false).reserve device.toKernel false
  have own : Uses device.toKernel fd (allocGpuPages device.toKernel fd 8#32 0xC#32) _ := uses_allocGpuPages_own (by decide)
  unfold setUp
  refine uses_queryGpuProps.bind (fun a => rest ((a.block device.toKernel true (pagesLength (BitVec.ofNat 32 cbmaPages))).call.call))
    fun _ => ?_
  refine (uses_drive uses_initCbma).bind (fun a => rest a.call.call) fun _ => ?_
  refine uses_streamCreate.bind (fun a => rest a.call) fun _ => uses_streamCreate.bind rest fun _ => ?_
  refine (uses_drive own).bind (fun a => a.reserve device.toKernel false) fun _ => ?_
  exact (uses_drive uses_allocGpuHeap).pure_bind _

/-- Whatever a program asks of the driver, it is done in the order that the account expects. -/
theorem SessionCall.keeps (call : SessionCall) :
    ∃ effect, (keeper device.toKernel fd).Keeps Account.Tells Account.blocks (call.perform device fd) effect := by
  cases call with
  | queryGpuProps => exact ⟨_, uses_queryGpuProps.weaken⟩
  | streamCreate stream => exact ⟨_, uses_streamCreate.weaken⟩
  | initCbma => exact ⟨_, keeps_forget uses_initCbma.weaken⟩
  | galloc sz => exact ⟨_, keeps_forget uses_galloc.weaken⟩
  | gfree ptr => exact ⟨_, keeps_forget uses_printf.weaken⟩
  | allocGpuPages pages eFlags =>
    by_cases same : eFlags &&& Driver.maliMemSameVa ≠ 0#32
    · exact ⟨_, keeps_forget (uses_allocGpuPages_same same).weaken⟩
    · exact ⟨_, keeps_forget (uses_allocGpuPages_own (not_not.mp same)).weaken⟩
  | allocGpuHeap pages => exact ⟨_, keeps_forget uses_allocGpuHeap.weaken⟩
  | freeGpu addr => exact ⟨_, uses_freeGpu.weaken⟩
  | syncGpu cpu gpu bytes => exact ⟨_, uses_syncGpu.weaken⟩
  | importShader shader frag => exact ⟨_, keeps_forget uses_importShader.weaken⟩
  | vertexTiler => exact ⟨_, keeps_forget keeps_jobChainVertexTiler⟩
  | fragment => exact ⟨_, keeps_forget keeps_jobChainFragment⟩
  | replay => exact ⟨_, keeps_forget keeps_jobChainReplay⟩
  | submitJob atom => exact ⟨_, keeps_forget keeps_submitJob⟩
  | flushJobQueue => exact ⟨_, keeps_forget keeps_flushJobQueue⟩

end Session

end Driver
