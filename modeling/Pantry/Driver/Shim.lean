import Pantry.Machine.Image
import Pantry.Machine.Program
import Pantry.Decoder.Layout
import Pantry.Panwrap.Request

/-! The driver is built for a 32-bit address space: it keeps pointers in `uint32_t`. -/

namespace Driver

open Machine Panwrap Decoder Program

/-- What the driver puts out: text for stdout and the calls it makes of the kernel. A `submitted`
    event accompanies each call of `submit_job` and is seen by nobody. -/
inductive Event where
  | print (format : String) (args : List Arg)
  | memAlloc (fd : BitVec 32) (vaPages commitPages extent flags : BitVec 64)
  | mmap64 (fd : BitVec 32) (length : BitVec 32) (offset : BitVec 64)
  | jobSubmit (fd : BitVec 32) (atoms : List (MaliJdAtomV2 32))
  | submitted (fd : BitVec 32) (atom : MaliJdAtomV2 32)

def Event.atom? : Event → Option (MaliJdAtomV2 32)
  | .submitted _ atom => some atom
  | _ => none

/-- `exit(1)`, and a write behind the last entry of `atom_queue`. -/
inductive Fault where
  | exit
  | queueOverrun
  deriving DecidableEq, Repr

/-- How the kernel answers the n-th call made of it; `none` and `false` are errors. -/
structure Kernel where
  memAlloc : Nat → Option (BitVec 64)
  mmap64 : Nat → BitVec 32
  jobSubmit : Nat → Bool
  strerror : Nat → String

def grantingKernel : Kernel where
  memAlloc := fun _ => some 0x20000000#64
  mmap64 := fun _ => 0x10000000#32
  jobSubmit := fun _ => true
  strerror := fun _ => ""

structure State where
  mem : Memory 32
  cbmaBottom : BitVec 32
  cbmaTop : BitVec 32
  atomCount : BitVec 32
  atomQueue : Nat → MaliJdAtomV2 32
  atomQueueSize : Nat
  calls : Nat

def blankAtom : MaliJdAtomV2 32 where
  jc := 0#64
  udata := fun _ => 0#64
  extResList := 0#32
  nrExtRes := 0#16
  compatCoreReq := 0#16
  preDepAtomId := fun _ => 0#8
  preDepType := fun _ => 0#8
  atomNumber := 0#8
  prio := 0#8
  deviceNr := 0#8
  coreReq := 0#32

def State.start (mem : Memory 32) : State where
  mem := mem
  cbmaBottom := 0#32
  cbmaTop := 0#32
  atomCount := 0#32
  atomQueue := fun _ => blankAtom
  atomQueueSize := 0
  calls := 0

abbrev Drive (α : Type) : Type := Program Event Fault State α

/-- A buffer of the caller, no larger than a `size_t` counts. -/
structure Buffer where
  bytes : List Byte
  fits : bytes.length < 2 ^ 32

def Buffer.size (buffer : Buffer) : BitVec 32 := BitVec.ofNat 32 buffer.bytes.length

def pageShift : Nat := 12

def maliMemProtCpuRd : BitVec 32 := 1#32 <<< 0
def maliMemProtCpuWr : BitVec 32 := 1#32 <<< 1
def maliMemProtGpuRd : BitVec 32 := 1#32 <<< 2
def maliMemProtGpuWr : BitVec 32 := 1#32 <<< 3
def maliMemProtGpuEx : BitVec 32 := 1#32 <<< 4
def maliMemSameVa : BitVec 32 := 1#32 <<< 13

def mapFailed : BitVec 32 := 0xFFFFFFFF#32

def printf (format : String) (args : List Arg) : Drive Unit := put [.print format args]

def memcpy (p : BitVec 32) (off : Nat) (content : List Byte) : Drive Unit :=
  modify fun d => { d with mem := d.mem.store (p + BitVec.ofNat 32 off) content }

def assign {width : Nat} (p : BitVec 32) (off : Nat) (value : BitVec width) : Drive Unit :=
  modify fun d => { d with mem := d.mem.write p off value }

section Calls

variable (kernel : Kernel) (fd : BitVec 32)

/-- The failure branch of `m_ioctl`. -/
def badIoctl {α : Type} (request : BitVec 32) (call : Nat) : Drive α := do
  printf "Bad ioctl %d (%s)\n" [.int request.toInt, .str (kernel.strerror call)]
  fail .exit

def ioctlMemAlloc (vaPages commitPages extent flags : BitVec 64) : Drive (BitVec 64) := do
  let d ← get
  put [.memAlloc fd vaPages commitPages extent flags]
  modify fun d => { d with calls := d.calls + 1 }
  match kernel.memAlloc d.calls with
  | some gpuVa => pure gpuVa
  | none => badIoctl kernel maliIoctlMemAlloc d.calls

def ioctlJobSubmit (atoms : List (MaliJdAtomV2 32)) : Drive Unit := do
  let d ← get
  put [.jobSubmit fd atoms]
  modify fun d => { d with calls := d.calls + 1 }
  if kernel.jobSubmit d.calls then pure () else badIoctl kernel maliIoctlJobSubmit d.calls

/-- `mmap64` of a device's memory. What is there before anything is written is in the memory
    from the start: nothing else ever lies at these addresses. -/
def mmap64 (length : BitVec 32) (offset : BitVec 64) : Drive (BitVec 32) := do
  let d ← get
  put [.mmap64 fd length offset]
  modify fun d => { d with calls := d.calls + 1 }
  pure (kernel.mmap64 d.calls)

def allocGpuPages (pages eFlags : BitVec 32) : Drive (BitVec 64) := do
  printf "Allocing %d pages flag %X to %d\n" [.int pages.toInt, .nat eFlags.toNat, .int fd.toInt]
  let gpuVa ← ioctlMemAlloc kernel fd (pages.signExtend 64) (pages.signExtend 64) 0#64 (eFlags.signExtend 64)
  if eFlags &&& maliMemSameVa ≠ 0#32 then do
    let p ← mmap64 kernel fd (pages <<< pageShift) gpuVa
    pure (p.setWidth 64)
  else pure gpuVa

def mmapGpu (addr : BitVec 64) (pageCount : BitVec 32) : Drive (BitVec 32) := do
  let d ← get
  let buffer ← mmap64 kernel fd (pageCount <<< pageShift) addr
  if buffer = mapFailed then do
    printf "Buffer map failed (%s)\n" [.str (kernel.strerror d.calls)]
    fail .exit
  else pure buffer

def atomQueueMax : Nat := 16

def flushJobQueue : Drive Unit := do
  let d ← get
  if d.atomQueueSize ≠ 0 then do
    ioctlJobSubmit kernel fd ((List.range d.atomQueueSize).map d.atomQueue)
    modify fun d => { d with atomQueueSize := 0 }
  else printf "Warning... flushing job queue with no atoms\n" []

def submitJob (atom : MaliJdAtomV2 32) : Drive Unit := do
  put [.submitted fd atom]
  let d ← get
  if d.atomQueueSize < atomQueueMax then do
    modify fun d =>
      { d with atomQueue := Function.update d.atomQueue d.atomQueueSize atom, atomQueueSize := d.atomQueueSize + 1 }
    whenever (d.atomQueueSize + 1 = atomQueueMax) (flushJobQueue kernel fd)
  else fail .queueOverrun

end Calls

def submitted (out : List Event) : List (MaliJdAtomV2 32) := out.filterMap Event.atom?

@[simp] theorem submitted_append (first second : List Event) :
    submitted (first ++ second) = submitted first ++ submitted second := List.filterMap_append ..

section Specs

variable {kernel : Kernel} {fd : BitVec 32} {d : State} {α : Type} {Q : List Event → α → State → Prop}

@[simp] theorem meets_memcpy_bind {p : BitVec 32} {off : Nat} {content : List Byte} {f : Unit → Drive α} :
    Meets (memcpy p off content >>= f) d Q ↔
      Meets (f ()) { d with mem := d.mem.store (p + BitVec.ofNat 32 off) content } Q := meets_modify_bind

@[simp] theorem meets_assign_bind {p : BitVec 32} {off width : Nat} {value : BitVec width} {f : Unit → Drive α} :
    Meets (assign p off value >>= f) d Q ↔
      Meets (f ()) { d with mem := d.mem.write p off value } Q := meets_modify_bind

theorem after_badIoctl {request : BitVec 32} {call : Nat} : After (badIoctl kernel request call) d Q := by
  unfold badIoctl printf
  rw [after_bind, after_put]
  intro _ _ _ runs
  exact absurd runs not_runs_fail

theorem ioctlMemAlloc_meets {vaPages commitPages extent flags gpuVa : BitVec 64}
    (granted : kernel.memAlloc d.calls = some gpuVa) :
    Meets (ioctlMemAlloc kernel fd vaPages commitPages extent flags) d fun out va d' =>
      submitted out = [] ∧ va = gpuVa ∧ d' = { d with calls := d.calls + 1 } := by
  unfold ioctlMemAlloc
  simp only [meets_get_bind, meets_put_bind, meets_modify_bind, granted, meets_pure]
  exact ⟨rfl, trivial, trivial⟩

theorem mmap64_meets {length : BitVec 32} {offset : BitVec 64} :
    Meets (mmap64 kernel fd length offset) d fun out p d' =>
      submitted out = [] ∧ p = kernel.mmap64 d.calls ∧ d' = { d with calls := d.calls + 1 } := by
  unfold mmap64
  simp only [meets_get_bind, meets_put_bind, meets_modify_bind, meets_pure]
  exact ⟨rfl, trivial, trivial⟩

theorem allocGpuPages_meets {pages eFlags : BitVec 32} {gpuVa : BitVec 64}
    (granted : kernel.memAlloc d.calls = some gpuVa) (own : eFlags &&& maliMemSameVa = 0#32) :
    Meets (allocGpuPages kernel fd pages eFlags) d fun out va d' =>
      submitted out = [] ∧ va = gpuVa ∧ d' = { d with calls := d.calls + 1 } := by
  unfold allocGpuPages printf
  rw [meets_put_bind]
  apply (ioctlMemAlloc_meets granted).bind
  rintro out _ _ ⟨silent, rfl, rfl⟩
  rw [if_neg (not_not.mpr own), meets_pure, List.append_nil]
  exact ⟨silent, rfl, rfl⟩

theorem allocGpuPages_same_meets {pages eFlags : BitVec 32} {gpuVa : BitVec 64}
    (granted : kernel.memAlloc d.calls = some gpuVa) (same : eFlags &&& maliMemSameVa ≠ 0#32) :
    Meets (allocGpuPages kernel fd pages eFlags) d fun out va d' =>
      submitted out = [] ∧ va = (kernel.mmap64 (d.calls + 1)).setWidth 64 ∧
        d' = { d with calls := d.calls + 2 } := by
  unfold allocGpuPages printf
  rw [meets_put_bind]
  apply (ioctlMemAlloc_meets granted).bind
  rintro out _ _ ⟨silent, rfl, rfl⟩
  rw [if_pos same]
  apply mmap64_meets.bind
  rintro out' _ _ ⟨silent', rfl, rfl⟩
  rw [meets_pure, List.append_nil]
  refine ⟨?_, rfl, rfl⟩
  change submitted (out ++ out') = []
  rw [submitted_append, silent, silent', List.append_nil]

theorem mmapGpu_meets {addr : BitVec 64} {pageCount : BitVec 32} (mapped : kernel.mmap64 d.calls ≠ mapFailed) :
    Meets (mmapGpu kernel fd addr pageCount) d fun out buffer d' =>
      submitted out = [] ∧ buffer = kernel.mmap64 d.calls ∧ d' = { d with calls := d.calls + 1 } := by
  unfold mmapGpu
  rw [meets_get_bind]
  apply mmap64_meets.bind
  rintro out _ _ ⟨silent, rfl, rfl⟩
  rw [if_neg mapped, meets_pure, List.append_nil]
  exact ⟨silent, rfl, rfl⟩

theorem flushJobQueue_meets (some : d.atomQueueSize ≠ 0) (granted : kernel.jobSubmit d.calls = true) :
    Meets (flushJobQueue kernel fd) d fun out _ d' =>
      submitted out = [] ∧ d' = { d with atomQueueSize := 0, calls := d.calls + 1 } := by
  unfold flushJobQueue ioctlJobSubmit
  rw [meets_get_bind, if_pos some, meets_bind]
  simp only [meets_get_bind, meets_put_bind, meets_modify_bind, granted, ↓reduceIte, meets_pure, meets_modify]
  exact ⟨rfl, trivial⟩

/-- A submitted atom changes the queue alone, whether or not it fills it. -/
theorem submitJob_meets {atom : MaliJdAtomV2 32} (room : d.atomQueueSize < atomQueueMax)
    (granted : d.atomQueueSize + 1 = atomQueueMax → kernel.jobSubmit d.calls = true) :
    Meets (submitJob kernel fd atom) d fun out _ d' =>
      submitted out = [atom] ∧ d'.mem = d.mem ∧ d'.cbmaBottom = d.cbmaBottom := by
  unfold submitJob
  rw [meets_put_bind, meets_get_bind, if_pos room, meets_modify_bind]
  unfold whenever
  split
  · rename_i full
    refine Meets.mono (flushJobQueue_meets (Nat.succ_ne_zero d.atomQueueSize) (granted full)) ?_
    rintro out _ _ ⟨silent, rfl⟩
    rw [submitted_append, silent]
    exact ⟨rfl, rfl, rfl⟩
  · rw [meets_pure]
    exact ⟨rfl, rfl, rfl⟩

end Specs

end Driver
