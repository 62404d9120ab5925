import Pantry.Driver.Frame

/-! The rest of the shim and the program that uses it. -/

namespace Driver

open Machine Panwrap Decoder Program

/-- What the whole program puts out: what its use of memory and of the queue does, and its other calls. -/
inductive SessionEvent where
  | driver (event : Event)
  | openAt (path : String) (flags : BitVec 32)
  | mmap (fd length offset : BitVec 32)
  | getVersion (fd : BitVec 32) (major minor : BitVec 16)
  | setFlags (fd createFlags : BitVec 32)
  | gpuPropsRegDump (fd : BitVec 32)
  | streamCreate (fd : BitVec 32) (name : String)
  | memFree (fd : BitVec 32) (gpuAddr : BitVec 64)
  | sync (fd : BitVec 32) (handle : BitVec 64) (userAddr : BitVec 32) (size : BitVec 64) (type : BitVec 8)

/-- The kernel's answers to the other calls: the descriptor that the n-th call opens, and whether the n-th call is
    accepted. -/
structure Device extends Kernel where
  openAt : Nat → BitVec 32
  accepts : Nat → Bool

abbrev Session (α : Type) : Type := Program SessionEvent Fault State α

def drive {α : Type} (p : Drive α) : Session α := embed (fun d => d) (fun d _ => d) .driver p

def oRdwr : BitVec 32 := 2#32
def oCloexec : BitVec 32 := 0x80000#32
def pageSize : BitVec 32 := 1#32 <<< pageShift
def pageMask : BitVec 32 := ~~~(pageSize - 1#32)
def maliMemMapTrackingHandle : BitVec 32 := 0x3000#32
def maliContextCreateFlagNone : BitVec 32 := 0#32

/-- A name that `strcpy` finds room for in a `struct mali_ioctl_stream_create`. -/
structure StreamName where
  name : String
  fits : name.utf8ByteSize < 32

section Shim

variable (device : Device) (fd : BitVec 32)

def mIoctl (event : SessionEvent) (request : BitVec 32) : Session Unit := do
  let d ← get
  put [event]
  modify fun d => { d with calls := d.calls + 1 }
  if device.accepts d.calls then pure () else drive (badIoctl device.toKernel request d.calls)

def openDevice (path : String) (flags : BitVec 32) : Session (BitVec 32) := do
  let d ← get
  put [.openAt path flags]
  modify fun d => { d with calls := d.calls + 1 }
  pure (device.openAt d.calls)

def mmap (length offset : BitVec 32) : Session (BitVec 32) := do
  let d ← get
  put [.mmap fd length offset]
  modify fun d => { d with calls := d.calls + 1 }
  pure (device.mmap64 d.calls)

/-- On failure the result is 1 or -1; its caller looks at neither. -/
def openKernelModule : Session (BitVec 32) := do
  let fd ← openDevice device "/dev/mali0" (oRdwr ||| oCloexec)
  if fd = -1#32 then do
    drive (printf "Failed to open /dev/mali0\n" [])
    pure 1#32
  else do
    mIoctl device (.getVersion fd 8#16 4#16) maliIoctlGetVersion
    let d ← get
    let mtp ← mmap device fd pageSize maliMemMapTrackingHandle
    if mtp = mapFailed then do
      drive (printf "MP map failed (%s)\n" [.str (device.strerror d.calls)])
      pure (-1#32)
    else do
      mIoctl device (.setFlags fd maliContextCreateFlagNone) maliIoctlSetFlags
      pure fd

def allocGpuHeap (pages : BitVec 32) : Drive (BitVec 64) :=
  ioctlMemAlloc device.toKernel fd (pages.signExtend 64) 1#64 0x80#64 0x26F#64

def freeGpu (addr : BitVec 64) : Session Unit := mIoctl device (.memFree fd addr) maliIoctlMemFree

def syncGpu (cpu : BitVec 32) (gpu : BitVec 64) (bytes : BitVec 32) : Session Unit :=
  let mask : BitVec 64 := pageMask.signExtend 64
  mIoctl device (.sync fd (gpu &&& mask) (cpu - (gpu &&& ~~~mask).setWidth 32) ((gpu &&& ~~~mask) + bytes.setWidth 64)
    maliSyncToDevice) maliIoctlSync

def streamCreate (stream : StreamName) : Session Unit := mIoctl device (.streamCreate fd stream.name) maliIoctlStreamCreate

def queryGpuProps : Session Unit := mIoctl device (.gpuPropsRegDump fd) maliIoctlGpuPropsRegDump

end Shim

def chaiTriangleFan : BitVec 32 := 0x0C#32

/-- The four corners that `main` draws, three coordinates each. -/
def corners : Buffer where
  bytes := Field.image (Field.array [
    0x00000000#32, 0x00000000#32, 0x00000000#32,
    0x3F800000#32, 0x00000000#32, 0x00000000#32,
    0x3F800000#32, 0x3F800000#32, 0x00000000#32,
    0x00000000#32, 0x3F800000#32, 0x00000000#32])
  fits := by decide

/-- `sample_vertex` and `sample_fragment`, where there are no precompiled shaders. -/
def sampleShader : Buffer where
  bytes := Field.image (Field.array (0x11#32 :: List.replicate 15 0#32))
  fits := by decide

def firstStream : StreamName := ⟨"malitl_339_0x53ae8", by decide⟩
def secondStream : StreamName := ⟨"malitl_339_0x53f78", by decide⟩

/-- The memory of the GPU that `main` has set aside before it draws. -/
structure Areas where
  scratchpad : BitVec 64
  heapFreeAddress : BitVec 64

def setUp (device : Device) (fd : BitVec 32) : Session Areas := do
  queryGpuProps device fd
  drive (initCbma device.toKernel fd)
  streamCreate device fd firstStream
  streamCreate device fd secondStream
  let scratchpad ← drive (allocGpuPages device.toKernel fd 8#32 0xC#32)
  let heapFreeAddress ← drive (allocGpuHeap device fd 0x8000#32)
  pure ⟨scratchpad, heapFreeAddress⟩

/-- The program up to its `sleep` and the loop that it hangs in. Its shaders are `sampleShader` or precompiled
    ones. -/
def main (device : Device) (vertexShader fragmentShader : Buffer) (resource resource' : BitVec 32) : Session Unit := do
  let fd ← openKernelModule device
  let areas ← setUp device fd
  drive (printf "Allocated what we need..\n" [])
  drive (printf "Tiling...\n" [])
  drive (frame device.toKernel fd corners chaiTriangleFan vertexShader fragmentShader areas.heapFreeAddress areas.scratchpad
    0x1CAFE0000#64 resource resource')

/-- A call that a program can make of the driver once it holds a descriptor. -/
inductive SessionCall where
  | queryGpuProps
  | streamCreate (stream : StreamName)
  | initCbma
  | galloc (sz : BitVec 32)
  | gfree (ptr : BitVec 32)
  | allocGpuPages (pages eFlags : BitVec 32)
  | allocGpuHeap (pages : BitVec 32)
  | freeGpu (addr : BitVec 64)
  | syncGpu (cpu : BitVec 32) (gpu : BitVec 64) (bytes : BitVec 32)
  | importShader (shader : Buffer) (frag : Bool)
  | vertexTiler (vertices : Buffer) (mode : BitVec 32) (vertexShader fragmentShader : Buffer)
      (heapFreeAddress scratchpad : BitVec 64)
  | fragment (framebuffer heapFreeAddress scratchpad : BitVec 64) (resource : BitVec 32)
  | replay (tilerJc fragmentJc : BitVec 32) (heapFreeAddress framebuffer : BitVec 64) (resource : BitVec 32)
  | submitJob (atom : MaliJdAtomV2 32)
  | flushJobQueue

def forget {α : Type} (p : Drive α) : Session Unit := do
  let _ ← drive p
  pure ()

def SessionCall.perform (device : Device) (fd : BitVec 32) : SessionCall → Session Unit
  | .queryGpuProps => Driver.queryGpuProps device fd
  | .streamCreate stream => Driver.streamCreate device fd stream
  | .initCbma => forget (Driver.initCbma device.toKernel fd)
  | .galloc sz => forget (Driver.galloc sz)
  | .gfree ptr => forget (Driver.gfree ptr)
  | .allocGpuPages pages eFlags => forget (Driver.allocGpuPages device.toKernel fd pages eFlags)
  | .allocGpuHeap pages => forget (Driver.allocGpuHeap device fd pages)
  | .freeGpu addr => Driver.freeGpu device fd addr
  | .syncGpu cpu gpu bytes => Driver.syncGpu device fd cpu gpu bytes
  | .importShader shader frag => forget (Driver.importShader device.toKernel fd shader frag)
  | .vertexTiler vertices mode vertexShader fragmentShader heapFreeAddress scratchpad =>
    forget (jobChainVertexTiler device.toKernel fd vertices mode vertexShader fragmentShader heapFreeAddress scratchpad)
  | .fragment framebuffer heapFreeAddress scratchpad resource =>
    forget (jobChainFragment device.toKernel fd framebuffer heapFreeAddress scratchpad resource)
  | .replay tilerJc fragmentJc heapFreeAddress framebuffer resource =>
    forget (jobChainReplay device.toKernel fd tilerJc fragmentJc heapFreeAddress framebuffer resource)
  | .submitJob atom => forget (Driver.submitJob device.toKernel fd atom)
  | .flushJobQueue => forget (Driver.flushJobQueue device.toKernel fd)

def SessionStep (device : Device) (fd : BitVec 32) (d : State) (label : SessionCall × List SessionEvent) (d' : State) : Prop :=
  Runs (label.1.perform device fd) d label.2 () d'

end Driver
