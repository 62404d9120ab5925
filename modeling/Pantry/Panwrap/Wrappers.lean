import Pantry.Panwrap.Ioctl

namespace Panwrap

open Machine Decoder Program

/-- What the wrappers depend on and do not change: the trimming switch and the flare of the
    decoder, the strings next to the table of names, and the value of `O_TMPFILE`. -/
structure Config where
  enableHexdumpTrimming : Bool
  flare : Nat → BitVec 32 → BitVec 32
  stray : BitVec 8 → BitVec 8 → Option String
  oTmpfile : BitVec 32

/-- `mali_fd`, `allocations` and `mmaps`, the newest entry of a list first. -/
structure Tracker (w : Nat) where
  maliFd : Int := 0
  allocations : List AllocatedMemory := []
  mmaps : List (MappedMemory w) := []

structure Sys (w : Nat) where
  tracker : Tracker w
  proc : Proc w

inductive LibcCall (w : Nat) where
  | openAt (path : String) (flags : BitVec 32) (mode : Option (BitVec 32))
  | open64 (path : String) (flags : BitVec 32) (mode : Option (BitVec 32))
  | close (fd : Int)
  | ioctl (fd : Int) (request arg : BitVec w)
  | mmap (addr length : BitVec w) (prot flags : BitVec 32) (fd : Int) (offset : BitVec 64)
  | mmap64 (addr length : BitVec w) (prot flags : BitVec 32) (fd : Int) (offset : BitVec 64)
  | munmap (addr length : BitVec w)
  deriving DecidableEq, Repr

structure Reply (w : Nat) where
  ret : Int
  ptr : BitVec w
  mem : Memory w

abbrev Libc (w : Nat) : Type := LibcCall w → Memory w → Reply w

/-- What a wrapper does that can be seen from outside. -/
inductive Event (w : Nat) where
  | call (made : LibcCall w) (answer : Reply w)
  | out (item : Out)
  | freeze
  | unfreeze

abbrev Wrap (w : Nat) (α : Type) : Type := Program (Event w) Fault (Sys w) α

variable {w : Nat} {α : Type}

def orig (libc : Libc w) (made : LibcCall w) : Wrap w (Reply w) := fun σ =>
  ⟨[.call made (libc made σ.proc.mem)],
    .done (libc made σ.proc.mem) { σ with proc := { σ.proc with mem := (libc made σ.proc.mem).mem } }⟩

def say (format : String) (args : List Arg) : Wrap w Unit := put [.out (.log format args)]

def panwrapFreezeTime : Wrap w Unit := put [.freeze]

def panwrapUnfreezeTime : Wrap w Unit := put [.unfreeze]

def Config.env (cfg : Config) (mmaps : List (MappedMemory w)) : Env w where
  mmaps := mmaps
  enableHexdumpTrimming := cfg.enableHexdumpTrimming
  flare := cfg.flare

def decode (cfg : Config) (p : Env w → Decode w α) : Wrap w α := fun σ =>
  embed Sys.proc (fun proc σ => { σ with proc := proc }) Event.out (p (cfg.env σ.tracker.mmaps)) σ

def listAddAllocation (entry : AllocatedMemory) (t : Tracker w) : Tracker w :=
  { t with allocations := entry :: t.allocations }

def listAddMapping (entry : MappedMemory w) (t : Tracker w) : Tracker w :=
  { t with mmaps := entry :: t.mmaps }

def onTracker (f : Tracker w → Tracker w) : Wrap w Unit := modify fun σ => { σ with tracker := f σ.tracker }

section Post

variable (cfg : Config) (ptr : BitVec w)

def ioctlDecodePostGetVersion : Decode w Unit := do
  let major ← deref ptr fun m => m.read 16 ptr 8
  let minor ← deref ptr fun m => m.read 16 ptr 10
  panwrapLog "\tmajor = %3d\n" [.nat major.toNat]
  panwrapLog "\tminor = %3d\n" [.nat minor.toNat]

def MaliIoctlMemAlloc.allocated (args : MaliIoctlMemAlloc) : AllocatedMemory where
  gpuVa := args.gpuVa
  sameVa := args.flags &&& maliMemSameVa ≠ 0#64

def ioctlDecodePostMemAlloc : Wrap w Unit := do
  let args ← decode cfg fun _ => deref ptr fun m => MaliIoctlMemAlloc.load m ptr
  say "\tgpu_va = 0x%PRIx64\n" [.nat args.gpuVa.toNat]
  say "\tva_alignment = %d\n" [.nat args.vaAlignment.toNat]
  say "\tflags = %PRIx64" [.nat args.flags.toNat]
  onTracker (listAddAllocation args.allocated)
  put [.out (.logCont "\n" [])]

def ioctlDecodePostMemImport : Decode w Unit := do
  let args ← deref ptr fun m => MaliIoctlMemImport.load m ptr
  panwrapLog "\tgpu_va = 0x%PRIx64\n" [.nat args.gpuVa.toNat]
  panwrapLog "\tva_pages = %PRId64\n" [.int args.vaPages.toInt]
  panwrapLog "\tflags = " []
  logDecodedFlags memFlagInfo args.flags
  logCont "\n" []

def MaliIoctlMemCommit.allocated (args : MaliIoctlMemCommit) : AllocatedMemory where
  gpuVa := args.gpuAddr
  sameVa := false

def ioctlDecodePostMemCommit : Wrap w Unit := do
  let args ← decode cfg fun _ => deref ptr fun m => MaliIoctlMemCommit.load m ptr
  say "\tresult_subcode = %d\n" [.int args.resultSubcode.toInt]
  onTracker (listAddAllocation args.allocated)

def ioctlDecodePostMemQuery : Decode w Unit := do
  let args ← deref ptr fun m => MaliIoctlMemQuery.load m ptr
  panwrapLog "\tvalue = 0x%PRIx64\n" [.nat args.value.toNat]

def ioctlDecodePostMemAlias : Decode w Unit := do
  let args ← deref ptr fun m => MaliIoctlMemAlias.load m ptr
  panwrapLog "\tgpu_va = 0x%PRIx64\n" [.nat args.gpuVa.toNat]
  panwrapLog "\tva_pages = %PRId64\n" [.int args.vaPages.toInt]

def ioctlDecodePostSync : Decode w Unit := do
  let args ← deref ptr fun m => MaliIoctlSync.load m ptr
  whenever (args.type = maliSyncToCpu) do
    panwrapLog "\tDumping memory from device:\n" []
    hexdump args.userAddr (args.size.setWidth w) "\t\t"

/-- The name printed for `thread.impl_tech`; the switch has no default. -/
def implementationName (implTech : BitVec 8) : Arg :=
  match implTech.toNat with
  | 0 => .str "Unknown"
  | 1 => .str "Silicon"
  | 2 => .str "FPGA"
  | 3 => .str "Software"
  | _ => .unset

def ioctlDecodeCoherencyMode (mode : BitVec 32) : String :=
  match mode.toNat with
  | 0 => "ACE_LITE"
  | 1 => "ACE"
  | 31 => "None"
  | _ => "???"

/-- The members of `struct mali_ioctl_gpu_props_reg_dump` follow its header: `core` at 8, `l2` at 56,
    `tiler` at 72, `thread` at 80, `raw` at 104 and `coherency_info` at 264. -/
def ioctlDecodePostGpuPropsRegDump : Decode w Unit := do
  let byte ← deref ptr fun m off => m.read 8 ptr off
  let half ← deref ptr fun m off => Arg.nat (m.read 16 ptr off).toNat
  let word ← deref ptr fun m off => m.read 32 ptr off
  let long ← deref ptr fun m off => m.read 64 ptr off
  let int := fun off => Arg.int (word off).toInt
  let hex := fun off => Arg.nat (word off).toNat
  let yesNo := fun off => Arg.str (if long off ≠ 0#64 then "Yes" else "No")
  let yesNoWord := fun off => Arg.str (if word off ≠ 0#32 then "Yes" else "No")
  panwrapLog "\tcore:\n" []
  panwrapLog "\t\tProduct ID: %d\n" [int 8]
  panwrapLog "\t\tVersion status: %d\n" [half 12]
  panwrapLog "\t\tMinor revision: %d\n" [half 14]
  panwrapLog "\t\tMajor revision: %d\n" [half 16]
  panwrapLog "\t\tGPU speed (?): %dMHz\n" [int 20]
  panwrapLog "\t\tGPU frequencies (?): %dKHz-%dKHz\n" [int 28, int 24]
  panwrapLog "\t\tShader program counter size: %.lf MB\n" [.pow2 (word 32).toNat (1024 * 1024)]
  panwrapLog "\t\tTexture features:\n" []
  forEach (fun i => panwrapLog "\t\t\t%010x\n" [hex (36 + 4 * i)]) (List.range 3)
  panwrapLog "\t\tAvailable memory: %PRId64 bytes\n" [.int (long 48).toInt]
  panwrapLog "\tL2 cache:\n" []
  panwrapLog "\t\tLine size: %.lf (bytes, words?)\n" [.pow2 (byte 56).toNat 1]
  panwrapLog "\t\tCache size: %.lf KB\n" [.pow2 (byte 57).toNat 1024]
  panwrapLog "\t\tL2 slice count: %d\n" [.nat (byte 58).toNat]
  panwrapLog "\tTiler:\n" []
  panwrapLog "\t\tBinary size: %d bytes\n" [int 72]
  panwrapLog "\t\tMax active levels: %d\n" [int 76]
  panwrapLog "\tThreads:\n" []
  panwrapLog "\t\tMax threads: %d\n" [int 80]
  panwrapLog "\t\tMax threads per workgroup: %d\n" [int 84]
  panwrapLog "\t\tMax threads allowed for synchronizing on simple barrier: %d\n" [int 88]
  panwrapLog "\t\tMax registers available per-core: %d\n" [half 92]
  panwrapLog "\t\tMax tasks that can be sent to a core before blocking: %d\n" [.nat (byte 94).toNat]
  panwrapLog "\t\tMax allowed thread group split value: %d\n" [.nat (byte 95).toNat]
  panwrapLog "\t\tImplementation type: %d (%s)\n" [.nat (byte 96).toNat, implementationName (byte 96)]
  panwrapLog "\tRaw props:\n" []
  panwrapLog "\t\tShader present? %s\n" [yesNo 104]
  panwrapLog "\t\tTiler present? %s\n" [yesNo 112]
  panwrapLog "\t\tL2 present? %s\n" [yesNo 120]
  panwrapLog "\t\tStack present? %s\n" [yesNo 128]
  panwrapLog "\t\tL2 features: 0x%010x\n" [hex 136]
  panwrapLog "\t\tSuspend size: %d\n" [int 140]
  panwrapLog "\t\tMemory features: 0x%010x\n" [hex 144]
  panwrapLog "\t\tMMU features: 0x%010x\n" [hex 148]
  panwrapLog "\t\tAS (what is this?) present? %s\n" [yesNoWord 152]
  panwrapLog "\t\tJS (what is this?) present? %s\n" [yesNoWord 156]
  panwrapLog "\t\tJS features:\n" []
  forEach (fun i => panwrapLog "\t\t\t%010x\n" [hex (160 + 4 * i)]) (List.range 16)
  panwrapLog "\t\tTiler features: %010x\n" [hex 224]
  panwrapLog "\t\tGPU ID: 0x%x\n" [hex 240]
  panwrapLog "\t\tThread features: 0x%x\n" [hex 256]
  panwrapLog "\t\tCoherency mode: 0x%x (%s)\n" [hex 260, .str (ioctlDecodeCoherencyMode (word 260))]
  panwrapLog "\tCoherency info:\n" []
  panwrapLog "\t\tNumber of groups: %d\n" [int 264]
  panwrapLog "\t\tNumber of core groups (coherent or not): %d\n" [int 268]
  panwrapLog "\t\tFeatures: 0x%x\n" [hex 272]
  panwrapLog "\t\tGroups:\n" []
  forEach (fun i => do
    panwrapLog "\t\t\t- Core mask: %010PRIx64\n" [.nat (long (280 + 16 * i)).toNat]
    panwrapLog "\t\t\t  Number of cores: %d\n" [half (288 + 16 * i)]) (List.range (word 264).toNat)

def ioctlDecodePostStreamCreate : Decode w Unit := do
  let fd ← deref ptr fun m => m.read 32 ptr 40
  panwrapLog "\tfd = %d\n" [.int fd.toInt]

def ioctlDecodePostGetContextId : Decode w Unit := do
  let id ← deref ptr fun m => m.read 64 ptr 8
  panwrapLog "\tid = 0x%PRIx64\n" [.nat id.toNat]

def ioctlReportPost (request : BitVec w) : Decode w Unit :=
  if ioctlCase w request = ioctlCase w maliIoctlGetVersion then ioctlDecodePostGetVersion ptr
  else if ioctlCase w request = ioctlCase w maliIoctlGetVersionNew then ioctlDecodePostGetVersion ptr
  else if ioctlCase w request = ioctlCase w maliIoctlMemImport then ioctlDecodePostMemImport ptr
  else if ioctlCase w request = ioctlCase w maliIoctlMemQuery then ioctlDecodePostMemQuery ptr
  else if ioctlCase w request = ioctlCase w maliIoctlMemAlias then ioctlDecodePostMemAlias ptr
  else if ioctlCase w request = ioctlCase w maliIoctlSync then ioctlDecodePostSync ptr
  else if ioctlCase w request = ioctlCase w maliIoctlGpuPropsRegDump then ioctlDecodePostGpuPropsRegDump ptr
  else if ioctlCase w request = ioctlCase w maliIoctlStreamCreate then ioctlDecodePostStreamCreate ptr
  else if ioctlCase w request = ioctlCase w maliIoctlGetContextId then ioctlDecodePostGetContextId ptr
  else pure ()

/-- The cases of a switch exclude each other, so the two that change `allocations` may be tested first. -/
def ioctlDecodePost (request : BitVec w) : Wrap w Unit :=
  if ioctlCase w request = ioctlCase w maliIoctlMemAlloc then ioctlDecodePostMemAlloc cfg ptr
  else if ioctlCase w request = ioctlCase w maliIoctlMemCommit then ioctlDecodePostMemCommit cfg ptr
  else decode cfg fun _ => ioctlReportPost ptr request

end Post

section Wrappers

variable (cfg : Config) (libc : Libc w)

def oCreat : BitVec 32 := 0x40#32

def panwrapOpenWrap (origOpen : String → BitVec 32 → Option (BitVec 32) → LibcCall w) (path : String)
    (flags mode : BitVec 32) : Wrap w Int := do
  let reply ← orig libc (origOpen path flags (if flags &&& oCreat ≠ 0#32 then some mode else none))
  whenever (reply.ret ≠ -1) do
    if path = "/dev/mali0" then do
      say "/dev/mali0 fd == %d\n" [.int reply.ret]
      onTracker fun t => { t with maliFd := reply.ret }
    else
      whenever ("/dev/".toList <:+: path.toList) do
        say "Unknown device %s opened at fd %d\n" [.str path, .int reply.ret]
  pure reply.ret

def close (fd : Int) : Wrap w Int := do
  let σ ← get
  whenever (0 < fd ∧ fd = σ.tracker.maliFd) do
    say "/dev/mali0 closed\n" []
    onTracker fun t => { t with maliFd := 0 }
  let reply ← orig libc (.close fd)
  pure reply.ret

/-- The third argument as the wrapper takes it. -/
def ioctlPtr (request arg : BitVec w) : BitVec w := if iocSize request ≠ 0#14 then arg else 0#w

def IoctlTraced (maliFd fd : Int) : Prop := fd = 0 ∨ fd = maliFd

instance (maliFd fd : Int) : Decidable (IoctlTraced maliFd fd) := inferInstanceAs (Decidable (_ ∨ _))

def requestArgs (request : BitVec w) : List Arg :=
  [.str ((ioctlGetInfo cfg.stray request).getD "???"), .nat (iocNr request).toNat, .nat request.toNat]

def ioctl (fuel : Nat) (fd : Int) (request arg : BitVec w) : Wrap w Int := do
  let ptr := ioctlPtr request arg
  let σ ← get
  if ¬ IoctlTraced σ.tracker.maliFd fd then do
    let reply ← orig libc (.ioctl fd request ptr)
    pure reply.ret
  else do
    panwrapFreezeTime
    if ptr = 0#w then do
      say "<%-20s> (%02lu) (%08lx), has no arguments? Cannot decode :(\n" (requestArgs cfg request)
      panwrapUnfreezeTime
      let reply ← orig libc (.ioctl fd request ptr)
      panwrapFreezeTime
      say "\t= %02d\n" [.int reply.ret]
      panwrapUnfreezeTime
      pure reply.ret
    else do
      let func ← decode cfg fun _ => deref ptr fun m => m.read 32 ptr 0
      say "<%-20s> (%02lu) (%08lx) (%04lu) (%03d)\n"
        (requestArgs cfg request ++ [.nat (iocSize request).toNat, .int func.toInt])
      decode cfg fun env => ioctlDecodePre env fuel request ptr
      panwrapUnfreezeTime
      let reply ← orig libc (.ioctl fd request ptr)
      panwrapFreezeTime
      let rc ← decode cfg fun _ => deref ptr fun m => m.read 32 ptr 0
      say "\t= %02d, %02d\n" [.int reply.ret, .int rc.toInt]
      ioctlDecodePost cfg ptr request
      panwrapUnfreezeTime
      pure reply.ret

def MmapTraced (maliFd fd : Int) : Prop := maliFd ≠ 0 ∧ fd = maliFd

instance (maliFd fd : Int) : Decidable (MmapTraced maliFd fd) := inferInstanceAs (Decidable (_ ∧ _))

def pendingAt (offset : BitVec 64) (pos : AllocatedMemory) : Bool := pos.gpuVa == offset

def panwrapMmapWrap (func : BitVec w → BitVec w → BitVec 32 → BitVec 32 → Int → BitVec 64 → LibcCall w)
    (addr length : BitVec w) (prot flags : BitVec 32) (fd : Int) (offset : BitVec 64) : Wrap w (BitVec w) := do
  let σ ← get
  if ¬ MmapTraced σ.tracker.maliFd fd then do
    let reply ← orig libc (func addr length prot flags fd offset)
    pure reply.ptr
  else do
    let reply ← orig libc (func addr length prot flags fd offset)
    let ret := reply.ptr
    panwrapFreezeTime
    match σ.tracker.allocations.find? (pendingAt offset) with
    | some pos => do
      onTracker fun t => { t with allocations := t.allocations.eraseP (pendingAt offset) }
      say "GPU memory 0x%PRIx64 mapped to %p - %p length=%zu\n"
        [.nat offset.toNat, .nat ret.toNat, .nat (ret + length).toNat, .nat length.toNat]
      onTracker (listAddMapping ⟨length, ret, if pos.sameVa then ret.setWidth 64 else offset⟩)
    | none => do
      say "Unknown memory mapping %p - %p: offset=%PRId64 length=%zu prot = "
        [.nat ret.toNat, .nat (ret + length).toNat, .int offset.toInt, .nat length.toNat]
      decode cfg fun _ => logDecodedFlags mmapProtFlagInfo (prot.signExtend 64)
      decode cfg fun _ => logCont " flags = " []
      decode cfg fun _ => logDecodedFlags mmapFlagsFlagInfo (flags.signExtend 64)
      decode cfg fun _ => logCont "\n" []
      onTracker (listAddMapping ⟨length, ret, 0#64⟩)
    panwrapUnfreezeTime
    pure ret

def startsAt (addr : BitVec w) (pos : MappedMemory w) : Bool := pos.addr == addr

def munmap (addr length : BitVec w) : Wrap w Int := do
  let reply ← orig libc (.munmap addr length)
  panwrapFreezeTime
  let σ ← get
  match findMappedMem σ.tracker.mmaps addr with
  | none => pure ()
  | some mem => do
    if mem.gpuVa ≠ 0#64 then
      say "Unmapped GPU memory 0x%PRIx64@%p\n" [.nat mem.gpuVa.toNat, .nat mem.addr.toNat]
    else
      say "Unmapped unknown memory %p\n" [.nat mem.addr.toNat]
    onTracker fun t => { t with mmaps := t.mmaps.eraseP (startsAt addr) }
  panwrapUnfreezeTime
  pure reply.ret

end Wrappers

/-- A call of the traced program. The mode of an `open` is what follows its flags, passed or not. -/
inductive Call (build : Build) where
  | openAt (path : String) (flags mode : BitVec 32)
  | open64 (path : String) (flags mode : BitVec 32)
  | close (fd : Int)
  | ioctl (fd : Int) (request arg : BitVec build.bits)
  | mmap (addr length : BitVec build.bits) (prot flags : BitVec 32) (fd : Int) (offset : BitVec build.bits)
  | mmap64 (addr length : BitVec build.bits) (prot flags : BitVec 32) (fd : Int) (offset : BitVec 64)
  | munmap (addr length : BitVec build.bits)

inductive Value (w : Nat) where
  | int (ret : Int)
  | ptr (p : BitVec w)
  deriving DecidableEq, Repr

/-- The libc function that `mmap` stands for: without `__LP64__` it is `mmap64`. -/
def mmapFunction (build : Build) (addr length : BitVec build.bits) (prot flags : BitVec 32) (fd : Int)
    (offset : BitVec 64) : LibcCall build.bits :=
  match build with
  | .lp64 => .mmap addr length prot flags fd offset
  | .ilp32 => .mmap64 addr length prot flags fd offset

def wrapper {build : Build} (cfg : Config) (libc : Libc build.bits) (fuel : Nat) :
    Call build → Wrap build.bits (Value build.bits)
  | .openAt path flags mode => do
    let ret ← panwrapOpenWrap libc .openAt path flags mode
    pure (.int ret)
  | .open64 path flags mode => do
    let ret ← panwrapOpenWrap libc .open64 path flags mode
    pure (.int ret)
  | .close fd => do
    let ret ← close libc fd
    pure (.int ret)
  | .ioctl fd request arg => do
    let ret ← ioctl cfg libc fuel fd request arg
    pure (.int ret)
  | .mmap addr length prot flags fd offset => do
    let p ← panwrapMmapWrap cfg libc (mmapFunction build) addr length prot flags fd (offset.signExtend 64)
    pure (.ptr p)
  | .mmap64 addr length prot flags fd offset => do
    let p ← panwrapMmapWrap cfg libc .mmap64 addr length prot flags fd offset
    pure (.ptr p)
  | .munmap addr length => do
    let ret ← munmap libc addr length
    pure (.int ret)

end Panwrap
