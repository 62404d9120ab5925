import Pantry.Decoder.Trace
import Pantry.Panwrap.Request

namespace Panwrap

open Machine Decoder Program

variable {w : Nat}

section Layout

/-- `struct mali_ioctl_mem_alloc`, less its header. -/
structure MaliIoctlMemAlloc where
  vaPages : BitVec 64
  commitPages : BitVec 64
  extent : BitVec 64
  flags : BitVec 64
  gpuVa : BitVec 64
  vaAlignment : BitVec 16

def MaliIoctlMemAlloc.load (m : Memory w) (args : BitVec w) : MaliIoctlMemAlloc where
  vaPages := m.read 64 args 8
  commitPages := m.read 64 args 16
  extent := m.read 64 args 24
  flags := m.read 64 args 32
  gpuVa := m.read 64 args 40
  vaAlignment := m.read 16 args 48

structure MaliIoctlMemImport where
  phandle : BitVec 64
  type : BitVec 32
  flags : BitVec 64
  gpuVa : BitVec 64
  vaPages : BitVec 64

def MaliIoctlMemImport.load (m : Memory w) (args : BitVec w) : MaliIoctlMemImport where
  phandle := m.read 64 args 8
  type := m.read 32 args 16
  flags := m.read 64 args 24
  gpuVa := m.read 64 args 32
  vaPages := m.read 64 args 40

structure MaliIoctlMemCommit where
  gpuAddr : BitVec 64
  pages : BitVec 64
  resultSubcode : BitVec 32

def MaliIoctlMemCommit.load (m : Memory w) (args : BitVec w) : MaliIoctlMemCommit where
  gpuAddr := m.read 64 args 8
  pages := m.read 64 args 16
  resultSubcode := m.read 32 args 24

structure MaliIoctlMemQuery where
  gpuAddr : BitVec 64
  query : BitVec 32
  value : BitVec 64

def MaliIoctlMemQuery.load (m : Memory w) (args : BitVec w) : MaliIoctlMemQuery where
  gpuAddr := m.read 64 args 8
  query := m.read 32 args 16
  value := m.read 64 args 24

structure MaliIoctlMemFlagsChange where
  gpuVa : BitVec 64
  flags : BitVec 64
  mask : BitVec 64

def MaliIoctlMemFlagsChange.load (m : Memory w) (args : BitVec w) : MaliIoctlMemFlagsChange where
  gpuVa := m.read 64 args 8
  flags := m.read 64 args 16
  mask := m.read 64 args 24

structure MaliIoctlMemAlias where
  flags : BitVec 64
  stride : BitVec 64
  nents : BitVec 64
  ai : BitVec 64
  gpuVa : BitVec 64
  vaPages : BitVec 64

def MaliIoctlMemAlias.load (m : Memory w) (args : BitVec w) : MaliIoctlMemAlias where
  flags := m.read 64 args 8
  stride := m.read 64 args 16
  nents := m.read 64 args 24
  ai := m.read 64 args 32
  gpuVa := m.read 64 args 40
  vaPages := m.read 64 args 48

/-- `struct mali_ioctl_sync`; a pointer has a field of 64 bits whatever its size. -/
structure MaliIoctlSync (w : Nat) where
  handle : BitVec 64
  userAddr : BitVec w
  size : BitVec 64
  type : BitVec 8

def MaliIoctlSync.load (m : Memory w) (args : BitVec w) : MaliIoctlSync w where
  handle := m.read 64 args 8
  userAddr := m.read w args 16
  size := m.read 64 args 24
  type := m.read 8 args 32

structure MaliIoctlJobSubmit (w : Nat) where
  addr : BitVec w
  nrAtoms : BitVec 32
  stride : BitVec 32

def MaliIoctlJobSubmit.load (m : Memory w) (args : BitVec w) : MaliIoctlJobSubmit w where
  addr := m.read w args 8
  nrAtoms := m.read 32 args 16
  stride := m.read 32 args 20

end Layout

def logCont (format : String) (args : List Arg) : Decode w Unit := put [.logCont format args]

def logDecodedFlags (table : List FlagInfo) (flags : BitVec 64) : Decode w Unit :=
  put (panwrapLogDecodedFlags table flags)

theorem silent_logCont (format : String) (args : List Arg) : Silent (logCont format args : Decode w Unit) :=
  fun _ => traces_put _

theorem silent_logDecodedFlags (table : List FlagInfo) (flags : BitVec 64) :
    Silent (logDecodedFlags table flags : Decode w Unit) := by
  intro s
  refine ⟨_, rfl, ?_⟩
  rw [panwrapLogDecodedFlags, List.filterMap_cons]
  exact logDecodedFlagsLoop_unmarked _ _ _

/-- A call of `panwrap_log_hexdump`; its counter is an `unsigned int`. -/
def hexdump (p : BitVec w) (size : BitVec w) (indent : String) : Decode w Unit := fun σ =>
  if p = 0#w then ⟨panwrapLogHexdump none indent, .done () σ⟩
  else if size.toNat < 2 ^ 32 then
    ⟨panwrapLogHexdump (some (σ.mem.bytes p size.toNat)) indent, .done () σ⟩
  else stop σ

section Pre

variable (env : Env w) (ptr : BitVec w)

def ioctlDecodePreMemAlloc : Decode w Unit := do
  let args ← deref ptr fun m => MaliIoctlMemAlloc.load m ptr
  panwrapLog "\tva_pages = %PRId64\n" [.int args.vaPages.toInt]
  panwrapLog "\tcommit_pages = %PRId64\n" [.int args.commitPages.toInt]
  panwrapLog "\textent = 0x%PRIx64\n" [.nat args.extent.toNat]
  panwrapLog "\tflags = " []
  logDecodedFlags memFlagInfo args.flags
  logCont "\n" []

def memImportTypeName (type : BitVec 32) : String :=
  match type.toNat with
  | 1 => "UMP"
  | 2 => "UMM"
  | 3 => "User buffer"
  | _ => "Invalid"

def ioctlDecodePreMemImport : Decode w Unit := do
  let args ← deref ptr fun m => MaliIoctlMemImport.load m ptr
  panwrapLog "\tphandle = 0x%PRIx64\n" [.nat args.phandle.toNat]
  panwrapLog "\ttype = %d (%s)\n" [.int args.type.toInt, .str (memImportTypeName args.type)]
  panwrapLog "\tflags = " []
  logDecodedFlags memFlagInfo args.flags
  logCont "\n" []

def ioctlDecodePreMemCommit : Decode w Unit := do
  let args ← deref ptr fun m => MaliIoctlMemCommit.load m ptr
  panwrapLog "\tgpu_addr = 0x%PRIx64\n" [.nat args.gpuAddr.toNat]
  panwrapLog "\tpages = %PRId64\n" [.int args.pages.toInt]

def memQueryName (query : BitVec 32) : String :=
  match query.toNat with
  | 1 => "Commit size"
  | 2 => "VA size"
  | 3 => "Flags"
  | _ => "???"

def ioctlDecodePreMemQuery : Decode w Unit := do
  let args ← deref ptr fun m => MaliIoctlMemQuery.load m ptr
  panwrapLog "\tgpu_addr = 0x%PRIx64\n" [.nat args.gpuAddr.toNat]
  panwrapLog "\tquery = %d (%s)\n" [.int args.query.toInt, .str (memQueryName args.query)]

def ioctlDecodePreMemFree : Decode w Unit := do
  let gpuAddr ← deref ptr fun m => m.read 64 ptr 8
  panwrapLog "\tgpu_addr = 0x%PRIx64\n" [.nat gpuAddr.toNat]

def ioctlDecodePreMemFlagsChange : Decode w Unit := do
  let args ← deref ptr fun m => MaliIoctlMemFlagsChange.load m ptr
  panwrapLog "\tgpu_va = 0x%PRIx64\n" [.nat args.gpuVa.toNat]
  panwrapLog "\tflags = " []
  logDecodedFlags memFlagInfo args.flags
  logCont "\n" []
  panwrapLog "\tmask = 0x%PRIx64\n" [.nat args.mask.toNat]

def ioctlDecodePreMemAlias : Decode w Unit := do
  let args ← deref ptr fun m => MaliIoctlMemAlias.load m ptr
  panwrapLog "\tflags = " []
  logDecodedFlags memFlagInfo args.flags
  logCont "\n" []
  panwrapLog "\tstride = %PRId64\n" [.int args.stride.toInt]
  panwrapLog "\tnents = %PRId64\n" [.int args.nents.toInt]
  panwrapLog "\tai = 0x%PRIx64\n" [.nat args.ai.toNat]

def maliSyncToDevice : BitVec 8 := 1#8
def maliSyncToCpu : BitVec 8 := 2#8

def syncTypeName (type : BitVec 8) : String :=
  if type = maliSyncToDevice then "device <- CPU"
  else if type = maliSyncToCpu then "device -> CPU"
  else "???"

def ioctlDecodePreSync : Decode w Unit := do
  let args ← deref ptr fun m => MaliIoctlSync.load m ptr
  let handle : BitVec w := args.handle.setWidth w
  let userEnd := args.userAddr + args.size.setWidth w
  match findMappedMem env.mmaps handle with
  | some mem => do
    panwrapLog "\thandle = %p (end=%p, len=%zu)\n"
      [.nat handle.toNat, .nat (handle + mem.length).toNat, .nat mem.length.toNat]
    panwrapLog "\tuser_addr = %p - %p (offset=%PRIu64)\n"
      [.nat args.userAddr.toNat, .nat userEnd.toNat,
        .nat (args.userAddr.setWidth 64 - handle.setWidth 64 : BitVec 64).toNat]
  | none => do
    panwrapLog "\tERROR! Unknown handle specified\n" []
    panwrapLog "\thandle = 0x%p\n" [.nat handle.toNat]
    panwrapLog "\tuser_addr = %p - %p\n" [.nat args.userAddr.toNat, .nat userEnd.toNat]
  panwrapLog "\tsize = %PRId64\n" [.int args.size.toInt]
  panwrapLog "\ttype = %d (%s)\n" [.nat args.type.toNat, .str (syncTypeName args.type)]
  whenever (args.type = maliSyncToDevice) do
    panwrapLog "\tDumping memory being synced to device:\n" []
    hexdump args.userAddr (args.size.setWidth w) "\t\t"

def ioctlDecodePreSetFlags : Decode w Unit := do
  let createFlags ← deref ptr fun m => m.read 32 ptr 8
  panwrapLog "\tcreate_flags = %08x\n" [.nat createFlags.toNat]

def ioctlDecodePreStreamCreate : Decode w Unit := do
  let name ← deref ptr fun m => m.string (2 ^ w) (ptr + 8#w)
  panwrapLog "\tname = %s\n" [.text name]

end Pre

section Submit

def ioctlDecodeJdPrio (prio : BitVec 8) : String :=
  match prio.toNat with
  | 2 => "Low"
  | 0 => "Medium"
  | 1 => "High"
  | _ => "???"

def maliJdReqFs : BitVec 32 := 1#32 <<< 0
def maliJdReqCs : BitVec 32 := 1#32 <<< 1
def maliJdReqT : BitVec 32 := 1#32 <<< 2
def maliJdReqOnlyCompute : BitVec 32 := 1#32 <<< 10

def ioctlGetJobTypeFromJdCoreReq (req : BitVec 32) : String :=
  if req &&& maliJdReqSoftJob ≠ 0#32 then "Soft job"
  else if req &&& maliJdReqOnlyCompute ≠ 0#32 then "Compute Shader Job"
  else match (req &&& (maliJdReqFs ||| maliJdReqCs ||| maliJdReqT)).toNat with
  | 0 => "Dependency only job"
  | 1 => "Fragment shader job"
  | 2 => "Vertex/Geometry shader job"
  | 4 => "Tiler job"
  | 3 => "Fragment shader + vertex/geometry shader job"
  | 5 => "Fragment shader + tiler job"
  | 6 => "Vertex/geometry shader job + tiler job"
  | 7 => "Fragment shader + vertex/geometry shader job + tiler job"
  | _ => "???"

def softFlag (req : BitVec 32) : Option String :=
  if req = maliJdReqSoftJob ||| 0x1#32 then some "SOFT_DUMP_CPU_GPU_TIME"
  else if req = maliJdReqSoftJob ||| 0x2#32 then some "SOFT_FENCE_TRIGGER"
  else if req = maliJdReqSoftJob ||| 0x3#32 then some "SOFT_FENCE_WAIT"
  else if req = maliJdReqSoftJob ||| 0x4#32 then some "SOFT_REPLAY"
  else if req = maliJdReqSoftJob ||| 0x5#32 then some "SOFT_EVENT_WAIT"
  else if req = maliJdReqSoftJob ||| 0x6#32 then some "SOFT_EVENT_SET"
  else if req = maliJdReqSoftJob ||| 0x7#32 then some "SOFT_EVENT_RESET"
  else if req = maliJdReqSoftJob ||| 0x8#32 then some "SOFT_DEBUG_COPY"
  else if req = maliJdReqSoftJob ||| 0x9#32 then some "SOFT_JIT_ALLOC"
  else if req = maliJdReqSoftJob ||| 0xa#32 then some "SOFT_JIT_FREE"
  else if req = maliJdReqSoftJob ||| 0xb#32 then some "SOFT_EXT_RES_MAP"
  else if req = maliJdReqSoftJob ||| 0xc#32 then some "SOFT_EXT_RES_UNMAP"
  else none

def ioctlLogDecodedJdCoreReq (req : BitVec 32) : Decode w Unit :=
  if req &&& maliJdReqSoftJob ≠ 0#32 then do
    logCont "0x%010x (" [.nat req.toNat]
    match softFlag req with
    | some name => logCont "%s)" [.str name]
    | none => logCont "???)" []
  else logDecodedFlags jdReqFlagInfo (req.setWidth 64)

variable (env : Env w)

/-- What is logged of an atom whose `jc` is `jc`, up to the call of `chai_trace_atom` that the
    lookup guards. -/
def traceAtomIfMapped (fuel : Nat) (i : BitVec 32) (jc : BitVec 64) (coreReq : BitVec 32) : Decode w Unit := do
  panwrapLog "\t\tjc = 0x%PRIx64\n" [.nat jc.toNat]
  match findMappedMemContaining env.mmaps (jc.setWidth w) with
  | some mem => do
    let offset : BitVec w := jc.setWidth w - mem.addr
    panwrapLog "\t\tAddress %PRIu64 bytes inside mmap %p - %p (length=%zd)\n"
      [.nat (offset.signExtend 64).toNat, .nat mem.addr.toNat, .nat (mem.addr + mem.length).toNat,
        .int mem.length.toInt]
    mark (.atom i.toNat)
    chaiTraceAtom env fuel jc coreReq
  | none => panwrapLog "\t\tERROR! jc contained in unknown memory region, cannot dump\n" []

def logExtResources (atom : MaliJdAtomV2 w) : Decode w Unit :=
  if atom.extResList ≠ 0#w then do
    let count ← deref atom.extResList fun m => m.read 64 atom.extResList 0
    panwrapLog "\t\text_res_list.count = %PRId64\n" [.int count.toInt]
    panwrapLog "\t\tExternal resources:\n" []
    forEach (fun j => do
      panwrapLog "\t\t\t" []
      let resource ← deref atom.extResList fun m => m.read 64 (atom.extResList + BitVec.ofNat w (16 * j)) 8
      logDecodedFlags externalResourcesAccessFlagInfo resource
      logCont "\n" []) (List.range atom.nrExtRes.toNat)
  else panwrapLog "\t\t<no external resources>\n" []

/-- The rest of the log of the atom at `a`; the two pre-dependencies are both indexed with `i`. -/
def logAtom (a : BitVec w) (atoms : BitVec w) (i : BitVec 32) : Decode w Unit := do
  let atom ← deref atoms fun m => MaliJdAtomV2.load m a
  panwrapLog "\t\tudata = [0x%PRIx64, 0x%PRIx64]\n" [.nat (atom.udata 0).toNat, .nat (atom.udata 1).toNat]
  panwrapLog "\t\tnr_ext_res = %d\n" [.nat atom.nrExtRes.toNat]
  logExtResources atom
  panwrapLog "\t\tcompat_core_req = 0x%x\n" [.nat atom.compatCoreReq.toNat]
  panwrapLog "\t\tPre-dependencies:\n" []
  forEach (fun _ => do
    let atomId ← deref atoms fun m => m.read 8 a (36 + 2 * i.toNat)
    panwrapLog "\t\t\tatom_id = %d flags == " [.nat atomId.toNat]
    let dependencyType ← deref atoms fun m => m.read 8 a (37 + 2 * i.toNat)
    logDecodedFlags maliJdDepTypeFlagInfo (dependencyType.setWidth 64)
    logCont "\n" []) (List.range 2)
  panwrapLog "\t\tatom_number = %d\n" [.nat atom.atomNumber.toNat]
  panwrapLog "\t\tprio = %d (%s)\n" [.nat atom.prio.toNat, .str (ioctlDecodeJdPrio atom.prio)]
  panwrapLog "\t\tdevice_nr = %d\n" [.nat atom.deviceNr.toNat]
  panwrapLog "\t\tJob type = %s\n" [.str (ioctlGetJobTypeFromJdCoreReq atom.coreReq)]
  panwrapLog "\t\tcore_req = " []
  ioctlLogDecodedJdCoreReq atom.coreReq
  logCont "\n" []

def atomAt (atoms : BitVec w) (i : BitVec 32) : BitVec w := atoms + BitVec.ofNat w (MaliJdAtomV2.size * i.toNat)

def traceSubmittedAtom (ptr atoms : BitVec w) (fuel : Nat) (i : BitVec 32) : Decode w (Option (BitVec 32)) := do
  let nrAtoms ← deref ptr fun m => (MaliIoctlJobSubmit.load m ptr).nrAtoms
  if i < nrAtoms then do
    let atom ← deref atoms fun m => MaliJdAtomV2.load m (atomAt atoms i)
    traceAtomIfMapped env fuel i atom.jc atom.coreReq
    logAtom (atomAt atoms i) atoms i
    pure (some (i + 1#32))
  else pure none

def ioctlDecodePreJobSubmit (fuel : Nat) (ptr : BitVec w) : Decode w Unit := do
  let args ← deref ptr fun m => MaliIoctlJobSubmit.load m ptr
  panwrapLog "\taddr = %p\n" [.nat args.addr.toNat]
  panwrapLog "\tnr_atoms = %d\n" [.int args.nrAtoms.toInt]
  panwrapLog "\tstride = %d\n" [.int args.stride.toInt]
  if args.stride.toNat ≠ MaliJdAtomV2.size then do
    panwrapLog "\tSIZE MISMATCH (stride should be %zd, was %d)\n"
      [.nat MaliJdAtomV2.size, .int args.stride.toInt]
    panwrapLog "\tCannot dump atoms :(, maybe it's a legacy job format?\n" []
  else do
    panwrapLog "\tAtoms:\n" []
    loop (traceSubmittedAtom env ptr args.addr) fuel 0#32

def ioctlDecodePre (fuel : Nat) (request : BitVec w) (ptr : BitVec w) : Decode w Unit :=
  if ioctlCase w request = ioctlCase w maliIoctlMemAlloc then ioctlDecodePreMemAlloc ptr
  else if ioctlCase w request = ioctlCase w maliIoctlMemImport then ioctlDecodePreMemImport ptr
  else if ioctlCase w request = ioctlCase w maliIoctlMemCommit then ioctlDecodePreMemCommit ptr
  else if ioctlCase w request = ioctlCase w maliIoctlMemQuery then ioctlDecodePreMemQuery ptr
  else if ioctlCase w request = ioctlCase w maliIoctlMemFree then ioctlDecodePreMemFree ptr
  else if ioctlCase w request = ioctlCase w maliIoctlMemFlagsChange then ioctlDecodePreMemFlagsChange ptr
  else if ioctlCase w request = ioctlCase w maliIoctlMemAlias then ioctlDecodePreMemAlias ptr
  else if ioctlCase w request = ioctlCase w maliIoctlSync then ioctlDecodePreSync env ptr
  else if ioctlCase w request = ioctlCase w maliIoctlSetFlags then ioctlDecodePreSetFlags ptr
  else if ioctlCase w request = ioctlCase w maliIoctlStreamCreate then ioctlDecodePreStreamCreate ptr
  else if ioctlCase w request = ioctlCase w maliIoctlJobSubmit then ioctlDecodePreJobSubmit env fuel ptr
  else pure ()

end Submit

end Panwrap
