import Pantry.Decoder.Context
import Pantry.Decoder.Layout
import Pantry.Machine.Loop

namespace Decoder

open Machine Panwrap Program

variable {w : Nat}

def assertGpuSame (env : Env w) (addr : BitVec 64) (s : Nat) (synth : List Byte) : Decode w Unit := do
  let buffer ← fetch env addr (BitVec.ofNat w s)
  if buffer = 0#w then
    panwrapLog "Bad allocation in assert %PRIx64\n" [.nat addr.toNat]
  else do
    let same ← deref buffer fun m => m.bytes buffer s == synth
    whenever (!same) do
      panwrapLog "At %PRIX64, expected:\n" [.nat addr.toNat]
      put (panwrapLogHexdumpTrimmed env.enableHexdumpTrimming (some synth) "\t\t")
      panwrapLog "Instead got:\n" []
      hexdumpTrimmed env buffer s "\t\t"

def assertGpuZeroes (env : Env w) (addr : BitVec 64) (s : Nat) : Decode w Unit := do
  printf "Zero address %PRIX64\n" [.nat addr.toNat]
  assertGpuSame env addr s (List.replicate s 0#8)

def quickDumpGpu (env : Env w) (addr : BitVec 64) (s : Nat) : Decode w Unit :=
  if addr = 0#64 then
    panwrapLog "Null quick dump\n" []
  else do
    let buf ← fetch env addr (BitVec.ofNat w s)
    panwrapLog "Quick GPU dump (%PRIX64)\n" [.nat addr.toNat]
    if buf = 0#w then
      panwrapLog "Not found\n" []
    else
      hexdumpTrimmed env buf s "\t\t"

def chaiJobTypeName (type : Nat) : Decode w String :=
  match type with
  | 0 => pure "JOB_NOT_STARTED"
  | 1 => pure "JOB_TYPE_NULL"
  | 2 => pure "JOB_TYPE_SET_VALUE"
  | 3 => pure "JOB_TYPE_CACHE_FLUSH"
  | 4 => pure "JOB_TYPE_COMPUTE"
  | 5 => pure "JOB_TYPE_VERTEX"
  | 7 => pure "JOB_TYPE_TILER"
  | 8 => pure "JOB_TYPE_FUSED"
  | 9 => pure "JOB_TYPE_FRAGMENT"
  | _ => do
    panwrapLog "Requested job type %X\n" [.nat type]
    pure "UNKNOWN"

def chaiGlModeName (b : BitVec 8) : Decode w String :=
  match b.toNat with
  | 0x01 => pure "CHAI_POINTS"
  | 0x02 => pure "CHAI_LINES"
  | 0x08 => pure "CHAI_TRIANGLES"
  | 0x0A => pure "CHAI_TRIANGLE_STRIP"
  | 0x0C => pure "CHAI_TRIANGLE_FAN"
  | _ => do
    panwrapLog "Unknown mode %X\n" [.nat b.toNat]
    pure "GL_UNKNOWN"

def fbdLetter (fbd : Nat) : Char := if fbd % 2 = fbdType then 'M' else 'S'

/-- The `if (buf32)` block of `chai_trace_fbd`. -/
def traceFbdTable (env : Env w) (buf32 : BitVec w) : Decode w Unit :=
  whenever (buf32 ≠ 0#w) do
    hexdumpTrimmed env buf32 128 "\t\t"
    forEach (fun i => do
      let addr ← deref buf32 fun m => m.read 32 buf32 (4 * i)
      quickDumpGpu env (addr.setWidth 64) 64) [6, 20, 23, 24, 25, 26, 27, 28, 31]

def chaiTraceFbd (env : Env w) (fbd : BitVec 32) : Decode w Unit := do
  let mfbd ← fetch env ((fbd &&& fbdPointerMask 32).setWidth 64) (BitVec.ofNat w TentativeMfbd.size)
  panwrapLog "MFBD @ %X (%X)\n"
    [.nat (fbd &&& fbdPointerMask 32).toNat, .nat (fbd &&& ~~~fbdPointerMask 32).toNat]
  let f ← deref mfbd fun m => TentativeMfbd.load m mfbd
  panwrapLog "MFBD flags %X, heap free address %PRIX64\n" [.nat f.flags.toNat, .nat f.heapFreeAddress.toNat]
  mark (.framebuffer ((fbd &&& fbdPointerMask 32).setWidth 64))
  hexdumpTrimmed env (mfbd + BitVec.ofNat w TentativeMfbd.block1Offset) TentativeMfbd.block1Size "\t\t"
  panwrapLog "unk2\n" []
  let buf ← fetch env f.unknown2 64#w
  hexdumpTrimmed env buf 64 "\t\t"
  assertGpuZeroes env (f.block2 0) 64
  assertGpuZeroes env (f.block2 1) 64
  assertGpuZeroes env f.ugaT 64
  assertGpuZeroes env f.unknownGpuAddress 64
  panwrapLog "ugaT %PRIX64, uga %PRIX64\n" [.nat f.ugaT.toNat, .nat f.unknownGpuAddress.toNat]
  panwrapLog "ugan %PRIX64\n" [.nat f.unknownGpuAddressN.toNat]
  let buf ← fetch env f.unknownGpuAddressN 64#w
  hexdumpTrimmed env buf 64 "\t\t"
  panwrapLog "unk1 %X, b1 %PRIX64, b2 %PRIX64, unk2 %PRIX64, unk3 %PRIX64, blah %PRIX64\n"
    [.nat f.unknown1.toNat, .nat (f.block2 0).toNat, .nat (f.block2 1).toNat, .nat f.unknown2.toNat,
      .nat f.unknown3.toNat, .nat f.blah.toNat]
  panwrapLog "Weights [ %X, %X, %X, %X, %X, %X, %X, %X ]\n"
    ((List.finRange 8).map fun i => .nat (f.weights i).toNat)
  hexdumpTrimmed env (mfbd + BitVec.ofNat w TentativeMfbd.block3Offset) TentativeMfbd.block3Size "\t\t"
  panwrapLog "---\n" []
  hexdumpTrimmed env (mfbd + BitVec.ofNat w TentativeMfbd.block4Offset) TentativeMfbd.block4Size "\t\t"
  panwrapLog "--- (seriously though) --- %X\n" [.nat (f.block3 4).toNat]
  let buf32 ← fetch env ((f.block3 4).setWidth 64) 128#w
  traceFbdTable env buf32
  quickDumpGpu env ((f.block3 16).setWidth 64) 128

def chaiTraceVecN (v p : BitVec w) (count : BitVec w) : Decode w Unit :=
  let vec (n : Nat) (format : String) : Decode w Unit := do
    let args ← deref v fun m => (List.range n).map fun k => Arg.float (m.read 32 p (4 * k))
    panwrapLog format args
  match count.toNat with
  | 1 => vec 1 "\t<%f>,\n"
  | 2 => vec 2 "\t<%f, %f>,\n"
  | 3 => vec 3 "\t<%f, %f, %f>,\n"
  | 4 => vec 4 "\t<%f, %f, %f, %f>,\n"
  | _ => panwrapLog "Cannot print vec%zu\n" [.nat count.toNat]

def flareWord (env : Env w) (p : BitVec w) (off : Nat) (σ : Proc w) : Proc w where
  mem := σ.mem.write p off (env.flare σ.rands (σ.mem.read 32 p off))
  rands := σ.rands + 1

def flareVertex (env : Env w) (p : BitVec w) (σ : Proc w) : Proc w :=
  flareWord env p 8 (flareWord env p 4 (flareWord env p 0 σ))

/-- One round of the vertex loop of `chai_trace_attribute`; its counter is an `unsigned int`. -/
def traceVertex (env : Env w) (v vertexCount componentCount : BitVec w) (_ : Nat) :
    BitVec 32 × BitVec w → Decode w (Option (BitVec 32 × BitVec w))
  | (i, p) =>
    if i.toNat < vertexCount.toNat then do
      chaiTraceVecN v p componentCount
      deref v fun _ => ()
      modify (flareVertex env p)
      pure (some (i + 1#32, p + componentCount * 4#w))
    else pure none

def traceVertices (env : Env w) (v vertexCount componentCount : BitVec w) (fuel : Nat) : Decode w Unit :=
  loop (traceVertex env v vertexCount componentCount) fuel (0#32, v)

def chaiTraceAttribute (env : Env w) (fuel : Nat) (address : BitVec 64) : Decode w Unit := do
  let vb ← fetch env address (BitVec.ofNat w (AttributeBuffer.size w))
  whenever (vb ≠ 0#w) do
    let b ← deref vb fun m => AttributeBuffer.load m vb
    if b.elementSize = 0#w then fail .divByZero
    else do
      let vertexCount := b.totalSize / b.elementSize
      let componentCount := b.elementSize / 4#w
      let raw := b.elements &&& ~~~3#64
      let flags := b.elements ^^^ raw
      let v ← fetch env raw b.totalSize
      panwrapLog "attribute vec%zu mem%PRIX64flag%PRIX64 = \x7b\n"
        [.nat componentCount.toNat, .nat raw.toNat, .nat flags.toNat]
      traceVertices env v vertexCount componentCount fuel
      panwrapLog "\x7d\n" []

/-- One round of the attribute loop, at the metadata word `s`. -/
def traceAttributeWord (env : Env w) (v : BitVec w) (fuel : Nat) (s : BitVec 64) :
    Decode w (Option (BitVec 64)) := do
  let attrMeta ← fetch env s (BitVec.ofNat w attributeMetaSize)
  let word ← deref attrMeta fun m => m.read 64 attrMeta 0
  if word = 0#64 then pure none
  else do
    panwrapLog "Attribute %PRIX64 (flags %PRIX64)\n"
      [.nat (attributeNo word).toNat, .nat (attributeFlags word).toNat]
    mark (.attribute (attributeNo word))
    let attributes ← deref v fun m => m.read 32 v PayloadVertexTiler32.attributes
    chaiTraceAttribute env fuel
      (attributes.setWidth 64 + attributeNo word * BitVec.ofNat 64 (AttributeBuffer.size w))
    pure (some (s + BitVec.ofNat 64 attributeMetaSize))

def traceAttributes (env : Env w) (v : BitVec w) : Nat → BitVec 64 → Decode w Unit :=
  loop (traceAttributeWord env v)

def addressSize (addr : Nat) : Nat :=
  match addr with
  | 0 => 0x100
  | 1 => 0x10
  | 4 => 0x40
  | 5 => 0x20
  | 7 => 0x20
  | 8 => 0x20
  | _ => 64

def traceAddress (env : Env w) (h v : BitVec w) (addr : Nat) : Decode w Unit := do
  let address ← deref v fun m => m.read 32 v (PayloadVertexTiler32.zeroes + 4 * addr)
  let jobType ← deref h fun m => (JobDescriptorHeader.load m h).jobType
  -- the structures known already are not dumped
  whenever (addr ∉ [2, 3, 6, 11, 12] ∧ ¬ (addr = 10 ∧ jobType = jobTypeVertex)) do
    panwrapLog "Addr %d %X\n" [.nat addr, .nat address.toNat]
    whenever (address ≠ 0#32) do
      let buf ← fetch env (address.setWidth 64) (BitVec.ofNat w (addressSize addr))
      hexdumpTrimmed env buf (addressSize addr) "\t\t"
      whenever (addr = 8) do
        let sub ← deref buf fun m => m.read 32 buf 0 &&& 0xFFFFFFFE#32
        let sbuf ← fetch env (sub.setWidth 64) 64#w
        panwrapLog "---\n" []
        hexdumpTrimmed env sbuf 64 "\t\t"
      whenever (addr = 1) do
        let sub ← deref buf fun m => m.read 64 buf 0 >>> 8
        let sbuf ← fetch env sub 64#w
        panwrapLog "--- %PRIX64\n" [.nat sub.toNat]
        hexdumpTrimmed env sbuf 64 "\t\t"
      whenever (addr = 4 ∧ jobType = jobTypeTiler) do
        printf "uniform vec4 u = vec4(" []
        let uniforms ← deref buf fun m => (List.range 4).map fun u => m.read 16 buf (2 * u)
        put (uniforms.map fun u => .print "%f, " [.half u])
        printf "\x08\x08);\n" []

def traceShader (env : Env w) (h v : BitVec w) : Decode w Unit := do
  let shaderMeta ← deref v fun m => m.read 32 v PayloadVertexTiler32.shader
  let iShader ← fetch env (shaderMeta.setWidth 64) 8#w
  let word ← deref iShader fun m => m.read 64 iShader 0
  let jobType ← deref h fun m => (JobDescriptorHeader.load m h).jobType
  let kind := if jobType = jobTypeVertex then "Vertex" else "Fragment"
  panwrapLog "%s shader @ %PRIX64 (flags %PRIX64)\n"
    [.str kind, .nat (word &&& ~~~15#64).toNat, .nat (word &&& 15#64).toNat]
  mark (.shader (word &&& ~~~15#64))
  let shader ← fetch env (word &&& ~~~15#64) (BitVec.ofNat w (0x880 - 0x540))
  hexdumpTrimmed env shader (0x880 - 0x540) "\t\t"
  let code ← deref shader fun m => m.bytes shader (0x880 - 0x540)
  put [.file ("shader_" ++ kind ++ ".bin") code]

def traceVertexTilerRest (env : Env w) (h v : BitVec w) : Decode w Unit := do
  let jobType ← deref h fun m => (JobDescriptorHeader.load m h).jobType
  whenever (jobType = jobTypeTiler) do
    let b ← deref v fun m => m.read 8 v 8
    let mode ← chaiGlModeName b
    panwrapLog "Drawing in %s\n" [.str mode]
  let word ← deref v fun m off => m.read 32 v off
  assertGpuZeroes env ((word PayloadVertexTiler32.zeroes).setWidth 64) 64
  whenever (word PayloadVertexTiler32.null1 ||| word PayloadVertexTiler32.null2 |||
      word PayloadVertexTiler32.null4 ≠ 0#32) do
    panwrapLog "Null tripped?\n" []
  panwrapLog "%cFBD\n" [.chr (fbdLetter (word PayloadVertexTiler32.fbd).toNat)]
  chaiTraceFbd env (word PayloadVertexTiler32.fbd)
  hexdumpTrimmed env v PayloadVertexTiler32.block1Size "\t\t"
  forEach (traceAddress env h v) (List.range 14)
  hexdumpTrimmed env (v + BitVec.ofNat w PayloadVertexTiler32.block2) PayloadVertexTiler32.block2Size "\t\t"

/-- `case JOB_TYPE_VERTEX: case JOB_TYPE_TILER:`. -/
def traceVertexTiler (env : Env w) (fuel : Nat) (h : BitVec w) (payload : BitVec 64) : Decode w Unit := do
  let v ← fetch env payload (BitVec.ofNat w PayloadVertexTiler32.size)
  let shader ← deref v fun m => m.read 32 v PayloadVertexTiler32.shader
  if sabotaged shader then
    panwrapLog "Job sabotaged\n" []
  else do
    traceShader env h v
    let attributeMeta ← deref v fun m => m.read 32 v PayloadVertexTiler32.attributeMeta
    traceAttributes env v fuel (attributeMeta.setWidth 64)
    traceVertexTilerRest env h v

def traceSetValue (env : Env w) (payload : BitVec 64) : Decode w Unit := do
  let s ← fetch env payload (BitVec.ofNat w PayloadSetValue.size)
  let set ← deref s fun m => PayloadSetValue.load m s
  panwrapLog "set value -> %PRIX64 (%PRIX64)\n" [.nat set.out.toNat, .nat set.unknown.toNat]
  mark (.setValue set.out)

def traceFragment (env : Env w) (payload : BitVec 64) : Decode w Unit := do
  let f ← fetch env payload (BitVec.ofNat w PayloadFragment.size)
  let frag ← deref f fun m => PayloadFragment.load m f
  panwrapLog "frag %X %X (%d, %d) -> (%d, %d), fbd type %cFBD at %PRIX64 (%PRIX64) \n"
    [.nat frag.minTileCoord.toNat, .nat frag.maxTileCoord.toNat,
      .nat (tileCoordX frag.minTileCoord).toNat, .nat (tileCoordY frag.minTileCoord).toNat,
      .nat (tileCoordX frag.maxTileCoord).toNat, .nat (tileCoordY frag.maxTileCoord).toNat,
      .chr (fbdLetter frag.fragmentFbd.toNat), .nat frag.fragmentFbd.toNat,
      .nat (frag.fragmentFbd &&& fbdPointerMask 64).toNat]
  -- `chai_trace_fbd` takes a `uint32_t`
  chaiTraceFbd env (frag.fragmentFbd.setWidth 32)

def traceUnknown (env : Env w) (jobType : BitVec 7) (payload : BitVec 64) : Decode w Unit := do
  let name ← chaiJobTypeName jobType.toNat
  panwrapLog "Dumping payload %PRIX64 for job type %s\n" [.nat payload.toNat, .str name]
  let genPay ← fetch env payload 256#w
  hexdumpTrimmed env genPay 256 "\t\t"

/-- The switch of `chai_trace_hw_chain` over the job types. -/
def tracePayload (env : Env w) (fuel : Nat) (h : BitVec w) (payload : BitVec 64) : Decode w Unit := do
  let jobType ← deref h fun m => (JobDescriptorHeader.load m h).jobType
  if jobType = jobTypeSetValue then traceSetValue env payload
  else if jobType = jobTypeVertex ∨ jobType = jobTypeTiler then traceVertexTiler env fuel h payload
  else if jobType = jobTypeFragment then traceFragment env payload
  else traceUnknown env jobType payload

def traceHeader (h : BitVec w) (chain : BitVec 64) : Decode w Unit := do
  let d ← deref h fun m => JobDescriptorHeader.load m h
  let name ← chaiJobTypeName d.jobType.toNat
  panwrapLog ("%s job, %d-bit, status %X, incomplete %X, fault %PRIX64, barrier %d, index %hX, " ++
      "dependencies (%hX, %hX)\n")
    [.str name, .nat (if d.jobDescriptorSize ≠ 0#1 then 64 else 32), .nat d.exceptionStatus.toNat,
      .nat d.firstIncompleteTask.toNat, .nat d.faultPointer.toNat, .nat d.jobBarrier.toNat,
      .nat d.jobIndex.toNat, .nat d.jobDependencyIndex1.toNat, .nat d.jobDependencyIndex2.toNat]
  mark (.descriptor chain d.jobType.toNat)

/-- One call of `chai_trace_hw_chain` up to its recursive call: the descriptor to go on at, if any. -/
def traceJob (env : Env w) (fuel : Nat) (chain : BitVec 64) : Decode w (Option (BitVec 64)) := do
  let h ← fetch env chain (BitVec.ofNat w JobDescriptorHeader.size)
  if h = 0#w then do
    panwrapLog "Failed to map the job chain %PRIX64\n\n" [.nat chain.toNat]
    pure none
  else do
    traceHeader h chain
    tracePayload env fuel h (chain + BitVec.ofNat 64 JobDescriptorHeader.size)
    -- `job_descriptor_size` chooses between two members of the same type and place
    let next ← deref h fun m => (JobDescriptorHeader.load m h).nextJob
    pure (if next = 0#64 then none else some next)

/-- The tail recursion of `chai_trace_hw_chain` as a loop. -/
def chaiTraceHwChain (env : Env w) : Nat → BitVec 64 → Decode w Unit := loop (traceJob env)

def traceReplay (env : Env w) (jc : BitVec 64) : Decode w Unit := do
  let payload ← fetch env jc (BitVec.ofNat w MaliJdReplayPayload.size)
  let r ← deref payload fun m => MaliJdReplayPayload.load m payload
  panwrapLog ("tiler_jc_list = %PRIX64, fragment_jc = %PRIX64, \nt " ++
      "tiler_heap_free = %PRIX64, fragment hierarchy mask = %hX, " ++
      "tiler hierachy mask = %hX, hierarchy def weight %X, " ++
      "tiler core_req = %X, fragment core_req = %X")
    [.nat r.tilerJcList.toNat, .nat r.fragmentJc.toNat, .nat r.tilerHeapFree.toNat,
      .nat r.fragmentHierarchyMask.toNat, .nat r.tilerHierarchyMask.toNat,
      .nat r.hierarchyDefaultWeight.toNat, .nat r.tilerCoreReq.toNat, .nat r.fragmentCoreReq.toNat]

/-- `chai_trace_atom`, of the atom's two fields that it reads. -/
def chaiTraceAtom (env : Env w) (fuel : Nat) (jc : BitVec 64) (coreReq : BitVec 32) : Decode w Unit :=
  if coreReq &&& maliJdReqSoftJob ≠ 0#32 then
    if coreReq &&& maliJdReqSoftReplay ≠ 0#32 then traceReplay env jc
    else panwrapLog "Unknown soft job\n" []
  else chaiTraceHwChain env fuel jc

end Decoder
