import Pantry.Driver.Allocator

namespace Driver

open Machine Panwrap Decoder Program

def svOffset : BitVec 64 := 0x4000#64
def xyzComponentCount : Nat := 3

/-- The bytes of a `struct job_descriptor_header`, its reserved bits clear. -/
def headerFields (h : JobDescriptorHeader) : List Field := [
  ⟨32, h.exceptionStatus⟩, ⟨32, h.firstIncompleteTask⟩, ⟨64, h.faultPointer⟩,
  ⟨8, h.jobType ++ h.jobDescriptorSize⟩, ⟨8, 0#7 ++ h.jobBarrier⟩, ⟨16, h.jobIndex⟩,
  ⟨16, h.jobDependencyIndex1⟩, ⟨16, h.jobDependencyIndex2⟩, ⟨64, h.nextJob⟩]

/-! The offsets of the header's members that are assigned to by themselves. -/

def jobIndex : Nat := 18
def jobDependencyIndex1 : Nat := 20
def jobDependencyIndex2 : Nat := 22
def nextJob : Nat := 24

def setValueFields (s : PayloadSetValue) : List Field := [⟨64, s.out⟩, ⟨64, s.unknown⟩]

structure PayloadVertexTiler32 where
  block1 : List (BitVec 32)
  zeroes : BitVec 32
  unknown1 : BitVec 32
  null1 : BitVec 32
  null2 : BitVec 32
  unknown2 : BitVec 32
  shader : BitVec 32
  attributes : BitVec 32
  attributeMeta : BitVec 32
  unknown5 : BitVec 32
  unknown6 : BitVec 32
  nullForVertex : BitVec 32
  null4 : BitVec 32
  fbd : BitVec 32
  unknown7 : BitVec 32
  block2 : List (BitVec 32) := List.replicate 36 0#32
  block1Length : block1.length = 11 := by rfl
  block2Length : block2.length = 36 := by rfl

namespace PayloadVertexTiler32

def pointers (p : PayloadVertexTiler32) : List (BitVec 32) := [
  p.zeroes, p.unknown1, p.null1, p.null2, p.unknown2, p.shader, p.attributes, p.attributeMeta, p.unknown5,
  p.unknown6, p.nullForVertex, p.null4, p.fbd, p.unknown7]

def words (p : PayloadVertexTiler32) : List (BitVec 32) := p.block1 ++ p.pointers ++ p.block2

end PayloadVertexTiler32

def fragmentFields (f : PayloadFragment) : List Field := [⟨32, f.minTileCoord⟩, ⟨32, f.maxTileCoord⟩, ⟨64, f.fragmentFbd⟩]

def indexFragment : BitVec 16 := 1#16

def makeTileCoord (x y flag : BitVec 32) : BitVec 32 := x ||| (y <<< 16) ||| flag

def setValueHelper (out : BitVec 64) : Drive (BitVec 32) := do
  let packet ← galloc (BitVec.ofNat 32 (JobDescriptorHeader.size + PayloadSetValue.size))
  let header : JobDescriptorHeader :=
    { exceptionStatus := jobNotStarted, jobDescriptorSize := job64Bit, jobType := jobTypeSetValue }
  let payload : PayloadSetValue := { out := out, unknown := 3#64 }
  memcpy packet 0 (Field.image (headerFields header))
  memcpy packet JobDescriptorHeader.size (Field.image (setValueFields payload))
  pure packet

def mfbdBlock3 (sab0 block2 : BitVec 64) : List (BitVec 64) := [
  0x0000000000000000#64, 0x0000000000030005#64, sab0, block2, 0x0000000000000003#64, 0x0000000000000000#64,
  0x0000000000000000#64, 0x0000000000000000#64, sab0 + 0x300#64]

def fbdTiler : BitVec 32 := 0#32
def fbdFragment : BitVec 32 := 2#32

def makeMfbd (tiler : Bool) (heapFreeAddress scratchpad : BitVec 64) : Drive (BitVec 64) := do
  let mfbd ← galloc (BitVec.ofNat 32 TentativeMfbd.size)
  let sab0 : BitVec 64 := 0x5ABA5ABA#64
  assign mfbd 64 (scratchpad + svOffset)
  assign mfbd 72 (scratchpad + svOffset + 0x200#64)
  assign mfbd 8 scratchpad
  assign mfbd 88 (heapFreeAddress ||| 0x8000000#64)
  assign mfbd 60 0xF0#32
  assign mfbd 80 heapFreeAddress
  assign mfbd 0 0x1F00000000#64
  assign mfbd 56 0x1600#32
  whenever (tiler = false) (assign mfbd 232 0xFFFFF8C0#64)
  assign mfbd 32 0x02D801C2#32
  assign mfbd 40 0x02D801C2#32
  assign mfbd 44 (if tiler then 0x04001080#32 else 0x01001080#32)
  assign mfbd 48 (if tiler then 0x000000FF#32 else 0xC0210000#32)
  assign mfbd 52 (if tiler then 0x3F800000#32 else 0x00000000#32)
  let d ← get
  memcpy mfbd TentativeMfbd.block3Offset (Field.image (Field.array (mfbdBlock3 sab0 (d.mem.read 64 mfbd 64))))
  pure ((mfbd ||| BitVec.ofNat 32 fbdType ||| (if tiler then fbdTiler else fbdFragment)).setWidth 64)

def shaderBit : BitVec 64 := 1#64 <<< 0
def shaderVertex : BitVec 64 := 1#64 <<< 2
def shaderFragment : BitVec 64 := 1#64 <<< 3

section Jobs

variable (kernel : Kernel) (fd : BitVec 32)

def importShader (shader : Buffer) (fragment : Bool) : Drive (BitVec 64) := do
  let pages := 1#32 + (shader.size >>> pageShift)
  let gpu ← allocGpuPages kernel fd pages
    (maliMemProtCpuRd ||| maliMemProtCpuWr ||| maliMemProtGpuRd ||| maliMemProtGpuEx)
  let cpu ← mmapGpu kernel fd gpu pages
  memcpy cpu 0 shader.bytes
  pure (gpu ||| shaderBit ||| (if fragment then shaderFragment else shaderVertex))

def uploadVertices (vertices : Buffer) : Drive (BitVec 32) := do
  let vb ← galloc (BitVec.ofNat 32 (AttributeBuffer.size 32))
  let verts ← galloc vertices.size
  memcpy verts 0 vertices.bytes
  assign vb 0 (verts.setWidth 64)
  assign vb 8 (BitVec.ofNat 32 (4 * xyzComponentCount))
  assign vb 12 vertices.size
  let d ← get
  assign vb 0 (d.mem.read 64 vb 0 ||| 1#64)
  pure vb

def viewport : List (BitVec 32) := [
  0x43200000#32, 0x42F00000#32, 0x3F000000#32, 0x00000000#32,
  0x43200000#32, 0x42F00000#32, 0x3F000000#32, 0x00000000#32]

def pi : List (BitVec 64) := [
  0x0000000017E49000#64, 0x0000000017E49000#64, 0x0000000017E49000#64, 0x0000000017E49000#64,
  0x00000000179A2200#64, 0x0000000017E49000#64, 0x0000000017E49000#64]

def tilerBlock : List (BitVec 32) := [
  0xFF800000#32, 0xFF800000#32, 0x7F800000#32, 0x7F800000#32, 0x00000000#32, 0x3F800000#32,
  0x00000000#32, 0x00EF013F#32, 0x00000000#32, 0x0000001F#32, 0x02020000#32, 0x00000001#32]

def tilerBlock2 : List (BitVec 32) := [
  0x00000001#32, 0x00000000#32, 0x00070000#32, 0x00020602#32, 0x00000000#32, 0x00000000#32,
  0x00000000#32, 0x3712FFFF#32, 0x44F0FFFF#32, 0x0007FF00#32, 0x0007FF00#32, 0x00000000#32,
  0x00000000#32, 0x00000000#32, 0x00000000#32, 0x00000200#32, 0x00000000#32, 0xF0122122#32,
  0x00000000#32, 0x00000000#32, 0x00000000#32, 0xF0122122#32, 0x00000000#32, 0xFF800000#32,
  0xFF800000#32, 0x7F800000#32, 0x7F800000#32, 0x00000000#32, 0x3F800000#32, 0x00000000#32,
  0xEF013F00#32, 0x00000000#32, 0x0000001F#32, 0x02020000#32, 0x00000001#32, 0x00000000#32]

def vertexBlock2 : List (BitVec 32) := [
  0x00000000#32, 0x0000000C#32, 0x00000030#32, 0x2DEA2200#32, 0x00000000#32, 0x00000000#32,
  0x00000000#32, 0xCAFEDA01#32, 0x57000000#32, 0x00000010#32, 0x00000040#32, 0x17E49000#32,
  0x00000000#32, 0x17E49000#32, 0x00000000#32, 0x17E49000#32, 0x00000000#32, 0x17E49000#32,
  0x00000000#32, 0x179A2200#32, 0x00000000#32, 0x17E49000#32, 0x00000000#32, 0x17E49000#32,
  0x00000000#32, 0x00000000#32, 0x00000000#32, 0x43200000#32, 0x42F00000#32, 0x3F000000#32,
  0x00000000#32, 0x43200000#32, 0x42F00000#32, 0x3F000000#32, 0x00000000#32, 0x00000000#32]

/-- The initialiser of `payload`: its calls of `galloc` in the order they are written. -/
def vertexTilerPayload (tiler : Bool) (fbd vertexBuffer zeroBuffer mode : BitVec 32) :
    Drive PayloadVertexTiler32 := do
  let modeGooks := 0x14000000#32 ||| (if tiler then 0x030000#32 ||| mode else 0#32)
  let otherGook := if tiler then 0x00000003#32 else 0x00000000#32
  let unknown1 ← galloc (BitVec.ofNat 32 16)
  let unknown2 ← galloc (BitVec.ofNat 32 32)
  let shader ← galloc (BitVec.ofNat 32 ShaderMeta.size)
  let attributeMeta ← galloc (BitVec.ofNat 32 16)
  let unknown5 ← galloc (BitVec.ofNat 32 32)
  let unknown6 ← galloc (BitVec.ofNat 32 64)
  -- `nullForVertex` of a tiler job or `unknown7` of a vertex job
  let last ← galloc (BitVec.ofNat 32 64)
  pure {
    block1 := [
      0x00000003#32, 0x28000000#32, modeGooks, 0x00000000#32, 0x00000000#32, otherGook, 0x00000000#32,
      0x00000000#32, 0x00000005#32, 0x00000000#32, 0x00000000#32]
    zeroes := zeroBuffer
    unknown1 := unknown1
    null1 := 0#32
    null2 := 0#32
    unknown2 := unknown2
    shader := shader
    attributes := vertexBuffer
    attributeMeta := attributeMeta
    unknown5 := unknown5
    unknown6 := unknown6
    nullForVertex := if tiler then last else 0#32
    null4 := 0#32
    fbd := fbd
    unknown7 := if tiler then 0#32 else last ||| 1#32 }

def PayloadVertexTiler32.trap (payload : PayloadVertexTiler32) : PayloadVertexTiler32 :=
  { payload with
    shader := 0x5AB00A05#32
    unknown1 := 0x5AB02A00#32
    unknown2 := 0x5AB03A00#32
    attributes := 0x5AB04A00#32
    attributeMeta := 0x5AB05A00#32
    unknown5 := 0x5AB06A00#32
    unknown6 := 0x5AB07A00#32
    unknown7 := 0x5AB0DA00#32 }

def vertexTilerHelper (tiler : Bool) (fbd vertexBuffer zeroBuffer mode : BitVec 32) (shader : Buffer) :
    Drive (BitVec 32) := do
  let packet ← galloc (BitVec.ofNat 32 (JobDescriptorHeader.size + PayloadVertexTiler32.size))
  let header : JobDescriptorHeader := {
    exceptionStatus := jobNotStarted
    jobDescriptorSize := job32Bit
    jobType := if tiler then jobTypeTiler else jobTypeVertex }
  let payload ← vertexTilerPayload tiler fbd vertexBuffer zeroBuffer mode
  let s := payload.shader
  let imported ← importShader kernel fd shader tiler
  assign s ShaderMeta.shader imported
  whenever (tiler = false) (memcpy payload.unknown2 0 (Field.image (Field.array viewport)))
  -- a tiler job's `unknown7` is first set to the shader's address, which this overwrites
  let payload := { payload with unknown7 := if tiler then 0xDEADBA00#32 else 0xDEADFA00#32 }
  assign s ShaderMeta.unknown1 (if tiler then 0x0007000000000000#64 else 0x0005000100000000#64)
  assign s ShaderMeta.unknown2 (if tiler then 0x0000000000020602#64 else 0x0000000000420002#64)
  assign payload.attributeMeta 0 0x2DEA2200#32
  memcpy payload.unknown6 0 (Field.image (Field.array pi))
  whenever (tiler = true) (memcpy payload.nullForVertex 0 (Field.image (Field.array tilerBlock)))
  assign payload.unknown1 0 0x5a5a5a5a5a5a1001#64
  assign payload.unknown1 8 0x5a5a5a5a5a5a3000#64
  let writeBuffer ← galloc (BitVec.ofNat 32 64)
  assign payload.unknown5 0
    (((if tiler then 0xDB#64 else 0x7A#64) <<< 56) ||| writeBuffer.setWidth 64 ||| 1#64)
  assign payload.unknown5 8 0x0000004000000010#64
  let payload := { payload with
    block2 := if tiler then tilerBlock2 else vertexBlock2
    block2Length := by cases tiler <;> rfl }
  let payload := if tiler then payload.trap else payload
  memcpy packet 0 (Field.image (headerFields header))
  memcpy packet JobDescriptorHeader.size (Field.image (Field.array payload.words))
  pure packet

def maliJdReqCs : BitVec 32 := 1#32 <<< 1
def maliJdReqT : BitVec 32 := 1#32 <<< 2
def maliJdReqCf : BitVec 32 := 1#32 <<< 3
def maliJdReqCoherentGroup : BitVec 32 := 1#32 <<< 6

def maliJdPrioMedium : BitVec 8 := 0#8
def maliJdDepTypeInvalid : BitVec 8 := 0#8

/-- Write the links, the indices and the dependencies of the three jobs of a chain. -/
def linkJobs (set vertex tiler : BitVec 32) : Drive Unit := do
  assign set nextJob (vertex.setWidth 64)
  assign vertex nextJob (tiler.setWidth 64)
  assign set jobIndex 3#16
  assign vertex jobIndex 1#16
  assign tiler jobIndex 2#16
  let d ← get
  assign vertex jobDependencyIndex2 (d.mem.read 16 set jobIndex)
  let d ← get
  assign tiler jobDependencyIndex1 (d.mem.read 16 vertex jobIndex)

def vertexTilerAtom (jc : BitVec 64) (number : BitVec 8) : MaliJdAtomV2 32 where
  jc := jc
  udata := fun _ => 0#64
  extResList := 0#32
  nrExtRes := 0#16
  compatCoreReq := 0#16
  preDepAtomId := fun _ => 0#8
  preDepType := fun _ => maliJdDepTypeInvalid
  atomNumber := number
  prio := maliJdPrioMedium
  deviceNr := 0#8
  coreReq := maliJdReqCs ||| maliJdReqT ||| maliJdReqCf ||| maliJdReqCoherentGroup

def jobChainVertexTiler (vertices : Buffer) (mode : BitVec 32) (vertexShader fragmentShader : Buffer)
    (heapFreeAddress scratchpad : BitVec 64) : Drive (BitVec 32) := do
  let vertexBuffer ← uploadVertices vertices
  let vertexFbd ← makeMfbd true heapFreeAddress scratchpad
  let zeroBuffer ← allocGpuPages kernel fd 0x20#32
    (0x3800#32 ||| maliMemProtCpuRd ||| maliMemProtCpuWr ||| maliMemProtGpuRd)
  let set ← setValueHelper (scratchpad + svOffset)
  let vertex ← vertexTilerHelper kernel fd false (vertexFbd.setWidth 32) vertexBuffer (zeroBuffer.setWidth 32)
    mode vertexShader
  let tiler ← vertexTilerHelper kernel fd true (vertexFbd.setWidth 32) vertexBuffer (zeroBuffer.setWidth 32)
    mode fragmentShader
  linkJobs set vertex tiler
  modify fun d => { d with atomCount := d.atomCount + 1#32 }
  let d ← get
  submitJob kernel fd (vertexTilerAtom (set.setWidth 64) (d.atomCount.setWidth 8))
  pure tiler

def maliJdReqFs : BitVec 32 := 1#32 <<< 0
def maliJdReqExternalResources : BitVec 32 := 1#32 <<< 8

def maliJdPrioLow : BitVec 8 := 2#8
def maliJdDepTypeData : BitVec 8 := 1#8
def maliExtResAccessExclusive : BitVec 64 := 1#64

/-- The atom of a fragment job or a replay: it waits for the data of atom `previous`. -/
def dependentAtom (jc : BitVec 64) (resource : BitVec 32) (coreReq : BitVec 32) (prio previous number : BitVec 8) :
    MaliJdAtomV2 32 where
  jc := jc
  udata := fun _ => 0#64
  extResList := resource
  nrExtRes := 1#16
  compatCoreReq := 0#16
  preDepAtomId := fun i => if i = 0 then previous else 0#8
  preDepType := fun i => if i = 0 then maliJdDepTypeData else maliJdDepTypeInvalid
  atomNumber := number
  prio := prio
  deviceNr := 0#8
  coreReq := coreReq

/-- `resource` is the address that `calloc` gives. -/
def jobChainFragment (framebuffer heapFreeAddress scratchpad : BitVec 64) (resource : BitVec 32) :
    Drive (BitVec 32) := do
  let packet ← galloc (BitVec.ofNat 32 (JobDescriptorHeader.size + PayloadFragment.size))
  let header : JobDescriptorHeader := {
    exceptionStatus := jobNotStarted
    jobDescriptorSize := job32Bit
    jobType := jobTypeFragment
    jobIndex := indexFragment }
  let fbd ← makeMfbd false heapFreeAddress scratchpad
  let payload : PayloadFragment := {
    minTileCoord := makeTileCoord 0#32 0#32 0#32
    maxTileCoord := makeTileCoord 29#32 45#32 0#32
    fragmentFbd := fbd }
  memcpy packet 0 (Field.image (headerFields header))
  memcpy packet JobDescriptorHeader.size (Field.image (fragmentFields payload))
  let d ← get
  let depTiler := d.atomCount.setWidth 8
  assign resource 0 (framebuffer ||| maliExtResAccessExclusive)
  modify fun d => { d with atomCount := d.atomCount + 1#32 }
  let d ← get
  submitJob kernel fd (dependentAtom (packet.setWidth 64) resource (maliJdReqExternalResources ||| maliJdReqFs)
    maliJdPrioMedium depTiler (d.atomCount.setWidth 8))
  pure packet

/-- `resource` is the address that `malloc` gives. -/
def jobChainReplay (tilerJc fragmentJc : BitVec 32) (heapFreeAddress framebuffer : BitVec 64) (resource : BitVec 32) :
    Drive Unit := do
  let d ← get
  let depFragment := d.atomCount.setWidth 8
  let payload ← galloc (BitVec.ofNat 32 MaliJdReplayPayload.size)
  assign payload 0 (tilerJc.setWidth 64)
  assign payload 8 (fragmentJc.setWidth 64)
  assign payload 16 heapFreeAddress
  assign payload 24 0#16
  assign payload 26 0#16
  assign payload 28 0x10000#32
  assign payload 32 (maliJdReqT ||| maliJdReqCoherentGroup)
  assign payload 36 maliJdReqFs
  assign resource 0 (framebuffer ||| maliExtResAccessExclusive)
  modify fun d => { d with atomCount := d.atomCount + 1#32 }
  let d ← get
  submitJob kernel fd (dependentAtom (payload.setWidth 64) resource (maliJdReqExternalResources ||| maliJdReqSoftReplay)
    maliJdPrioLow depFragment (d.atomCount.setWidth 8))

end Jobs

end Driver
