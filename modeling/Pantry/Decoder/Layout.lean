import Pantry.Machine.Memory

namespace Decoder

open Machine

variable {w : Nat}

/-- `struct job_descriptor_header`, less its reserved bits. -/
structure JobDescriptorHeader where
  exceptionStatus : BitVec 32 := 0#32
  firstIncompleteTask : BitVec 32 := 0#32
  faultPointer : BitVec 64 := 0#64
  jobDescriptorSize : BitVec 1 := 0#1
  jobType : BitVec 7 := 0#7
  jobBarrier : BitVec 1 := 0#1
  jobIndex : BitVec 16 := 0#16
  jobDependencyIndex1 : BitVec 16 := 0#16
  jobDependencyIndex2 : BitVec 16 := 0#16
  /-- Both members of the union `next_job` are `u64`. -/
  nextJob : BitVec 64 := 0#64
  deriving DecidableEq, Repr

namespace JobDescriptorHeader

def size : Nat := 32

def load (m : Memory w) (h : BitVec w) : JobDescriptorHeader where
  exceptionStatus := m.read 32 h 0
  firstIncompleteTask := m.read 32 h 4
  faultPointer := m.read 64 h 8
  jobDescriptorSize := (m.read 8 h 16).extractLsb' 0 1
  jobType := (m.read 8 h 16).extractLsb' 1 7
  jobBarrier := (m.read 8 h 17).extractLsb' 0 1
  jobIndex := m.read 16 h 18
  jobDependencyIndex1 := m.read 16 h 20
  jobDependencyIndex2 := m.read 16 h 22
  nextJob := m.read 64 h 24

end JobDescriptorHeader

def jobNotStarted : BitVec 32 := 0#32
def jobTypeSetValue : BitVec 7 := 2#7
def jobTypeVertex : BitVec 7 := 5#7
def jobTypeTiler : BitVec 7 := 7#7
def jobTypeFragment : BitVec 7 := 9#7

def job32Bit : BitVec 1 := 0#1
def job64Bit : BitVec 1 := 1#1

structure PayloadSetValue where
  out : BitVec 64
  unknown : BitVec 64
  deriving DecidableEq, Repr

namespace PayloadSetValue

def size : Nat := 16

def load (m : Memory w) (s : BitVec w) : PayloadSetValue where
  out := m.read 64 s 0
  unknown := m.read 64 s 8

end PayloadSetValue

structure PayloadFragment where
  minTileCoord : BitVec 32
  maxTileCoord : BitVec 32
  fragmentFbd : BitVec 64
  deriving DecidableEq, Repr

namespace PayloadFragment

def size : Nat := 16

def load (m : Memory w) (f : BitVec w) : PayloadFragment where
  minTileCoord := m.read 32 f 0
  maxTileCoord := m.read 32 f 4
  fragmentFbd := m.read 64 f 8

end PayloadFragment

def tileCoordX (coord : BitVec 32) : BitVec 32 := coord &&& 0x00000FFF#32
def tileCoordY (coord : BitVec 32) : BitVec 32 := (coord &&& 0x0FFF0000#32) >>> 16

/-! `struct payload_vertex_tiler32` is an array of 61 words; these are the offsets of its
    members. -/

namespace PayloadVertexTiler32

def size : Nat := 244
def zeroes : Nat := 44
def unknown1 : Nat := 48
def null1 : Nat := 52
def null2 : Nat := 56
def unknown2 : Nat := 60
def shader : Nat := 64
def attributes : Nat := 68
def attributeMeta : Nat := 72
def unknown5 : Nat := 76
def unknown6 : Nat := 80
def nullForVertex : Nat := 84
def null4 : Nat := 88
def fbd : Nat := 92
def unknown7 : Nat := 96
def block2 : Nat := 100

/-- The sizes of the blocks of magic words in front of and behind the pointers. -/
def block1Size : Nat := 44
def block2Size : Nat := 144

end PayloadVertexTiler32

/-- The test on the `shader` member that recognises a trapped job. -/
def sabotaged (shader : BitVec 32) : Bool := shader &&& 0xFFF00000#32 == 0x5AB00000#32

namespace ShaderMeta

def size : Nat := 24
def shader : Nat := 0
def unknown1 : Nat := 8
def unknown2 : Nat := 16

end ShaderMeta

structure AttributeBuffer (w : Nat) where
  elements : BitVec 64
  elementSize : BitVec w
  totalSize : BitVec w
  deriving DecidableEq, Repr

namespace AttributeBuffer

def size (w : Nat) : Nat := 8 + 2 * (w / 8)

def load (m : Memory w) (vb : BitVec w) : AttributeBuffer w where
  elements := m.read 64 vb 0
  elementSize := m.read w vb 8
  totalSize := m.read w vb (8 + w / 8)

end AttributeBuffer

def attributeMetaSize : Nat := 8
def attributeNo (attrMeta : BitVec 64) : BitVec 64 := attrMeta &&& 0xFF#64
def attributeFlags (attrMeta : BitVec 64) : BitVec 64 := attrMeta &&& 0xFFFFFFFFFFFFFF00#64

def fbdPointerMask (width : Nat) : BitVec width := ~~~0x3f#(width)

def fbdType : Nat := 1

/-- The literals of `Fin 2` name the words of a pair the same way in every module. -/
instance pairNeZero : NeZero 2 := ⟨Nat.succ_ne_zero 1⟩

/-- `struct tentative_mfbd`, its blocks of words as functions of the index. -/
structure TentativeMfbd where
  blah : BitVec 64
  ugaT : BitVec 64
  unknown1 : BitVec 32
  flags : BitVec 32
  block2 : Fin 2 → BitVec 64
  heapFreeAddress : BitVec 64
  unknown2 : BitVec 64
  weights : Fin 8 → BitVec 32
  unknownGpuAddressN : BitVec 64
  block3 : Fin 22 → BitVec 32
  unknownGpuAddress : BitVec 64
  unknown3 : BitVec 64

namespace TentativeMfbd

def size : Nat := 280
def block1Offset : Nat := 16
def block1Size : Nat := 40
def block2Offset : Nat := 64
def block3Offset : Nat := 136
def block3Size : Nat := 88
def block4Offset : Nat := 240
def block4Size : Nat := 40

def load (m : Memory w) (mfbd : BitVec w) : TentativeMfbd where
  blah := m.read 64 mfbd 0
  ugaT := m.read 64 mfbd 8
  unknown1 := m.read 32 mfbd 56
  flags := m.read 32 mfbd 60
  block2 := fun i => m.read 64 mfbd (block2Offset + 8 * i.val)
  heapFreeAddress := m.read 64 mfbd 80
  unknown2 := m.read 64 mfbd 88
  weights := fun i => m.read 32 mfbd (96 + 4 * i.val)
  unknownGpuAddressN := m.read 64 mfbd 128
  block3 := fun i => m.read 32 mfbd (block3Offset + 4 * i.val)
  unknownGpuAddress := m.read 64 mfbd 224
  unknown3 := m.read 64 mfbd 232

end TentativeMfbd

structure MaliJdReplayPayload where
  tilerJcList : BitVec 64
  fragmentJc : BitVec 64
  tilerHeapFree : BitVec 64
  fragmentHierarchyMask : BitVec 16
  tilerHierarchyMask : BitVec 16
  hierarchyDefaultWeight : BitVec 32
  tilerCoreReq : BitVec 32
  fragmentCoreReq : BitVec 32
  deriving DecidableEq, Repr

namespace MaliJdReplayPayload

def size : Nat := 48

def load (m : Memory w) (payload : BitVec w) : MaliJdReplayPayload where
  tilerJcList := m.read 64 payload 0
  fragmentJc := m.read 64 payload 8
  tilerHeapFree := m.read 64 payload 16
  fragmentHierarchyMask := m.read 16 payload 24
  tilerHierarchyMask := m.read 16 payload 26
  hierarchyDefaultWeight := m.read 32 payload 28
  tilerCoreReq := m.read 32 payload 32
  fragmentCoreReq := m.read 32 payload 36

end MaliJdReplayPayload

structure MaliJdAtomV2 (w : Nat) where
  jc : BitVec 64
  udata : Fin 2 → BitVec 64
  extResList : BitVec w
  nrExtRes : BitVec 16
  compatCoreReq : BitVec 16
  preDepAtomId : Fin 2 → BitVec 8
  preDepType : Fin 2 → BitVec 8
  atomNumber : BitVec 8
  prio : BitVec 8
  deviceNr : BitVec 8
  coreReq : BitVec 32

namespace MaliJdAtomV2

def size : Nat := 48

def load (m : Memory w) (a : BitVec w) : MaliJdAtomV2 w where
  jc := m.read 64 a 0
  udata := fun i => m.read 64 a (8 + 8 * i.val)
  extResList := m.read w a 24
  nrExtRes := m.read 16 a 32
  compatCoreReq := m.read 16 a 34
  preDepAtomId := fun i => m.read 8 a (36 + 2 * i.val)
  preDepType := fun i => m.read 8 a (37 + 2 * i.val)
  atomNumber := m.read 8 a 40
  prio := m.read 8 a 41
  deviceNr := m.read 8 a 42
  coreReq := m.read 32 a 44

end MaliJdAtomV2

def maliJdReqSoftJob : BitVec 32 := 1#32 <<< 9
def maliJdReqSoftReplay : BitVec 32 := maliJdReqSoftJob ||| 0x4#32

end Decoder
