import Pantry.Panwrap.Log
import Mathlib.Data.BitVec

namespace Panwrap

variable {w : Nat}

/-! The macros of `linux/ioctl.h` on an `unsigned long` of `w` bits. -/

def iocNr (request : BitVec w) : BitVec 8 := request.extractLsb' 0 8
def iocType (request : BitVec w) : BitVec 8 := request.extractLsb' 8 8
def iocSize (request : BitVec w) : BitVec 14 := request.extractLsb' 16 14

def iowr (type nr : BitVec 8) (size : BitVec 14) : BitVec 32 := (3#2 ++ size) ++ (type ++ nr)

/-- `IOCTL_CASE`: `_IOWR` takes the size of the number that `_IOC_SIZE` gives, an `unsigned long`. -/
def ioctlCase (w : Nat) {v : Nat} (request : BitVec v) : BitVec 32 :=
  iowr (iocType request) (iocNr request) (BitVec.ofNat 14 (w / 8))

section Encoding

variable (type nr : BitVec 8) (size : BitVec 14)

@[simp] theorem iocNr_iowr : iocNr (iowr type nr size) = nr := by
  unfold iocNr iowr
  rw [BitVec.extractLsb'_append_eq_of_add_le (by decide), BitVec.extractLsb'_append_eq_right]

@[simp] theorem iocType_iowr : iocType (iowr type nr size) = type := by
  unfold iocType iowr
  rw [BitVec.extractLsb'_append_eq_of_add_le (by decide), BitVec.extractLsb'_append_eq_left]

/-- The cases are told apart by type and number alone. -/
theorem ioctlCase_eq_iff {u v : Nat} {request : BitVec u} {request' : BitVec v} :
    ioctlCase w request = ioctlCase w request' ↔
      iocType request = iocType request' ∧ iocNr request = iocNr request' := by
  constructor
  · intro same
    have types := congrArg iocType same
    have numbers := congrArg iocNr same
    simp only [ioctlCase, iocType_iowr, iocNr_iowr] at types numbers
    exact ⟨types, numbers⟩
  · rintro ⟨types, numbers⟩
    rw [ioctlCase, ioctlCase, types, numbers]

end Encoding

def maliIoctlGetVersion : BitVec 32 := iowr 0x80 0 16
def maliIoctlMemAlloc : BitVec 32 := iowr 0x82 0 56
def maliIoctlMemImport : BitVec 32 := iowr 0x82 1 48
def maliIoctlMemCommit : BitVec 32 := iowr 0x82 2 32
def maliIoctlMemQuery : BitVec 32 := iowr 0x82 3 32
def maliIoctlMemFree : BitVec 32 := iowr 0x82 4 16
def maliIoctlMemFlagsChange : BitVec 32 := iowr 0x82 5 32
def maliIoctlMemAlias : BitVec 32 := iowr 0x82 6 56
def maliIoctlSync : BitVec 32 := iowr 0x82 8 40
def maliIoctlGpuPropsRegDump : BitVec 32 := iowr 0x82 14 536
def maliIoctlGetVersionNew : BitVec 32 := iowr 0x82 16 16
def maliIoctlSetFlags : BitVec 32 := iowr 0x82 18 16
def maliIoctlStreamCreate : BitVec 32 := iowr 0x82 24 48
def maliIoctlJobSubmit : BitVec 32 := iowr 0x82 28 24
def maliIoctlGetContextId : BitVec 32 := iowr 0x82 31 16

def maliIoctlTypeBase : Nat := 0x80
def maliIoctlTypeCount : Nat := 3

def maliIoctlNrCount : Nat := 255

def maliInfo (type nr : Nat) : Option String :=
  match type, nr with
  | 0x80, 0 => some "GET_VERSION"
  | 0x82, 0 => some "MEM_ALLOC"
  | 0x82, 1 => some "MEM_IMPORT"
  | 0x82, 2 => some "MEM_COMMIT"
  | 0x82, 3 => some "MEM_QUERY"
  | 0x82, 4 => some "MEM_FREE"
  | 0x82, 5 => some "MEM_FLAGS_CHANGE"
  | 0x82, 6 => some "MEM_ALIAS"
  | 0x82, 8 => some "SYNC"
  | 0x82, 9 => some "POST_TERM"
  | 0x82, 10 => some "HWCNT_SETUP"
  | 0x82, 11 => some "HWCNT_DUMP"
  | 0x82, 12 => some "HWCNT_CLEAR"
  | 0x82, 14 => some "GPU_PROPS_REG_DUMP"
  | 0x82, 15 => some "FIND_CPU_OFFSET"
  | 0x82, 16 => some "GET_VERSION_NEW"
  | 0x82, 18 => some "SET_FLAGS"
  | 0x82, 19 => some "SET_TEST_DATA"
  | 0x82, 20 => some "INJECT_ERROR"
  | 0x82, 21 => some "MODEL_CONTROL"
  | 0x82, 22 => some "KEEP_GPU_POWERED"
  | 0x82, 23 => some "FENCE_VALIDATE"
  | 0x82, 24 => some "STREAM_CREATE"
  | 0x82, 25 => some "GET_PROFILING_CONTROLS"
  | 0x82, 26 => some "SET_PROFILING_CONTROLS"
  | 0x82, 27 => some "DEBUGFS_MEM_PROFILE_ADD"
  | 0x82, 28 => some "JOB_SUBMIT"
  | 0x82, 29 => some "DISJOINT_QUERY"
  | 0x82, 31 => some "GET_CONTEXT_ID"
  | 0x82, 32 => some "TLSTREAM_ACQUIRE_V10_4"
  | 0x82, 33 => some "TLSTREAM_TEST"
  | 0x82, 34 => some "TLSTREAM_STATS"
  | 0x82, 35 => some "TLSTREAM_FLUSH"
  | 0x82, 36 => some "HWCNT_READER_SETUP"
  | 0x82, 37 => some "SET_PRFCNT_VALUES"
  | 0x82, 38 => some "SOFT_EVENT_UPDATE"
  | 0x82, 39 => some "MEM_JIT_INIT"
  | 0x82, 40 => some "TLSTREAM_ACQUIRE"
  | _, _ => none

def InTable (request : BitVec w) : Prop :=
  maliIoctlTypeBase ≤ (iocType request).toNat ∧
    (iocType request).toNat < maliIoctlTypeBase + maliIoctlTypeCount ∧ (iocNr request).toNat < maliIoctlNrCount

instance (request : BitVec w) : Decidable (InTable request) := inferInstanceAs (Decidable (_ ∧ _ ∧ _))

/-- The name `ioctl_get_info` finds. Outside the table it reads whatever pointer is there. -/
def ioctlGetInfo (stray : BitVec 8 → BitVec 8 → Option String) (request : BitVec w) : Option String :=
  if InTable request then maliInfo (iocType request).toNat (iocNr request).toNat
  else stray (iocType request) (iocNr request)

def memFlagInfo : List FlagInfo := [
  ⟨1#64 <<< 0, "PROT_CPU_RD"⟩, ⟨1#64 <<< 1, "PROT_CPU_WR"⟩, ⟨1#64 <<< 2, "PROT_GPU_RD"⟩,
  ⟨1#64 <<< 3, "PROT_GPU_WR"⟩, ⟨1#64 <<< 4, "PROT_GPU_EX"⟩, ⟨1#64 <<< 9, "GROW_ON_GPF"⟩,
  ⟨1#64 <<< 10, "COHERENT_SYSTEM"⟩, ⟨1#64 <<< 11, "COHERENT_LOCAL"⟩, ⟨1#64 <<< 12, "CACHED_CPU"⟩,
  ⟨1#64 <<< 13, "SAME_VA"⟩, ⟨1#64 <<< 14, "NEED_MMAP"⟩, ⟨1#64 <<< 15, "COHERENT_SYSTEM_REQUIRED"⟩,
  ⟨1#64 <<< 16, "SECURE"⟩, ⟨1#64 <<< 17, "DONT_NEED"⟩, ⟨1#64 <<< 18, "IMPORT_SHARED"⟩]

def maliMemSameVa : BitVec 64 := 1#64 <<< 13

def jdReqFlagInfo : List FlagInfo := [
  ⟨1#64 <<< 0, "FS"⟩, ⟨1#64 <<< 1, "CS"⟩, ⟨1#64 <<< 2, "T"⟩, ⟨1#64 <<< 3, "CF"⟩, ⟨1#64 <<< 4, "V"⟩,
  ⟨1#64 <<< 13, "FS_AFBC"⟩, ⟨1#64 <<< 5, "EVENT_COALESCE"⟩, ⟨1#64 <<< 6, "COHERENT_GROUP"⟩,
  ⟨1#64 <<< 7, "PERMON"⟩, ⟨1#64 <<< 8, "EXTERNAL_RESOURCES"⟩, ⟨1#64 <<< 10, "ONLY_COMPUTE"⟩,
  ⟨1#64 <<< 11, "SPECIFIC_COHERENT_GROUP"⟩, ⟨1#64 <<< 12, "EVENT_ONLY_ON_FAILURE"⟩,
  ⟨1#64 <<< 14, "EVENT_NEVER"⟩, ⟨1#64 <<< 15, "SKIP_CACHE_START"⟩, ⟨1#64 <<< 16, "SKIP_CACHE_END"⟩]

def mmapProtFlagInfo : List FlagInfo := [⟨4#64, "PROT_EXEC"⟩, ⟨1#64, "PROT_READ"⟩, ⟨2#64, "PROT_WRITE"⟩]

def mmapFlagsFlagInfo : List FlagInfo := [
  ⟨0x1#64, "MAP_SHARED"⟩, ⟨0x2#64, "MAP_PRIVATE"⟩, ⟨0x20#64, "MAP_ANONYMOUS"⟩, ⟨0x800#64, "MAP_DENYWRITE"⟩,
  ⟨0x10#64, "MAP_FIXED"⟩, ⟨0x100#64, "MAP_GROWSDOWN"⟩, ⟨0x40000#64, "MAP_HUGETLB"⟩, ⟨0x2000#64, "MAP_LOCKED"⟩,
  ⟨0x10000#64, "MAP_NONBLOCK"⟩, ⟨0x4000#64, "MAP_NORESERVE"⟩, ⟨0x8000#64, "MAP_POPULATE"⟩,
  ⟨0x20000#64, "MAP_STACK"⟩, ⟨0xDEADBEEF#64, "MAP_UNINITIALIZED"⟩]

def externalResourcesAccessFlagInfo : List FlagInfo := [
  ⟨0#64, "MALI_EXT_RES_ACCESS_SHARED"⟩, ⟨1#64, "MALI_EXT_RES_ACCESS_EXCLUSIVE"⟩]

def maliJdDepTypeFlagInfo : List FlagInfo := [
  ⟨1#64, "MALI_JD_DEP_TYPE_DATA"⟩, ⟨2#64, "MALI_JD_DEP_TYPE_ORDER"⟩]

end Panwrap
