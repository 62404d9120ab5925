import Mathlib.Data.BitVec
import Mathlib.Data.List.Basic

namespace Panwrap

/-- The two kinds of build: `unsigned long`, `size_t` and pointers have 32 or 64 bits. -/
inductive Build where
  | ilp32
  | lp64
  deriving DecidableEq, Repr

abbrev Build.bits : Build → Nat
  | .ilp32 => 32
  | .lp64 => 64

theorem Build.bits_le (build : Build) : build.bits ≤ 64 := by
  cases build <;> decide

structure AllocatedMemory where
  gpuVa : BitVec 64
  sameVa : Bool
  deriving DecidableEq, Repr

/-- `struct mapped_memory`. A GPU address of 0 means that it is not known. -/
structure MappedMemory (w : Nat) where
  length : BitVec w
  addr : BitVec w
  gpuVa : BitVec 64
  deriving DecidableEq, Repr

variable {w : Nat}

namespace MappedMemory

def cpuContains (pos : MappedMemory w) (addr : BitVec w) : Bool :=
  pos.addr ≤ addr && addr ≤ pos.addr + pos.length

def gpuContains (pos : MappedMemory w) (addr : BitVec 64) : Bool :=
  pos.gpuVa ≤ addr && addr ≤ pos.gpuVa + pos.length.setWidth 64

end MappedMemory

def findMappedMem (mmaps : List (MappedMemory w)) (addr : BitVec w) : Option (MappedMemory w) :=
  mmaps.find? fun pos => pos.addr == addr

def findMappedMemContaining (mmaps : List (MappedMemory w)) (addr : BitVec w) :
    Option (MappedMemory w) :=
  mmaps.find? fun pos => pos.cpuContains addr

def findGpuMappedMem (mmaps : List (MappedMemory w)) (addr : BitVec 64) : Option (MappedMemory w) :=
  mmaps.find? fun pos => pos.gpuContains addr

/-- The pointer `fetch_mapped_gpu` returns; NULL is 0. -/
def fetchMappedGpu (mmaps : List (MappedMemory w)) (gpuAddr : BitVec 64) (sz : BitVec w) : BitVec w :=
  if gpuAddr = 0#64 then 0#w
  else match findGpuMappedMem mmaps gpuAddr with
    | none => 0#w
    | some mem =>
      if gpuAddr - mem.gpuVa + sz.setWidth 64 > mem.length.setWidth 64 then 0#w
      else mem.addr + (gpuAddr - mem.gpuVa).setWidth w

end Panwrap
