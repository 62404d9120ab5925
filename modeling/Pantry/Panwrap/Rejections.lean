import Pantry.Panwrap.Transparent
import Mathlib.Data.List.Perm.Basic

namespace Panwrap

open Machine Decoder Program

section Lists

variable {w : Nat}

def SameEntries (t t' : Tracker w) : Prop := t'.allocations.Perm t.allocations ∧ t'.mmaps.Perm t.mmaps

theorem SameEntries.refl (t : Tracker w) : SameEntries t t := ⟨.refl _, .refl _⟩

theorem more_allocations (entry : AllocatedMemory) (t : Tracker w) : ¬ SameEntries t (listAddAllocation entry t) := by
  intro same
  have length : t.allocations.length + 1 = t.allocations.length := same.1.length_eq
  omega

theorem Tracker.same_mapped_iff (t : Tracker w) (length : BitVec w) (fd : Int) (offset : BitVec 64) (reply : Reply w) :
    SameEntries t (t.mapped length fd offset reply) ↔ ¬ MmapTraced t.maliFd fd := by
  constructor
  · intro same traced
    rw [Tracker.mapped, if_pos traced] at same
    have longer : t.mmaps.length + 1 = t.mmaps.length := same.2.length_eq
    omega
  · intro passed
    rw [Tracker.mapped_passed passed]
    exact .refl t

theorem Tracker.same_unmapped_iff (t : Tracker w) (addr : BitVec w) :
    SameEntries t (t.unmapped addr) ↔ ∀ mem ∈ t.mmaps, mem.addr ≠ addr := by
  constructor
  · intro same mem member starts
    have found : startsAt addr mem = true := beq_iff_eq.mpr starts
    have shorter : (t.mmaps.eraseP (startsAt addr)).length = t.mmaps.length - 1 := List.length_eraseP_of_mem member found
    have equal : (t.mmaps.eraseP (startsAt addr)).length = t.mmaps.length := same.2.length_eq
    have nonempty : 0 < t.mmaps.length := List.length_pos_of_mem member
    omega
  · intro none
    have missing : findMappedMem t.mmaps addr = Option.none :=
      List.find?_eq_none.mpr fun mem member starts => none mem member (beq_iff_eq.mp starts)
    rw [Tracker.unmapped_missing missing]
    exact .refl t

def Allocates (request : BitVec w) : Prop :=
  ioctlCase w request = ioctlCase w maliIoctlMemAlloc ∨ ioctlCase w request = ioctlCase w maliIoctlMemCommit

theorem Tracker.same_controlled_iff (t : Tracker w) (fd : Int) {request : BitVec w} (ptr : BitVec w) (reply : Reply w)
    (allocates : Allocates request) :
    SameEntries t (t.controlled fd request ptr reply) ↔ ¬ (IoctlTraced t.maliFd fd ∧ ptr ≠ 0#w) := by
  constructor
  · intro same decoded
    rw [Tracker.controlled, if_pos decoded] at same
    by_cases alloc : ioctlCase w request = ioctlCase w maliIoctlMemAlloc
    · rw [if_pos alloc] at same
      exact more_allocations _ t same
    · rw [if_neg alloc, if_pos (allocates.resolve_left alloc)] at same
      exact more_allocations _ t same
  · intro passed
    rw [Tracker.controlled_passed passed]
    exact .refl t

def ReportsError (request ptr : BitVec w) (reply : Reply w) : Prop :=
  reply.ret ≠ 0 ∨ ptr ≠ 0#w ∧
    (reply.mem.read 32 ptr 0 ≠ 0#32 ∨
      ioctlCase w request = ioctlCase w maliIoctlMemCommit ∧ (MaliIoctlMemCommit.load reply.mem ptr).resultSubcode ≠ 0#32)

def mapFailed : BitVec w := BitVec.allOnes w

end Lists

section Runs

variable {build : Build}

/-- The kernel refused the call. -/
def Label.Rejected (t : Tracker build.bits) (label : Label build) : Prop :=
  match label.call with
  | .ioctl _ request arg => Allocates request ∧ ReportsError request (ioctlPtr request arg) label.reply
  | .mmap _ _ _ _ fd _ => MmapTraced t.maliFd fd ∧ label.reply.ptr = mapFailed
  | .mmap64 _ _ _ _ fd _ => MmapTraced t.maliFd fd ∧ label.reply.ptr = mapFailed
  | .munmap _ _ => label.reply.ret = -1
  | _ => False

/-- The wrapper does not get to the lists: it decodes no such `ioctl`, and no mapping starts where
    such a `munmap` does. -/
def Call.Spared (t : Tracker build.bits) : Call build → Prop
  | .ioctl fd request arg => ¬ (IoctlTraced t.maliFd fd ∧ ioctlPtr request arg ≠ 0#(build.bits))
  | .mmap _ _ _ _ fd _ => ¬ MmapTraced t.maliFd fd
  | .mmap64 _ _ _ _ fd _ => ¬ MmapTraced t.maliFd fd
  | .munmap addr _ => ∀ mem ∈ t.mmaps, mem.addr ≠ addr
  | _ => True

theorem same_next_iff (t : Tracker build.bits) (label : Label build) (rejected : label.Rejected t) :
    SameEntries t (t.next label.call label.reply) ↔ label.call.Spared t := by
  obtain ⟨call, reply⟩ := label
  cases call with
  | ioctl fd request arg => exact t.same_controlled_iff fd _ reply rejected.1
  | mmap addr length prot flags fd offset => exact t.same_mapped_iff length fd _ reply
  | mmap64 addr length prot flags fd offset => exact t.same_mapped_iff length fd offset reply
  | munmap addr length => exact t.same_unmapped_iff addr
  | openAt path flags mode => exact rejected.elim
  | open64 path flags mode => exact rejected.elim
  | close fd => exact rejected.elim

/-- A run leaves both lists as they were at every call that the kernel refuses exactly where the
    wrapper does not get to the lists at any of them. -/
theorem rejections_unseen_iff (cfg : Config) (σ σ' : Sys build.bits) (labels : List (Label build)) :
    Run (fun s label s' => Step cfg s label s' ∧ (label.Rejected s.tracker → SameEntries s.tracker s'.tracker))
        σ labels σ' ↔
      Run (fun s label s' => Step cfg s label s' ∧ (label.Rejected s.tracker → label.call.Spared s.tracker))
        σ labels σ' := by
  have same {s s' : Sys build.bits} {label : Label build} (step : Step cfg s label s')
      (rejected : label.Rejected s.tracker) :
      SameEntries s.tracker s'.tracker ↔ label.call.Spared s.tracker := by
    rw [step.tracker]
    exact same_next_iff s.tracker label rejected
  constructor
  · exact fun run => run.mono fun ⟨step, kept⟩ => ⟨step, fun rejected => (same step rejected).mp (kept rejected)⟩
  · exact fun run => run.mono fun ⟨step, spared⟩ => ⟨step, fun rejected => (same step rejected).mpr (spared rejected)⟩

end Runs

theorem failed_mmap_recorded :
    ∃ (σ σ' : Sys Build.lp64.bits) (opened mapped : Label .lp64),
      Run (Step x86) (untouched Build.lp64.bits) [opened] σ ∧ Step x86 σ mapped σ' ∧ mapped.Rejected σ.tracker ∧
        ¬ SameEntries σ.tracker σ'.tracker := by
  let opened : Label .lp64 := ⟨.openAt "/dev/mali0" 2#32 0#32, ⟨3, 0, fun _ => 0#8⟩⟩
  let mapped : Label .lp64 := ⟨.mmap64 0 0x1000 3#32 1#32 3 0x41000#64, ⟨0, mapFailed, fun _ => 0#8⟩⟩
  obtain ⟨σ, first⟩ := step_of_decodable x86 opened (untouched Build.lp64.bits) trivial
  obtain ⟨σ', second⟩ := step_of_decodable x86 mapped σ trivial
  have traced : MmapTraced σ.tracker.maliFd 3 := by
    rw [first.tracker]
    decide
  refine ⟨σ, σ', opened, mapped, .single first, second, ⟨traced, rfl⟩, ?_⟩
  rw [second.tracker]
  exact fun same => (σ.tracker.same_mapped_iff _ _ _ _).mp same traced

end Panwrap
