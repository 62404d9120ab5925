import Pantry.Machine.Ring
import Pantry.Machine.Script
import Pantry.Panwrap.Ends
import Pantry.Panwrap.Lookups
import Pantry.Panwrap.Step

/-! The lists of the tracker as the wrappers keep them: in nodes from `malloc`, linked as in
    `list.h`, whose `__list_add` and `__list_del` are `listAddBetween` and `listDelBetween`. A node is named by
    the address of its `struct list`, so `container_of` is the identity. -/

namespace Panwrap

open Machine Decoder Program

inductive NodeFault where
  | nullDeref
  | dangling
  | badFree
  /-- Not of the nodes: a decoder reads through a null pointer, divides by zero or never comes to its end. -/
  | undecoded
  deriving DecidableEq, Repr

structure Heads (w : Nat) where
  allocations : BitVec w
  mmaps : BitVec w
  distinct : allocations ≠ mmaps
  allocationsNonnull : allocations ≠ 0#w
  mmapsNonnull : mmaps ≠ 0#w

structure Nodes (w : Nat) where
  maliFd : Int
  links : Links (BitVec w)
  allocated : BitVec w → AllocatedMemory
  mapped : BitVec w → MappedMemory w
  live : BitVec w → Bool
  mallocs : Nat

variable {w : Nat} {α : Type}

def Nodes.start (heads : Heads w) (links : Links (BitVec w)) (allocated : BitVec w → AllocatedMemory)
    (mapped : BitVec w → MappedMemory w) : Nodes w where
  maliFd := 0
  links := (links.alone heads.allocations).alone heads.mmaps
  allocated := allocated
  mapped := mapped
  live := fun _ => false
  mallocs := 0

abbrev Track (w : Nat) (α : Type) : Type := Script NodeFault (Nodes w) α

variable (heads : Heads w)

def Nodes.fault? (s : Nodes w) (p : BitVec w) : Option NodeFault :=
  if p = 0#w then some .nullDeref
  else if p = heads.allocations ∨ p = heads.mmaps ∨ s.live p = true then none
  else some .dangling

def touch (p : BitVec w) (move : Nodes w → Nodes w) (f : Nodes w → α) : Track w α :=
  .access (fun s => if s.fault? heads p = none then move s else s) fun s =>
    match s.fault? heads p with
    | none => .done (f s)
    | some reason => .fault reason

def load (p : BitVec w) (f : Nodes w → α) : Track w α := touch heads p id f

def store (p : BitVec w) (move : Nodes w → Nodes w) : Track w Unit := touch heads p move fun _ => ()

namespace Nodes

variable (s : Nodes w) (p : BitVec w)

def setNext (target : BitVec w) : Nodes w := { s with links := s.links.setNext p target }

def setPrev (target : BitVec w) : Nodes w := { s with links := s.links.setPrev p target }

def setAllocated (value : AllocatedMemory) : Nodes w := { s with allocated := Function.update s.allocated p value }

def setMapped (value : MappedMemory w) : Nodes w := { s with mapped := Function.update s.mapped p value }

def allocate : Nodes w :=
  { s with live := if p = 0#w then s.live else Function.update s.live p true, mallocs := s.mallocs + 1 }

def release : Nodes w := { s with live := Function.update s.live p false }

@[simp] theorem setAllocated_same (value : AllocatedMemory) : (s.setAllocated p value).allocated p = value :=
  Function.update_self ..

@[simp] theorem setMapped_same (value : MappedMemory w) : (s.setMapped p value).mapped p = value :=
  Function.update_self ..

end Nodes

section List

def listInit (list : BitVec w) : Track w Unit := do
  store heads list fun s => s.setPrev list list
  store heads list fun s => s.setNext list list

def listAddBetween (entry prev next : BitVec w) : Track w Unit := do
  store heads next fun s => s.setPrev next entry
  store heads entry fun s => s.setNext entry next
  store heads entry fun s => s.setPrev entry prev
  store heads prev fun s => s.setNext prev entry

def listAdd (entry head : BitVec w) : Track w Unit := do
  let next ← load heads head fun s => s.links.next head
  listAddBetween heads entry head next

def listDelBetween (prev next : BitVec w) : Track w Unit := do
  store heads next fun s => s.setPrev next prev
  store heads prev fun s => s.setNext prev next

def listDel (entry : BitVec w) : Track w Unit := do
  let prev ← load heads entry fun s => s.links.prev entry
  let next ← load heads entry fun s => s.links.next entry
  listDelBetween heads prev next
  listInit heads entry

def listRounds (head : BitVec w) (test : Nodes w → BitVec w → Bool) : Nat → BitVec w → Track w (Option (BitVec w))
  | 0, _ => .cut
  | fuel + 1, pos =>
    if pos = head then pure none
    else do
      let found ← load heads pos fun s => test s pos
      if found then pure (some pos)
      else do
        let next ← load heads pos fun s => s.links.next pos
        listRounds head test fuel next

/-- A list holds no address twice, so that more rounds than there are addresses are never made. -/
def listForEachEntry (head : BitVec w) (test : Nodes w → BitVec w → Bool) : Track w (Option (BitVec w)) := do
  let first ← load heads head fun s => s.links.next head
  listRounds heads head test (2 ^ w) first

end List

section Malloc

/-- An allocator: what it gives is nowhere in use. NULL is 0. -/
structure Malloc where
  give : Nodes w → BitVec w
  fresh : ∀ s, give s ≠ 0#w → give s ≠ heads.allocations ∧ give s ≠ heads.mmaps ∧ s.live (give s) = false

variable {heads} (alloc : Malloc heads)

def malloc : Track w (BitVec w) := .access (fun s => s.allocate (alloc.give s)) fun s => .done (alloc.give s)

def calloc : Track w (BitVec w) :=
  .access (fun s =>
      if alloc.give s = 0#w then s.allocate (alloc.give s)
      else (s.allocate (alloc.give s)).setMapped (alloc.give s) ⟨0#w, 0#w, 0#64⟩)
    fun s => .done (alloc.give s)

def free (p : BitVec w) : Track w Unit :=
  .access (fun s => s.release p) fun s => if p = 0#w ∨ s.live p = true then .done () else .fault .badFree

end Malloc

section Lookups

def findMmaps (test : MappedMemory w → Bool) : Track w (Option (MappedMemory w)) := do
  let pos ← listForEachEntry heads heads.mmaps fun s pos => test (s.mapped pos)
  match pos with
  | none => pure none
  | some pos => do
    let mem ← load heads pos fun s => s.mapped pos
    pure (some mem)

def fetchMapped (gpuAddr : BitVec 64) (sz : BitVec w) : Track w (BitVec w) :=
  if gpuAddr = 0#64 then pure 0#w
  else do
    let mem ← findMmaps heads fun pos => pos.gpuContains gpuAddr
    match mem with
    | none => pure 0#w
    | some mem =>
      if gpuAddr - mem.gpuVa + sz.setWidth 64 > mem.length.setWidth 64 then pure 0#w
      else pure (mem.addr + (gpuAddr - mem.gpuVa).setWidth w)

def lookups : Query (MappedMemory w) α → Track w α
  | .answer value => pure value
  | .find test rest => do
    let mem ← findMmaps heads test
    lookups (rest mem)

end Lookups

section Wrappers

variable {heads} (alloc : Malloc heads)

def addAllocation (entry : AllocatedMemory) : Track w Unit := do
  let new ← malloc alloc
  store heads new fun s => s.setAllocated new { s.allocated new with gpuVa := entry.gpuVa }
  store heads new fun s => s.setAllocated new { s.allocated new with sameVa := entry.sameVa }
  listAdd heads new heads.allocations

def attributeMapping (heads : Heads w) (new : BitVec w) (offset : BitVec 64) (ret : BitVec w) : Track w Unit := do
  let pos ← listForEachEntry heads heads.allocations fun s pos => pendingAt offset (s.allocated pos)
  match pos with
  | none => pure ()
  | some pos => do
    let sameVa ← load heads pos fun s => (s.allocated pos).sameVa
    listDel heads pos
    free pos
    store heads new fun s => s.setMapped new { s.mapped new with gpuVa := if sameVa then ret.setWidth 64 else offset }

/-- `panwrap_mmap_wrap` between its call of `func` and `UNLOCK`. -/
def recordMapping (length : BitVec w) (offset : BitVec 64) (ret : BitVec w) : Track w Unit := do
  let new ← calloc alloc
  store heads new fun s => s.setMapped new { s.mapped new with length := length }
  store heads new fun s => s.setMapped new { s.mapped new with addr := ret }
  attributeMapping heads new offset ret
  listAdd heads new heads.mmaps

def forgetMapping (heads : Heads w) (addr : BitVec w) : Track w Unit := do
  let mem ← listForEachEntry heads heads.mmaps fun s pos => startsAt addr (s.mapped pos)
  match mem with
  | none => pure ()
  | some mem => do
    let _gpuVa ← load heads mem fun s => (s.mapped mem).gpuVa
    listDel heads mem
    free mem

def setMaliFd (fd : Int) : Track w Unit := .write fun s => { s with maliFd := fd }

variable {build : Build} {heads : Heads build.bits} (alloc : Malloc heads)

def Call.Decoded (cfg : Config) (proc : Proc build.bits) (mmaps : List (MappedMemory build.bits)) : Call build → Prop
  | .ioctl _ request arg =>
    ∃ fuel, Returns (ioctlDecodePre (cfg.env mmaps) fuel request (ioctlPtr request arg)) proc
  | _ => True

/-- A call, the answer of libc to it, the memory that its decoding finds and what that looks up in `mmaps`: each
    lookup may depend on the answers to those before, and the last of them decide whether the decoding ends. -/
structure Job (build : Build) where
  label : Label build
  cfg : Config
  proc : Proc build.bits
  query : Query (MappedMemory build.bits) Bool
  decides : ∀ mmaps, query.eval mmaps = true ↔ label.call.Decoded cfg proc mmaps

theorem exists_query (cfg : Config) (proc : Proc build.bits) (call : Call build) :
    ∃ q : Query (MappedMemory build.bits) Bool, ∀ mmaps, q.eval mmaps = true ↔ call.Decoded cfg proc mmaps := by
  cases call with
  | ioctl fd request arg => exact exists_lookups cfg request (ioctlPtr request arg) proc
  | _ => exact ⟨.answer true, fun _ => ⟨fun _ => trivial, fun _ => rfl⟩⟩

noncomputable def Job.of (label : Label build) (cfg : Config) (proc : Proc build.bits) : Job build where
  label := label
  cfg := cfg
  proc := proc
  query := (exists_query cfg proc label.call).choose
  decides := (exists_query cfg proc label.call).choose_spec

def Job.Enters (job : Job build) (s : Nodes build.bits) : Prop :=
  match job.label.call with
  | .ioctl fd _ _ => IoctlTraced s.maliFd fd
  | .mmap _ _ _ _ fd _ => MmapTraced s.maliFd fd
  | .mmap64 _ _ _ _ fd _ => MmapTraced s.maliFd fd
  | _ => True

def Job.Ends (job : Job build) (mmaps : List (MappedMemory build.bits)) : Prop :=
  match job.label.call with
  | .ioctl _ request arg => ioctlPtr request arg ≠ 0#(build.bits) →
      job.label.call.Decoded job.cfg job.proc mmaps ∧ PostEnds request (ioctlPtr request arg) job.label.reply.mem
  | _ => True

def reportPost (request ptr : BitVec build.bits) (reply : Reply build.bits) : Track build.bits Unit :=
  if ioctlCase build.bits request = ioctlCase build.bits maliIoctlMemAlloc then
    addAllocation alloc (MaliIoctlMemAlloc.load reply.mem ptr).allocated
  else if ioctlCase build.bits request = ioctlCase build.bits maliIoctlMemCommit then
    addAllocation alloc (MaliIoctlMemCommit.load reply.mem ptr).allocated
  else if PostEnds request ptr reply.mem then pure ()
  else .fault .undecoded

/-- What a wrapper does to the nodes between `LOCK` and `UNLOCK`. -/
def Job.locked (job : Job build) : Track build.bits Unit :=
  match job.label.call with
  | .openAt path _ _ =>
    if job.label.reply.ret ≠ -1 ∧ path = "/dev/mali0" then setMaliFd job.label.reply.ret else pure ()
  | .open64 path _ _ =>
    if job.label.reply.ret ≠ -1 ∧ path = "/dev/mali0" then setMaliFd job.label.reply.ret else pure ()
  | .close fd => do
    let maliFd ← Script.read fun s => s.maliFd
    if 0 < fd ∧ fd = maliFd then setMaliFd 0 else pure ()
  | .ioctl _ request arg =>
    if ioctlPtr request arg = 0#(build.bits) then pure ()
    else do
      let decoded ← lookups heads job.query
      if decoded then reportPost alloc request (ioctlPtr request arg) job.label.reply
      else .fault .undecoded
  | .mmap _ length _ _ _ offset => recordMapping alloc length (offset.signExtend 64) job.label.reply.ptr
  | .mmap64 _ length _ _ _ offset => recordMapping alloc length offset job.label.reply.ptr
  | .munmap addr _ => forgetMapping heads addr

end Wrappers

end Panwrap
