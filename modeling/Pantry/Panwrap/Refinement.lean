import Pantry.Panwrap.Represents

namespace Panwrap

open Machine

variable {w : Nat}

/-- What a traced `ioctl` does to the tracker, whatever `mali_fd` is by then. -/
def Tracker.posted (t : Tracker w) (request ptr : BitVec w) (reply : Reply w) : Tracker w :=
  if ptr = 0#w then t
  else if ioctlCase w request = ioctlCase w maliIoctlMemAlloc then
    listAddAllocation (MaliIoctlMemAlloc.load reply.mem ptr).allocated t
  else if ioctlCase w request = ioctlCase w maliIoctlMemCommit then
    listAddAllocation (MaliIoctlMemCommit.load reply.mem ptr).allocated t
  else t

def Tracker.recorded (t : Tracker w) (length : BitVec w) (offset : BitVec 64) (ret : BitVec w) : Tracker w :=
  { t with
    allocations := t.allocations.eraseP (pendingAt offset)
    mmaps := ⟨length, ret, t.attributed offset ret⟩ :: t.mmaps }

theorem erase_of_find {α : Type} [DecidableEq α] {l : List α} {q : α → Bool} {a : α} (found : l.find? q = some a) :
    l.erase a = l.eraseP q := by
  induction l with
  | nil => cases found
  | cons b l ih =>
    rw [List.find?_cons] at found
    cases passes : q b with
    | true =>
      rw [passes] at found
      obtain rfl : b = a := Option.some.inj found
      rw [List.erase_cons_head, List.eraseP_cons_of_pos passes]
    | false =>
      rw [passes] at found
      have other : b ≠ a := by
        intro same
        rw [same, List.find?_some found] at passes
        cases passes
      rw [List.erase_cons_tail (by simpa using other), List.eraseP_cons_of_neg (by simp [passes]), ih found]

section Wrappers

variable {heads : Heads w} (alloc : Malloc heads) {s : Nodes w} {as ms : List (BitVec w)} {t : Tracker w}

/-- The lists of `t`, with every node that is allocated on one of them. -/
def Holds (heads : Heads w) (s : Nodes w) (t : Tracker w) : Prop := ∃ as ms, Represents heads s as ms [] t

def OutOfMemory (s : Nodes w) (reason : NodeFault) : Prop := reason = .nullDeref ∧ alloc.give s = 0#w

theorem Represents.given {spare : List (BitVec w)} (rep : Represents heads s as ms spare t) (given : alloc.give s ≠ 0#w) :
    Represents heads (s.allocate (alloc.give s)) as ms (alloc.give s :: spare) t := by
  obtain ⟨notAllocations, notMmaps, dead⟩ := alloc.fresh s given
  exact rep.allocate given dead notAllocations notMmaps

section Malloc

variable {α : Type} {E : NodeFault → Prop} {f : BitVec w → Track w α} {Q : α → Nodes w → Prop} {p : BitVec w}

theorem safe_malloc_bind :
    (malloc alloc >>= f).Safe E s Q ↔ (f (alloc.give s)).Safe E (s.allocate (alloc.give s)) Q := by
  rw [Script.safe_bind, malloc, Script.safe_access]
  exact Iff.rfl

theorem safe_calloc_bind (given : alloc.give s ≠ 0#w) :
    (calloc alloc >>= f).Safe E s Q ↔ (f (alloc.give s)).Safe E
      ((s.allocate (alloc.give s)).setMapped (alloc.give s) ⟨0#w, 0#w, 0#64⟩) Q := by
  rw [Script.safe_bind, calloc, Script.safe_access, if_neg given]
  exact Iff.rfl

theorem safe_calloc_null (null : alloc.give s = 0#w) :
    (calloc alloc >>= f).Safe E s Q ↔ (f 0#w).Safe E (s.allocate 0#w) Q := by
  rw [Script.safe_bind, calloc, Script.safe_access, if_pos null, null]
  exact Iff.rfl

theorem safe_null_bind {move : Nodes w → Nodes w} {g : Unit → Track w α} :
    (store heads 0#w move >>= g).Safe E s Q ↔ E .nullDeref := by
  rw [Script.safe_bind]
  exact safe_null rfl

theorem safe_free {Q : Unit → Nodes w → Prop} (live : s.live p = true) :
    (free p).Safe E s Q ↔ Q () (s.release p) := by
  rw [free, Script.safe_access, if_pos (.inr live)]
  exact Iff.rfl

end Malloc

theorem Represents.addAllocation_safe (rep : Represents heads s as ms [] t) (entry : AllocatedMemory) :
    (addAllocation alloc entry).Safe (OutOfMemory alloc s) s fun _ s' => Holds heads s' (listAddAllocation entry t) := by
  unfold addAllocation
  rw [safe_malloc_bind]
  by_cases null : alloc.give s = 0#w
  · rw [null, safe_null_bind]
    exact ⟨rfl, null⟩
  · have node : alloc.give s ∈ [alloc.give s] := List.mem_singleton_self _
    have one := rep.given alloc null
    have two := one.setAllocated node ⟨entry.gpuVa, ((s.allocate (alloc.give s)).allocated (alloc.give s)).sameVa⟩
    have three := two.setAllocated node entry
    rw [Script.safe_bind, safe_store (one.usable_spare node), Script.safe_bind,
      safe_store (by exact two.usable_spare node)]
    simp only [Nodes.setAllocated_same]
    rw [safe_listAdd (by exact three.usable_spare node) usable_heads.1
      (by exact three.usable_allocations three.nodes.left.first_mem)]
    have linked := three.linkAllocation
    rw [Nodes.setAllocated_same] at linked
    exact ⟨_, _, linked⟩

theorem Represents.dropAllocation {spare : List (BitVec w)} {pos : BitVec w} {E : NodeFault → Prop}
    {Q : Unit → Nodes w → Prop} (rep : Represents heads s as ms spare t) (member : pos ∈ as)
    (holds : ∀ s', s'.mapped = s.mapped → Represents heads s' (as.erase pos) ms spare
      { t with allocations := (as.erase pos).map s.allocated } → Q () s') :
    (listDel heads pos).Safe E s fun _ s' => (free pos).Safe E s' Q := by
  have unlinked := rep.unlinkAllocation member
  rw [safe_listDel (rep.usable_allocation member)
    (rep.usable_allocations (rep.nodes.left.prev_mem member)) (rep.usable_allocations (rep.nodes.left.next_mem member)),
    safe_free ((unlinked.nodes.live pos).mpr (.inr (.inr List.mem_cons_self)))]
  exact holds _ rfl unlinked.release

theorem Represents.dropMapping {spare : List (BitVec w)} {pos : BitVec w} {E : NodeFault → Prop}
    {Q : Unit → Nodes w → Prop} (rep : Represents heads s as ms spare t) (member : pos ∈ ms)
    (holds : ∀ s', Represents heads s' as (ms.erase pos) spare
      { t with mmaps := (ms.erase pos).map s.mapped } → Q () s') :
    (listDel heads pos).Safe E s fun _ s' => (free pos).Safe E s' Q := by
  have unlinked := rep.unlinkMapping member
  rw [safe_listDel (rep.usable_mapping member)
    (rep.usable_mmaps (rep.nodes.right.prev_mem member)) (rep.usable_mmaps (rep.nodes.right.next_mem member)),
    safe_free ((unlinked.nodes.live pos).mpr (.inr (.inr List.mem_cons_self)))]
  exact holds _ unlinked.release

theorem Represents.addMapping {new : BitVec w} {E : NodeFault → Prop} (rep : Represents heads s as ms [new] t)
    {entry : MappedMemory w} (value : s.mapped new = entry) :
    (listAdd heads new heads.mmaps).Safe E s fun _ s' => Holds heads s' (listAddMapping entry t) := by
  have linked := rep.linkMapping
  rw [safe_listAdd (rep.usable_spare (List.mem_singleton_self new)) usable_heads.2
    (rep.usable_mmaps rep.nodes.right.first_mem)]
  rw [value] at linked
  exact ⟨_, _, linked⟩

theorem Represents.attributeMapping_safe {new : BitVec w} {E : NodeFault → Prop}
    (rep : Represents heads s as ms [new] t) {length ret : BitVec w} (offset : BitVec 64)
    (value : s.mapped new = ⟨length, ret, 0#64⟩) :
    (attributeMapping heads new offset ret).Safe E s fun _ s' =>
      ∃ as', Represents heads s' as' ms [new] { t with allocations := t.allocations.eraseP (pendingAt offset) } ∧
        s'.mapped new = ⟨length, ret, t.attributed offset ret⟩ := by
  have node : new ∈ [new] := List.mem_singleton_self new
  unfold attributeMapping
  rw [Script.safe_bind, safe_listForEachEntry rep.nodes.left usable_heads.1 fun _ member => rep.usable_allocation member]
  have search := rep.find_allocated (pendingAt offset)
  cases hit : as.find? fun p => pendingAt offset (s.allocated p) with
  | none =>
    rw [hit] at search
    have kept : t.allocations.eraseP (pendingAt offset) = t.allocations :=
      List.eraseP_of_forall_not fun a member => List.find?_eq_none.mp search.symm a member
    rw [kept]
    refine ⟨as, rep, ?_⟩
    rw [value, Tracker.attributed, ← search]
    rfl
  | some pos =>
    have member := List.mem_of_find?_eq_some hit
    rw [hit] at search
    have erased : (as.erase pos).map s.allocated = t.allocations.eraseP (pendingAt offset) := by
      rw [erase_of_find hit, ← rep.allocated, List.eraseP_map]
      rfl
    dsimp only
    simp only [Script.safe_bind]
    rw [safe_load (rep.usable_allocation member)]
    apply rep.dropAllocation member
    intro s' same dropped
    rw [erased] at dropped
    rw [safe_store (dropped.usable_spare node)]
    refine ⟨_, dropped.setMapped node _, ?_⟩
    rw [Nodes.setMapped_same, same, value, Tracker.attributed, ← search]
    rfl

theorem Represents.recordMapping_safe (rep : Represents heads s as ms [] t) (length : BitVec w) (offset : BitVec 64)
    (ret : BitVec w) :
    (recordMapping alloc length offset ret).Safe (OutOfMemory alloc s) s fun _ s' =>
      Holds heads s' (t.recorded length offset ret) := by
  unfold recordMapping
  by_cases null : alloc.give s = 0#w
  · rw [safe_calloc_null alloc null, safe_null_bind]
    exact ⟨rfl, null⟩
  · have node : alloc.give s ∈ [alloc.give s] := List.mem_singleton_self _
    have one := (rep.given alloc null).setMapped node ⟨0#w, 0#w, 0#64⟩
    have two := one.setMapped node ⟨length, 0#w, 0#64⟩
    have three := two.setMapped node ⟨length, ret, 0#64⟩
    rw [safe_calloc_bind alloc null, Script.safe_bind, safe_store (one.usable_spare node)]
    simp only [Nodes.setMapped_same]
    rw [Script.safe_bind, safe_store (two.usable_spare node)]
    simp only [Nodes.setMapped_same]
    rw [Script.safe_bind]
    apply (three.attributeMapping_safe offset (Nodes.setMapped_same ..)).mono
    intro _ s' attributed
    obtain ⟨as', rep', value⟩ := attributed
    exact rep'.addMapping value

theorem Represents.forgetMapping_safe {E : NodeFault → Prop} (rep : Represents heads s as ms [] t) (addr : BitVec w) :
    (forgetMapping heads addr).Safe E s fun _ s' => Holds heads s' (t.unmapped addr) := by
  unfold forgetMapping
  rw [Script.safe_bind, safe_listForEachEntry rep.nodes.right usable_heads.2 fun _ member => rep.usable_mapping member]
  have search := rep.find_mapped (startsAt addr)
  cases hit : ms.find? fun p => startsAt addr (s.mapped p) with
  | none =>
    rw [hit] at search
    have kept : t.unmapped addr = t := Tracker.unmapped_missing search.symm
    rw [kept]
    exact ⟨as, ms, rep⟩
  | some mem =>
    have member := List.mem_of_find?_eq_some hit
    have erased : (ms.erase mem).map s.mapped = t.mmaps.eraseP (startsAt addr) := by
      rw [erase_of_find hit, ← rep.mapped, List.eraseP_map]
      rfl
    dsimp only
    simp only [Script.safe_bind]
    rw [safe_load (rep.usable_mapping member)]
    apply rep.dropMapping member
    intro s' dropped
    rw [erased] at dropped
    exact ⟨_, _, dropped⟩

theorem Represents.setMaliFd_safe {E : NodeFault → Prop} (rep : Represents heads s as ms [] t) (fd : Int) :
    (setMaliFd fd).Safe E s fun _ s' => Holds heads s' { t with maliFd := fd } :=
  ⟨as, ms, { rep with maliFd := rfl }⟩

theorem Represents.fetchMapped_safe {E : NodeFault → Prop} (rep : Represents heads s as ms [] t) (gpuAddr : BitVec 64)
    (sz : BitVec w) :
    (fetchMapped heads gpuAddr sz).Safe E s fun p s' => p = fetchMappedGpu t.mmaps gpuAddr sz ∧ s' = s := by
  unfold fetchMapped fetchMappedGpu
  by_cases null : gpuAddr = 0#64
  · rw [if_pos null, if_pos null]
    exact ⟨rfl, rfl⟩
  · rw [if_neg null, if_neg null, Script.safe_bind, rep.findMmaps, findGpuMappedMem]
    cases t.mmaps.find? fun pos => pos.gpuContains gpuAddr with
    | none => exact ⟨rfl, rfl⟩
    | some mem =>
      dsimp only
      split
      · exact ⟨rfl, rfl⟩
      · exact ⟨rfl, rfl⟩

end Wrappers

section Jobs

variable {build : Build} {heads : Heads build.bits} (alloc : Malloc heads) {s : Nodes build.bits} {t : Tracker build.bits}

def Tracker.locked (t : Tracker build.bits) (label : Label build) : Tracker build.bits :=
  match label.call with
  | .openAt path _ _ => t.opened path label.reply
  | .open64 path _ _ => t.opened path label.reply
  | .close fd => t.closed fd
  | .ioctl _ request arg => t.posted request (ioctlPtr request arg) label.reply
  | .mmap _ length _ _ _ offset => t.recorded length (offset.signExtend 64) label.reply.ptr
  | .mmap64 _ length _ _ _ offset => t.recorded length offset label.reply.ptr
  | .munmap addr _ => t.unmapped addr

theorem Holds.maliFd (holds : Holds heads s t) : s.maliFd = t.maliFd := by
  obtain ⟨as, ms, rep⟩ := holds
  exact rep.maliFd

theorem Tracker.locked_of_enters (holds : Holds heads s t) {job : Job build} (enters : job.Enters s) :
    t.locked job.label = t.next job.label.call job.label.reply := by
  unfold Job.Enters at enters
  rw [holds.maliFd] at enters
  unfold Tracker.locked
  cases call : job.label.call with
  | ioctl fd request arg =>
    rw [call] at enters
    by_cases null : ioctlPtr request arg = 0#(build.bits)
    · exact (if_pos null).trans (Tracker.controlled_passed fun both => both.2 null).symm
    · exact (if_neg null).trans (if_pos ⟨enters, null⟩).symm
  | mmap addr length prot flags fd offset =>
    rw [call] at enters
    exact (if_pos enters).symm
  | mmap64 addr length prot flags fd offset =>
    rw [call] at enters
    exact (if_pos enters).symm
  | _ => rfl

theorem Tracker.next_of_not_enters (holds : Holds heads s t) {job : Job build} (passes : ¬ job.Enters s) :
    t.next job.label.call job.label.reply = t := by
  unfold Job.Enters at passes
  rw [holds.maliFd] at passes
  cases call : job.label.call with
  | ioctl fd request arg =>
    rw [call] at passes
    exact Tracker.controlled_passed fun both => passes both.1
  | mmap addr length prot flags fd offset =>
    rw [call] at passes
    exact Tracker.mapped_passed passes
  | mmap64 addr length prot flags fd offset =>
    rw [call] at passes
    exact Tracker.mapped_passed passes
  | _ =>
    rw [call] at passes
    exact absurd trivial passes

/-- The ways in which a wrapper may stop inside the lock: `malloc` fails it, or its decoding does not come to an end. -/
def Stops (job : Job build) (s : Nodes build.bits) (mmaps : List (MappedMemory build.bits)) (reason : NodeFault) : Prop :=
  OutOfMemory alloc s reason ∨ reason = .undecoded ∧ ¬ job.Ends mmaps

theorem Job.ends_ioctl {job : Job build} {fd : Int} {request arg : BitVec build.bits}
    {mmaps : List (MappedMemory build.bits)} (call : job.label.call = .ioctl fd request arg) :
    job.Ends mmaps ↔ (ioctlPtr request arg ≠ 0#(build.bits) → job.label.call.Decoded job.cfg job.proc mmaps ∧
      PostEnds request (ioctlPtr request arg) job.label.reply.mem) := by
  unfold Job.Ends
  rw [call]

theorem Holds.reportPost_safe (holds : Holds heads s t) {request ptr : BitVec build.bits} (nonnull : ptr ≠ 0#(build.bits))
    (reply : Reply build.bits) :
    (reportPost alloc request ptr reply).Safe
      (fun reason => OutOfMemory alloc s reason ∨ reason = .undecoded ∧ ¬ PostEnds request ptr reply.mem) s
      fun _ s' => Holds heads s' (t.posted request ptr reply) := by
  obtain ⟨as, ms, rep⟩ := holds
  unfold reportPost Tracker.posted
  rw [if_neg nonnull]
  split
  · exact (rep.addAllocation_safe alloc _).weaken fun _ => .inl
  · split
    · exact (rep.addAllocation_safe alloc _).weaken fun _ => .inl
    · split
      · exact ⟨as, ms, rep⟩
      · rename_i endless
        exact .inr ⟨rfl, endless⟩

/-- The locked part of a wrapper does to the nodes what `Tracker.locked` does to the lists. -/
theorem Holds.locked_safe (holds : Holds heads s t) (job : Job build) :
    (job.locked alloc).Safe (Stops alloc job s t.mmaps) s fun _ s' => Holds heads s' (t.locked job.label) := by
  obtain ⟨as, ms, rep⟩ := holds
  have same : Holds heads s t := ⟨as, ms, rep⟩
  unfold Job.locked Tracker.locked
  cases call : job.label.call with
  | openAt path flags mode =>
    dsimp only
    unfold Tracker.opened
    split
    · exact rep.setMaliFd_safe _
    · exact same
  | open64 path flags mode =>
    dsimp only
    unfold Tracker.opened
    split
    · exact rep.setMaliFd_safe _
    · exact same
  | close fd =>
    dsimp only
    unfold Tracker.closed
    rw [Script.safe_bind, Script.safe_read, rep.maliFd]
    split
    · exact rep.setMaliFd_safe _
    · exact same
  | ioctl fd request arg =>
    dsimp only
    split
    · rename_i null
      rw [Tracker.posted, if_pos null]
      exact same
    · rename_i nonnull
      rw [Script.safe_bind, rep.lookups]
      by_cases decoded : job.query.eval t.mmaps = true
      · rw [if_pos decoded]
        apply (same.reportPost_safe alloc nonnull job.label.reply).weaken
        intro reason stops
        rcases stops with out | ⟨rfl, endless⟩
        · exact .inl out
        · exact .inr ⟨rfl, fun ends => endless ((Job.ends_ioctl call).mp ends nonnull).2⟩
      · rw [if_neg decoded]
        have undecoded : ¬ job.label.call.Decoded job.cfg job.proc t.mmaps := (job.decides t.mmaps).not.mp decoded
        exact .inr ⟨rfl, fun ends => undecoded ((Job.ends_ioctl call).mp ends nonnull).1⟩
  | mmap addr length prot flags fd offset => exact (rep.recordMapping_safe alloc _ _ _).weaken fun _ => .inl
  | mmap64 addr length prot flags fd offset => exact (rep.recordMapping_safe alloc _ _ _).weaken fun _ => .inl
  | munmap addr length => exact rep.forgetMapping_safe addr

end Jobs

end Panwrap
