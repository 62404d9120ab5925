import Pantry.Panwrap.Descriptors
import Pantry.Panwrap.Rejections

namespace Panwrap

open Machine Decoder Program

section Records

variable {w : Nat}

theorem filter_eraseP_same {α : Type} (p : α → Bool) (l : List α) : (l.eraseP p).filter p = (l.filter p).tail := by
  induction l with
  | nil => rfl
  | cons a l ih =>
    cases found : p a with
    | true => simp only [List.eraseP_cons, List.filter_cons, found, cond_true, ↓reduceIte, List.tail_cons]
    | false =>
      simp only [List.eraseP_cons, List.filter_cons, found, cond_false, Bool.false_eq_true, ↓reduceIte]
      exact ih

theorem filter_eraseP_other {α : Type} {p q : α → Bool} (apart : ∀ a, p a = true → q a = false) (l : List α) :
    (l.eraseP p).filter q = l.filter q := by
  induction l with
  | nil => rfl
  | cons a l ih =>
    cases found : p a with
    | true => simp only [List.eraseP_cons, List.filter_cons, found, apart a found, cond_true, Bool.false_eq_true,
        ↓reduceIte]
    | false => simp only [List.eraseP_cons, List.filter_cons, found, cond_false, ih]

instance (request : BitVec w) : Decidable (Allocates request) := inferInstanceAs (Decidable (_ ∨ _))

instance (request ptr : BitVec w) (reply : Reply w) : Decidable (ReportsError request ptr reply) :=
  inferInstanceAs (Decidable (_ ∨ _ ∧ (_ ∨ _ ∧ _)))

def recordOf (request ptr : BitVec w) (mem : Memory w) : Option AllocatedMemory :=
  if ioctlCase w request = ioctlCase w maliIoctlMemAlloc then some (MaliIoctlMemAlloc.load mem ptr).allocated
  else if ioctlCase w request = ioctlCase w maliIoctlMemCommit then some (MaliIoctlMemCommit.load mem ptr).allocated
  else none

theorem Tracker.controlled_eq (t : Tracker w) (fd : Int) (request ptr : BitVec w) (reply : Reply w) :
    t.controlled fd request ptr reply =
      if IoctlTraced t.maliFd fd ∧ ptr ≠ 0#w then
        match recordOf request ptr reply.mem with
        | some entry => listAddAllocation entry t
        | none => t
      else t := by
  unfold Tracker.controlled recordOf
  split
  · split
    · rfl
    · split <;> rfl
  · rfl

/-- The `same_va` of each record at `offset` that no mapping has used, newest first. -/
def Tracker.pendingFlags (t : Tracker w) (offset : BitVec 64) : List Bool :=
  (t.allocations.filter (pendingAt offset)).map AllocatedMemory.sameVa

theorem Tracker.pendingFlags_add (t : Tracker w) (offset : BitVec 64) (entry : AllocatedMemory) :
    (listAddAllocation entry t).pendingFlags offset =
      if entry.gpuVa = offset then entry.sameVa :: t.pendingFlags offset else t.pendingFlags offset := by
  by_cases here : entry.gpuVa = offset
  · have found : pendingAt offset entry = true := beq_iff_eq.mpr here
    simp only [Tracker.pendingFlags, listAddAllocation, List.filter_cons, found, ↓reduceIte, List.map_cons, here]
  · have missed : pendingAt offset entry = false := beq_eq_false_iff_ne.mpr here
    simp only [Tracker.pendingFlags, listAddAllocation, List.filter_cons, missed, Bool.false_eq_true, ↓reduceIte, here]

theorem Tracker.pendingFlags_mapped (t : Tracker w) (length : BitVec w) {fd : Int} (used offset : BitVec 64)
    (reply : Reply w) (traced : MmapTraced t.maliFd fd) :
    (t.mapped length fd used reply).pendingFlags offset =
      if used = offset then (t.pendingFlags offset).tail else t.pendingFlags offset := by
  simp only [Tracker.mapped, if_pos traced, Tracker.pendingFlags]
  by_cases here : used = offset
  · rw [if_pos here, here, filter_eraseP_same, List.map_tail]
  · have apart : ∀ pos, pendingAt used pos = true → pendingAt offset pos = false := by
      intro pos found
      have same : pos.gpuVa = used := beq_iff_eq.mp found
      exact beq_eq_false_iff_ne.mpr (same.trans_ne here)
    rw [if_neg here, filter_eraseP_other apart]

def attribution (offset : BitVec 64) (ret : BitVec w) : List Bool → BitVec 64
  | true :: _ => ret.setWidth 64
  | false :: _ => offset
  | [] => 0#64

theorem Tracker.attributed_eq (t : Tracker w) (offset : BitVec 64) (ret : BitVec w) :
    t.attributed offset ret = attribution offset ret (t.pendingFlags offset) := by
  unfold Tracker.attributed Tracker.pendingFlags
  rw [← List.head?_filter]
  cases t.allocations.filter (pendingAt offset) with
  | nil => rfl
  | cons pos rest =>
    cases sameVa : pos.sameVa <;> simp [attribution, sameVa]

end Records

section Ledgers

variable {build : Build}

def granted {w : Nat} (request ptr : BitVec w) (reply : Reply w) : Option AllocatedMemory :=
  if ptr = 0#w ∨ ReportsError request ptr reply then none else recordOf request ptr reply.mem

/-- The device that is open, and the pending records of one GPU address, newest first. -/
structure Ledger where
  device : Option Int := none
  pending : List Bool := []

namespace Ledger

def opened (l : Ledger) (path : String) (ret : Int) : Ledger :=
  if path = "/dev/mali0" ∧ ret ≠ -1 then { l with device := some ret } else l

def granting (l : Ledger) (o : BitVec 64) : Option AllocatedMemory → Ledger
  | some entry => if entry.gpuVa = o then { l with pending := entry.sameVa :: l.pending } else l
  | none => l

def mapped {w : Nat} (l : Ledger) (o : BitVec 64) (fd : Int) (offset : BitVec 64) (ret : BitVec w) : Ledger :=
  if l.device = some fd ∧ offset = o ∧ ret ≠ mapFailed then { l with pending := l.pending.tail } else l

/-- Accepted allocations and commits at `o` are added, successful mappings of `o` use the newest record,
    and nothing else changes the records. -/
def next (o : BitVec 64) (l : Ledger) (label : Label build) : Ledger :=
  match label.call with
  | .openAt path _ _ => l.opened path label.reply.ret
  | .open64 path _ _ => l.opened path label.reply.ret
  | .close fd => if l.device = some fd then { l with device := none } else l
  | .ioctl fd request arg =>
    if l.device = some fd then l.granting o (granted request (ioctlPtr request arg) label.reply) else l
  | .mmap _ _ _ _ fd offset => l.mapped o fd (offset.signExtend 64) label.reply.ptr
  | .mmap64 _ _ _ _ fd offset => l.mapped o fd offset label.reply.ptr
  | .munmap _ _ => l

end Ledger

def ledger (o : BitVec 64) (labels : List (Label build)) : Ledger := labels.foldl (Ledger.next o) {}

theorem ledger_snoc (o : BitVec 64) (labels : List (Label build)) (last : Label build) :
    ledger o (labels ++ [last]) = (ledger o labels).next o last := List.foldl_append ..

def Call.MapsAt (fd : Int) (length : BitVec build.bits) (offset : BitVec 64) : Call build → Prop
  | .mmap _ length' _ _ fd' offset' => fd' = fd ∧ length' = length ∧ offset'.signExtend 64 = offset
  | .mmap64 _ length' _ _ fd' offset' => fd' = fd ∧ length' = length ∧ offset' = offset
  | _ => False

/-- What a call does to the mappings: nothing, it drops one, or it adds one. -/
theorem Tracker.mmaps_next (t : Tracker build.bits) (label : Label build) :
    (t.next label.call label.reply).mmaps = t.mmaps ∨
      (∃ addr, (t.next label.call label.reply).mmaps = t.mmaps.eraseP (startsAt addr)) ∨
      ∃ fd length offset, label.call.MapsAt fd length offset ∧ MmapTraced t.maliFd fd ∧
        (t.next label.call label.reply).mmaps =
          ⟨length, label.reply.ptr, t.attributed offset label.reply.ptr⟩ :: t.mmaps := by
  have opened (path : String) (reply : Reply build.bits) : (t.opened path reply).mmaps = t.mmaps := by
    unfold Tracker.opened
    split <;> rfl
  obtain ⟨call, reply⟩ := label
  cases call with
  | openAt path flags mode => exact .inl (opened path reply)
  | open64 path flags mode => exact .inl (opened path reply)
  | close fd =>
    refine .inl ?_
    simp only [Tracker.next, Tracker.closed]
    split <;> rfl
  | ioctl fd request arg =>
    refine .inl ?_
    simp only [Tracker.next, Tracker.controlled_eq]
    split
    · split <;> rfl
    · rfl
  | mmap addr length prot flags fd offset =>
    by_cases traced : MmapTraced t.maliFd fd
    · refine .inr (.inr ⟨fd, length, _, ⟨rfl, rfl, rfl⟩, traced, ?_⟩)
      simp only [Tracker.next, Tracker.mapped, if_pos traced]
    · exact .inl (congrArg Tracker.mmaps (Tracker.mapped_passed traced))
  | mmap64 addr length prot flags fd offset =>
    by_cases traced : MmapTraced t.maliFd fd
    · refine .inr (.inr ⟨fd, length, offset, ⟨rfl, rfl, rfl⟩, traced, ?_⟩)
      simp only [Tracker.next, Tracker.mapped, if_pos traced]
    · exact .inl (congrArg Tracker.mmaps (Tracker.mapped_passed traced))
  | munmap addr length => exact .inr (.inl ⟨addr, rfl⟩)

/-- No device is opened as descriptor 0, no `ioctl` is on descriptor 0, and the kernel refuses no
    tracked allocation, commit or mapping at `o`. -/
structure Label.Regular (o : BitVec 64) (t : Tracker build.bits) (label : Label build) : Prop where
  opens : ∀ fd, label.Opens fd → 0 < fd
  controls : ∀ fd request arg, label.call = .ioctl fd request arg → fd ≠ 0 ∧
    (fd = t.maliFd → ∀ entry, recordOf request (ioctlPtr request arg) label.reply.mem = some entry →
      entry.gpuVa = o → ¬ ReportsError request (ioctlPtr request arg) label.reply)
  maps : ∀ fd length, label.call.MapsAt fd length o → fd = t.maliFd → label.reply.ptr ≠ mapFailed

structure Keeps (o : BitVec 64) (l : Ledger) (t : Tracker build.bits) : Prop where
  nonneg : 0 ≤ t.maliFd
  device : ∀ fd, l.device = some fd ↔ 0 < fd ∧ t.maliFd = fd
  pending : l.pending = t.pendingFlags o

section Keeps

variable {o : BitVec 64} {l : Ledger} {t : Tracker build.bits}

theorem Keeps.ioctlTraced_iff (keeps : Keeps o l t) {fd : Int} (nonzero : fd ≠ 0) :
    IoctlTraced t.maliFd fd ↔ l.device = some fd := by
  rw [keeps.device]
  constructor
  · intro traced
    have same : fd = t.maliFd := traced.resolve_left nonzero
    exact ⟨lt_of_le_of_ne (same ▸ keeps.nonneg) nonzero.symm, same.symm⟩
  · exact fun tracked => .inr tracked.2.symm

theorem Keeps.mmapTraced_iff (keeps : Keeps o l t) (fd : Int) : MmapTraced t.maliFd fd ↔ l.device = some fd := by
  rw [keeps.device]
  constructor
  · rintro ⟨nonzero, rfl⟩
    exact ⟨lt_of_le_of_ne keeps.nonneg nonzero.symm, rfl⟩
  · rintro ⟨positive, rfl⟩
    exact ⟨positive.ne', rfl⟩

theorem Keeps.opened (keeps : Keeps o l t) (path : String) (reply : Reply build.bits)
    (positive : path = "/dev/mali0" → reply.ret ≠ -1 → 0 < reply.ret) :
    Keeps o (l.opened path reply.ret) (t.opened path reply) := by
  by_cases mali : path = "/dev/mali0" ∧ reply.ret ≠ -1
  · have answer : 0 < reply.ret := positive mali.1 mali.2
    rw [Ledger.opened, if_pos mali, Tracker.opened, if_pos mali.symm]
    refine ⟨answer.le, fun fd => ?_, keeps.pending⟩
    constructor
    · intro same
      obtain rfl : reply.ret = fd := Option.some.inj same
      exact ⟨answer, rfl⟩
    · exact fun tracked => congrArg some tracked.2
  · rw [Ledger.opened, if_neg mali, Tracker.opened, if_neg fun both => mali both.symm]
    exact keeps

theorem Keeps.closed (keeps : Keeps o l t) (fd : Int) :
    Keeps o (if l.device = some fd then { l with device := none } else l) (t.closed fd) := by
  by_cases tracked : l.device = some fd
  · obtain ⟨positive, same⟩ := (keeps.device fd).mp tracked
    rw [if_pos tracked, Tracker.closed, if_pos ⟨positive, same.symm⟩]
    refine ⟨le_rfl, fun other => ?_, keeps.pending⟩
    exact ⟨fun none => (Option.some_ne_none _ none.symm).elim, fun zero => absurd zero.2 zero.1.ne⟩
  · have other : ¬ (0 < fd ∧ fd = t.maliFd) := fun both => tracked ((keeps.device fd).mpr ⟨both.1, both.2.symm⟩)
    rw [if_neg tracked, Tracker.closed, if_neg other]
    exact keeps

theorem Keeps.granting (keeps : Keeps o l t) (entry : AllocatedMemory) :
    Keeps o (l.granting o (some entry)) (listAddAllocation entry t) := by
  have pending := t.pendingFlags_add o entry
  by_cases here : entry.gpuVa = o
  · rw [if_pos here] at pending
    rw [Ledger.granting, if_pos here]
    exact ⟨keeps.nonneg, keeps.device, by rw [pending, keeps.pending]⟩
  · rw [if_neg here] at pending
    rw [Ledger.granting, if_neg here]
    exact ⟨keeps.nonneg, keeps.device, by rw [pending, keeps.pending]⟩

theorem Keeps.controlled (keeps : Keeps o l t) {fd : Int} (nonzero : fd ≠ 0) {request ptr : BitVec build.bits}
    {reply : Reply build.bits} (accepted : fd = t.maliFd → ∀ entry, recordOf request ptr reply.mem = some entry →
      entry.gpuVa = o → ¬ ReportsError request ptr reply) :
    Keeps o (if l.device = some fd then l.granting o (granted request ptr reply) else l)
      (t.controlled fd request ptr reply) := by
  have traced := keeps.ioctlTraced_iff nonzero
  rw [Tracker.controlled_eq]
  by_cases tracked : l.device = some fd
  · have same : fd = t.maliFd := ((keeps.device fd).mp tracked).2.symm
    rw [if_pos tracked]
    by_cases null : ptr = 0#(build.bits)
    · rw [granted, if_pos (.inl null), if_neg fun both => both.2 null]
      exact keeps
    · rw [if_pos ⟨traced.mpr tracked, null⟩]
      cases record : recordOf request ptr reply.mem with
      | none =>
        have nothing : granted request ptr reply = none := by
          rw [granted, record, ite_self]
        rw [nothing]
        exact keeps
      | some entry =>
        by_cases refused : ReportsError request ptr reply
        · -- A refused call names another address, so its record is not one of these.
          have elsewhere : entry.gpuVa ≠ o := fun here => accepted same entry record here refused
          have pending := t.pendingFlags_add o entry
          rw [if_neg elsewhere] at pending
          rw [granted, if_pos (.inr refused)]
          exact ⟨keeps.nonneg, keeps.device, by rw [pending]; exact keeps.pending⟩
        · rw [granted, if_neg fun either => either.elim null refused, record]
          exact keeps.granting entry
  · rw [if_neg tracked, if_neg fun both => tracked (traced.mp both.1)]
    exact keeps

theorem Keeps.mapped (keeps : Keeps o l t) (length : BitVec build.bits) (fd : Int) (offset : BitVec 64)
    (reply : Reply build.bits) (succeeded : offset = o → fd = t.maliFd → reply.ptr ≠ mapFailed) :
    Keeps o (l.mapped o fd offset reply.ptr) (t.mapped length fd offset reply) := by
  by_cases tracked : l.device = some fd
  · have traced := (keeps.mmapTraced_iff fd).mpr tracked
    have pending := t.pendingFlags_mapped length offset o reply traced
    have nonneg : 0 ≤ (t.mapped length fd offset reply).maliFd := by rw [Tracker.maliFd_mapped]; exact keeps.nonneg
    have device : ∀ fd', l.device = some fd' ↔ 0 < fd' ∧ (t.mapped length fd offset reply).maliFd = fd' := by
      rw [Tracker.maliFd_mapped]
      exact keeps.device
    by_cases here : offset = o
    · rw [if_pos here] at pending
      rw [Ledger.mapped, if_pos ⟨tracked, here, succeeded here traced.2⟩]
      exact ⟨nonneg, device, by rw [pending, keeps.pending]⟩
    · rw [if_neg here] at pending
      rw [Ledger.mapped, if_neg fun both => here both.2.1]
      exact ⟨nonneg, device, by rw [pending, keeps.pending]⟩
  · rw [Ledger.mapped, if_neg fun both => tracked both.1,
      Tracker.mapped_passed fun traced => tracked ((keeps.mmapTraced_iff fd).mp traced)]
    exact keeps

theorem Keeps.next (keeps : Keeps o l t) {label : Label build} (regular : label.Regular o t) :
    Keeps o (l.next o label) (t.next label.call label.reply) := by
  obtain ⟨call, reply⟩ := label
  cases call with
  | openAt path flags mode => exact keeps.opened path reply fun mali ok => regular.opens _ ⟨mali, ok, rfl⟩
  | open64 path flags mode => exact keeps.opened path reply fun mali ok => regular.opens _ ⟨mali, ok, rfl⟩
  | close fd => exact keeps.closed fd
  | ioctl fd request arg =>
    obtain ⟨nonzero, accepted⟩ := regular.controls fd request arg rfl
    exact keeps.controlled nonzero accepted
  | mmap addr length prot flags fd offset =>
    exact keeps.mapped length fd _ reply fun here => regular.maps fd length ⟨rfl, rfl, here⟩
  | mmap64 addr length prot flags fd offset =>
    exact keeps.mapped length fd offset reply fun here => regular.maps fd length ⟨rfl, rfl, here⟩
  | munmap addr length => exact ⟨keeps.nonneg, keeps.device, keeps.pending⟩

theorem keeps_start (proc : Proc build.bits) : Keeps o {} (start proc).tracker :=
  ⟨le_rfl, fun _ => ⟨fun none => (Option.some_ne_none _ none.symm).elim, fun zero => absurd zero.2 zero.1.ne⟩, rfl⟩

def RegularStep (cfg : Config) (o : BitVec 64) (σ : Sys build.bits) (label : Label build) (σ' : Sys build.bits) : Prop :=
  Step cfg σ label σ' ∧ label.Regular o σ.tracker

theorem run_keeps {cfg : Config} {proc : Proc build.bits} {labels : List (Label build)} {σ : Sys build.bits}
    (run : Run (RegularStep cfg o) (start proc) labels σ) : Keeps o (ledger o labels) σ.tracker := by
  apply run.history
  · intro past s t label step keeps
    rw [ledger_snoc, step.1.tracker]
    exact keeps.next step.2
  · exact keeps_start proc

end Keeps

theorem Keeps.recorded {cfg : Config} {o : BitVec 64} {l : Ledger} {σ σ' : Sys build.bits} {label : Label build}
    (keeps : Keeps o l σ.tracker) (step : Step cfg σ label σ') {fd : Int} {length : BitVec build.bits}
    (maps : label.call.MapsAt fd length o) (tracked : l.device = some fd) :
    σ'.tracker.mmaps = ⟨length, label.reply.ptr, attribution o label.reply.ptr l.pending⟩ :: σ.tracker.mmaps := by
  have traced := (keeps.mmapTraced_iff fd).mpr tracked
  have recorded : (σ.tracker.mapped length fd o label.reply).mmaps =
      ⟨length, label.reply.ptr, attribution o label.reply.ptr l.pending⟩ :: σ.tracker.mmaps := by
    rw [Tracker.mapped, if_pos traced, keeps.pending, ← Tracker.attributed_eq]
  rw [step.tracker]
  obtain ⟨call, reply⟩ := label
  cases call with
  | mmap addr length' prot flags fd' offset =>
    obtain ⟨rfl, rfl, rfl⟩ := maps
    exact recorded
  | mmap64 addr length' prot flags fd' offset =>
    obtain ⟨rfl, rfl, rfl⟩ := maps
    exact recorded
  | _ => exact maps.elim

/-- A mapping of the open device at `o` gets its GPU address from the newest record at `o`. -/
theorem mmap_attributed {cfg : Config} {proc : Proc build.bits} {labels : List (Label build)} {σ σ' : Sys build.bits}
    {o : BitVec 64} (run : Run (RegularStep cfg o) (start proc) labels σ) {label : Label build}
    (step : Step cfg σ label σ') {fd : Int} {length : BitVec build.bits} (maps : label.call.MapsAt fd length o)
    (tracked : (ledger o labels).device = some fd) :
    σ'.tracker.mmaps =
      ⟨length, label.reply.ptr, attribution o label.reply.ptr (ledger o labels).pending⟩ :: σ.tracker.mmaps :=
  (run_keeps run).recorded step maps tracked

end Ledgers

section Allocating

variable {w : Nat} (cfg : Config) {σ : Sys w}

theorem returns_preAllocating (env : Env w) (fuel : Nat) {request ptr : BitVec w} (nonnull : ptr ≠ 0#w)
    (allocates : Allocates request) (proc : Proc w) : Returns (ioctlDecodePre env fuel request ptr) proc := by
  obtain ⟨_, alloc, -⟩ := traces_deref (s := proc) nonnull fun m => MaliIoctlMemAlloc.load m ptr
  obtain ⟨_, commit, -⟩ := traces_deref (s := proc) nonnull fun m => MaliIoctlMemCommit.load m ptr
  rcases allocates with same | same
  · rw [ioctlDecodePre, if_pos same]
    exact (returns_after alloc).mpr ((total_put.bind fun _ => total_put.bind fun _ => total_put.bind fun _ =>
      total_put.bind fun _ => total_put.bind fun _ => total_put) proc)
  · have notAlloc : ioctlCase w request ≠ ioctlCase w maliIoctlMemAlloc := by
      rw [same, Ne, ioctlCase_eq_iff]
      decide
    have notImport : ioctlCase w request ≠ ioctlCase w maliIoctlMemImport := by
      rw [same, Ne, ioctlCase_eq_iff]
      decide
    rw [ioctlDecodePre, if_neg notAlloc, if_neg notImport, if_pos same]
    exact (returns_after commit).mpr ((total_put.bind fun _ => total_put) proc)

theorem returns_postAllocating {request ptr : BitVec w} (nonnull : ptr ≠ 0#w) (allocates : Allocates request) :
    Returns (ioctlDecodePost cfg ptr request) σ := by
  rw [ioctlDecodePost]
  by_cases alloc : ioctlCase w request = ioctlCase w maliIoctlMemAlloc
  · rw [if_pos alloc, ioctlDecodePostMemAlloc, returns_deref_bind nonnull]
    exact (total_put.bind fun _ => total_put.bind fun _ => total_put.bind fun _ => total_modify.bind fun _ =>
      total_put) σ
  · rw [if_neg alloc, if_pos (allocates.resolve_left alloc), ioctlDecodePostMemCommit, returns_deref_bind nonnull]
    exact (total_put.bind fun _ => total_modify) σ

theorem decodable_of_allocates {build : Build} (libc : Libc build.bits) (σ : Sys build.bits) (fd : Int)
    {request : BitVec build.bits} (arg : BitVec build.bits) (allocates : Allocates request) :
    (Call.ioctl fd request arg).Decodable cfg libc σ := by
  intro _ nonnull
  obtain ⟨out, _, proc, runs⟩ := returns_preAllocating (cfg.env σ.tracker.mmaps) 0 nonnull allocates σ.proc
  exact ⟨0, out, proc, runs, returns_postAllocating cfg nonnull allocates⟩

end Allocating

section Shadowed

def granting : Memory 64 := fun a =>
  if a = 0x1021#64 then 0x20#8
  else if a = 0x1029#64 ∨ a = 0x2009#64 then 0x10#8
  else if a = 0x102a#64 ∨ a = 0x200a#64 then 0x04#8
  else 0#8

def allocating : Label .lp64 := ⟨.ioctl 3 (maliIoctlMemAlloc.setWidth 64) 0x1000#64, ⟨0, 0, granting⟩⟩

def committing : Label .lp64 := ⟨.ioctl 3 (maliIoctlMemCommit.setWidth 64) 0x2000#64, ⟨0, 0, granting⟩⟩

def mapping : Label .lp64 := ⟨.mmap64 0 0x1000#64 3#32 1#32 3 0x41000#64, ⟨0, 0x7f0000#64, granting⟩⟩

theorem step_allocating (σ : Sys Build.lp64.bits) : ∃ σ', Step x86 σ allocating σ' :=
  step_of_decodable x86 allocating σ (decodable_of_allocates x86 _ σ 3 _ (by decide))

theorem step_committing (σ : Sys Build.lp64.bits) : ∃ σ', Step x86 σ committing σ' :=
  step_of_decodable x86 committing σ (decodable_of_allocates x86 _ σ 3 _ (by decide))

theorem step_mapping (σ : Sys Build.lp64.bits) : ∃ σ', Step x86 σ mapping σ' :=
  step_of_decodable x86 mapping σ trivial

theorem regular_opening (o : BitVec 64) (t : Tracker Build.lp64.bits) : (opening "/dev/mali0" 3).Regular o t where
  opens := by
    rintro fd ⟨-, -, rfl⟩
    decide
  controls := by
    intro fd request arg called
    cases called
  maps := by
    rintro fd length ⟨⟩

theorem regular_granted (o : BitVec 64) (t : Tracker Build.lp64.bits) {request arg : BitVec Build.lp64.bits}
    (accepted : ¬ ReportsError request (ioctlPtr request arg) ⟨0, 0, granting⟩) :
    Label.Regular o t (⟨.ioctl 3 request arg, ⟨0, 0, granting⟩⟩ : Label .lp64) where
  opens := by
    rintro fd ⟨⟩
  controls := by
    intro fd request arg called
    cases called
    exact ⟨by decide, fun _ _ _ _ => accepted⟩
  maps := by
    rintro fd length ⟨⟩

theorem mapping_attributed :
    ∃ σ σ' : Sys Build.lp64.bits, Run (RegularStep x86 0x41000#64) (start ⟨fun _ => 0#8, 0⟩)
        [opening "/dev/mali0" 3, allocating] σ ∧
      Step x86 σ mapping σ' ∧ σ'.tracker.mmaps = ⟨0x1000#64, 0x7f0000#64, 0x7f0000#64⟩ :: σ.tracker.mmaps := by
  obtain ⟨σ₁, opened⟩ := step_opening "/dev/mali0" 3 (start ⟨fun _ => 0#8, 0⟩)
  obtain ⟨σ₂, allocated⟩ := step_allocating σ₁
  obtain ⟨σ', mapped⟩ := step_mapping σ₂
  have run : Run (RegularStep x86 0x41000#64) (start ⟨fun _ => 0#8, 0⟩) [opening "/dev/mali0" 3, allocating] σ₂ :=
    .cons ⟨opened, regular_opening _ _⟩ (.single ⟨allocated, regular_granted _ _ (by decide)⟩)
  exact ⟨σ₂, σ', run, mapped, mmap_attributed run mapped ⟨rfl, rfl, rfl⟩ (by decide)⟩

/-- The commit of an allocation hides that it is at the same address on both sides. -/
theorem commit_shadows_allocation :
    ∃ σ σ' : Sys Build.lp64.bits, Run (RegularStep x86 0x41000#64) (start ⟨fun _ => 0#8, 0⟩)
        [opening "/dev/mali0" 3, allocating, committing] σ ∧
      granted (maliIoctlMemAlloc.setWidth 64) 0x1000#64 allocating.reply = some ⟨0x41000#64, true⟩ ∧
      Step x86 σ mapping σ' ∧ σ'.tracker.mmaps = ⟨0x1000#64, 0x7f0000#64, 0x41000#64⟩ :: σ.tracker.mmaps := by
  obtain ⟨σ₁, opened⟩ := step_opening "/dev/mali0" 3 (start ⟨fun _ => 0#8, 0⟩)
  obtain ⟨σ₂, allocated⟩ := step_allocating σ₁
  obtain ⟨σ₃, committed⟩ := step_committing σ₂
  obtain ⟨σ', mapped⟩ := step_mapping σ₃
  have run : Run (RegularStep x86 0x41000#64) (start ⟨fun _ => 0#8, 0⟩)
      [opening "/dev/mali0" 3, allocating, committing] σ₃ :=
    .cons ⟨opened, regular_opening _ _⟩ (.cons ⟨allocated, regular_granted _ _ (by decide)⟩
      (.single ⟨committed, regular_granted _ _ (by decide)⟩))
  exact ⟨σ₃, σ', run, by decide, mapped, (run_keeps run).recorded mapped ⟨rfl, rfl, rfl⟩ (by decide)⟩

end Shadowed

end Panwrap
