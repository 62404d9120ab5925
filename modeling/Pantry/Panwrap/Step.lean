import Pantry.Panwrap.Wrappers
import Pantry.Machine.Transition

namespace Panwrap

open Machine Decoder Program

variable {w : Nat}

section Next

variable (t : Tracker w)

def Tracker.opened (path : String) (reply : Reply w) : Tracker w :=
  if reply.ret ≠ -1 ∧ path = "/dev/mali0" then { t with maliFd := reply.ret } else t

def Tracker.closed (fd : Int) : Tracker w :=
  if 0 < fd ∧ fd = t.maliFd then { t with maliFd := 0 } else t

def Tracker.controlled (fd : Int) (request ptr : BitVec w) (reply : Reply w) : Tracker w :=
  if IoctlTraced t.maliFd fd ∧ ptr ≠ 0#w then
    if ioctlCase w request = ioctlCase w maliIoctlMemAlloc then
      listAddAllocation (MaliIoctlMemAlloc.load reply.mem ptr).allocated t
    else if ioctlCase w request = ioctlCase w maliIoctlMemCommit then
      listAddAllocation (MaliIoctlMemCommit.load reply.mem ptr).allocated t
    else t
  else t

def Tracker.attributed (offset : BitVec 64) (ret : BitVec w) : BitVec 64 :=
  match t.allocations.find? (pendingAt offset) with
  | some pos => if pos.sameVa then ret.setWidth 64 else offset
  | none => 0#64

def Tracker.mapped (length : BitVec w) (fd : Int) (offset : BitVec 64) (reply : Reply w) : Tracker w :=
  if MmapTraced t.maliFd fd then
    { t with
      allocations := t.allocations.eraseP (pendingAt offset)
      mmaps := ⟨length, reply.ptr, t.attributed offset reply.ptr⟩ :: t.mmaps }
  else t

def Tracker.unmapped (addr : BitVec w) : Tracker w := { t with mmaps := t.mmaps.eraseP (startsAt addr) }

end Next

section NextCases

variable {t : Tracker w} {fd : Int} {request ptr length addr : BitVec w} {offset : BitVec 64} {reply : Reply w}

theorem Tracker.controlled_passed (passed : ¬ (IoctlTraced t.maliFd fd ∧ ptr ≠ 0#w)) :
    t.controlled fd request ptr reply = t := if_neg passed

theorem Tracker.mapped_passed (passed : ¬ MmapTraced t.maliFd fd) : t.mapped length fd offset reply = t :=
  if_neg passed

theorem Tracker.mapped_found (traced : MmapTraced t.maliFd fd) {pos : AllocatedMemory}
    (found : t.allocations.find? (pendingAt offset) = some pos) :
    t.mapped length fd offset reply =
      { t with
        allocations := t.allocations.eraseP (pendingAt offset)
        mmaps := ⟨length, reply.ptr, if pos.sameVa then reply.ptr.setWidth 64 else offset⟩ :: t.mmaps } := by
  simp only [Tracker.mapped, Tracker.attributed, if_pos traced, found]

theorem Tracker.mapped_missing (traced : MmapTraced t.maliFd fd)
    (missing : t.allocations.find? (pendingAt offset) = none) :
    t.mapped length fd offset reply = { t with mmaps := ⟨length, reply.ptr, 0#64⟩ :: t.mmaps } := by
  have kept : t.allocations.eraseP (pendingAt offset) = t.allocations :=
    List.eraseP_of_forall_not fun a member => List.find?_eq_none.mp missing a member
  simp only [Tracker.mapped, Tracker.attributed, if_pos traced, missing, kept]

theorem Tracker.unmapped_missing (missing : findMappedMem t.mmaps addr = none) : t.unmapped addr = t := by
  have kept : t.mmaps.eraseP (startsAt addr) = t.mmaps :=
    List.eraseP_of_forall_not fun a member => List.find?_eq_none.mp missing a member
  rw [Tracker.unmapped, kept]

end NextCases

/-- What a call that libc answers with `reply` does to the tracker. -/
def Tracker.next {build : Build} (t : Tracker build.bits) : Call build → Reply build.bits → Tracker build.bits
  | .openAt path _ _, reply => t.opened path reply
  | .open64 path _ _, reply => t.opened path reply
  | .close fd, _ => t.closed fd
  | .ioctl fd request arg, reply => t.controlled fd request (ioctlPtr request arg) reply
  | .mmap _ length _ _ fd offset, reply => t.mapped length fd (offset.signExtend 64) reply
  | .mmap64 _ length _ _ fd offset, reply => t.mapped length fd offset reply
  | .munmap addr _, _ => t.unmapped addr

def Event.libcCall : Event w → Option (LibcCall w × Reply w)
  | .call made answer => some (made, answer)
  | _ => none

def calls (out : List (Event w)) : List (LibcCall w × Reply w) := out.filterMap Event.libcCall

@[simp] theorem calls_nil : calls ([] : List (Event w)) = [] := rfl

@[simp] theorem calls_append (first second : List (Event w)) : calls (first ++ second) = calls first ++ calls second :=
  List.filterMap_append ..

@[simp] theorem calls_call (made : LibcCall w) (answer : Reply w) (rest : List (Event w)) :
    calls (.call made answer :: rest) = (made, answer) :: calls rest := rfl

@[simp] theorem calls_out (item : Out) (rest : List (Event w)) : calls (.out item :: rest) = calls rest := rfl

@[simp] theorem calls_freeze (rest : List (Event w)) : calls (.freeze :: rest) = calls rest := rfl

@[simp] theorem calls_unfreeze (rest : List (Event w)) : calls (.unfreeze :: rest) = calls rest := rfl

@[simp] theorem calls_map_out (items : List Out) : calls (items.map (Event.out (w := w))) = [] := by
  induction items with
  | nil => rfl
  | cons item rest ih => rw [List.map_cons, calls_out, ih]

section Effects

variable {α : Type} {cfg : Config} {libc : Libc w} {σ : Sys w}

@[simp] theorem after_orig {made : LibcCall w} {Q : List (Event w) → Reply w → Sys w → Prop} :
    After (orig libc made) σ Q ↔ Q [.call made (libc made σ.proc.mem)] (libc made σ.proc.mem)
      { σ with proc := { σ.proc with mem := (libc made σ.proc.mem).mem } } := by
  constructor
  · exact fun after => after _ _ _ rfl
  · intro holds out reply σ' runs
    simp only [Runs, orig, Result.mk.injEq, Ending.done.injEq] at runs
    obtain ⟨rfl, rfl, rfl⟩ := runs
    exact holds

@[simp] theorem after_say {format : String} {args : List Arg} {Q : List (Event w) → Unit → Sys w → Prop} :
    After (say format args) σ Q ↔ Q [.out (.log format args)] () σ := after_put

@[simp] theorem after_freeze {Q : List (Event w) → Unit → Sys w → Prop} :
    After panwrapFreezeTime σ Q ↔ Q [.freeze] () σ := after_put

@[simp] theorem after_unfreeze {Q : List (Event w) → Unit → Sys w → Prop} :
    After panwrapUnfreezeTime σ Q ↔ Q [.unfreeze] () σ := after_put

@[simp] theorem after_onTracker {f : Tracker w → Tracker w} {Q : List (Event w) → Unit → Sys w → Prop} :
    After (onTracker f) σ Q ↔ Q [] () { σ with tracker := f σ.tracker } := after_modify

theorem after_decode {p : Env w → Decode w α} {Q : List (Event w) → α → Sys w → Prop} :
    After (decode cfg p) σ Q ↔ After (p (cfg.env σ.tracker.mmaps)) σ.proc fun out a proc =>
      Q (out.map .out) a { σ with proc := proc } := after_embed

theorem after_decode_of {p : Env w → Decode w α} {Q : List (Event w) → α → Sys w → Prop}
    (holds : ∀ out a proc, calls out = [] → Q out a { σ with proc := proc }) : After (decode cfg p) σ Q :=
  after_decode.mpr fun _ a proc _ => holds _ a proc (calls_map_out _)

@[simp] theorem after_decode_deref {ptr : BitVec w} {f : Memory w → α} {Q : List (Event w) → α → Sys w → Prop} :
    After (decode cfg fun _ => deref ptr f) σ Q ↔ (ptr ≠ 0#w → Q [] (f σ.proc.mem) σ) := by
  rw [after_decode]
  constructor
  · intro after nonnull
    obtain ⟨out, runs, -⟩ := traces_deref (s := σ.proc) nonnull f
    have empty : out = [] := by
      simp only [Runs, deref, nonnull, ↓reduceIte, Result.mk.injEq] at runs
      exact runs.1.symm
    simpa only [empty, List.map_nil] using after _ _ _ runs
  · intro holds out a proc runs
    by_cases null : ptr = 0#w
    · simp [Runs, deref, null] at runs
    · simp only [Runs, deref, null, ↓reduceIte, Result.mk.injEq, Ending.done.injEq] at runs
      obtain ⟨rfl, rfl, rfl⟩ := runs
      exact holds null

/-- One libc function was called, `made`; its answer gives the value returned and the new tracker. -/
def OneCall (libc : Libc w) (made : LibcCall w) (value : Reply w → α) (next : Reply w → Tracker w)
    (out : List (Event w)) (v : α) (σ' : Sys w) : Prop :=
  ∃ mem, calls out = [(made, libc made mem)] ∧ v = value (libc made mem) ∧ σ'.tracker = next (libc made mem)

theorem after_panwrapOpenWrap (origOpen : String → BitVec 32 → Option (BitVec 32) → LibcCall w) (path : String)
    (flags mode : BitVec 32) :
    After (panwrapOpenWrap libc origOpen path flags mode) σ
      (OneCall libc (origOpen path flags (if flags &&& oCreat ≠ 0#32 then some mode else none)) Reply.ret
        (σ.tracker.opened path)) := by
  simp only [panwrapOpenWrap, after_bind, after_orig, after_whenever, after_pure]
  refine ⟨fun succeeded => ?_, fun failed => ?_⟩
  · split
    · rename_i mali
      simp only [after_bind, after_say, after_onTracker]
      exact ⟨_, rfl, rfl, (if_pos ⟨succeeded, mali⟩).symm⟩
    · rename_i other
      simp only [after_whenever, after_say]
      exact ⟨fun _ => ⟨_, rfl, rfl, (if_neg fun both => other both.2).symm⟩,
        fun _ => ⟨_, rfl, rfl, (if_neg fun both => other both.2).symm⟩⟩
  · exact ⟨_, rfl, rfl, (if_neg fun both => failed both.1).symm⟩

theorem after_close (fd : Int) :
    After (close libc fd) σ (OneCall libc (.close fd) Reply.ret fun _ => σ.tracker.closed fd) := by
  simp only [close, after_bind, after_get, after_whenever, after_say, after_onTracker, after_orig, after_pure]
  refine ⟨fun tracked => ?_, fun other => ?_⟩
  · exact ⟨_, rfl, rfl, (if_pos tracked).symm⟩
  · exact ⟨_, rfl, rfl, (if_neg other).symm⟩

theorem after_ioctlDecodePost (request : BitVec w) {ptr : BitVec w} (nonnull : ptr ≠ 0#w) (fd : Int)
    (traced : IoctlTraced σ.tracker.maliFd fd) (reply : Reply w) (mem : reply.mem = σ.proc.mem) :
    After (ioctlDecodePost cfg ptr request) σ fun out _ σ' =>
      calls out = [] ∧ σ'.tracker = σ.tracker.controlled fd request ptr reply := by
  have decoded : IoctlTraced σ.tracker.maliFd fd ∧ ptr ≠ 0#w := ⟨traced, nonnull⟩
  simp only [ioctlDecodePost, Tracker.controlled, if_pos decoded, mem]
  by_cases alloc : ioctlCase w request = ioctlCase w maliIoctlMemAlloc
  · simp only [if_pos alloc, ioctlDecodePostMemAlloc, after_bind, after_decode_deref, after_say, after_onTracker,
      after_put]
    exact fun _ => ⟨rfl, trivial⟩
  · by_cases commit : ioctlCase w request = ioctlCase w maliIoctlMemCommit
    · simp only [if_neg alloc, if_pos commit, ioctlDecodePostMemCommit, after_bind, after_decode_deref, after_say,
        after_onTracker]
      exact fun _ => ⟨rfl, trivial⟩
    · simp only [if_neg alloc, if_neg commit]
      exact after_decode_of fun out _ proc silent => ⟨silent, rfl⟩

theorem after_ioctl (fuel : Nat) (fd : Int) (request arg : BitVec w) :
    After (ioctl cfg libc fuel fd request arg) σ
      (OneCall libc (.ioctl fd request (ioctlPtr request arg)) Reply.ret
        (σ.tracker.controlled fd request (ioctlPtr request arg))) := by
  simp only [ioctl, after_bind, after_get]
  by_cases traced : IoctlTraced σ.tracker.maliFd fd
  · rw [if_neg (not_not.mpr traced)]
    simp only [after_bind, after_freeze]
    by_cases null : ioctlPtr request arg = 0#w
    · rw [if_pos null]
      simp only [after_bind, after_say, after_unfreeze, after_orig, after_freeze, after_pure]
      exact ⟨_, rfl, rfl, (Tracker.controlled_passed fun both => both.2 null).symm⟩
    · rw [if_neg null]
      simp only [after_bind, after_decode_deref, after_say]
      intro _
      apply after_decode_of
      intro pre _ proc silent
      simp only [after_unfreeze, after_orig, after_freeze]
      intro _
      refine (after_ioctlDecodePost request null fd (by exact traced) _ (by rfl)).mono ?_
      intro post _ σ' effect
      obtain ⟨quiet, tracker⟩ := effect
      rw [after_pure]
      refine ⟨_, ?_, rfl, tracker⟩
      simp [silent, quiet]
  · rw [if_pos traced]
    simp only [after_bind, after_orig, after_pure]
    exact ⟨_, rfl, rfl, (Tracker.controlled_passed fun both => traced both.1).symm⟩

theorem after_panwrapMmapWrap
    (func : BitVec w → BitVec w → BitVec 32 → BitVec 32 → Int → BitVec 64 → LibcCall w)
    (addr length : BitVec w) (prot flags : BitVec 32) (fd : Int) (offset : BitVec 64) :
    After (panwrapMmapWrap cfg libc func addr length prot flags fd offset) σ
      (OneCall libc (func addr length prot flags fd offset) Reply.ptr (σ.tracker.mapped length fd offset)) := by
  simp only [panwrapMmapWrap, after_bind, after_get]
  by_cases traced : MmapTraced σ.tracker.maliFd fd
  · rw [if_neg (not_not.mpr traced)]
    simp only [after_bind, after_orig, after_freeze]
    cases search : σ.tracker.allocations.find? (pendingAt offset) with
    | some pos =>
      simp only [after_bind, after_onTracker, after_say, after_unfreeze, after_pure]
      exact ⟨_, rfl, rfl, (Tracker.mapped_found traced search).symm⟩
    | none =>
      simp only [after_bind, after_say]
      apply after_decode_of
      intro out₁ _ proc₁ silent₁
      apply after_decode_of
      intro out₂ _ proc₂ silent₂
      apply after_decode_of
      intro out₃ _ proc₃ silent₃
      apply after_decode_of
      intro out₄ _ proc₄ silent₄
      simp only [after_onTracker, after_unfreeze, after_pure]
      refine ⟨_, ?_, rfl, (Tracker.mapped_missing traced search).symm⟩
      simp [silent₁, silent₂, silent₃, silent₄]
  · rw [if_pos traced]
    simp only [after_bind, after_orig, after_pure]
    exact ⟨_, rfl, rfl, (Tracker.mapped_passed traced).symm⟩

theorem after_munmap (addr length : BitVec w) :
    After (munmap libc addr length) σ
      (OneCall libc (.munmap addr length) Reply.ret fun _ => σ.tracker.unmapped addr) := by
  simp only [munmap, after_bind, after_orig, after_freeze, after_get]
  cases search : findMappedMem σ.tracker.mmaps addr with
  | none =>
    simp only [after_bind, after_pure, after_unfreeze]
    exact ⟨_, rfl, rfl, (Tracker.unmapped_missing search).symm⟩
  | some mem =>
    by_cases known : mem.gpuVa ≠ 0#64
    · simp only [if_pos known, after_bind, after_say, after_onTracker, after_unfreeze, after_pure]
      exact ⟨_, rfl, rfl, rfl⟩
    · simp only [if_neg known, after_bind, after_say, after_onTracker, after_unfreeze, after_pure]
      exact ⟨_, rfl, rfl, rfl⟩

end Effects

variable {build : Build}

def Call.made : Call build → LibcCall build.bits
  | .openAt path flags mode => .openAt path flags (if flags &&& oCreat ≠ 0#32 then some mode else none)
  | .open64 path flags mode => .open64 path flags (if flags &&& oCreat ≠ 0#32 then some mode else none)
  | .close fd => .close fd
  | .ioctl fd request arg => .ioctl fd request (ioctlPtr request arg)
  | .mmap addr length prot flags fd offset => mmapFunction build addr length prot flags fd (offset.signExtend 64)
  | .mmap64 addr length prot flags fd offset => .mmap64 addr length prot flags fd offset
  | .munmap addr length => .munmap addr length

def Call.value (call : Call build) (reply : Reply build.bits) : Value build.bits :=
  match call with
  | .mmap .. => .ptr reply.ptr
  | .mmap64 .. => .ptr reply.ptr
  | _ => .int reply.ret

/-- Every wrapper calls libc once and returns its answer, and the tracker follows `Tracker.next`. -/
theorem after_wrapper (cfg : Config) (libc : Libc build.bits) (fuel : Nat) (call : Call build)
    (σ : Sys build.bits) :
    After (wrapper cfg libc fuel call) σ (OneCall libc call.made call.value (σ.tracker.next call)) := by
  cases call <;> simp only [wrapper, after_bind, after_pure, List.append_nil]
  case openAt path flags mode =>
    refine (after_panwrapOpenWrap .openAt path flags mode).mono ?_
    rintro out _ σ' ⟨mem, called, rfl, tracker⟩
    exact ⟨mem, called, rfl, tracker⟩
  case open64 path flags mode =>
    refine (after_panwrapOpenWrap .open64 path flags mode).mono ?_
    rintro out _ σ' ⟨mem, called, rfl, tracker⟩
    exact ⟨mem, called, rfl, tracker⟩
  case close fd =>
    refine (after_close fd).mono ?_
    rintro out _ σ' ⟨mem, called, rfl, tracker⟩
    exact ⟨mem, called, rfl, tracker⟩
  case ioctl fd request arg =>
    refine (after_ioctl fuel fd request arg).mono ?_
    rintro out _ σ' ⟨mem, called, rfl, tracker⟩
    exact ⟨mem, called, rfl, tracker⟩
  case mmap addr length prot flags fd offset =>
    refine (after_panwrapMmapWrap _ addr length prot flags fd _).mono ?_
    rintro out _ σ' ⟨mem, called, rfl, tracker⟩
    exact ⟨mem, called, rfl, tracker⟩
  case mmap64 addr length prot flags fd offset =>
    refine (after_panwrapMmapWrap _ addr length prot flags fd offset).mono ?_
    rintro out _ σ' ⟨mem, called, rfl, tracker⟩
    exact ⟨mem, called, rfl, tracker⟩
  case munmap addr length =>
    refine (after_munmap addr length).mono ?_
    rintro out _ σ' ⟨mem, called, rfl, tracker⟩
    exact ⟨mem, called, rfl, tracker⟩

/-- A call of the traced program and libc's answer to the one call its wrapper makes. -/
structure Label (build : Build) where
  call : Call build
  reply : Reply build.bits

def Step (cfg : Config) (σ : Sys build.bits) (label : Label build) (σ' : Sys build.bits) : Prop :=
  ∃ fuel out v, Runs (wrapper cfg (fun _ _ => label.reply) fuel label.call) σ out v σ'

theorem Step.tracker {cfg : Config} {σ σ' : Sys build.bits} {label : Label build} (step : Step cfg σ label σ') :
    σ'.tracker = σ.tracker.next label.call label.reply := by
  obtain ⟨fuel, out, v, runs⟩ := step
  obtain ⟨_, -, -, tracker⟩ := after_wrapper cfg (fun _ _ => label.reply) fuel label.call σ out v σ' runs
  exact tracker

/-- A run ends with the tracker that following `Tracker.next` over its labels gives. -/
theorem run_tracker {cfg : Config} {σ σ' : Sys build.bits} {labels : List (Label build)}
    (run : Run (Step cfg) σ labels σ') :
    σ'.tracker = labels.foldl (fun t label => t.next label.call label.reply) σ.tracker :=
  run.simulates fun step => step.tracker

end Panwrap
