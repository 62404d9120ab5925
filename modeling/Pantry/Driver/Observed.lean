import Pantry.Driver.Account
import Pantry.Panwrap.Bounds
import Pantry.Panwrap.Descriptors
import Pantry.Panwrap.Ends

/-! The driver as the wrappers meet it. -/

namespace Driver

open Machine Panwrap Decoder Program Bookkeeper

def protRead : BitVec 32 := 1#32
def protWrite : BitVec 32 := 2#32
def protNone : BitVec 32 := 0#32
def mapShared : BitVec 32 := 1#32

def SessionEvent.quiet : SessionEvent → Bool
  | .driver (.print ..) => true
  | .driver (.submitted ..) => true
  | _ => false

def SessionEvent.request : SessionEvent → Option (BitVec 32 × BitVec 32)
  | .driver (.jobSubmit fd _) => some (fd, maliIoctlJobSubmit)
  | .getVersion fd _ _ => some (fd, maliIoctlGetVersion)
  | .setFlags fd _ => some (fd, maliIoctlSetFlags)
  | .gpuPropsRegDump fd => some (fd, maliIoctlGpuPropsRegDump)
  | .streamCreate fd _ => some (fd, maliIoctlStreamCreate)
  | .memFree fd _ => some (fd, maliIoctlMemFree)
  | .sync fd _ _ _ _ => some (fd, maliIoctlSync)
  | _ => none

/-- The call of a wrapper, and libc's answer, that the driver's n-th call is. The kernel leaves the GPU address in the
    argument of `MEM_ALLOC` and keeps the flag `SAME_VA` there. -/
inductive SeenAs (device : Device) (n : Nat) : SessionEvent → Label .ilp32 → Prop where
  | openAt {path : String} {flags mode : BitVec 32} {reply : Reply 32} (answer : reply.ret = (device.openAt n).toInt) :
    SeenAs device n (.openAt path flags) ⟨.openAt path flags mode, reply⟩
  | memAlloc {fd arg : BitVec 32} {vaPages commitPages extent flags : BitVec 64} {reply : Reply 32} (passed : arg ≠ 0#32)
      (answer : (MaliIoctlMemAlloc.load reply.mem arg).gpuVa = (device.memAlloc n).getD 0#64)
      (kept : (MaliIoctlMemAlloc.load reply.mem arg).flags &&& Panwrap.maliMemSameVa = flags &&& Panwrap.maliMemSameVa) :
    SeenAs device n (.driver (.memAlloc fd vaPages commitPages extent flags)) ⟨.ioctl fd.toInt maliIoctlMemAlloc arg, reply⟩
  | mmap64 {fd length : BitVec 32} {offset : BitVec 64} {reply : Reply 32} (answer : reply.ptr = device.mmap64 n) :
    SeenAs device n (.driver (.mmap64 fd length offset))
      ⟨.mmap64 0#32 length (protRead ||| protWrite) mapShared fd.toInt offset, reply⟩
  | mmap {fd length offset : BitVec 32} {reply : Reply 32} (answer : reply.ptr = device.mmap64 n) :
    SeenAs device n (.mmap fd length offset) ⟨.mmap 0#32 length protNone mapShared fd.toInt offset, reply⟩
  | ioctl {event : SessionEvent} {fd request arg : BitVec 32} {reply : Reply 32} (made : event.request = some (fd, request)) :
    SeenAs device n event ⟨.ioctl fd.toInt request arg, reply⟩

inductive Observes (device : Device) : Nat → List SessionEvent → List (Label .ilp32) → Prop where
  | nil {n : Nat} : Observes device n [] []
  | quiet {n : Nat} {event : SessionEvent} {events : List SessionEvent} {seen : List (Label .ilp32)}
      (silent : event.quiet = true) (rest : Observes device n events seen) : Observes device n (event :: events) seen
  | call {n : Nat} {event : SessionEvent} {events : List SessionEvent} {label : Label .ilp32} {seen : List (Label .ilp32)}
      (first : SeenAs device n event label) (rest : Observes device (n + 1) events seen) :
    Observes device n (event :: events) (label :: seen)

def Account.tracker (fd : BitVec 32) (a : Account) : Tracker Build.ilp32.bits where
  maliFd := fd.toInt
  allocations := a.pending
  mmaps := a.maps

section Tracks

variable {device : Device} {fd : BitVec 32} {a : Account} {event : SessionEvent} {label : Label .ilp32} {n : Nat}

theorem see_quiet (silent : event.quiet = true) : a.see device.toKernel event = a := by
  cases event with
  | driver event =>
    cases event with
    | print => rfl
    | submitted => rfl
    | _ => cases silent
  | _ => cases silent

theorem see_request {fd' request : BitVec 32} (requests : event.request = some (fd', request)) :
    a.see device.toKernel event = a.call ∧ ioctlCase 32 request ≠ ioctlCase 32 maliIoctlMemAlloc ∧
      ioctlCase 32 request ≠ ioctlCase 32 maliIoctlMemCommit := by
  cases event with
  | driver event =>
    cases event with
    | jobSubmit =>
      cases requests
      exact ⟨rfl, by decide, by decide⟩
    | _ => cases requests
  | openAt => cases requests
  | mmap => cases requests
  | _ =>
    cases requests
    exact ⟨rfl, by decide, by decide⟩

theorem see_calls (seen : SeenAs device n event label) : (a.see device.toKernel event).calls = a.calls + 1 := by
  cases seen with
  | ioctl made =>
    rw [(see_request made).1]
    rfl
  | _ => rfl

theorem controlled_other {t : Tracker Build.ilp32.bits} {request ptr : BitVec 32} {reply : Reply 32} {descriptor : Int}
    (alloc : ioctlCase 32 request ≠ ioctlCase 32 maliIoctlMemAlloc)
    (commit : ioctlCase 32 request ≠ ioctlCase 32 maliIoctlMemCommit) : t.controlled descriptor request ptr reply = t := by
  unfold Tracker.controlled
  rw [if_neg alloc, if_neg commit, ite_self]

theorem mmapTraced_tracker (nonzero : fd ≠ 0#32) : MmapTraced (a.tracker fd).maliFd fd.toInt := by
  refine ⟨?_, rfl⟩
  intro zero
  exact nonzero (BitVec.eq_of_toInt_eq (zero.trans BitVec.toInt_zero.symm))

section Calls

variable {length arg : BitVec 32} {reply : Reply 32} (nonzero : fd ≠ 0#32)

theorem tracks_memAlloc {flags : BitVec 64} (passed : arg ≠ 0#32)
    (answer : (MaliIoctlMemAlloc.load reply.mem arg).gpuVa = (device.memAlloc a.calls).getD 0#64)
    (kept : (MaliIoctlMemAlloc.load reply.mem arg).flags &&& Panwrap.maliMemSameVa = flags &&& Panwrap.maliMemSameVa) :
    (a.tracker fd).controlled fd.toInt maliIoctlMemAlloc (ioctlPtr maliIoctlMemAlloc arg) reply =
      (a.reserve device.toKernel (flags &&& Panwrap.maliMemSameVa ≠ 0#64)).tracker fd := by
  have sized : ioctlPtr maliIoctlMemAlloc arg = arg := if_pos (by decide)
  have decoded : IoctlTraced (a.tracker fd).maliFd fd.toInt ∧ arg ≠ 0#32 := ⟨.inr rfl, passed⟩
  rw [sized, Tracker.controlled, if_pos decoded, if_pos rfl, listAddAllocation, MaliIoctlMemAlloc.allocated, answer, kept]
  rfl

include nonzero

theorem tracks_mmap64 {offset : BitVec 64} {block : AllocatedMemory} (head : a.pending.head? = some block)
    (here : block.gpuVa = offset) (answer : reply.ptr = device.mmap64 a.calls) :
    (a.tracker fd).mapped length fd.toInt offset reply = (a.map device.toKernel length).tracker fd := by
  obtain ⟨rest, pending⟩ := List.head?_eq_some_iff.mp head
  have found : pendingAt offset block = true := beq_iff_eq.mpr here
  have first : (a.tracker fd).allocations.find? (pendingAt offset) = some block := by
    show a.pending.find? (pendingAt offset) = some block
    rw [pending, List.find?_cons_of_pos found]
  have taken : (a.tracker fd).allocations.eraseP (pendingAt offset) = a.pending.tail := by
    show a.pending.eraseP (pendingAt offset) = a.pending.tail
    rw [pending, List.eraseP_cons_of_pos found, List.tail_cons]
  rw [Tracker.mapped_found (mmapTraced_tracker nonzero) first, answer, taken, ← here, Account.map, head]
  rfl

theorem tracks_mmap {offset : BitVec 64} (unknown : ∀ block ∈ a.pending, block.gpuVa ≠ offset)
    (answer : reply.ptr = device.mmap64 a.calls) :
    (a.tracker fd).mapped length fd.toInt offset reply = (a.handle device.toKernel length).tracker fd := by
  have missing : (a.tracker fd).allocations.find? (pendingAt offset) = none := by
    apply List.find?_eq_none.mpr
    intro block member found
    exact unknown block member (beq_iff_eq.mp found)
  rw [Tracker.mapped_missing (mmapTraced_tracker nonzero) missing, answer]
  rfl

theorem seenAs_tracks (fits : a.Fits fd event) (seen : SeenAs device a.calls event label) :
    (a.tracker fd).next label.call label.reply = (a.see device.toKernel event).tracker fd := by
  cases seen with
  | openAt => exact fits.elim
  | memAlloc passed answer kept =>
    obtain rfl : _ = fd := fits
    exact tracks_memAlloc passed answer kept
  | mmap64 answer =>
    obtain ⟨rfl, block, head, here⟩ := fits
    exact tracks_mmap64 nonzero head here answer
  | mmap answer =>
    obtain ⟨rfl, unknown⟩ := fits
    exact tracks_mmap nonzero unknown answer
  | ioctl made =>
    have other : a.see device.toKernel event = a.call ∧ _ ∧ _ := see_request made
    obtain ⟨same, alloc, commit⟩ := other
    rw [same]
    exact controlled_other alloc commit

theorem observed_tracks {events : List SessionEvent} {seen : List (Label .ilp32)}
    (orderly : (keeper device.toKernel fd).Orderly a events) (observes : Observes device n events seen) (counts : a.calls = n) :
    seen.foldl (fun t label => t.next label.call label.reply) (a.tracker fd) =
      ((keeper device.toKernel fd).account a events).tracker fd := by
  induction observes generalizing a with
  | nil => rfl
  | quiet silent _ ih =>
    have still : (keeper device.toKernel fd).see a _ = a := see_quiet silent
    rw [account_cons, still]
    exact ih (still ▸ orderly.2) counts
  | call first _ ih =>
    subst counts
    rw [List.foldl_cons, seenAs_tracks nonzero orderly.1 first, account_cons]
    exact ih orderly.2 (see_calls first)

end Calls

end Tracks

section Observable

variable {device : Device}

def SessionEvent.plain : SessionEvent → Bool
  | .driver (.jobSubmit ..) => false
  | .sync .. => false
  | _ => true

def answeredAlloc (m : Memory 32) (flags gpuVa : BitVec 64) : Memory 32 :=
  (m.write 0x1000#32 32 flags).write 0x1000#32 40 gpuVa

theorem answeredAlloc_load (m : Memory 32) (flags gpuVa : BitVec 64) :
    (MaliIoctlMemAlloc.load (answeredAlloc m flags gpuVa) 0x1000#32).gpuVa = gpuVa ∧
      (MaliIoctlMemAlloc.load (answeredAlloc m flags gpuVa) 0x1000#32).flags = flags := by
  unfold MaliIoctlMemAlloc.load answeredAlloc
  simp (disch := decide) only [Memory.read_write_part, Memory.read_write, and_self]

theorem plain_seen {event : SessionEvent} (plain : event.plain = true) (called : event.quiet = false) (n : Nat) :
    ∃ label, SeenAs device n event label ∧ label.call.Plain := by
  have other {fd request : BitVec 32} (made : event.request = some (fd, request))
      (silent : (⟨.ioctl fd.toInt request 0x1000#32, ⟨0, 0#32, fun _ => 0#8⟩⟩ : Label .ilp32).call.Plain) :
      ∃ label, SeenAs device n event label ∧ label.call.Plain := ⟨_, .ioctl made, silent⟩
  cases event with
  | driver event =>
    cases event with
    | print => cases called
    | submitted => cases called
    | jobSubmit => cases plain
    | memAlloc fd vaPages commitPages extent flags =>
      obtain ⟨va, kept⟩ := answeredAlloc_load (fun _ => 0#8) flags ((device.memAlloc n).getD 0#64)
      have met : SeenAs device n (.driver (.memAlloc fd vaPages commitPages extent flags))
          ⟨.ioctl fd.toInt maliIoctlMemAlloc 0x1000#32,
            ⟨0, 0#32, answeredAlloc (fun _ => 0#8) flags ((device.memAlloc n).getD 0#64)⟩⟩ :=
        .memAlloc (by decide) va (by rw [kept])
      exact ⟨_, met, by decide, by decide, by decide⟩
    | mmap64 fd length offset =>
      have met : SeenAs device n (.driver (.mmap64 fd length offset))
          ⟨.mmap64 0#32 length (protRead ||| protWrite) mapShared fd.toInt offset, ⟨0, device.mmap64 n, fun _ => 0#8⟩⟩ := .mmap64 rfl
      exact ⟨_, met, trivial⟩
  | openAt path flags =>
    have met : SeenAs device n (.openAt path flags)
        ⟨.openAt path flags 0#32, ⟨(device.openAt n).toInt, 0#32, fun _ => 0#8⟩⟩ := .openAt rfl
    exact ⟨_, met, trivial⟩
  | mmap fd length offset =>
    have met : SeenAs device n (.mmap fd length offset)
        ⟨.mmap 0#32 length protNone mapShared fd.toInt offset, ⟨0, device.mmap64 n, fun _ => 0#8⟩⟩ := .mmap rfl
    exact ⟨_, met, trivial⟩
  | sync => cases plain
  | _ => exact other rfl ⟨by decide, by decide, by decide⟩

theorem plain_observed {events : List SessionEvent} (plain : ∀ event ∈ events, event.plain = true) (n : Nat) :
    ∃ seen, Observes device n events seen ∧ ∀ label ∈ seen, label.call.Plain := by
  induction events generalizing n with
  | nil => exact ⟨[], .nil, fun _ none => absurd none List.not_mem_nil⟩
  | cons event rest ih =>
    obtain ⟨now, later⟩ := List.forall_mem_cons.mp plain
    cases quiet : event.quiet with
    | true =>
      obtain ⟨seen, observes, silent⟩ := ih later n
      exact ⟨seen, .quiet quiet observes, silent⟩
    | false =>
      obtain ⟨label, met, silent⟩ := plain_seen now quiet n
      obtain ⟨seen, observes, silents⟩ := ih later (n + 1)
      exact ⟨label :: seen, .call met observes, List.forall_mem_cons.mpr ⟨silent, silents⟩⟩

def spreadingDevice : Device where
  toKernel := spreadingKernel
  openAt := fun _ => 3#32
  accepts := fun _ => true

theorem mIoctl_meets {event : SessionEvent} {request : BitVec 32} {d : State} (accepted : device.accepts d.calls = true) :
    Meets (mIoctl device event request) d fun events _ d' => events = [event] ∧ d' = { d with calls := d.calls + 1 } := by
  unfold mIoctl
  simp only [meets_get_bind, meets_put_bind, meets_modify_bind, accepted, ↓reduceIte, meets_pure]
  exact ⟨rfl, trivial⟩

theorem openKernelModule_meets {d : State} (fresh : d.calls = 0) (valid : device.openAt 0 ≠ -1#32)
    (accepts : ∀ n, device.accepts n = true) (mapped : device.mmap64 2 ≠ mapFailed) :
    Meets (openKernelModule device) d fun events fd d' =>
      fd = device.openAt 0 ∧ d' = { d with calls := 4 } ∧ ∀ event ∈ events, event.plain = true := by
  unfold openKernelModule openDevice mmap
  simp only [meets_bind, meets_get, meets_put, meets_modify, meets_pure, fresh]
  rw [if_neg valid, meets_bind]
  refine (mIoctl_meets (accepts _)).mono ?_
  intro _ _ _ version
  obtain ⟨rfl, rfl⟩ := version
  simp only [meets_bind, meets_get, meets_put, meets_modify, meets_pure]
  rw [if_neg mapped, meets_bind]
  refine (mIoctl_meets (accepts _)).mono ?_
  intro _ _ _ flags
  obtain ⟨rfl, rfl⟩ := flags
  rw [meets_pure]
  refine ⟨rfl, rfl, ?_⟩
  simp [SessionEvent.plain]

end Observable

section Session

variable {device : Device} {fd : BitVec 32} {d d' : State} {events : List SessionEvent}

theorem mIoctl_after {event : SessionEvent} {request : BitVec 32} :
    After (mIoctl device event request) d fun events _ d' => events = [event] ∧ d' = { d with calls := d.calls + 1 } := by
  unfold mIoctl
  simp only [after_bind, after_get, after_put, after_modify]
  split
  · rw [after_pure]
    exact ⟨rfl, rfl⟩
  · unfold drive
    rw [after_embed]
    exact after_badIoctl

def opened (device : Device) : Account where
  calls := 4
  maps := [⟨pageSize, device.mmap64 2, 0#64⟩]

theorem openKernelModule_after (fresh : d.calls = 0) :
    After (openKernelModule device) d fun events fd d' => device.openAt 0 = fd →
      ∃ rest, events = .openAt "/dev/mali0" (oRdwr ||| oCloexec) :: rest ∧ fd ≠ -1#32 ∧
        (keeper device.toKernel fd).Orderly ⟨1, [], []⟩ rest ∧
        (keeper device.toKernel fd).account ⟨1, [], []⟩ rest = opened device ∧ (opened device).Tells d' := by
  unfold openKernelModule openDevice
  simp only [after_bind, after_get, after_put, after_modify, after_pure, fresh]
  split
  · rename_i failed
    unfold drive printf
    simp only [after_bind, after_embed, after_put, after_pure]
    intro granted
    rw [failed] at granted
    exact absurd granted (by decide)
  · rename_i worked
    rw [after_bind]
    refine mIoctl_after.mono ?_
    intro _ _ _ version
    obtain ⟨rfl, rfl⟩ := version
    unfold mmap
    simp only [after_bind, after_get, after_put, after_modify, after_pure]
    split
    · unfold drive printf
      simp only [after_bind, after_embed, after_put, after_pure]
      exact fun granted => absurd granted worked
    · rw [after_bind]
      refine mIoctl_after.mono ?_
      intro _ _ _ flags
      obtain ⟨rfl, rfl⟩ := flags
      rw [after_pure]
      intro _
      exact ⟨_, rfl, worked, ⟨trivial, ⟨rfl, fun _ none => absurd none List.not_mem_nil⟩, trivial, trivial⟩, rfl, rfl⟩

theorem session_keeps {calls : List (SessionCall × List SessionEvent)} {a : Account}
    (session : Run (SessionStep device fd) d calls d') (told : a.Tells d) :
    (keeper device.toKernel fd).Orderly a (calls.flatMap Prod.snd) := by
  induction session generalizing a with
  | nil => trivial
  | cons first _ ih =>
    obtain ⟨effect, keeps⟩ : ∃ effect, (keeper device.toKernel fd).Keeps Account.Tells Account.blocks _ effect :=
      SessionCall.keeps _
    obtain ⟨orderly, -, told'⟩ := keeps _ a told _ _ _ first
    rw [List.flatMap_cons, orderly_append]
    exact ⟨orderly, ih told'⟩

variable {cfg : Config} {proc : Proc Build.ilp32.bits} {σ : Sys Build.ilp32.bits} {seen : List (Label .ilp32)}

/-- Once the device is open, the tracker is what the account of the driver's calls describes. -/
theorem opened_tracks {opening : List SessionEvent} {mem : Memory 32}
    (opens : Runs (openKernelModule device) (State.start mem) opening fd d) (granted : device.openAt 0 = fd) (nonzero : fd ≠ 0#32)
    (orderly : (keeper device.toKernel fd).Orderly (opened device) events)
    (observes : Observes device 0 (opening ++ events) seen) (run : Run (Step cfg) (start proc) seen σ) :
    σ.tracker = ((keeper device.toKernel fd).account (opened device) events).tracker fd := by
  obtain ⟨rest, rfl, valid, first, behind, -⟩ := openKernelModule_after rfl _ _ _ opens granted
  have whole : (keeper device.toKernel fd).Orderly ⟨1, [], []⟩ (rest ++ events) :=
    (orderly_append _).mpr ⟨first, behind ▸ orderly⟩
  rw [run_tracker run]
  cases observes with
  | quiet silent => cases silent
  | call met later =>
    cases met with
    | ioctl made => cases made
    | @openAt _ _ _ reply answer =>
      have accepted : reply.ret ≠ -1 := by
        intro failed
        rw [answer, granted] at failed
        exact valid (BitVec.eq_of_toInt_eq (failed.trans (by decide)))
      have begun : Tracker.opened (start proc).tracker "/dev/mali0" reply = (⟨1, [], []⟩ : Account).tracker fd := by
        rw [Tracker.opened, if_pos ⟨accepted, rfl⟩, answer, granted]
        rfl
      rw [List.foldl_cons]
      show List.foldl _ (Tracker.opened (start proc).tracker "/dev/mali0" reply) _ = _
      rw [begun, observed_tracks nonzero whole later rfl, account_append, behind]

section Block

variable {newer older : List (MappedMemory 32)} {block : MappedMemory 32} {env : Env 32}
  (mapped : env.mmaps = newer ++ block :: older) (nonnull : 0 < block.gpuVa.toNat) (noWrap : block.gpuSpan.stop < 2 ^ 64)
include mapped nonnull noWrap

/-- A block that no later one touches from `skip` on is found there. -/
theorem block_fetch {skip off n : Nat}
    (clear : ∀ e ∈ newer, ∀ addr : BitVec 64, block.gpuVa.toNat + skip ≤ addr.toNat → block.gpuSpan.Holds addr.toNat →
      e.gpuContains addr = false) (behind : skip ≤ off) (some : 0 < n) (fits : off + n ≤ block.length.toNat) :
    fetchMappedGpu env.mmaps (block.gpuVa + BitVec.ofNat 64 off) (BitVec.ofNat 32 n) = block.addr + BitVec.ofNat 32 off := by
  apply fetch_of_found nonnull noWrap ?_ behind some fits
  intro addr low high
  have inside : block.gpuSpan.Holds addr.toNat := ⟨(Nat.le_add_right _ skip).trans low, high⟩
  have here : block.gpuContains addr = true := (MappedMemory.gpuContains_iff (by decide) noWrap addr).mpr inside.touches
  exact find_iff_first.mpr ⟨here, newer, older, mapped, fun e member => clear e member addr low inside⟩

theorem block_resolves
    (clear : ∀ e ∈ newer, ∀ addr : BitVec 64, block.gpuSpan.Holds addr.toNat → e.gpuContains addr = false) :
    Resolves env block.gpuVa block.addr block.length.toNat :=
  fun off _ some fits => block_fetch mapped nonnull noWrap (fun e member addr _ => clear e member addr) (Nat.zero_le off) some fits

end Block

end Session

end Driver
