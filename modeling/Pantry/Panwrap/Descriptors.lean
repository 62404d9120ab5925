import Pantry.Panwrap.Transparent

namespace Panwrap

open Machine Decoder Program

section Next

variable {w : Nat} (t : Tracker w)

theorem Tracker.maliFd_opened (path : String) (reply : Reply w) :
    (t.opened path reply).maliFd = if reply.ret ≠ -1 ∧ path = "/dev/mali0" then reply.ret else t.maliFd := by
  unfold Tracker.opened
  split <;> rfl

theorem Tracker.maliFd_closed (fd : Int) :
    (t.closed fd).maliFd = if 0 < fd ∧ fd = t.maliFd then 0 else t.maliFd := by
  unfold Tracker.closed
  split <;> rfl

@[simp] theorem Tracker.maliFd_controlled (fd : Int) (request ptr : BitVec w) (reply : Reply w) :
    (t.controlled fd request ptr reply).maliFd = t.maliFd := by
  unfold Tracker.controlled
  split
  · split
    · rfl
    · split <;> rfl
  · rfl

@[simp] theorem Tracker.maliFd_mapped (length : BitVec w) (fd : Int) (offset : BitVec 64) (reply : Reply w) :
    (t.mapped length fd offset reply).maliFd = t.maliFd := by
  unfold Tracker.mapped
  split <;> rfl

@[simp] theorem Tracker.maliFd_unmapped (addr : BitVec w) : (t.unmapped addr).maliFd = t.maliFd := rfl

end Next

section Histories

variable {build : Build}

/-- An `open` or `open64` of `/dev/mali0` that succeeds with `fd`. -/
def Label.Opens (label : Label build) (fd : Int) : Prop :=
  match label.call with
  | .openAt path _ _ => path = "/dev/mali0" ∧ label.reply.ret ≠ -1 ∧ label.reply.ret = fd
  | .open64 path _ _ => path = "/dev/mali0" ∧ label.reply.ret ≠ -1 ∧ label.reply.ret = fd
  | _ => False

/-- The descriptor that the most recent successful `open` of `/dev/mali0` returned and that no `close`
    was called on since. -/
def Latest (labels : List (Label build)) (fd : Int) : Prop :=
  Since (fun label => label.Opens fd) (fun label => (∃ other, label.Opens other) ∨ label.call = .close fd) labels

theorem maliFd_opened_iff (t : Tracker build.bits) (path : String) (reply : Reply build.bits) (fd : Int) :
    (t.opened path reply).maliFd = fd ↔
      (path = "/dev/mali0" ∧ reply.ret ≠ -1 ∧ reply.ret = fd) ∨
        t.maliFd = fd ∧ ¬ ∃ other, path = "/dev/mali0" ∧ reply.ret ≠ -1 ∧ reply.ret = other := by
  rw [Tracker.maliFd_opened]
  by_cases mali : reply.ret ≠ -1 ∧ path = "/dev/mali0"
  · rw [if_pos mali]
    constructor
    · exact fun same => .inl ⟨mali.2, mali.1, same⟩
    · rintro (⟨-, -, same⟩ | ⟨-, none⟩)
      · exact same
      · exact (none ⟨_, mali.2, mali.1, rfl⟩).elim
  · rw [if_neg mali]
    constructor
    · exact fun same => .inr ⟨same, fun ⟨_, named, succeeded, _⟩ => mali ⟨succeeded, named⟩⟩
    · rintro (⟨named, succeeded, -⟩ | ⟨same, -⟩)
      · exact absurd ⟨succeeded, named⟩ mali
      · exact same

theorem maliFd_closed_iff (t : Tracker build.bits) (closing : Int) {fd : Int} (positive : 0 < fd) :
    (t.closed closing).maliFd = fd ↔ t.maliFd = fd ∧ closing ≠ fd := by
  rw [Tracker.maliFd_closed]
  by_cases tracked : 0 < closing ∧ closing = t.maliFd
  · rw [if_pos tracked]
    constructor
    · exact fun zero => absurd zero.symm positive.ne'
    · rintro ⟨same, other⟩
      exact absurd (tracked.2.trans same) other
  · rw [if_neg tracked]
    constructor
    · exact fun same => ⟨same, fun closed => tracked ⟨closed ▸ positive, closed.trans same.symm⟩⟩
    · exact And.left

theorem maliFd_next_iff (t : Tracker build.bits) (label : Label build) {fd : Int} (positive : 0 < fd) :
    (t.next label.call label.reply).maliFd = fd ↔
      label.Opens fd ∨ t.maliFd = fd ∧ ¬ ((∃ other, label.Opens other) ∨ label.call = .close fd) := by
  obtain ⟨call, reply⟩ := label
  cases call with
  | openAt path flags mode =>
    simp only [Tracker.next, maliFd_opened_iff, Label.Opens, reduceCtorEq, or_false]
  | open64 path flags mode =>
    simp only [Tracker.next, maliFd_opened_iff, Label.Opens, reduceCtorEq, or_false]
  | close closing =>
    simp only [Tracker.next, maliFd_closed_iff t closing positive, Label.Opens, exists_false, false_or,
      Call.close.injEq, ne_eq]
  | _ => simp [Tracker.next, Label.Opens]

def Answered (labels : List (Label build)) : Prop := ∀ label ∈ labels, ∀ fd, label.Opens fd → 0 ≤ fd

theorem Answered.of_snoc {labels : List (Label build)} {last : Label build} (answered : Answered (labels ++ [last])) :
    Answered labels ∧ ∀ fd, last.Opens fd → 0 ≤ fd :=
  ⟨fun label member => answered label (List.mem_append_left _ member),
    answered last (List.mem_append_right _ (List.mem_singleton_self last))⟩

theorem Latest.nonneg {labels : List (Label build)} {fd : Int} (answered : Answered labels)
    (latest : Latest labels fd) : 0 ≤ fd := by
  obtain ⟨before, label, after, rfl, opens, -⟩ := latest
  exact answered label (by simp) fd opens

theorem maliFd_next_nonneg (t : Tracker build.bits) (label : Label build) (answered : ∀ fd, label.Opens fd → 0 ≤ fd)
    (nonneg : 0 ≤ t.maliFd) : 0 ≤ (t.next label.call label.reply).maliFd := by
  have opened (path : String) (answer : path = "/dev/mali0" ∧ label.reply.ret ≠ -1 → 0 ≤ label.reply.ret) :
      0 ≤ (t.opened path label.reply).maliFd := by
    rw [Tracker.maliFd_opened]
    split
    · rename_i mali
      exact answer mali.symm
    · exact nonneg
  obtain ⟨call, reply⟩ := label
  cases call with
  | openAt path flags mode => exact opened path fun mali => answered _ ⟨mali.1, mali.2, rfl⟩
  | open64 path flags mode => exact opened path fun mali => answered _ ⟨mali.1, mali.2, rfl⟩
  | close fd =>
    rw [Tracker.next, Tracker.maliFd_closed]
    split
    · exact le_rfl
    · exact nonneg
  | _ => simpa [Tracker.next] using nonneg

def start (proc : Proc build.bits) : Sys build.bits := ⟨{}, proc⟩

def TracksLatest (past : List (Label build)) (σ : Sys build.bits) : Prop :=
  Answered past → 0 ≤ σ.tracker.maliFd ∧ ∀ fd, 0 < fd → (σ.tracker.maliFd = fd ↔ Latest past fd)

theorem tracksLatest_start (proc : Proc build.bits) : TracksLatest [] (start proc) :=
  fun _ => ⟨le_rfl, fun _ positive => ⟨fun zero => absurd zero positive.ne, fun latest => (not_since_nil latest).elim⟩⟩

theorem Step.tracksLatest {cfg : Config} {past : List (Label build)} {σ σ' : Sys build.bits} {label : Label build}
    (step : Step cfg σ label σ') (held : TracksLatest past σ) : TracksLatest (past ++ [label]) σ' := by
  intro answered
  obtain ⟨before, last⟩ := answered.of_snoc
  obtain ⟨nonneg, same⟩ := held before
  rw [step.tracker]
  refine ⟨maliFd_next_nonneg _ _ last nonneg, fun fd positive => ?_⟩
  rw [maliFd_next_iff _ _ positive, Latest, since_snoc, same fd positive]
  rfl

theorem maliFd_eq_iff {cfg : Config} {proc : Proc build.bits} {labels : List (Label build)} {σ : Sys build.bits}
    (run : Run (Step cfg) (start proc) labels σ) (answered : Answered labels) {fd : Int} (nonzero : fd ≠ 0) :
    σ.tracker.maliFd = fd ↔ Latest labels fd := by
  obtain ⟨nonneg, same⟩ := run.history Step.tracksLatest (tracksLatest_start proc) answered
  rcases lt_or_gt_of_ne nonzero with negative | positive
  · constructor
    · intro equal
      omega
    · intro latest
      have := latest.nonneg answered
      omega
  · exact same fd positive

end Histories

section Observed

variable {w : Nat} (cfg : Config) (libc : Libc w) {σ : Sys w} {fd : Int}

def Logged (out : List (Event w)) : Prop := ∃ format args, .out (.log format args) ∈ out

theorem not_logged_call (made : LibcCall w) (answer : Reply w) : ¬ Logged [.call made answer] := by
  rintro ⟨format, args, member⟩
  simp at member

theorem Logged.after {α β : Type} {p : Wrap w α} {f : α → Wrap w β} {out : List (Event w)} {a : α} {σ' : Sys w}
    (runs : Runs p σ out a σ') (logged : Logged (f a σ').out) : Logged ((p >>= f) σ).out := by
  obtain ⟨format, args, member⟩ := logged
  exact ⟨format, args, out_bind_after runs member⟩

theorem logged_say {β : Type} (format : String) (args : List Arg) (k : Unit → Wrap w β) :
    Logged ((say format args >>= k) σ).out :=
  ⟨format, args, out_bind_first (List.mem_singleton_self _)⟩

theorem runs_ioctl_passed (fuel : Nat) (request arg : BitVec w) (passed : ¬ IoctlTraced σ.tracker.maliFd fd) :
    Runs (ioctl cfg libc fuel fd request arg) σ
      ([] ++ [.call (.ioctl fd request (ioctlPtr request arg))
        (libc (.ioctl fd request (ioctlPtr request arg)) σ.proc.mem)])
      (libc (.ioctl fd request (ioctlPtr request arg)) σ.proc.mem).ret
      { σ with proc := { σ.proc with mem := (libc (.ioctl fd request (ioctlPtr request arg)) σ.proc.mem).mem } } := by
  refine Runs.bind (runs_get.mpr ⟨rfl, rfl, rfl⟩) ?_
  rw [if_pos passed]
  rfl

theorem ioctl_logs (fuel : Nat) (request arg : BitVec w) (traced : IoctlTraced σ.tracker.maliFd fd) :
    Logged (ioctl cfg libc fuel fd request arg σ).out := by
  refine .after (runs_get.mpr ⟨rfl, rfl, rfl⟩) ?_
  rw [if_neg (not_not.mpr traced)]
  refine .after ((runs_put (u := ())).mpr ⟨rfl, rfl⟩) ?_
  by_cases null : ioctlPtr request arg = 0#w
  · rw [if_pos null]
    exact logged_say _ _ _
  · rw [if_neg null]
    obtain ⟨out, runs, -⟩ := traces_deref (s := σ.proc) null fun m => m.read 32 (ioctlPtr request arg) 0
    exact .after (runs_decode runs) (logged_say _ _ _)

theorem ioctl_logged_iff (fuel : Nat) (request arg : BitVec w) :
    Logged (ioctl cfg libc fuel fd request arg σ).out ↔ IoctlTraced σ.tracker.maliFd fd := by
  constructor
  · intro logged
    by_contra passed
    rw [(runs_ioctl_passed cfg libc fuel request arg passed).out_eq, List.nil_append] at logged
    exact not_logged_call _ _ logged
  · exact ioctl_logs cfg libc fuel request arg

end Observed

section Traced

variable {build : Build} {cfg : Config}

theorem wrapper_ioctl_logged_iff (libc : Libc build.bits) (fuel : Nat) (fd : Int) (request arg : BitVec build.bits)
    (σ : Sys build.bits) :
    Logged (wrapper cfg libc fuel (.ioctl fd request arg) σ).out ↔ IoctlTraced σ.tracker.maliFd fd := by
  rw [wrapper, out_bind_pure]
  exact ioctl_logged_iff cfg libc fuel request arg

def Call.Maps (fd : Int) : Call build → Prop
  | .mmap _ _ _ _ fd' _ => fd' = fd
  | .mmap64 _ _ _ _ fd' _ => fd' = fd
  | _ => False

def Recorded {w : Nat} (t t' : Tracker w) : Prop := ∃ entry, t'.mmaps = entry :: t.mmaps

theorem Tracker.recorded_mapped_iff {w : Nat} (t : Tracker w) (length : BitVec w) (fd : Int) (offset : BitVec 64)
    (reply : Reply w) : Recorded t (t.mapped length fd offset reply) ↔ MmapTraced t.maliFd fd := by
  constructor
  · rintro ⟨entry, longer⟩
    by_contra passed
    rw [Tracker.mapped_passed passed] at longer
    exact List.cons_ne_self entry t.mmaps longer.symm
  · intro traced
    rw [Tracker.mapped, if_pos traced]
    exact ⟨_, rfl⟩

theorem recorded_next_iff (t : Tracker build.bits) {fd : Int} {label : Label build} (maps : label.call.Maps fd) :
    Recorded t (t.next label.call label.reply) ↔ MmapTraced t.maliFd fd := by
  obtain ⟨call, reply⟩ := label
  cases call with
  | mmap addr length prot flags fd' offset =>
    obtain rfl : fd' = fd := maps
    exact t.recorded_mapped_iff length fd' _ reply
  | mmap64 addr length prot flags fd' offset =>
    obtain rfl : fd' = fd := maps
    exact t.recorded_mapped_iff length fd' offset reply
  | _ => exact maps.elim

/-- For a descriptor other than 0, an `ioctl` is decoded and an `mmap` recorded exactly while it is the
    one that the most recent successful `open` of `/dev/mali0` returned and no `close` was called on it. -/
theorem traced_iff_latest {proc : Proc build.bits} {labels : List (Label build)} {σ : Sys build.bits}
    (run : Run (Step cfg) (start proc) labels σ) (answered : Answered labels) {fd : Int} (nonzero : fd ≠ 0) :
    (∀ libc fuel request arg,
      Logged (wrapper cfg libc fuel (.ioctl fd request arg) σ).out ↔ Latest labels fd) ∧
    ∀ label σ', Step cfg σ label σ' → label.call.Maps fd →
      (Recorded σ.tracker σ'.tracker ↔ Latest labels fd) := by
  have tracked : σ.tracker.maliFd = fd ↔ Latest labels fd := maliFd_eq_iff run answered nonzero
  constructor
  · intro libc fuel request arg
    rw [wrapper_ioctl_logged_iff, ← tracked, IoctlTraced]
    constructor
    · exact fun traced => (traced.resolve_left nonzero).symm
    · exact fun same => .inr same.symm
  · intro label σ' step maps
    rw [step.tracker, recorded_next_iff σ.tracker maps, ← tracked, MmapTraced]
    constructor
    · exact fun traced => traced.2.symm
    · exact fun same => ⟨fun none => nonzero (same.symm.trans none), same.symm⟩

def opening (path : String) (fd : Int) : Label .lp64 := ⟨.openAt path 2#32 0#32, ⟨fd, 0, fun _ => 0#8⟩⟩

theorem step_opening (path : String) (fd : Int) (σ : Sys Build.lp64.bits) :
    ∃ σ', Step x86 σ (opening path fd) σ' := step_of_decodable x86 (opening path fd) σ trivial

theorem opening_answered {path : String} {fd : Int} (nonneg : 0 ≤ fd) : Answered [opening path fd] := by
  intro label member other opens
  obtain rfl := List.mem_singleton.mp member
  obtain ⟨-, -, rfl⟩ := opens
  exact nonneg

theorem traced_after_open :
    ∃ σ, Run (Step x86) (start ⟨fun _ => 0#8, 0⟩) [opening "/dev/mali0" 3] σ ∧
      (∀ libc fuel request arg, Logged (wrapper x86 libc fuel (.ioctl 3 request arg) σ).out ↔
        Latest [opening "/dev/mali0" 3] 3) ∧
      ∀ label σ', Step x86 σ label σ' → label.call.Maps 3 →
        (Recorded σ.tracker σ'.tracker ↔ Latest [opening "/dev/mali0" 3] 3) := by
  obtain ⟨σ, opened⟩ := step_opening "/dev/mali0" 3 (start ⟨fun _ => 0#8, 0⟩)
  exact ⟨σ, .single opened, traced_iff_latest (.single opened) (opening_answered (by decide)) (by decide)⟩

/-- A descriptor that a successful `open` of `/dev/mali0` returned and no successful `close` has closed. -/
def StillOpen (labels : List (Label build)) (fd : Int) : Prop :=
  Since (fun label => label.Opens fd) (fun label => label.call = .close fd ∧ label.reply.ret = 0) labels

theorem second_open_hides_first :
    ∃ σ, Run (Step x86) (start ⟨fun _ => 0#8, 0⟩) [opening "/dev/mali0" 3, opening "/dev/mali0" 4] σ ∧
      StillOpen [opening "/dev/mali0" 3, opening "/dev/mali0" 4] 3 ∧
      ∀ libc fuel request arg, ¬ Logged (wrapper x86 libc fuel (.ioctl 3 request arg) σ).out := by
  obtain ⟨σ₁, first⟩ := step_opening "/dev/mali0" 3 (start ⟨fun _ => 0#8, 0⟩)
  obtain ⟨σ, second⟩ := step_opening "/dev/mali0" 4 σ₁
  refine ⟨σ, .cons first (.single second), ?_, ?_⟩
  · refine ⟨[], _, [opening "/dev/mali0" 4], rfl, ⟨rfl, by decide, rfl⟩, ?_⟩
    rintro later member ⟨closes, -⟩
    obtain rfl := List.mem_singleton.mp member
    cases closes
  · intro libc fuel request arg logged
    have tracked : σ.tracker.maliFd = 4 := by
      rw [second.tracker]
      exact Tracker.maliFd_opened σ₁.tracker "/dev/mali0" _
    rw [wrapper_ioctl_logged_iff, tracked] at logged
    exact absurd logged (by decide)

end Traced

end Panwrap
