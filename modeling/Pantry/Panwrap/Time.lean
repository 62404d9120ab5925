import Mathlib.Tactic.Common
import Mathlib.Algebra.BigOperators.Group.List.Basic
import Mathlib.Algebra.Ring.Int.Defs

namespace Panwrap

structure Timespec where
  tvSec : Int := 0
  tvNsec : Int := 0
  deriving DecidableEq, Repr

def timespecAdd (tp value : Timespec) : Timespec :=
  let sec := tp.tvSec + value.tvSec
  let nsec := tp.tvNsec + value.tvNsec
  if 1000000000 ≤ nsec then ⟨sec + 1, nsec - 1000000000⟩ else ⟨sec, nsec⟩

def timespecSubtract (tp value : Timespec) : Timespec :=
  let sec := tp.tvSec - value.tvSec
  let nsec := tp.tvNsec - value.tvNsec
  if nsec < 0 then ⟨sec - 1, 1000000000 + nsec⟩ else ⟨sec, nsec⟩

structure Clock where
  enableTimestamps : Bool := false
  timeIsFrozen : Bool := false
  startTime : Timespec := {}
  totalTimeFrozen : Timespec := {}
  startFreezeTime : Timespec := {}
  frozenTimestamp : Timespec := {}

namespace Clock

/-! `now` is what `get_monotonic_time` reads, where it is called. -/

def panwrapUtilInit (now : Timespec) : Clock where
  enableTimestamps := true
  startTime := now

def panwrapFreezeTime (now : Timespec) (c : Clock) : Clock :=
  if !c.enableTimestamps then c
  else { c with
    startFreezeTime := now
    timeIsFrozen := true
    frozenTimestamp := timespecSubtract (timespecSubtract now c.startTime) c.totalTimeFrozen }

def panwrapUnfreezeTime (now : Timespec) (c : Clock) : Clock :=
  if !c.enableTimestamps || !c.timeIsFrozen then c
  else { c with
    timeIsFrozen := false
    totalTimeFrozen := timespecAdd c.totalTimeFrozen (timespecSubtract now c.startFreezeTime) }

def timestampGet (now : Timespec) (c : Clock) : Timespec :=
  if c.timeIsFrozen then c.frozenTimestamp
  else timespecSubtract (timespecSubtract now c.startTime) c.totalTimeFrozen

end Clock

namespace Timespec

def ns (t : Timespec) : Int := 1000000000 * t.tvSec + t.tvNsec

def Normal (t : Timespec) : Prop := 0 ≤ t.tvNsec ∧ t.tvNsec < 1000000000

variable {a b : Timespec}

@[simp] theorem add_ns : (timespecAdd a b).ns = a.ns + b.ns := by
  simp only [timespecAdd, ns]
  split <;> dsimp only <;> omega

@[simp] theorem subtract_ns : (timespecSubtract a b).ns = a.ns - b.ns := by
  simp only [timespecSubtract, ns]
  split <;> dsimp only <;> omega

theorem Normal.add (left : a.Normal) (right : b.Normal) : (timespecAdd a b).Normal := by
  obtain ⟨_, _⟩ := left
  obtain ⟨_, _⟩ := right
  simp only [timespecAdd]
  split <;> constructor <;> dsimp only <;> omega

theorem Normal.subtract (left : a.Normal) (right : b.Normal) : (timespecSubtract a b).Normal := by
  obtain ⟨_, _⟩ := left
  obtain ⟨_, _⟩ := right
  simp only [timespecSubtract]
  split <;> constructor <;> dsimp only <;> omega

end Timespec

/-- The intervals in which time is frozen, in nanoseconds: the current one's start, and those that
    are over. -/
structure Frozen where
  since : Option Int := none
  finished : List (Int × Int) := []

namespace Frozen

def total (f : Frozen) : Int := (f.finished.map fun interval => interval.2 - interval.1).sum

def freeze (now : Int) (f : Frozen) : Frozen :=
  match f.since with
  | none => { f with since := some now }
  | some _ => f

def unfreeze (now : Int) (f : Frozen) : Frozen :=
  match f.since with
  | none => f
  | some start => ⟨none, f.finished ++ [(start, now)]⟩

/-- The time since `start`, up to `now` or the current freeze, that lies in no interval that is over. -/
def elapsed (start now : Int) (f : Frozen) : Int := f.since.getD now - start - f.total

variable {start now later : Int} {f : Frozen}

theorem elapsed_freeze : (f.freeze now).elapsed start now = f.elapsed start now := by
  unfold freeze elapsed
  cases since : f.since with
  | none => rfl
  | some t => simp only [since]

theorem elapsed_unfreeze : (f.unfreeze now).elapsed start now = f.elapsed start now := by
  unfold unfreeze elapsed total
  cases since : f.since with
  | none => simp only [since, Option.getD_none]
  | some t =>
    simp only [Option.getD_none, Option.getD_some, List.map_append, List.sum_append, List.map_cons, List.map_nil,
      List.sum_cons, List.sum_nil]
    omega

theorem elapsed_mono (passes : now ≤ later) : f.elapsed start now ≤ f.elapsed start later := by
  unfold elapsed
  cases f.since with
  | none =>
    simp only [Option.getD_none]
    omega
  | some t => exact Int.le_refl _

end Frozen

/-- The global variables tell how long time was and is frozen. -/
structure Clock.Tells (start : Int) (f : Frozen) (c : Clock) : Prop where
  enabled : c.enableTimestamps = true
  started : c.startTime.ns = start
  total : c.totalTimeFrozen.ns = f.total
  frozen : c.timeIsFrozen = f.since.isSome
  since : ∀ t ∈ f.since, c.startFreezeTime.ns = t
  stamp : ∀ t ∈ f.since, c.frozenTimestamp.ns = t - start - f.total

structure Clock.Normal (c : Clock) : Prop where
  startTime : c.startTime.Normal
  totalTimeFrozen : c.totalTimeFrozen.Normal
  startFreezeTime : c.startFreezeTime.Normal
  frozenTimestamp : c.frozenTimestamp.Normal

namespace Clock

variable {start : Int} {f : Frozen} {c : Clock} {now : Timespec}

theorem tells_init : (panwrapUtilInit now).Tells now.ns {} where
  enabled := rfl
  started := rfl
  total := rfl
  frozen := rfl
  since := by
    intro t member
    cases member
  stamp := by
    intro t member
    cases member

theorem normal_init (normal : now.Normal) : (panwrapUtilInit now).Normal := by
  have zero : Timespec.Normal {} := ⟨Int.le_refl 0, by decide⟩
  exact ⟨normal, zero, zero, zero⟩

/-- The timestamp of a log line is the time that passed, less what passed in frozen intervals. -/
theorem Tells.timestampGet_ns (tells : c.Tells start f) : (c.timestampGet now).ns = f.elapsed start now.ns := by
  unfold timestampGet Frozen.elapsed
  rw [tells.frozen]
  cases since : f.since with
  | none =>
    rw [Option.isSome_none, if_neg Bool.false_ne_true, Timespec.subtract_ns, Timespec.subtract_ns, tells.started,
      tells.total]
    rfl
  | some t =>
    rw [Option.isSome_some, if_pos rfl, tells.stamp t since]
    rfl

theorem panwrapFreezeTime_enabled (enabled : c.enableTimestamps = true) :
    c.panwrapFreezeTime now = { c with
      startFreezeTime := now
      timeIsFrozen := true
      frozenTimestamp := timespecSubtract (timespecSubtract now c.startTime) c.totalTimeFrozen } := by
  rw [panwrapFreezeTime, enabled]
  rfl

theorem panwrapUnfreezeTime_frozen (enabled : c.enableTimestamps = true) (frozen : c.timeIsFrozen = true) :
    c.panwrapUnfreezeTime now = { c with
      timeIsFrozen := false
      totalTimeFrozen := timespecAdd c.totalTimeFrozen (timespecSubtract now c.startFreezeTime) } := by
  rw [panwrapUnfreezeTime, enabled, frozen]
  rfl

theorem panwrapUnfreezeTime_running (running : c.timeIsFrozen = false) : c.panwrapUnfreezeTime now = c := by
  rw [panwrapUnfreezeTime, running, Bool.not_false, Bool.or_true, if_pos rfl]

theorem Tells.freeze (tells : c.Tells start f) (running : f.since = none) :
    (c.panwrapFreezeTime now).Tells start (f.freeze now.ns) := by
  rw [panwrapFreezeTime_enabled tells.enabled, Frozen.freeze, running]
  refine ⟨tells.enabled, tells.started, tells.total, rfl, ?_, ?_⟩
  · rintro t ⟨⟩
    rfl
  · rintro t ⟨⟩
    change (timespecSubtract _ _).ns = _
    rw [Timespec.subtract_ns, Timespec.subtract_ns, tells.started, tells.total]
    rfl

theorem Tells.unfreeze (tells : c.Tells start f) : (c.panwrapUnfreezeTime now).Tells start (f.unfreeze now.ns) := by
  have frozen := tells.frozen
  unfold Frozen.unfreeze
  cases since : f.since with
  | none =>
    rw [since] at frozen
    rw [panwrapUnfreezeTime_running frozen]
    exact tells
  | some t =>
    rw [since] at frozen
    rw [panwrapUnfreezeTime_frozen tells.enabled frozen]
    refine ⟨tells.enabled, tells.started, ?_, rfl, ?_, ?_⟩
    · change (timespecAdd _ _).ns = Frozen.total _
      rw [Timespec.add_ns, Timespec.subtract_ns, tells.total, tells.since t since]
      simp only [Frozen.total, List.map_append, List.sum_append, List.map_cons, List.map_nil, List.sum_cons,
        List.sum_nil, Int.add_zero]
    · intro _ member
      cases member
    · intro _ member
      cases member

theorem Normal.freeze (normal : c.Normal) (read : now.Normal) : (c.panwrapFreezeTime now).Normal := by
  unfold panwrapFreezeTime
  split
  · exact normal
  · exact ⟨normal.startTime, normal.totalTimeFrozen, read, (read.subtract normal.startTime).subtract normal.totalTimeFrozen⟩

theorem Normal.unfreeze (normal : c.Normal) (read : now.Normal) : (c.panwrapUnfreezeTime now).Normal := by
  unfold panwrapUnfreezeTime
  split
  · exact normal
  · exact ⟨normal.startTime, normal.totalTimeFrozen.add (read.subtract normal.startFreezeTime), normal.startFreezeTime,
      normal.frozenTimestamp⟩

end Clock

end Panwrap
