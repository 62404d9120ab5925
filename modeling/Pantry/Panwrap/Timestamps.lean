import Pantry.Panwrap.Time
import Pantry.Panwrap.Transparent

namespace Panwrap

open Machine Decoder Program

variable {w : Nat}

/-- An event of a wrapper, and the reading of the clock when it happens. -/
structure Moment (w : Nat) where
  event : Event w
  now : Timespec

def Clock.tick (c : Clock) (moment : Moment w) : Clock :=
  match moment.event with
  | .freeze => c.panwrapFreezeTime moment.now
  | .unfreeze => c.panwrapUnfreezeTime moment.now
  | _ => c

def Clock.run (c : Clock) (moments : List (Moment w)) : Clock := moments.foldl Clock.tick c

def Clock.stamp? (c : Clock) (moment : Moment w) : Option Timespec :=
  match moment.event with
  | .out (.log _ _) => some (c.timestampGet moment.now)
  | _ => none

def Clock.stamps (c : Clock) : List (Moment w) → List Timespec
  | [] => []
  | moment :: rest => (c.stamp? moment).toList ++ (c.tick moment).stamps rest

def Frozen.tick (f : Frozen) (moment : Moment w) : Frozen :=
  match moment.event with
  | .freeze => f.freeze moment.now.ns
  | .unfreeze => f.unfreeze moment.now.ns
  | _ => f

def Frozen.run (f : Frozen) (moments : List (Moment w)) : Frozen := moments.foldl Frozen.tick f

/-- Whether time is frozen behind an event. There is no answer for a freeze or an unfreeze out of
    turn, nor for a call of libc while time is frozen. -/
def pace : Bool → Event w → Option Bool
  | false, .freeze => some true
  | true, .unfreeze => some false
  | false, .call _ _ => some false
  | frozen, .out _ => some frozen
  | _, _ => none

def paced (frozen : Bool) (out : List (Event w)) : Option Bool := out.foldlM pace frozen

section Pace

variable {before between behind : Bool} {first second : List (Event w)}

theorem paced_append (left : paced before first = some between) :
    paced before (first ++ second) = paced between second := by
  unfold paced at *
  rw [List.foldlM_append, left]
  rfl

theorem paced_prefix (whole : paced before (first ++ second) = some behind) :
    ∃ between, paced before first = some between ∧ paced between second = some behind := by
  unfold paced at *
  rw [List.foldlM_append] at whole
  exact Option.bind_eq_some_iff.mp whole

theorem paced_map_out (items : List Out) : paced before (items.map (Event.out (w := w))) = some before := by
  induction items with
  | nil => rfl
  | cons item rest ih =>
    have front : pace before (.out item : Event w) = some before := by cases before <;> rfl
    rw [List.map_cons, paced, List.foldlM_cons, front]
    exact ih

end Pace

/-- `p` freezes and unfreezes in turn, calls libc only where time is not frozen, and leaves time
    frozen or not as `behind` says. -/
def Paced (before behind : Bool) {α : Type} (p : Wrap w α) : Prop :=
  ∀ σ, After p σ fun out _ _ => paced before out = some behind

section Wrappers

variable {α β : Type} {before between behind : Bool} {cfg : Config} {libc : Libc w}

theorem Paced.bind {p : Wrap w α} {f : α → Wrap w β} (first : Paced before between p)
    (second : ∀ a, Paced between behind (f a)) : Paced before behind (p >>= f) := by
  intro σ
  rw [after_bind]
  refine (first σ).mono ?_
  intro out a σ' left
  refine (second a σ').mono ?_
  intro out' b _ right
  rw [paced_append left, right]

theorem paced_pure {a : α} : Paced before before (pure a : Wrap w α) := fun _ => after_pure.mpr rfl

theorem paced_get : Paced before before (get : Wrap w (Sys w)) := fun _ => after_get.mpr rfl

theorem paced_onTracker {f : Tracker w → Tracker w} : Paced before before (onTracker f) :=
  fun _ => after_onTracker.mpr rfl

theorem paced_out {item : Out} : Paced before before (put [.out item] : Wrap w Unit) :=
  fun _ => after_put.mpr (paced_map_out [item])

theorem paced_say {format : String} {args : List Arg} : Paced before before (say format args : Wrap w Unit) :=
  paced_out

theorem paced_freeze : Paced false true (panwrapFreezeTime : Wrap w Unit) := fun _ => after_freeze.mpr rfl

theorem paced_unfreeze : Paced true false (panwrapUnfreezeTime : Wrap w Unit) := fun _ => after_unfreeze.mpr rfl

theorem paced_orig {made : LibcCall w} : Paced false false (orig libc made) := fun _ => after_orig.mpr rfl

theorem paced_decode {p : Env w → Decode w α} : Paced before before (decode cfg p) :=
  fun _ => after_decode.mpr fun out _ _ _ => paced_map_out out

theorem Paced.whenever {c : Prop} [Decidable c] {p : Wrap w Unit} (paced : Paced before before p) :
    Paced before before (whenever c p) := by
  unfold Program.whenever
  split
  · exact paced
  · exact paced_pure

theorem panwrapOpenWrap_paced {origOpen : String → BitVec 32 → Option (BitVec 32) → LibcCall w} {path : String}
    {flags mode : BitVec 32} : Paced false false (panwrapOpenWrap libc origOpen path flags mode) := by
  refine paced_orig.bind fun _ => Paced.bind (Paced.whenever ?_) fun _ => paced_pure
  split
  · exact paced_say.bind fun _ => paced_onTracker
  · exact paced_say.whenever

theorem close_paced {fd : Int} : Paced false false (close libc fd) :=
  paced_get.bind fun _ => ((paced_say.bind fun _ => paced_onTracker).whenever).bind fun _ =>
    paced_orig.bind fun _ => paced_pure

theorem ioctlDecodePost_paced {ptr request : BitVec w} : Paced before before (ioctlDecodePost cfg ptr request) := by
  unfold ioctlDecodePost ioctlDecodePostMemAlloc ioctlDecodePostMemCommit
  split
  · exact paced_decode.bind fun _ => paced_say.bind fun _ => paced_say.bind fun _ => paced_say.bind fun _ =>
      paced_onTracker.bind fun _ => paced_out
  · split
    · exact paced_decode.bind fun _ => paced_say.bind fun _ => paced_onTracker
    · exact paced_decode

theorem ioctl_paced {fuel : Nat} {fd : Int} {request arg : BitVec w} :
    Paced false false (ioctl cfg libc fuel fd request arg) := by
  unfold ioctl
  refine paced_get.bind fun σ => ?_
  split
  · exact paced_orig.bind fun _ => paced_pure
  · refine paced_freeze.bind fun _ => ?_
    split
    · exact paced_say.bind fun _ => paced_unfreeze.bind fun _ => paced_orig.bind fun _ =>
        paced_freeze.bind fun _ => paced_say.bind fun _ => paced_unfreeze.bind fun _ => paced_pure
    · refine paced_decode.bind fun _ => paced_say.bind fun _ => paced_decode.bind fun _ => ?_
      refine paced_unfreeze.bind fun _ => paced_orig.bind fun _ => paced_freeze.bind fun _ => ?_
      exact paced_decode.bind fun _ => paced_say.bind fun _ => ioctlDecodePost_paced.bind fun _ =>
        paced_unfreeze.bind fun _ => paced_pure

theorem panwrapMmapWrap_paced {func : BitVec w → BitVec w → BitVec 32 → BitVec 32 → Int → BitVec 64 → LibcCall w}
    {addr length : BitVec w} {prot flags : BitVec 32} {fd : Int} {offset : BitVec 64} :
    Paced false false (panwrapMmapWrap cfg libc func addr length prot flags fd offset) := by
  unfold panwrapMmapWrap
  refine paced_get.bind fun σ => ?_
  split
  · exact paced_orig.bind fun _ => paced_pure
  · refine paced_orig.bind fun reply => paced_freeze.bind fun _ => ?_
    split
    · exact paced_onTracker.bind fun _ => paced_say.bind fun _ => paced_onTracker.bind fun _ =>
        paced_unfreeze.bind fun _ => paced_pure
    · exact paced_say.bind fun _ => paced_decode.bind fun _ => paced_decode.bind fun _ => paced_decode.bind fun _ =>
        paced_decode.bind fun _ => paced_onTracker.bind fun _ => paced_unfreeze.bind fun _ => paced_pure

theorem munmap_paced {addr length : BitVec w} : Paced false false (munmap libc addr length) := by
  unfold munmap
  refine paced_orig.bind fun reply => paced_freeze.bind fun _ => paced_get.bind fun σ => ?_
  split
  · exact paced_unfreeze.bind fun _ => paced_pure
  · split
    · exact paced_say.bind fun _ => paced_onTracker.bind fun _ => paced_unfreeze.bind fun _ => paced_pure
    · exact paced_say.bind fun _ => paced_onTracker.bind fun _ => paced_unfreeze.bind fun _ => paced_pure

theorem wrapper_paced {build : Build} {libc : Libc build.bits} {fuel : Nat} {call : Call build} :
    Paced false false (wrapper cfg libc fuel call) := by
  cases call with
  | openAt => exact panwrapOpenWrap_paced.bind fun _ => paced_pure
  | open64 => exact panwrapOpenWrap_paced.bind fun _ => paced_pure
  | close => exact close_paced.bind fun _ => paced_pure
  | ioctl => exact ioctl_paced.bind fun _ => paced_pure
  | mmap => exact panwrapMmapWrap_paced.bind fun _ => paced_pure
  | mmap64 => exact panwrapMmapWrap_paced.bind fun _ => paced_pure
  | munmap => exact munmap_paced.bind fun _ => paced_pure

end Wrappers

section Moments

variable {start : Int} {f : Frozen} {c : Clock} {before between behind : Bool} {moment : Moment w}
  {moments : List (Moment w)}

theorem tick_tells (tells : c.Tells start f) (agrees : f.since.isSome = before)
    (turn : pace before moment.event = some between) :
    (c.tick moment).Tells start (f.tick moment) ∧ (f.tick moment).since.isSome = between := by
  obtain ⟨event, now⟩ := moment
  unfold Clock.tick Frozen.tick
  cases event with
  | freeze =>
    cases before with
    | true => cases turn
    | false =>
      have running : f.since = none := Option.isSome_eq_false_iff.mp agrees |> Option.isNone_iff_eq_none.mp
      obtain rfl := Option.some.inj turn
      refine ⟨tells.freeze running, ?_⟩
      simp only [Frozen.freeze, running, Option.isSome_some]
  | unfreeze =>
    cases before with
    | false => cases turn
    | true =>
      obtain ⟨t, since⟩ := Option.isSome_iff_exists.mp agrees
      obtain rfl := Option.some.inj turn
      refine ⟨tells.unfreeze, ?_⟩
      simp only [Frozen.unfreeze, since, Option.isSome_none]
  | call made answer =>
    cases before with
    | true => cases turn
    | false =>
      obtain rfl := Option.some.inj turn
      exact ⟨tells, agrees⟩
  | out item =>
    have same : before = between := by cases before <;> exact Option.some.inj turn
    rw [← same]
    exact ⟨tells, agrees⟩

theorem run_tells (tells : c.Tells start f) (agrees : f.since.isSome = before)
    (turns : paced before (moments.map Moment.event) = some behind) :
    (c.run moments).Tells start (f.run moments) ∧ (f.run moments).since.isSome = behind := by
  induction moments generalizing c f before with
  | nil =>
    obtain rfl := Option.some.inj turns
    exact ⟨tells, agrees⟩
  | cons moment rest ih =>
    rw [List.map_cons, paced, List.foldlM_cons] at turns
    obtain ⟨between, turn, turns⟩ := Option.bind_eq_some_iff.mp turns
    obtain ⟨tells, agrees⟩ := tick_tells tells agrees turn
    exact ih tells agrees turns

theorem tick_normal (normal : c.Normal) (read : moment.now.Normal) : (c.tick moment).Normal := by
  unfold Clock.tick
  split
  · exact normal.freeze read
  · exact normal.unfreeze read
  · exact normal

theorem run_normal (normal : c.Normal) (read : ∀ moment ∈ moments, moment.now.Normal) : (c.run moments).Normal := by
  induction moments generalizing c with
  | nil => exact normal
  | cons moment rest ih =>
    obtain ⟨now, later⟩ := List.forall_mem_cons.mp read
    exact ih (tick_normal normal now) later

theorem elapsed_tick : (f.tick moment).elapsed start moment.now.ns = f.elapsed start moment.now.ns := by
  unfold Frozen.tick
  split
  · exact Frozen.elapsed_freeze
  · exact Frozen.elapsed_unfreeze
  · rfl

theorem stamps_ordered {now : Int} (tells : c.Tells start f) (agrees : f.since.isSome = before)
    (turns : paced before (moments.map Moment.event) = some behind)
    (ordered : (now :: moments.map fun moment => moment.now.ns).Pairwise (· ≤ ·)) :
    (c.stamps moments).Pairwise (fun first second => first.ns ≤ second.ns) ∧
      ∀ stamp ∈ c.stamps moments, f.elapsed start now ≤ stamp.ns := by
  induction moments generalizing c f before now with
  | nil =>
    refine ⟨.nil, ?_⟩
    intro stamp member
    cases member
  | cons moment rest ih =>
    rw [List.map_cons, paced, List.foldlM_cons] at turns
    obtain ⟨between, turn, turns⟩ := Option.bind_eq_some_iff.mp turns
    obtain ⟨tells', agrees'⟩ := tick_tells tells agrees turn
    rw [List.map_cons] at ordered
    obtain ⟨bound, ordered⟩ := List.pairwise_cons.mp ordered
    obtain ⟨sorted, above⟩ := ih tells' agrees' turns ordered
    have passes : f.elapsed start now ≤ f.elapsed start moment.now.ns :=
      Frozen.elapsed_mono (bound _ (List.mem_cons_self ..))
    rw [elapsed_tick] at above
    have this : ∀ stamp ∈ c.stamp? moment, stamp.ns = f.elapsed start moment.now.ns := by
      intro stamp printed
      unfold Clock.stamp? at printed
      split at printed
      · rw [← Option.some.inj printed]
        exact tells.timestampGet_ns
      · cases printed
    unfold Clock.stamps
    rw [List.pairwise_append]
    refine ⟨⟨?_, sorted, ?_⟩, ?_⟩
    · cases c.stamp? moment with
      | none => exact .nil
      | some stamp => exact List.pairwise_singleton _ _
    · intro stamp printed later member
      rw [this stamp (Option.mem_toList.mp printed)]
      exact above later member
    · intro stamp member
      rcases List.mem_append.mp member with printed | member
      · rw [this stamp (Option.mem_toList.mp printed)]
        exact passes
      · exact passes.trans (above stamp member)

end Moments

/-- What the timestamps of a sequence of events are meant to be; time starts at `start`. -/
structure Truthful (start : Timespec) (moments : List (Moment w)) : Prop where
  called : ∀ before made answer now after, moments = before ++ ⟨.call made answer, now⟩ :: after →
    ((Clock.panwrapUtilInit start).run before).timeIsFrozen = false
  returned : ((Clock.panwrapUtilInit start).run moments).timeIsFrozen = false
  exact : ∀ before format args now after, moments = before ++ ⟨.out (.log format args), now⟩ :: after →
    (((Clock.panwrapUtilInit start).run before).timestampGet now).ns =
      (Frozen.run {} before).elapsed start.ns now.ns
  positive : ∀ stamp ∈ (Clock.panwrapUtilInit start).stamps moments, 0 ≤ stamp.ns
  ordered : ((Clock.panwrapUtilInit start).stamps moments).Pairwise fun first second => first.ns ≤ second.ns
  normal : ∀ before after, moments = before ++ after → ((Clock.panwrapUtilInit start).run before).Normal

section Runs

variable {build : Build}

/-- A call of a wrapper or a log line between two calls, with its events. -/
structure Turn (build : Build) where
  call : Option (Call build)
  out : List (Event build.bits)

def TurnStep (cfg : Config) (σ : Sys build.bits) (turn : Turn build) (σ' : Sys build.bits) : Prop :=
  match turn.call with
  | some call => ∃ libc fuel v, Runs (wrapper cfg libc fuel call) σ turn.out v σ'
  | none => ∃ format args, turn.out = [.out (.log format args)] ∧ σ' = σ

def eventsOf (turns : List (Turn build)) : List (Event build.bits) := turns.flatMap Turn.out

theorem TurnStep.paced {cfg : Config} {σ σ' : Sys build.bits} {turn : Turn build} (step : TurnStep cfg σ turn σ') :
    Panwrap.paced false turn.out = some false := by
  obtain ⟨call, out⟩ := turn
  cases call with
  | some call =>
    obtain ⟨libc, fuel, v, runs⟩ := step
    exact wrapper_paced σ out v σ' runs
  | none =>
    obtain ⟨format, args, rfl, -⟩ := step
    rfl

theorem run_paced {cfg : Config} {σ σ' : Sys build.bits} {turns : List (Turn build)}
    (run : Run (TurnStep cfg) σ turns σ') : paced false (eventsOf turns) = some false := by
  induction run with
  | nil => rfl
  | cons step _ ih =>
    rw [eventsOf, List.flatMap_cons, paced_append step.paced]
    exact ih

/-- Timestamps leave out the time spent in the wrappers and no other, in every run. -/
theorem timestamps_truthful {cfg : Config} {σ σ' : Sys build.bits} {turns : List (Turn build)}
    (run : Run (TurnStep cfg) σ turns σ') {start : Timespec} {moments : List (Moment build.bits)}
    (happen : moments.map Moment.event = eventsOf turns)
    (normal : start.Normal ∧ ∀ moment ∈ moments, moment.now.Normal)
    (ordered : (start.ns :: moments.map fun moment => moment.now.ns).Pairwise (· ≤ ·)) :
    Truthful start moments := by
  have turns := run_paced run
  rw [← happen] at turns
  have upTo : ∀ before rest, moments = before ++ rest → ∃ between,
      ((Clock.panwrapUtilInit start).run before).Tells start.ns (Frozen.run {} before) ∧
        (Frozen.run {} before).since.isSome = between ∧ paced between (rest.map Moment.event) = some false := by
    intro before rest whole
    rw [whole, List.map_append] at turns
    obtain ⟨between, left, right⟩ := paced_prefix turns
    obtain ⟨tells, agrees⟩ := run_tells Clock.tells_init rfl left
    exact ⟨between, tells, agrees, right⟩
  obtain ⟨sorted, above⟩ := stamps_ordered Clock.tells_init rfl turns ordered
  have zero : Frozen.elapsed start.ns start.ns {} = 0 := by
    simp [Frozen.elapsed, Frozen.total]
  rw [zero] at above
  refine ⟨?_, ?_, ?_, above, sorted, ?_⟩
  · intro before made answer now after whole
    obtain ⟨between, tells, agrees, rest⟩ := upTo before _ whole
    rw [tells.frozen, agrees]
    cases between with
    | false => rfl
    | true => cases rest
  · obtain ⟨tells, agrees⟩ := run_tells Clock.tells_init rfl turns
    rw [tells.frozen, agrees]
  · intro before format args now after whole
    obtain ⟨-, tells, -⟩ := upTo before _ whole
    exact tells.timestampGet_ns
  · intro before after whole
    apply run_normal (Clock.normal_init normal.1)
    intro moment member
    apply normal.2
    rw [whole]
    exact List.mem_append_left _ member

end Runs

theorem munmap_truthful :
    Truthful ⟨5, 999999999⟩ [
      ⟨.call (.munmap 0x1000#64 0x1000#64) ⟨0, 0#64, fun _ => 0#8⟩, ⟨6, 0⟩⟩, ⟨.freeze, ⟨6, 500000000⟩⟩,
      ⟨.unfreeze, ⟨7, 200000000⟩⟩, ⟨.out (.log "" []), ⟨8, 0⟩⟩] := by
  let unmapping : Turn .lp64 := ⟨some (.munmap 0x1000#64 0x1000#64),
    [.call (.munmap 0x1000#64 0x1000#64) ⟨0, 0#64, fun _ => 0#8⟩, .freeze, .unfreeze]⟩
  have call : TurnStep x86 (untouched Build.lp64.bits) unmapping (untouched Build.lp64.bits) :=
    ⟨fun _ _ => ⟨0, 0#64, fun _ => 0#8⟩, 0, .int 0, rfl⟩
  have line : TurnStep x86 (untouched Build.lp64.bits) (⟨none, [.out (.log "" [])]⟩ : Turn .lp64)
      (untouched Build.lp64.bits) := ⟨"", [], rfl, rfl⟩
  apply timestamps_truthful (.cons call (.single line)) rfl
  · simp [Timespec.Normal]
  · simp [Timespec.ns]

end Panwrap
